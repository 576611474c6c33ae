import EnumExport.Value.Basic
import EnumExport.Text.Quoted

/-!
# Texts of values

Two ways to write a value out. `quoted` is unambiguous: texts stand between quotes and containers
between brackets. `display` is what a reader sees: a text as it is, everything else quoted.
-/

namespace EnumExport

/-- A number in at least two digits. -/
def twoDigits (n : Nat) : String :=
  if n < 10 then "0" ++ toString n else toString n

/-- A number in at least `width` digits. -/
def padDigits (width n : Nat) : String :=
  let ds := toString n
  String.ofList (List.replicate (width - ds.length) '0') ++ ds

/-- A day as year, month and day. -/
def Day.text (d : Day) : String :=
  padDigits 4 d.year ++ "-" ++ twoDigits d.month ++ "-" ++ twoDigits d.day

/-- A time as hours, minutes, seconds, a fraction unless it is zero, and the zone when known. -/
def Clock.text (c : Clock) : String :=
  let zone := match c.offset with
    | none => ""
    | some m =>
      let n := m.natAbs
      (if m < 0 then "-" else "+") ++ twoDigits (n / 60) ++ ":" ++ twoDigits (n % 60)
  twoDigits c.hour ++ ":" ++ twoDigits c.minute ++ ":" ++ twoDigits c.second ++
    (if c.micro = 0 then "" else "." ++ padDigits 6 c.micro) ++ zone

namespace Value

/-- A day and time as a constructor call. -/
def quotedMoment (d : Day) : Option Clock → String
  | none => "datetime.date(" ++ toString d.year ++ ", " ++ toString d.month ++ ", " ++
      toString d.day ++ ")"
  | some c =>
    let fields := [d.year, d.month, d.day, c.hour, c.minute]
    let fields := if c.micro ≠ 0 then fields ++ [c.second, c.micro]
      else if c.second ≠ 0 then fields ++ [c.second] else fields
    let zone := match c.offset with
      | none => ""
      | some 0 => ", tzinfo=datetime.timezone.utc"
      | some m =>
        let days := if m < 0 then "days=-1, " else ""
        ", tzinfo=datetime.timezone(datetime.timedelta(" ++ days ++ "seconds=" ++
          toString ((if m < 0 then m + 1440 else m) * 60) ++ "))"
    "datetime.datetime(" ++ ", ".intercalate (fields.map toString) ++ zone ++ ")"

mutual

/-- The unambiguous text of a value. -/
def quoted : Value → String
  | .null => "None"
  | .bool b => if b then "True" else "False"
  | .int i => toString i
  | .float x => String.ofList x.text
  | .text s => Text.quoted s
  | .bytes bs => Text.quotedBytes bs
  | .list xs => "[" ++ ", ".intercalate (quotedList xs) ++ "]"
  | .tuple [x] => "(" ++ quoted x ++ ",)"
  | .tuple xs => "(" ++ ", ".intercalate (quotedList xs) ++ ")"
  | .set false [] => "set()"
  | .set true [] => "frozenset()"
  | .set false xs => "\x7b" ++ ", ".intercalate (quotedList xs) ++ "\x7d"
  | .set true xs => "frozenset(\x7b" ++ ", ".intercalate (quotedList xs) ++ "\x7d)"
  | .map ps => "\x7b" ++ ", ".intercalate (quotedPairs ps) ++ "\x7d"
  | .readOnly ps => "mappingproxy(\x7b" ++ ", ".intercalate (quotedPairs ps) ++ "\x7d)"
  | .member tag v => "<" ++ tag.owner ++ "." ++ tag.name ++ ": " ++ quoted v ++ ">"
  | .moment d c => quotedMoment d c
  | .foreign => "<object object>"

/-- The unambiguous texts of values. -/
def quotedList : List Value → List String
  | [] => []
  | x :: xs => quoted x :: quotedList xs

/-- The unambiguous texts of pairs, each a key and a value. -/
def quotedPairs : List (Value × Value) → List String
  | [] => []
  | (k, v) :: ps => (quoted k ++ ": " ++ quoted v) :: quotedPairs ps

end

/-- The text of a value as a reader sees it. -/
def display : Value → String
  | .text s => s
  | .member tag v =>
    if tag.showsValue then display v else tag.owner ++ "." ++ tag.name
  | .moment d none => d.text
  | .moment d (some c) => d.text ++ " " ++ c.text
  | v => quoted v

end Value

end EnumExport
