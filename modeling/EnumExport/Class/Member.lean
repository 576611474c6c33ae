import EnumExport.Class.Declaration
import EnumExport.Number.Integer
import EnumExport.Text.Case
import EnumExport.Text.Split
import EnumExport.Value.Order

/-!
# Members

* `assign` gives every member its declared value, the automatic ones counting on from those before.
* `convert` brings a value to the kind of data that the class is of.
* `MemberTable.add` takes in a member: one whose value is already there is another name of the
  earlier member.
-/

namespace EnumExport

/-- Why a class cannot come into being. -/
inductive ClassFault
  /-- its bases do not go together -/
  | shape
  /-- a member or a method takes a name that is taken -/
  | nameTaken (name : String)
  /-- a member has a name that is kept for other purposes -/
  | reservedName (name : String)
  /-- a member has a name that no member can have -/
  | badName (name : String)
  /-- a value is not of the kind that the class needs -/
  | wrongKind
  /-- a text is no whole number -/
  | notInt (v : Value)
  /-- a double is no number, and so no whole one -/
  | notANumber
  /-- a text is no double -/
  | notFloat (v : Value)
  /-- a number is too large -/
  | tooLarge
  /-- what is said about its members cannot stand -/
  | notes (fault : AnnotationFault)
  deriving Repr

/-- The message of the fault, where it has one. -/
def ClassFault.message? : ClassFault → Option String
  | .shape | .nameTaken _ | .wrongKind | .tooLarge => none
  | .reservedName n =>
    some ("_sunder_ names, such as " ++ Text.quoted n ++ ", are reserved for future Enum use")
  | .badName n => some ("invalid enum member name(s) " ++ Text.quoted n)
  | .notInt v => some ("invalid literal for int() with base 10: " ++ v.quoted)
  | .notANumber => some "cannot convert float NaN to integer"
  | .notFloat v => some ("could not convert string to float: " ++ v.quoted)
  | .notes f => f.message?

/-! ## Names -/

/-- Whether a name has the given number of underscores, and no more, at both ends. -/
def hasUnderscores (n : Nat) (name : String) : Bool :=
  let cs := name.toList
  let inner := (cs.drop n).take (cs.length - 2 * n)
  decide (2 * n < cs.length) && (cs.take n).all (· = '_') && (cs.drop (cs.length - n)).all (· = '_')
    && inner.head? != some '_' && inner.getLast? != some '_'

/-- Whether a name is private to the class of that name. -/
def isPrivateName (owner name : String) : Bool :=
  let front := ("_" ++ owner ++ "__").toList
  match Text.dropPart? front name.toList with
  | some (_ :: _) => name.toList.reverse.take 2 != ['_', '_']
  | _ => false

/-- Whether what is declared under a name is a member and not a plain attribute. -/
def isMemberName (owner name : String) : Bool :=
  !hasUnderscores 2 name && !isPrivateName owner name

/-- Whether a member cannot have the name, although nothing else has it. -/
def isBadName (name : String) : Bool := name = "" || name = "mro"

/-! ## Automatic values -/

/-- How a class counts on. -/
inductive Counting
  /-- one more than the largest value -/
  | upward
  /-- the next power of two -/
  | doubling
  /-- the name in small letters -/
  | naming
  deriving DecidableEq, Repr

/-- A value with one added, when that can be done. -/
def Value.succ? (v : Value) : Option Value :=
  match v.asInt?, v.asFloat? with
  | some i, _ => some (.int (i + 1))
  | none, some x => some (.float (x.add (.ofInt 1)))
  | none, none => none

/-- The larger of two numbers; nothing where one is no number. -/
def Value.larger? (v w : Value) : Option Value :=
  if v.isNumber && w.isNumber then some (if v.numberLt w then w else v) else none

/-- The largest of some numbers; nothing where there is something else among them. -/
def largest? : List Value → Option Value
  | [] => none
  | v :: vs => vs.foldlM Value.larger? v

/-- One more than the largest value, or than the last to which one can be added; the first value
is one. -/
def nextUpward (before : List Value) : Value :=
  match (largest? before).bind Value.succ? with
  | some v => v
  | none => (before.reverse.findSome? Value.succ?).getD (.int 1)

/-- The number of binary digits. -/
def bitLength (i : Int) : Nat := if i = 0 then 0 else i.natAbs.log2 + 1

/-- The power of two behind the largest value; the first value is one. -/
def nextDoubling (before : List Value) : Except ClassFault Value :=
  if before.isEmpty then .ok (.int 1)
  else match (largest? before).bind Value.asInt? with
    | some i => .ok (.int (Nat.pow 2 (bitLength i)))
    | none => .error .wrongKind

/-- The automatic value of a member, given the values before it. -/
def nextValue (counting : Counting) (name : String) (before : List Value) :
    Except ClassFault Value :=
  match counting with
  | .upward => .ok (nextUpward before)
  | .doubling => nextDoubling before
  | .naming => .ok (.text (Text.lower name))

/-- The members with the values that they are declared with, given those before. A name that is
reserved or taken ends the declaration there. -/
def assignFrom (counting : Counting) (before : List (String × Value)) :
    List (String × MemberValue) → Except ClassFault (List (String × Value))
  | [] => .ok before
  | (name, declared) :: rest => do
    if hasUnderscores 1 name then throw (.reservedName name)
    if Assoc.has name before then throw (.nameTaken name)
    let v ← match declared with
      | .given v => pure v
      | .auto => nextValue counting name (before.map Prod.snd)
    assignFrom counting (before ++ [(name, v)]) rest

/-- The members with the values that they are declared with. -/
def assign (counting : Counting) (members : List (String × MemberValue)) :
    Except ClassFault (List (String × Value)) := assignFrom counting [] members

/-! ## Values of a kind -/

/-- What a class does to the values of its members. -/
inductive Conversion
  /-- nothing -/
  | none
  /-- it takes the one part they have -/
  | part
  /-- it makes texts of them -/
  | text
  /-- it takes texts only -/
  | textOnly
  /-- it makes whole numbers of them -/
  | integer
  /-- it makes doubles of them -/
  | real
  deriving DecidableEq, Repr

/-- The whole number that a value makes. -/
def toInteger (v : Value) : Except ClassFault Value :=
  match v.asInt?, v.asFloat?, v with
  | some i, _, _ => .ok (.int i)
  | none, some .nan, _ => .error .notANumber
  | none, some x, _ =>
    match x.truncate? with
    | some i => .ok (.int i)
    | none => .error .tooLarge
  | none, none, .bytes bs =>
    match Integer.ofText? 10 (String.ofList (bs.map fun b => Char.ofNat b.toNat)) with
    | some i => .ok (.int i)
    | none => .error (.notInt v)
  | none, none, v =>
    match v.asText? with
    | none => .error .wrongKind
    | some s => match Integer.ofText? 10 s with
      | some i => .ok (.int i)
      | none => .error (.notInt v)

/-- The double that a value makes. -/
def toReal (v : Value) : Except ClassFault Value :=
  let read (s : String) : Except ClassFault Value :=
    match Binary64.ofText? (Text.plainDigits s) with
    | some x => .ok (.float x)
    | none => .error (.notFloat v)
  match v.asFloat?, v.asInt?, v with
  | some x, _, _ => .ok (.float x)
  | none, some i, _ =>
    match Binary64.ofInt i with
    | .infinite _ => .error .tooLarge
    | x => .ok (.float x)
  | none, none, .bytes bs => read (String.ofList (bs.map fun b => Char.ofNat b.toNat))
  | none, none, v =>
    match v.asText? with
    | none => .error .wrongKind
    | some s => read s

/-- The parts of a declared value: those of a tuple, or the value itself. -/
def parts : Value → List Value
  | .tuple xs => xs
  | v => [v]

/-- The value of a member, made from the declared one. -/
def convert (c : Conversion) (v : Value) : Except ClassFault Value :=
  match c, parts v with
  | .none, _ => .ok v
  | .part, [x] => .ok x
  | .text, [] | .textOnly, [] => .ok (.text "")
  | .text, [x] => .ok (.text x.display)
  | .textOnly, [x] => if x.isText then .ok (.text x.display) else .error .wrongKind
  | .integer, [] => .ok (.int 0)
  | .integer, [x] => toInteger x
  | .real, [] => .ok (.float (.zero false))
  | .real, [x] => toReal x
  | _, _ => .error .wrongKind

/-! ## The table of members -/

/-- A member of a class. -/
structure Member where
  /-- its name -/
  name : String
  /-- its value -/
  value : Value
  deriving Repr, Inhabited

/-- The members of a class. -/
structure MemberTable where
  /-- each name with the member it stands for -/
  names : List (String × Member) := []
  /-- the members that are gone through -/
  listed : List Member := []
  deriving Repr, Inhabited

/-- Whether a whole number is a power of two. -/
def isSingleBit (i : Int) : Bool :=
  decide (0 < i) && i.toNat == Nat.pow 2 i.toNat.log2

/-- Whether a class of bits lists a value: it has exactly one bit. -/
def isListedBit (v : Value) : Bool :=
  match v.asInt? with
  | some i => isSingleBit i
  | none => false

/-- The earlier member with an equal value. A value that can be a key is compared to such values
only. -/
def MemberTable.find? (t : MemberTable) (v : Value) : Option Member :=
  let changeable := v.unhashable?.isSome
  (t.names.map Prod.snd).find? fun m => (changeable || m.value.unhashable?.isNone) && m.value == v

/-- The table with one more member. A class of bits lists single bits only. -/
def MemberTable.add (ofBits : Bool) (t : MemberTable) (name : String) (v : Value) : MemberTable :=
  match t.find? v with
  | some m => { t with names := t.names ++ [(name, m)] }
  | none =>
    let m : Member := ⟨name, v⟩
    { names := t.names ++ [(name, m)]
      listed := if ofBits && !isListedBit v then t.listed else t.listed ++ [m] }

/-- The table of some members, their values converted one by one. -/
def MemberTable.build (ofBits : Bool) (c : Conversion) (t : MemberTable) :
    List (String × Value) → Except ClassFault MemberTable
  | [] => .ok t
  | (name, v) :: rest => do
    let v ← convert c v
    MemberTable.build ofBits c (t.add ofBits name v) rest

end EnumExport
