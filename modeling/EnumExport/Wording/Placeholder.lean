import EnumExport.Text.Case
import EnumExport.Text.Split
import EnumExport.Value.Text

/-!
# Placeholders

A line may hold placeholders, a colon and a name. `:name` stands for the value,
`:Name` for the value with a capital first letter, and `:NAME` for the value in capitals. Longer
names are filled in first, so that a name never takes the front of a longer one.
-/

namespace EnumExport.Wording

/-- A line with one placeholder filled in, in its three forms. -/
def fillOne (name value line : String) : String :=
  let line := Text.replace (":" ++ Text.upperFirst name) (Text.upperFirst value) line
  let line := Text.replace (":" ++ Text.upper name) (Text.upper value) line
  Text.replace (":" ++ name) value line

/-- The parameters, longer names first; those of one length stay in order. -/
def byLength (params : List (String × String)) : List (String × String) :=
  params.mergeSort fun p q => decide (q.1.length ≤ p.1.length)

/-- A line with its placeholders filled in. -/
def fill (params : List (String × String)) (line : String) : String :=
  (byLength params).foldl (fun line p => fillOne p.1 p.2 line) line

/-- The parameters as texts; nothing where a name is no text. -/
def params? (params : List (Value × Value)) : Option (List (String × String)) :=
  params.mapM fun p => p.1.asText?.map fun name => (name, p.2.display)

/-- Without parameters a line stays as it is. -/
theorem fill_nil (line : String) : fill [] line = line := by
  simp [fill, byLength]

/-- Filling in keeps each parameter. -/
theorem byLength_perm (params : List (String × String)) : (byLength params).Perm params :=
  List.mergeSort_perm _ _

end EnumExport.Wording
