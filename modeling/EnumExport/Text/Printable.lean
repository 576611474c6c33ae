import EnumExport.Text.Ranges
import EnumExport.Text.PrintableTable

/-!
# Printable characters
-/

namespace EnumExport.Text

/-- Whether a character prints as itself: no control, no format character, and no separator other
than the plain space. -/
def isPrintable (c : Char) : Bool :=
  if c.toNat < 128 then decide (32 ≤ c.toNat) && decide (c.toNat < 127)
  else !inRanges unprintableRanges c.toNat

end EnumExport.Text
