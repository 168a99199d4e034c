/-!
# Decimal digits

`decimalValue` reads a run of decimal digits as the number they write, most significant first.
It is total: the empty run is 0, and the callers check beforehand that every character is a
digit, so that a reader never has to decide what a non-digit is worth.
-/

namespace TestDispatch.Text

/-- The number a run of decimal digits writes, most significant first; 0 for no digits. -/
def decimalValue (ds : List Char) : Nat :=
  ds.foldl (fun n d => n * 10 + (d.toNat - 48)) 0

/-- The number a text of decimal digits writes. -/
def decimalText (s : String) : Nat := decimalValue s.toList

theorem decimalValue_nil : decimalValue [] = 0 := rfl

end TestDispatch.Text
