/-!
# Byte order of texts

Names are listed in byte order: their UTF-8 octets compared one by one, which for well-formed
text is the order of code points, and so the order `<` of `String`.
-/

namespace TestDispatch

/-- Texts in byte order; equal texts keep their order. -/
def sortTexts (xs : List String) : List String := xs.mergeSort fun a b => !(b < a)

/-- The distinct texts of a list in byte order. -/
def sortedDistinct (xs : List String) : List String := sortTexts xs.eraseDups

end TestDispatch
