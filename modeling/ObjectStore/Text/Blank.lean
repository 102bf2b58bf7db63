import ObjectStore.Text.Ranges

/-!
White space, and removing it from the two ends of a text.
-/

namespace ObjectStore.Text

/-- Characters of white space, with the four information separators below the space. -/
def blankRanges : List (Nat × Nat) :=
  [(0x9, 0xD), (0x1C, 0x20), (0x85, 0x85), (0xA0, 0xA0), (0x1680, 0x1680), (0x2000, 0x200A),
   (0x2028, 0x2029), (0x202F, 0x202F), (0x205F, 0x205F), (0x3000, 0x3000)]

def isBlank (c : Char) : Bool :=
  inRanges blankRanges c.toNat

def trim (p : Char → Bool) (cs : List Char) : List Char :=
  ((cs.dropWhile p).reverse.dropWhile p).reverse

def stripBlank (s : String) : String :=
  String.ofList (trim isBlank s.toList)

end ObjectStore.Text
