/-!
# Blank characters

The characters of Unicode's property White_Space. They separate tokens and carry no meaning.
-/

set_option autoImplicit false

namespace BlockLanguage.Text

/-- The code point ranges of White_Space, both ends included. -/
def blankRanges : List (Nat × Nat) :=
  [(0x09, 0x0D), (0x20, 0x20), (0x85, 0x85), (0xA0, 0xA0), (0x1680, 0x1680), (0x2000, 0x200A),
    (0x2028, 0x2029), (0x202F, 0x202F), (0x205F, 0x205F), (0x3000, 0x3000)]

/-- Whether a code point lies in one of the given ranges, both ends included. -/
def inRanges (ranges : List (Nat × Nat)) (code : Nat) : Bool :=
  ranges.any fun (first, last) => first ≤ code && code ≤ last

/-- Whether a character has the property White_Space. -/
def isBlank (character : Char) : Bool :=
  inRanges blankRanges character.toNat

end BlockLanguage.Text
