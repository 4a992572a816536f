import EngineHost.Text.Ranges

/-!
# Blank characters

The white space of Unicode together with the four separator controls U+001C to U+001F.
-/

namespace EngineHost.Text

def blankRanges : List (Nat × Nat) :=
  [
    (0x9, 0xd), (0x1c, 0x20), (0x85, 0x85), (0xa0, 0xa0), (0x1680, 0x1680), (0x2000, 0x200a),
    (0x2028, 0x2029), (0x202f, 0x202f), (0x205f, 0x205f), (0x3000, 0x3000)]

/-- White space in any script. -/
def isBlank (c : Char) : Bool := inRanges blankRanges c.toNat

end EngineHost.Text
