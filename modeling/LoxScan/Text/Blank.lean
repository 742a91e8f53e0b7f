import LoxScan.Text.Ranges

/-! Blank characters, and texts without the blanks at their end. Beside the white space of Unicode
the four separators U+001C to U+001F count as blank. -/

namespace LoxScan.Text

/-- The blank characters. -/
def blanks : Ranges := ⟨#[
    (0x09, 0x0D), (0x1C, 0x20), (0x85, 0x85), (0xA0, 0xA0), (0x1680, 0x1680), (0x2000, 0x200A),
    (0x2028, 0x2029), (0x202F, 0x202F), (0x205F, 0x205F), (0x3000, 0x3000)]⟩

def isBlank (c : Char) : Bool := blanks.contains c.toNat

/-- `cs` without the longest run of characters at its end that all pass `p`. -/
def dropWhileEnd (p : Char → Bool) (cs : List Char) : List Char := (cs.reverse.dropWhile p).reverse

/-- `cs` without the blanks at its end. -/
def trimEnd (cs : List Char) : List Char := dropWhileEnd isBlank cs

/-- `cs` without the blanks at its start and at its end. -/
def trim (cs : List Char) : List Char := trimEnd (cs.dropWhile isBlank)

end LoxScan.Text
