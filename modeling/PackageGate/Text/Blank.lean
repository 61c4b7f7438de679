/-!
# Blank characters

The characters that count as white space between two words: the ASCII controls that move the
cursor, the four information separators, and the Unicode characters whose bidirectional class or
category makes them a space or a separator of lines or paragraphs.
-/

namespace PackageGate.Text

/-- Whether a character separates words. -/
def isBlank (c : Char) : Bool :=
  let n := c.toNat
  (9 ≤ n && n ≤ 13) || (28 ≤ n && n ≤ 32) || n == 0x85 || n == 0xA0 || n == 0x1680
    || (0x2000 ≤ n && n ≤ 0x200A) || n == 0x2028 || n == 0x2029 || n == 0x202F || n == 0x205F
    || n == 0x3000

end PackageGate.Text
