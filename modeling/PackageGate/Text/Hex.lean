/-!
# Hexadecimal digits

Escapes name a character by its number in hexadecimal, filled up with zeros to a fixed width.
-/

namespace PackageGate.Text

/-- The digits of a number in a base up to sixteen, in lower case. -/
def digitsIn (base n : Nat) : List Char := Nat.toDigits base n

/-- Fills a text up on the left to a width. -/
def padLeft (width : Nat) (fill : Char) (text : List Char) : List Char :=
  List.replicate (width - text.length) fill ++ text

/-- A number in lower-case hexadecimal with at least `width` digits. -/
def hex (width n : Nat) : List Char := padLeft width '0' (digitsIn 16 n)

/-- A number in decimal with at least `width` digits. -/
def decimal (width n : Nat) : List Char := padLeft width '0' (digitsIn 10 n)

end PackageGate.Text
