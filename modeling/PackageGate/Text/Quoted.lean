import PackageGate.Text.Printable
import PackageGate.Text.Hex

/-!
# Quoted text

Messages show a text between quotes, so that blanks at its ends and characters that cannot be seen
are told apart. The quote is the single one, unless the text holds a single quote and no double
one. The quote in use and the backslash are escaped, and so is every character that does not show
as itself: tab, line feed and carriage return by a letter, all others by their number.

Bytes are quoted in the same way behind a `b`; everything but printable ASCII is escaped there.
-/

namespace PackageGate.Text.Quoted

/-- The quote that needs fewer escapes, the single one if in doubt. -/
def quoteFor (text : List Char) : Char :=
  if text.contains '\'' && !text.contains '"' then '"' else '\''

/-- The escape of a character by its number, in the shortest of the three forms. -/
def numbered (n : Nat) : List Char :=
  if n < 0x100 then '\\' :: 'x' :: hex 2 n
  else if n < 0x10000 then '\\' :: 'u' :: hex 4 n
  else '\\' :: 'U' :: hex 8 n

/-- One character between the given quotes. -/
def encodeChar (quote c : Char) : List Char :=
  if c = quote || c = '\\' then ['\\', c]
  else if c = '\t' then ['\\', 't']
  else if c = '\n' then ['\\', 'n']
  else if c = '\r' then ['\\', 'r']
  else if isPrintable c then [c]
  else numbered c.toNat

/-- A text between quotes. -/
def encode (text : List Char) : List Char :=
  let quote := quoteFor text
  quote :: text.flatMap (encodeChar quote) ++ [quote]

/-- Bytes between quotes. -/
def encodeBytes (bytes : List UInt8) : List Char :=
  let text := bytes.map fun b => Char.ofNat b.toNat
  let quote := quoteFor text
  let one (c : Char) : List Char :=
    if c.toNat < 128 then encodeChar quote c else numbered c.toNat
  'b' :: quote :: text.flatMap one ++ [quote]

end PackageGate.Text.Quoted

namespace PackageGate.Text

/-- A string between quotes. -/
def quoted (s : String) : String := String.ofList (Quoted.encode s.toList)

/-- A character between quotes. -/
def quotedChar (c : Char) : String := String.ofList (Quoted.encode [c])

end PackageGate.Text
