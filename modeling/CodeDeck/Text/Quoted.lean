import CodeDeck.Text.Printable

namespace CodeDeck.Text.Quoted

/-!
# Quoted text

How a message shows a text inside quotes. The quote is single unless the text
holds a single quote and no double one. The quote itself, the backslash, the
three common line controls and every character that is not printable are
written as escapes.
-/

/-- The quote mark for a text: double only when that avoids an escape. -/
def quoteFor (chars : List Char) : Char :=
  if chars.contains '\'' && !chars.contains '"' then '"' else '\''

/-- A number in lower-case hexadecimal digits, at least `width` of them. -/
def hex (width number : Nat) : List Char :=
  let digits := Nat.toDigits 16 number
  List.replicate (width - digits.length) '0' ++ digits

/-- One character inside quotes. -/
def encodeChar (quote c : Char) : List Char :=
  let code := c.toNat
  if c = quote ∨ c = '\\' then ['\\', c]
  else if c = '\n' then ['\\', 'n']
  else if c = '\r' then ['\\', 'r']
  else if c = '\t' then ['\\', 't']
  else if isPrintable c then [c]
  else if code < 0x100 then '\\' :: 'x' :: hex 2 code
  else if code < 0x10000 then '\\' :: 'u' :: hex 4 code
  else '\\' :: 'U' :: hex 8 code

/-- A text with its quotes. -/
def encode (chars : List Char) : List Char :=
  let quote := quoteFor chars
  quote :: chars.flatMap (encodeChar quote) ++ [quote]

/-- A text with its quotes. -/
def quote (text : String) : String :=
  String.ofList (encode text.toList)

end CodeDeck.Text.Quoted
