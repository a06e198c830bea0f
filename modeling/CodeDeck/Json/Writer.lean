import CodeDeck.Json.Value
import CodeDeck.Number.Numeral
import CodeDeck.Number.Shortest

namespace CodeDeck.Json

/-!
# Compact JSON text

A value written without spaces. Whole numbers are written in full, other
numbers in the fewest digits that read back, and a string escapes the quote,
the backslash and the control characters below the space. Every value has such
a text, but a machine writes a whole number only when it is short enough for a
numeral: `hasShortNumerals`.
-/

/-- How numbers of JSON text are written. -/
def numberStyle : NumeralStyle where
  firstPositional := -4
  positionalEnd := 16
  nanText := "NaN"
  infinityText := "Infinity"

/-- One of the sixteen lower-case hexadecimal digits. -/
def hexDigit (n : Nat) : Char :=
  Char.ofNat (if n < 10 then 48 + n else 87 + n)

/-- One character of a string. -/
def writeChar (c : Char) : List Char :=
  if c = '"' then ['\\', '"']
  else if c = '\\' then ['\\', '\\']
  else if c = '\n' then ['\\', 'n']
  else if c = '\r' then ['\\', 'r']
  else if c = '\t' then ['\\', 't']
  else if c = '\x08' then ['\\', 'b']
  else if c = '\x0c' then ['\\', 'f']
  else if c.toNat < 32 then
    ['\\', 'u', '0', '0', hexDigit (c.toNat / 16), hexDigit (c.toNat % 16)]
  else
    [c]

/-- A string with its quotes. -/
def writeString (text : String) : List Char :=
  '"' :: text.toList.flatMap writeChar ++ ['"']

mutual

/-- The compact text of a value. -/
def write : Json → List Char
  | .null => ['n', 'u', 'l', 'l']
  | .bool true => ['t', 'r', 'u', 'e']
  | .bool false => ['f', 'a', 'l', 's', 'e']
  | .int value => Decimal.ofInt value
  | .float value => value.toText numberStyle
  | .string value => writeString value
  | .array [] => ['[', ']']
  | .array (item :: items) => '[' :: write item ++ writeItems items
  | .object [] => ['\x7b', '\x7d']
  | .object ((key, value) :: entries) =>
      '\x7b' :: writeString key ++ ':' :: write value ++ writeEntries entries

/-- The items after the first, and the end of the array. -/
def writeItems : List Json → List Char
  | [] => [']']
  | item :: items => ',' :: write item ++ writeItems items

/-- The entries after the first, and the end of the object. -/
def writeEntries : List (String × Json) → List Char
  | [] => ['\x7d']
  | (key, value) :: entries =>
      ',' :: writeString key ++ ':' :: write value ++ writeEntries entries

end

/-- The compact text of a value. -/
def compact (value : Json) : String :=
  String.ofList value.write

mutual

/-- Whether all whole numbers of a value are short enough to be written. -/
def hasShortNumerals : Json → Bool
  | .int value => Decimal.size value.natAbs ≤ Numeral.maxDigits
  | .array items => haveShortNumerals items
  | .object entries => entriesHaveShortNumerals entries
  | _ => true

/-- Whether all whole numbers of the items of an array are. -/
def haveShortNumerals : List Json → Bool
  | [] => true
  | item :: items => hasShortNumerals item && haveShortNumerals items

/-- Whether all whole numbers of the entries of an object are. -/
def entriesHaveShortNumerals : List (String × Json) → Bool
  | [] => true
  | (_, value) :: entries => hasShortNumerals value && entriesHaveShortNumerals entries

end

end CodeDeck.Json
