import CodeDeck.Markup.EntityName
import CodeDeck.Number.Decimal

namespace CodeDeck.Markup.Reference

/-!
# Character references

The characters that references by number or name stand for. Text and attribute
values follow different rules: in a value, a number that names no character
worth showing stands for nothing, a known name may lack its semicolon, and the
longest known start of an unknown name counts.

A number of half a surrogate pair is that of no character. In text, too, the
replacement character stands for it here, and the half is not kept.
-/

/-- What the numbers from 128 to 159 stand for; five of them stand for themselves. -/
def windowsChars : List Nat :=
  [0x20AC, 0x81, 0x201A, 0x0192, 0x201E, 0x2026, 0x2020, 0x2021, 0x02C6, 0x2030, 0x0160, 0x2039,
    0x0152, 0x8D, 0x017D, 0x8F, 0x90, 0x2018, 0x2019, 0x201C, 0x201D, 0x2022, 0x2013, 0x2014,
    0x02DC, 0x2122, 0x0161, 0x203A, 0x0153, 0x9D, 0x017E, 0x0178]

/-- Stands for what is no character. -/
def replacement : Char := '\uFFFD'

/-- The number that stands for the same character in Unicode. -/
def fromWindows (number : Nat) : Nat :=
  if 128 ≤ number ∧ number < 160 then (windowsChars[number - 128]?).getD number else number

/-- Whether a number is that of a character. -/
def isCharacter (number : Nat) : Bool :=
  number < 0xD800 || (0xE000 ≤ number && number < 0x110000)

/-- The character that a number stands for in text. -/
def inText (number : Nat) : Char :=
  let code := fromWindows number
  if isCharacter code then Char.ofNat code else replacement

/-- Whether a number is that of a control or of no character for interchange. -/
def isUnwanted (number : Nat) : Bool :=
  (1 ≤ number && number ≤ 8) || number == 11 || (14 ≤ number && number ≤ 31) ||
    (127 ≤ number && number ≤ 159) || (0xFDD0 ≤ number && number ≤ 0xFDEF) ||
    number % 0x10000 == 0xFFFE || number % 0x10000 == 0xFFFF

/-- The characters that a number stands for in an attribute value. -/
def inValue (number : Nat) : List Char :=
  if number = 0 then [replacement]
  else if number = 13 then ['\r']
  else if 128 ≤ number ∧ number < 160 then [Char.ofNat (fromWindows number)]
  else if !isCharacter number then [replacement]
  else if isUnwanted number then []
  else [Char.ofNat number]

/-- A number behind `&#`, decimal or hexadecimal, and what follows its digits. -/
def number? (chars : List Char) : Option (Nat × List Char) :=
  match chars with
  | [] => none
  | first :: behind =>
      let isX := first = 'x' ∨ first = 'X'
      let digits := if isX then behind.takeWhile Digits.isHex else chars.takeWhile Decimal.isDigit
      let rest := if isX then behind.dropWhile Digits.isHex else chars.dropWhile Decimal.isDigit
      if digits.isEmpty then none else some (Digits.toNat (if isX then 16 else 10) digits, rest)

/-- A character that a name in an attribute value may have. -/
def isNameChar (c : Char) : Bool :=
  !(c == '\t' || c == '\n' || c == '\x0c' || c == ' ' || c == '<' || c == '&' || c == '#' ||
    c == ';')

/--
The longest start of a name, of at most `length` and at least two characters, that needs
no semicolon.
-/
def knownStart? (name : List Char) : Nat → Option (List Char × List Char)
  | 0 => none
  | length + 1 =>
      let start := name.take (length + 1)
      if length = 0 then
        none
      else if EntityName.needsNoSemicolon start then
        (EntityName.characters? start).map fun chars => (chars, name.drop (length + 1))
      else
        knownStart? name length

/-- The longest name that is looked at. -/
def maxNameLength : Nat := 32

/-- What a name behind `&` in an attribute value stands for, with all of it that was looked at. -/
def namedInValue (name : List Char) (closed : Bool) : List Char :=
  let written := if closed then name ++ [';'] else name
  let whole :=
    if closed || EntityName.needsNoSemicolon name then EntityName.characters? name else none
  match whole with
  | some chars => chars
  | none =>
      match knownStart? name (if closed then name.length else name.length - 1) with
      | some (chars, rest) => chars ++ rest ++ (if closed then [';'] else [])
      | none => '&' :: written

/-- A text without the semicolon that it starts with. -/
def skipSemicolon : List Char → Bool × List Char
  | ';' :: rest => (true, rest)
  | rest => (false, rest)

/-- What stands behind an `&` in an attribute value: the characters it stands for, and the rest. -/
def readInValue (chars : List Char) : List Char × List Char :=
  match chars with
  | '#' :: behind =>
      match number? behind with
      | some (number, rest) => (inValue number, (skipSemicolon rest).2)
      | none => (['&'], chars)
  | _ =>
      let name := (chars.take maxNameLength).takeWhile isNameChar
      let closed := skipSemicolon (chars.drop name.length)
      if name.isEmpty then
        (['&'], chars)
      else
        (namedInValue name closed.1, closed.2)

theorem skipSemicolon_length_le (chars : List Char) :
    (skipSemicolon chars).2.length ≤ chars.length := by
  unfold skipSemicolon
  split <;> simp

theorem length_dropWhile_le (holds : Char → Bool) (chars : List Char) :
    (chars.dropWhile holds).length ≤ chars.length :=
  (List.dropWhile_suffix holds).length_le

theorem number?_length_le
    {chars rest : List Char}
    {number : Nat}
    (found : number? chars = some (number, rest)) :
    rest.length ≤ chars.length := by
  cases chars with
  | nil => simp [number?] at found
  | cons first behind =>
      have hexadecimal := length_dropWhile_le Digits.isHex behind
      have decimal := length_dropWhile_le Decimal.isDigit (first :: behind)
      by_cases isX : first = 'x' ∨ first = 'X'
      · simp only [number?, isX, if_true, Option.ite_none_left_eq_some, Option.some.injEq,
          Prod.mk.injEq] at found
        rw [← found.2.2, List.length_cons]
        omega
      · simp only [number?, isX, if_false, Option.ite_none_left_eq_some, Option.some.injEq,
          Prod.mk.injEq] at found
        rw [← found.2.2]
        exact decimal

/-- Reading a reference never adds to the rest. -/
theorem readInValue_length_le (chars : List Char) :
    (readInValue chars).2.length ≤ chars.length := by
  unfold readInValue
  split
  · rename_i behind
    split
    · rename_i number rest found
      have first := number?_length_le found
      have second := skipSemicolon_length_le rest
      simp only [List.length_cons]
      omega
    · simp
  · have closed := skipSemicolon_length_le
      (chars.drop ((chars.take maxNameLength).takeWhile isNameChar).length)
    simp only [List.length_drop] at closed
    simp only
    split
    · simp
    · simp only
      omega

/-- An attribute value with its references replaced. -/
def decodeValue : List Char → List Char
  | [] => []
  | '&' :: rest =>
      let read := readInValue rest
      read.1 ++ decodeValue read.2
  | c :: rest => c :: decodeValue rest
  termination_by chars => chars.length
  decreasing_by
    · have := readInValue_length_le rest
      simp only [List.length_cons]
      omega
    · simp

end CodeDeck.Markup.Reference
