import CodeDeck.Json.Value
import CodeDeck.Number.Digits
import CodeDeck.Number.Numeral

namespace CodeDeck.Json

/-!
# Reading JSON text

A text is read as one value with blanks around it. Beyond the standard grammar
the numbers `NaN`, `Infinity` and `-Infinity` are read, and of several entries
under one key the last one counts, in the place of the first. A text is
refused at the first character that cannot go on, and the refusal keeps the
rest of the text from there, which fixes its line. How deeply the containers of
a text nest does not matter here; what the stack of a machine has room for is
told apart, in `Stack`.

Strings are texts, so each of their characters is one. Half of a surrogate pair
is none, and an escape for one without its partner is read as the replacement
character instead of being kept.
-/

/-- What is wrong where a text is refused. -/
inductive Fault where
  | byteOrderMark
  | expectedValue
  | expectedName
  | expectedColon
  | expectedComma
  | extraData
  | openString
  | controlCharacter
  | escape
  | codeEscape
  deriving Repr, DecidableEq

/-- The message of a fault. -/
def Fault.message : Fault → String
  | .byteOrderMark => "Unexpected UTF-8 BOM (decode using utf-8-sig)"
  | .expectedValue => "Expecting value"
  | .expectedName => "Expecting property name enclosed in double quotes"
  | .expectedColon => "Expecting ':' delimiter"
  | .expectedComma => "Expecting ',' delimiter"
  | .extraData => "Extra data"
  | .openString => "Unterminated string starting at"
  | .controlCharacter => "Invalid control character at"
  | .escape => "Invalid \\escape"
  | .codeEscape => "Invalid \\uXXXX escape"

/-- Why a text is not read. -/
inductive Refusal where
  /-- The text is no JSON; `rest` starts at the character at fault. -/
  | malformed (fault : Fault) (rest : List Char)
  /-- A whole number has more digits than can be read. -/
  | longNumeral (digits : Nat)
  deriving Repr, DecidableEq

/-- The blanks between the parts of a JSON text. -/
def isBlank (c : Char) : Bool :=
  c == ' ' || c == '\t' || c == '\n' || c == '\r'

/-- A text from its first character that is no blank. -/
def skipBlanks (chars : List Char) : List Char :=
  chars.dropWhile isBlank

/-- The number that four hexadecimal digits stand for. -/
def codeUnit? (a b c d : Char) : Option Nat := do
  let a ← Digits.value? a
  let b ← Digits.value? b
  let c ← Digits.value? c
  let d ← Digits.value? d
  return ((a * 16 + b) * 16 + c) * 16 + d

/-- The character that a one-letter escape stands for. -/
def unescape? (c : Char) : Option Char :=
  if c = '"' ∨ c = '\\' ∨ c = '/' then some c
  else if c = 'b' then some '\x08'
  else if c = 'f' then some '\x0c'
  else if c = 'n' then some '\n'
  else if c = 'r' then some '\r'
  else if c = 't' then some '\t'
  else none

/-- What stands next inside a string. -/
inductive StringStep where
  | ended (rest : List Char)
  | char (c : Char) (rest : List Char)
  | refused (fault : Fault)
  deriving Repr, DecidableEq

/--
The character that a `\u` escape stands for.

Two escapes for the halves of a surrogate pair stand for one character. A half
without its partner is no character and is not kept: the replacement character
stands for it.
-/
def readCodeEscape : List Char → StringStep
  | a :: b :: c :: d :: rest =>
      match codeUnit? a b c d, rest with
      | none, _ => .refused .codeEscape
      | _, [] => .refused .codeEscape
      | some high, '\\' :: 'u' :: a :: b :: c :: d :: after =>
          if 0xD800 ≤ high ∧ high ≤ 0xDBFF ∧ after ≠ [] then
            match codeUnit? a b c d with
            | none => .refused .codeEscape
            | some low =>
                if 0xDC00 ≤ low ∧ low ≤ 0xDFFF then
                  .char (Char.ofNat (0x10000 + (high - 0xD800) * 1024 + (low - 0xDC00))) after
                else
                  .char '\uFFFD' rest
          else if 0xD800 ≤ high ∧ high ≤ 0xDFFF then
            .char '\uFFFD' rest
          else
            .char (Char.ofNat high) rest
      | some code, _ =>
          if 0xD800 ≤ code ∧ code ≤ 0xDFFF then
            .char '\uFFFD' rest
          else
            .char (Char.ofNat code) rest
  | _ => .refused .codeEscape

/-- The next character inside a string, or its end. -/
def stringStep : List Char → StringStep
  | [] => .refused .openString
  | '"' :: rest => .ended rest
  | '\\' :: rest =>
      match rest with
      | [] => .refused .openString
      | 'u' :: rest => readCodeEscape rest
      | c :: rest =>
          match unescape? c with
          | some c => .char c rest
          | none => .refused .escape
  | c :: rest =>
      if c.toNat < 32 then
        .refused .controlCharacter
      else
        .char c rest

/--
Characters of a string up to its quote, at most `fuel` of them, in front of those read
before.
-/
def stringLoop : Nat → List Char → List Char → Except Fault (List Char × List Char)
  | 0, _, _ => .error .openString
  | fuel + 1, before, chars =>
      match stringStep chars with
      | .ended rest => .ok (before.reverse, rest)
      | .char c rest => stringLoop fuel (c :: before) rest
      | .refused fault => .error fault

/--
A string whose opening quote has been read.

No line ends inside a string, so each of its faults lies on the line of its
opening quote and is noted there.
-/
def readString (chars : List Char) : Except Refusal (List Char × List Char) :=
  match stringLoop (chars.length + 1) [] chars with
  | .ok result => .ok result
  | .error fault => .error (.malformed fault chars)

/-- The fraction digits that follow a point, when there are any. -/
def readFraction : List Char → List Char × List Char
  | '.' :: rest =>
      let digits := rest.takeWhile Decimal.isDigit
      if digits.isEmpty then ([], '.' :: rest) else (digits, rest.dropWhile Decimal.isDigit)
  | rest => ([], rest)

/-- The exponent that follows an `e`, when it has digits. -/
def readExponent (chars : List Char) : Option Int × List Char :=
  match chars with
  | c :: rest =>
      if c = 'e' ∨ c = 'E' then
        let (negative, rest) :=
          match rest with
          | '-' :: rest => (true, rest)
          | '+' :: rest => (false, rest)
          | rest => (false, rest)
        let digits := rest.takeWhile Decimal.isDigit
        if digits.isEmpty then
          (none, chars)
        else
          let magnitude : Int := Decimal.toNat digits
          (some (if negative then -magnitude else magnitude), rest.dropWhile Decimal.isDigit)
      else
        (none, chars)
  | [] => (none, [])

/-- The digits before the point: one zero, or digits that do not start with zero. -/
def readWhole : List Char → List Char × List Char
  | '0' :: rest => (['0'], rest)
  | chars => (chars.takeWhile Decimal.isDigit, chars.dropWhile Decimal.isDigit)

/-- A number whose sign has been read; `start` is the text from its sign. -/
def readNumber
    (start : List Char)
    (negative : Bool)
    (chars : List Char) : Except Refusal (Json × List Char) :=
  let (whole, rest) := readWhole chars
  if whole.isEmpty then
    .error (.malformed .expectedValue start)
  else
    let (fraction, rest) := readFraction rest
    let (exponent?, rest) := readExponent rest
    if fraction.isEmpty && exponent?.isNone then
      if Numeral.maxDigits < whole.length then
        .error (.longNumeral whole.length)
      else
        let magnitude : Int := Decimal.toNat whole
        .ok (.int (if negative then -magnitude else magnitude), rest)
    else
      let exponent := exponent?.getD 0 - fraction.length
      .ok (.float (Binary64.ofDecimal negative (Decimal.toNat (whole ++ fraction)) exponent), rest)

/-- The constants and what they stand for. -/
def constants : List (List Char × Json) :=
  [("null".toList, .null), ("true".toList, .bool true), ("false".toList, .bool false),
    ("NaN".toList, .float .nan), ("Infinity".toList, .float (.infinite false)),
    ("-Infinity".toList, .float (.infinite true))]

/-- A value that is neither a string nor a container. -/
def readScalar (chars : List Char) : Except Refusal (Json × List Char) :=
  match constants.find? fun constant => constant.1.isPrefixOf chars with
  | some (name, value) => .ok (value, chars.drop name.length)
  | none =>
      match chars with
      | '-' :: rest => readNumber chars true rest
      | _ => readNumber chars false chars

mutual

/-- One value at the start of a text; every container level uses up some fuel. -/
def readValue : Nat → List Char → Except Refusal (Json × List Char)
  | 0, chars => .error (.malformed .expectedValue chars)
  | fuel + 1, chars =>
      match chars with
      | '"' :: rest => do
          let (text, rest) ← readString rest
          return (.string (String.ofList text), rest)
      | '[' :: rest =>
          match skipBlanks rest with
          | ']' :: rest => .ok (.array [], rest)
          | rest => do
              let (items, rest) ← readItems fuel rest
              return (.array items, rest)
      | '\x7b' :: rest =>
          match skipBlanks rest with
          | '\x7d' :: rest => .ok (.object [], rest)
          | rest => do
              let (entries, rest) ← readEntries fuel rest
              return (.object (Entries.ofPairs entries), rest)
      | chars => readScalar chars

/-- The items of an array from the first character of an item to the end of the array. -/
def readItems : Nat → List Char → Except Refusal (List Json × List Char)
  | 0, chars => .error (.malformed .expectedValue chars)
  | fuel + 1, chars => do
      let (item, rest) ← readValue fuel chars
      match skipBlanks rest with
      | ']' :: rest => return ([item], rest)
      | ',' :: rest =>
          let (items, rest) ← readItems fuel (skipBlanks rest)
          return (item :: items, rest)
      | rest => .error (.malformed .expectedComma rest)

/-- The entries of an object from the first character of a name to the end of the object. -/
def readEntries : Nat → List Char → Except Refusal (List (String × Json) × List Char)
  | 0, chars => .error (.malformed .expectedName chars)
  | fuel + 1, chars =>
      match chars with
      | '"' :: rest => do
          let (name, rest) ← readString rest
          match skipBlanks rest with
          | ':' :: rest =>
              let (value, rest) ← readValue fuel (skipBlanks rest)
              let entry := (String.ofList name, value)
              match skipBlanks rest with
              | '\x7d' :: rest => return ([entry], rest)
              | ',' :: rest =>
                  let (entries, rest) ← readEntries fuel (skipBlanks rest)
                  return (entry :: entries, rest)
              | rest => .error (.malformed .expectedComma rest)
          | rest => .error (.malformed .expectedColon rest)
      | chars => .error (.malformed .expectedName chars)

end

/-- The value that a whole text stands for. -/
def read (chars : List Char) : Except Refusal Json :=
  match chars with
  | '\uFEFF' :: _ => .error (.malformed .byteOrderMark chars)
  | chars => do
      let (value, rest) ← readValue (chars.length + 1) (skipBlanks chars)
      match skipBlanks rest with
      | [] => return value
      | rest => .error (.malformed .extraData rest)

/-- The line on which a rest of a text starts, counted from one. -/
def lineOf (text rest : List Char) : Nat :=
  (text.take (text.length - rest.length)).count '\n' + 1

end CodeDeck.Json
