import CodeDeck.Number.Decimal
import CodeDeck.Pattern.Cursor
import CodeDeck.Text.CharacterName

namespace CodeDeck.Pattern

/-!
# Escapes in patterns

What a backslash and the character behind it stand for, outside of character
sets and inside of them: a class, a place, a reference to a group, or one code
point given by its number or name.
-/

/-- What an escape stands for. -/
inductive Escape where
  | code (code : Nat)
  | category (category : Category) (negated : Bool)
  | anchor (anchor : Anchor)
  | reference (group : Nat)
  deriving Repr, DecidableEq

namespace Escape

/-- The control characters that have a letter. -/
def control? (c : Char) : Option Nat :=
  if c = 'a' then some 7
  else if c = 'b' then some 8
  else if c = 'f' then some 12
  else if c = 'n' then some 10
  else if c = 'r' then some 13
  else if c = 't' then some 9
  else if c = 'v' then some 11
  else if c = '\\' then some 92
  else none

/-- The classes that have a letter. -/
def category? (c : Char) : Option Escape :=
  if c = 'd' then some (.category .digit false)
  else if c = 'D' then some (.category .digit true)
  else if c = 's' then some (.category .space false)
  else if c = 'S' then some (.category .space true)
  else if c = 'w' then some (.category .word false)
  else if c = 'W' then some (.category .word true)
  else none

/-- The places that have a letter. -/
def anchor? (c : Char) : Option Escape :=
  if c = 'A' then some (.anchor .textStart)
  else if c = 'b' then some (.anchor .boundary)
  else if c = 'B' then some (.anchor .noBoundary)
  else if c = 'Z' then some (.anchor .textEnd)
  else none

/-- Refuse an escape for a fault that shows it, at its start. -/
def failFor (fault : String → Fault) (chars : List Char) : Read α :=
  Read.fail (fault (String.ofList chars)) chars.length

/-- A code point given by exactly `count` hexadecimal digits. -/
def readHex (letter : Char) (count : Nat) : Read Escape := do
  let digits ← Read.takeKind Digits.isHex count
  let chars := '\\' :: letter :: digits
  if digits.length ≠ count then
    failFor .incompleteEscape chars
  else
    let code := Digits.toNat 16 digits
    if Nat.pow 2 31 ≤ code then
      throw .hugeCodePoint
    else if 0x110000 ≤ code then
      failFor .badEscape chars
    else
      return .code code

/-- A code point given by its name in braces. -/
def readNamed : Read Escape := do
  if !(← Read.accept '\x7b') then
    Read.fail .missingBrace 0
  else
    let name ← Read.name '\x7d' "character name"
    match Text.CharacterName.code? name with
    | some value => return .code value
    | none => Read.fail (.unknownCharacterName (String.ofList name)) (name.length + 4)

/-- A code point given by octal digits, of which `chars` starts with the backslash. -/
def ofOctal (chars : List Char) : Read Escape := do
  let code := Digits.toNat 8 (chars.drop 1)
  if 0o377 < code then
    failFor .octalEscape chars
  else
    return .code code

/-- An escape by a letter or mark that is the same inside and outside of sets. -/
def readOther (c : Char) : Read Escape := do
  if c = 'x' then
    readHex c 2
  else if c = 'u' then
    readHex c 4
  else if c = 'U' then
    readHex c 8
  else if c = 'N' then
    readNamed
  else if c.isAlphanum then
    failFor .badEscape ['\\', c]
  else
    return .code c.toNat

/-- The meaning of an escape inside a character set. -/
def readInSet (c : Char) : Read Escape := do
  match control? c, category? c with
  | some value, _ => return .code value
  | none, some escape => return escape
  | none, none =>
      if isOctal c then
        ofOctal ('\\' :: c :: (← Read.takeKind isOctal 2))
      else
        readOther c

/-- Refer to a complete group by the digits of its number. -/
def readReference (digits : List Char) : Read Escape := do
  let group := Digits.toNat 10 digits
  if group ≤ (← Read.groupCount) then
    if !(← Read.isClosed group) then
      Read.fail .openGroup (digits.length + 1)
    else
      Read.checkLookbehind group
      return .reference group
  else
    Read.fail (.invalidReference group) digits.length

/-- A number behind a backslash: three octal digits are a code point, otherwise a group is meant. -/
def readNumber (first : Char) : Read Escape := do
  let second ← Read.takeKind Decimal.isDigit 1
  let third ←
    if isOctal first && !second.isEmpty && second.all isOctal then
      Read.takeKind isOctal 1
    else
      pure []
  if third.isEmpty then
    readReference (first :: second)
  else
    ofOctal ('\\' :: first :: second ++ third)

/-- The meaning of an escape outside of character sets. -/
def read (c : Char) : Read Escape := do
  match anchor? c, category? c, control? c with
  | some escape, _, _ => return escape
  | none, some escape, _ => return escape
  | none, none, some value => return .code value
  | none, none, none =>
      if c = '0' then
        ofOctal ('\\' :: c :: (← Read.takeKind isOctal 2))
      else if Decimal.isDigit c then
        readNumber c
      else
        readOther c

end Escape

end CodeDeck.Pattern
