import CodeDeck.Pattern.Syntax
import CodeDeck.Text.Case
import CodeDeck.Text.Letter
import CodeDeck.Text.Space

namespace CodeDeck.Pattern

/-!
# Tests of single characters

Whether a character is the one that a pattern asks for, or in its set. Classes
and letter case are those of ASCII or those of Unicode. Where case does not
count, the lower case of a character is compared with the lower cases of the
characters asked for.

Beyond the Basic Multilingual Plane a single member of a set is compared as it
stands, and a range is also tried on the character in upper case.
-/

/-- The characters that classes and letter case know about. -/
inductive Repertoire where
  | ascii
  | unicode
  deriving Repr, DecidableEq

namespace Repertoire

/-- The lower case of a code point. -/
def lower : Repertoire → Nat → Nat
  | .ascii, code => Text.asciiLower code
  | .unicode, code => Text.lower code

/-- Whether a code point has a case. -/
def isCased : Repertoire → Nat → Bool
  | .ascii, code => Text.isAsciiLetter code
  | .unicode, code => Text.isCased code

/-- Further letters that are the same as a letter in lower case. -/
def sameAs : Repertoire → Nat → List Nat
  | .ascii, _ => []
  | .unicode, code => Text.sameLettersAs code

/-- The code points with a lower case. -/
def withLower : Repertoire → Nat → List Nat
  | .ascii, code =>
      if 65 ≤ code && code ≤ 90 then []
      else if 97 ≤ code && code ≤ 122 then [code, code - 32]
      else [code]
  | .unicode, code => Text.withLower code

/-- Whether a code point between two bounds has a case. -/
def anyCased : Repertoire → Nat → Nat → Bool
  | .ascii, low, high => (max low 65 ≤ min high 90) || (max low 97 ≤ min high 122)
  | .unicode, low, high => Text.anyCased low high

end Repertoire

/-- Whether a character is in a class. -/
def Category.holds (category : Category) (repertoire : Repertoire) (c : Char) : Bool :=
  match category, repertoire with
  | .digit, .unicode => Text.isDigit c
  | .space, .unicode => Text.isSpace c
  | .word, .unicode => Text.isWord c
  | .digit, .ascii => c.isDigit
  | .space, .ascii => c == ' ' || ('\t' ≤ c && c ≤ '\r')
  | .word, .ascii => c.isAlphanum || c == '_'

namespace SetItem

/-- Whether a member of a set is or holds a character. -/
def holds (repertoire : Repertoire) (c : Char) : SetItem → Bool
  | .code member => c.toNat == member
  | .range low high => low ≤ c.toNat && c.toNat ≤ high
  | .category kind negated => kind.holds repertoire c != negated

/-- One past the Basic Multilingual Plane. -/
def planeEnd : Nat := 0x10000

/-- Whether case makes a difference for a member of a set. -/
def isCased (repertoire : Repertoire) : SetItem → Bool
  | .code member => planeEnd ≤ member || repertoire.isCased member
  | .range low high => planeEnd ≤ high || repertoire.anyCased low high
  | .category .. => false

/-- Whether a member of a set holds a code point in lower case when case does not count. -/
def holdsLower (repertoire : Repertoire) (code : Nat) : SetItem → Bool
  | .code member =>
      if planeEnd ≤ member then
        code == member
      else
        let member := repertoire.lower member
        code == member || (repertoire.sameAs member).contains code
  | .range low high =>
      let inPlane (source : Nat) : Bool := low ≤ source && source ≤ high && source < planeEnd
      let beyond (code : Nat) : Bool := planeEnd ≤ high && low ≤ code && code ≤ high
      (code :: repertoire.sameAs code).any (fun same => (repertoire.withLower same).any inPlane) ||
        beyond code || beyond (Text.upper code)
  | .category kind negated => kind.holds repertoire (Char.ofNat code) != negated

end SetItem

/-- A test of one character. -/
inductive CharTest where
  | any
  | notNewline
  | code (code : Nat) (negated : Bool)
  | anyOf (codes : List Nat) (repertoire : Repertoire) (negated : Bool)
  | set (items : List SetItem) (repertoire : Repertoire) (negated : Bool)
  | caselessSet (items : List SetItem) (repertoire : Repertoire) (negated : Bool)
  deriving Repr, DecidableEq

namespace CharTest

/-- Whether a character passes a test. -/
def accepts (test : CharTest) (c : Char) : Bool :=
  match test with
  | .any => true
  | .notNewline => c != '\n'
  | .code member negated => (c.toNat == member) != negated
  | .anyOf codes repertoire negated => codes.contains (repertoire.lower c.toNat) != negated
  | .set items repertoire negated => items.any (·.holds repertoire c) != negated
  | .caselessSet items repertoire negated =>
      items.any (·.holdsLower repertoire (repertoire.lower c.toNat)) != negated

/-- The test for a character, or for any other one, under flags. -/
def ofLiteral (flags : Flags) (repertoire : Repertoire) (code : Nat) (negated : Bool) : CharTest :=
  if flags.ignoreCase && repertoire.isCased code then
    let code := repertoire.lower code
    .anyOf (code :: repertoire.sameAs code) repertoire negated
  else
    .code code negated

/-- The test for the members of a set, or for the others, under flags. -/
def ofSet
    (flags : Flags)
    (repertoire : Repertoire)
    (items : List SetItem)
    (negated : Bool) : CharTest :=
  if flags.ignoreCase && items.any (·.isCased repertoire) then
    .caselessSet items repertoire negated
  else
    .set items repertoire negated

end CharTest

end CodeDeck.Pattern
