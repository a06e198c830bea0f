import CodeDeck.Number.Numeral
import CodeDeck.Text.Quoted

namespace CodeDeck.Pattern

/-!
# What is wrong with a pattern

The causes for which a text is no pattern, their messages, and the few causes
that are not about the form of a pattern but about its size and its flags. A
character set that looks as if it was meant as arithmetic on sets is doubtful:
it is read as it stands, and the machine may remark on it. On the number of a
group that is written in an old way it is silent unless it is asked to be
strict, so that is no doubt here.
-/

/-- The three ways in which an item is repeated. -/
inductive RepeatMode where
  | greedy
  | lazy
  | possessive
  deriving Repr, DecidableEq

/-- What is wrong with a pattern. -/
inductive Fault where
  | escapeAtEnd
  | badEscape (escape : String)
  | incompleteEscape (escape : String)
  | octalEscape (escape : String)
  | missingBrace
  | missingName (subject : String)
  | openName (terminator : Char)
  | unknownCharacterName (name : String)
  | openGroup
  | groupOfSameLookbehind
  | invalidReference (group : Nat)
  | groupNameTaken (name : String) (group earlier : Nat)
  | badGroupName (name : String)
  | unknownGroupName (name : String)
  | badGroupNumber
  | openSet
  | badRange (low high : String)
  | nothingToRepeat
  | repeatOfRepeat
  | emptyRepeat
  | unexpectedEnd
  | unknownExtension (extension : String)
  | openComment
  | missingParenthesis
  | thirdBranch
  | lateFlags
  | extraParenthesis
  | localeFlag
  | exclusiveFlags
  | flagsNotEnded
  | unknownFlag
  | missingFlag
  | flagsWithoutColon
  | globalFlagOn
  | globalFlagOff
  | typeFlagOff
  | flagOnAndOff
  | repeatInTemplate (mode : RepeatMode)
  | lookbehindTooFar
  | lookbehindWidth
  deriving Repr, DecidableEq

/-- The message of a fault, without its position. -/
def Fault.text : Fault → String
  | .escapeAtEnd => "bad escape (end of pattern)"
  | .badEscape escape => "bad escape " ++ escape
  | .incompleteEscape escape => "incomplete escape " ++ escape
  | .octalEscape escape => "octal escape value " ++ escape ++ " outside of range 0-0o377"
  | .missingBrace => "missing \x7b"
  | .missingName subject => "missing " ++ subject
  | .openName terminator => "missing " ++ terminator.toString ++ ", unterminated name"
  | .unknownCharacterName name => "undefined character name " ++ Text.Quoted.quote name
  | .openGroup => "cannot refer to an open group"
  | .groupOfSameLookbehind => "cannot refer to group defined in the same lookbehind subpattern"
  | .invalidReference group => "invalid group reference " ++ toString group
  | .groupNameTaken name group earlier =>
      "redefinition of group name " ++ Text.Quoted.quote name ++ " as group " ++ toString group ++
        "; was group " ++ toString earlier
  | .badGroupName name => "bad character in group name " ++ Text.Quoted.quote name
  | .unknownGroupName name => "unknown group name " ++ Text.Quoted.quote name
  | .badGroupNumber => "bad group number"
  | .openSet => "unterminated character set"
  | .badRange low high => "bad character range " ++ low ++ "-" ++ high
  | .nothingToRepeat => "nothing to repeat"
  | .repeatOfRepeat => "multiple repeat"
  | .emptyRepeat => "min repeat greater than max repeat"
  | .unexpectedEnd => "unexpected end of pattern"
  | .unknownExtension extension => "unknown extension ?" ++ extension
  | .openComment => "missing ), unterminated comment"
  | .missingParenthesis => "missing ), unterminated subpattern"
  | .thirdBranch => "conditional backref with more than two branches"
  | .lateFlags => "global flags not at the start of the expression"
  | .extraParenthesis => "unbalanced parenthesis"
  | .localeFlag => "bad inline flags: cannot use 'L' flag with a str pattern"
  | .exclusiveFlags => "bad inline flags: flags 'a', 'u' and 'L' are incompatible"
  | .flagsNotEnded => "missing -, : or )"
  | .unknownFlag => "unknown flag"
  | .missingFlag => "missing flag"
  | .flagsWithoutColon => "missing :"
  | .globalFlagOn => "bad inline flags: cannot turn on global flag"
  | .globalFlagOff => "bad inline flags: cannot turn off global flag"
  | .typeFlagOff => "bad inline flags: cannot turn off flags 'a', 'u' and 'L'"
  | .flagOnAndOff => "bad inline flags: flag turned on and off"
  | .repeatInTemplate .greedy => "internal: unsupported template operator MAX_REPEAT"
  | .repeatInTemplate .lazy => "internal: unsupported template operator MIN_REPEAT"
  | .repeatInTemplate .possessive => "internal: unsupported template operator POSSESSIVE_REPEAT"
  | .lookbehindTooFar => "looks too much behind"
  | .lookbehindWidth => "look-behind requires fixed-width pattern"

/-- A refused pattern: what is wrong, and where when it has a place. -/
structure Refusal where
  fault : Fault
  position : Option Nat
  deriving Repr, DecidableEq

/--
The column of a position: its distance from the newline before it, or from before the
first character.
-/
def column (pattern : List Char) (position : Nat) : Nat :=
  ((pattern.take position).reverse.takeWhile (· != '\n')).length + 1

/-- The message of a refusal; line and column are given when the pattern has several lines. -/
def Refusal.message (refusal : Refusal) (pattern : List Char) : String :=
  match refusal.position with
  | none => refusal.fault.text
  | some position =>
      let text := refusal.fault.text ++ " at position " ++ toString position
      if pattern.contains '\n' then
        text ++ " (line " ++ toString ((pattern.take position).count '\n' + 1) ++ ", column " ++
          toString (column pattern position) ++ ")"
      else
        text

/-- Why a pattern cannot be used. -/
inductive Failure where
  /-- The text is no pattern. -/
  | refused (refusal : Refusal)
  /-- A repetition count is too large to be kept. -/
  | hugeRepeat
  /-- A code point is given by a number of more than 31 bits. -/
  | hugeCodePoint
  /-- A repetition count has more digits than can be read. -/
  | longNumeral (digits : Nat)
  /-- The flags ask for ASCII classes and for Unicode classes. -/
  | asciiAndUnicode
  deriving Repr, DecidableEq

/-- The message of a failure to use a pattern. -/
def Failure.message (failure : Failure) (pattern : List Char) : String :=
  match failure with
  | .refused refusal => refusal.message pattern
  | .hugeRepeat => "the repetition number is too large"
  | .hugeCodePoint => "Python int too large to convert to C int"
  | .longNumeral digits => Numeral.tooLongMessage digits
  | .asciiAndUnicode => "ASCII and UNICODE flags are incompatible"

/-- What a doubtful part of a character set may have been meant as. -/
inductive SetIdiom where
  | nested
  | difference
  | intersection
  | symmetricDifference
  | union
  deriving Repr, DecidableEq

/-- How a remark calls an idiom. -/
def SetIdiom.name : SetIdiom → String
  | .nested => "nested set"
  | .difference => "set difference"
  | .intersection => "set intersection"
  | .symmetricDifference => "set symmetric difference"
  | .union => "set union"

/-- The idiom that a sign stands for when it is doubled. -/
def SetIdiom.ofDoubled? (c : Char) : Option SetIdiom :=
  if c = '-' then some .difference
  else if c = '&' then some .intersection
  else if c = '~' then some .symmetricDifference
  else if c = '|' then some .union
  else none

/-- A doubtful part of a set, and where it stands. -/
structure Doubt where
  idiom : SetIdiom
  position : Nat
  deriving Repr, DecidableEq

/-- The text of a remark on a doubtful part. -/
def Doubt.text (doubt : Doubt) : String :=
  "Possible " ++ doubt.idiom.name ++ " at position " ++ toString doubt.position

end CodeDeck.Pattern
