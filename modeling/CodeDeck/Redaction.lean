import CodeDeck.Json.Value
import CodeDeck.Limits
import CodeDeck.Pattern.Removal

namespace CodeDeck.Redaction

/-!
# Redaction

The matches of a removal pattern are taken out of a source. No pattern takes
nothing out; a text that is no pattern takes nothing out and is reported. A
pattern is first read, which the stack of a machine may be too small for, and
what is doubtful in it the machine may remark on, though that is no report.
-/

/-- Why a source cannot be redacted. -/
inductive Failure where
  /-- What is given as pattern is no text. -/
  | notText (kind : Json.Kind)
  /-- The pattern cannot be used, and not because of its form. -/
  | unusable (pattern : String) (cause : Pattern.Failure)
  deriving Repr, DecidableEq

/-- The message of a failure. -/
def Failure.message : Failure → String
  | .notText .array => "unhashable type: 'list'"
  | .notText .object => "unhashable type: 'dict'"
  | .notText _ => "first argument must be string or compiled pattern"
  | .unusable pattern cause => cause.message pattern.toList

/-- A source without the matches of a pattern. -/
def withPattern (source pattern : String) : Outcome Failure String :=
  match Pattern.Program.compile pattern.toList with
  | .ok program => ⟨[], .ok (String.ofList (program.removeAll source.toList))⟩
  | .error (.refused refusal) => ⟨[.badPattern pattern refusal], .ok source⟩
  | .error cause => ⟨[], .error (.unusable pattern cause)⟩

/-- A source without the matches of what is given as pattern. -/
def redact (source : String) (pattern : Json) : Outcome Failure String :=
  if pattern.isGiven then
    match pattern with
    | .string pattern => withPattern source pattern
    | pattern => ⟨[], .error (.notText pattern.kind)⟩
  else
    ⟨[], .ok source⟩

/-- The doubtful parts of what is given as pattern. -/
def doubts : Json → List Pattern.Doubt
  | .string pattern => Pattern.doubts pattern.toList
  | _ => []

/-- Whether a stack is too small for what is given as pattern. -/
def overflows (stack : Stack '(') : Json → Bool
  | .string pattern => stack.overflows pattern.toList
  | _ => false

/-- A source without the matches of what is given as pattern, on a machine with a stack. -/
def redactWithin
    (stack : Stack '(')
    (source : String)
    (pattern : Json) : Outcome (Halt Failure) String :=
  if overflows stack pattern then
    ⟨[], .error .stackOverflow⟩
  else
    let redacted := redact source pattern
    ⟨redacted.reports, redacted.result.mapError .failed⟩

end CodeDeck.Redaction
