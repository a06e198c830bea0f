import CodeDeck.Log.Record
import CodeDeck.Pattern.Fault

namespace CodeDeck

/-!
# Reports

What the author of a deck is told about a block without the block being
refused: a line that is too long for a slide, and a removal pattern that is no
pattern. The machine may have remarks of its own besides, on doubtful parts of
a pattern, and each of them it makes only once.
-/

/-- A remark about a block. -/
inductive Report where
  | longLine (line : String)
  | badPattern (pattern : String) (refusal : Pattern.Refusal)
  deriving Repr, DecidableEq

namespace Report

/-- What a report is about. -/
def message : Report → String
  | .longLine line => "Line too long: \"" ++ line ++ "\""
  | .badPattern pattern _ => "Invalid regex pattern: " ++ pattern

/-- What a report adds to its message. -/
def details : Report → List String
  | .longLine _ => []
  | .badPattern pattern refusal => [refusal.message pattern.toList]

/-- A message and details in one line, with single spaces between them. -/
def joined (message : String) (details : List String) : String :=
  String.intercalate " " (message :: details)

/-- A message with details in the log. -/
def logged (message : String) (details : List String) : Log.Record where
  source := .reports
  level := .error
  message := joined message details

/-- A report in the log. -/
def record (report : Report) : Log.Record :=
  logged report.message report.details

end Report

/--
What comes up about a block: a report, or a doubtful part of its removal pattern, on which the
machine may remark.
-/
inductive Remark where
  | report (report : Report)
  | doubt (doubt : Pattern.Doubt)
  deriving Repr, DecidableEq

namespace Remark

/-- The report that has come up, if it is one. -/
def report? : Remark → Option Report
  | .report found => some found
  | .doubt _ => none

/-- What comes up for the first time: all reports, and the doubts that have not come up before. -/
def fresh (before : List Pattern.Doubt) : List Remark → List Remark
  | [] => []
  | .report found :: remarks => .report found :: fresh before remarks
  | .doubt found :: remarks =>
      if found ∈ before then
        fresh before remarks
      else
        .doubt found :: fresh (found :: before) remarks

end Remark

/-- A result, or the failure instead of it, and the reports made on the way. -/
structure Outcome (ε α : Type) where
  reports : List Report
  result : Except ε α
  deriving Repr

end CodeDeck
