import CodeDeck.Report
import CodeDeck.Text.Space

namespace CodeDeck

/-!
# Annotated lines

A block of code is annotated for the slide. Between a `///hide` and a
`///unhide` line nothing is shown, and from a line `// setup` on nothing is
shown until a line starts without a space. Markers belong to neither the full
source nor the shown one; all other lines belong to the full source.
-/

/-- The two markers. -/
inductive Marker where
  | hide
  | unhide
  deriving Repr, DecidableEq

namespace Marker

/-- The word of a marker. -/
def keyword : Marker → List Char
  | .hide => ['h', 'i', 'd', 'e']
  | .unhide => ['u', 'n', 'h', 'i', 'd', 'e']

/-- The marker with a word. -/
def ofKeyword? (word : List Char) : Option Marker :=
  if word = hide.keyword then some .hide
  else if word = unhide.keyword then some .unhide
  else none

/-- The marker that a line is: three slashes and a word, with whitespace around and between them. -/
def ofLine? (line : String) : Option Marker :=
  match Text.stripSpaces line.toList with
  | '/' :: '/' :: '/' :: rest => ofKeyword? (rest.dropWhile Text.isSpace)
  | _ => none

end Marker

/-- The line that starts a setup region. -/
def setupLine : String := "// setup"

/-- Whether a line ends a setup region: it has characters, and the first is no space. -/
def endsSetup (line : String) : Bool :=
  match line.toList with
  | [] => false
  | c :: _ => c != ' '

/-- Which regions a line of a block lies in. -/
structure Region where
  hidden : Bool
  setup : Bool
  deriving Repr, DecidableEq

namespace Region

/-- Before the first line no region is open. -/
def initial : Region := ⟨false, false⟩

/-- The regions behind a marker. -/
def mark (region : Region) (marker : Marker) : Region :=
  { region with hidden := marker == .hide }

/-- The regions of a line that is no marker, by the regions before it. -/
def enter (region : Region) (line : String) : Region :=
  if line = setupLine then
    { region with setup := true }
  else if endsSetup line then
    { region with setup := false }
  else
    region

/-- Whether the lines of these regions are shown. -/
def isShown (region : Region) : Bool :=
  !region.hidden && !region.setup

end Region

/-- The full source, the shown one, and the reports about long lines. -/
structure Classified where
  full : List String
  display : List String
  reports : List Report
  deriving Repr, DecidableEq

namespace Classified

/-- No lines. -/
def empty : Classified := ⟨[], [], []⟩

/-- The report about a line that has more characters than allowed. -/
def reportLine (maxLength : Int) (line : String) : List Report :=
  if maxLength < line.length then [.longLine line] else []

/-- The lines of a block from given regions on. -/
def ofLinesFrom (maxLength : Int) (region : Region) : List String → Classified
  | [] => empty
  | line :: lines =>
      match Marker.ofLine? line with
      | some marker => ofLinesFrom maxLength (region.mark marker) lines
      | none =>
          let region := region.enter line
          let rest := ofLinesFrom maxLength region lines
          { full := line :: rest.full
            display := if region.isShown then line :: rest.display else rest.display
            reports := reportLine maxLength line ++ rest.reports }

/-- The lines of a block. -/
def ofLines (maxLength : Int) (lines : List String) : Classified :=
  ofLinesFrom maxLength Region.initial lines

end Classified

end CodeDeck
