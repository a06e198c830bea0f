import CodeDeck.Text.Separated

namespace CodeDeck.Text

/-!
# Lines

A text is cut into lines at each newline and put together again with one
newline between neighbours: `joinLines_splitLines`.
-/

/-- The lines of a text; a text without newline is one line. -/
def splitLines (text : String) : List String :=
  (separated '\n' text.toList).map String.ofList

/-- Lines put together with one newline between neighbours. -/
def joinLines (lines : List String) : String :=
  String.ofList (joined '\n' (lines.map String.toList))

/-- Every line end (`\r\n`, `\r` or `\n`) written as a newline. -/
def unifyLineEnds : List Char → List Char
  | [] => []
  | '\r' :: '\n' :: rest => '\n' :: unifyLineEnds rest
  | c :: rest => (if c = '\r' then '\n' else c) :: unifyLineEnds rest

/-- Cutting and joining gives the text back. -/
theorem joinLines_splitLines (text : String) : joinLines (splitLines text) = text := by
  simp [joinLines, splitLines, Function.comp_def, joined_separated]

end CodeDeck.Text
