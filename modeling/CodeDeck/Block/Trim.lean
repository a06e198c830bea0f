import CodeDeck.Text.Lines
import CodeDeck.Text.Space

namespace CodeDeck.Trim

/-!
# Trimming lines

Blank lines at both ends are dropped, and the whitespace that all other lines
start with is taken off every line. A blank line between others has no say in
how much that is; it loses as many characters as it has.
-/

/-- Lines without the blank ones at both ends. -/
def window (lines : List String) : List String :=
  ((lines.dropWhile Text.isBlank).reverse.dropWhile Text.isBlank).reverse

/-- The margins of the lines that are not blank. -/
def margins (lines : List String) : List Nat :=
  (lines.filter fun line => !Text.isBlank line).map Text.margin

/-- The margin that all lines have but the blank ones. -/
def commonMargin (lines : List String) : Nat :=
  (margins lines).min?.getD 0

/-- Every line without the common margin. -/
def undent (lines : List String) : List String :=
  lines.map (Text.dropFront (commonMargin lines))

/-- The lines that are kept, without their common margin if that is asked for. -/
def lines (lines : List String) (undented : Bool) : List String :=
  if undented then undent (window lines) else window lines

/-- The kept lines as one text. -/
def text (source : List String) (undented : Bool) : String :=
  Text.joinLines (lines source undented)

end CodeDeck.Trim
