namespace CodeDeck.Text

/-!
# Ranges of code points

A property of characters that no short rule describes is kept as its ranges in
ascending order. A code point has the property when one of the ranges holds
it, and the search stops at the first range that starts beyond it.
-/

/-- An inclusive range of code points. -/
abbrev CharRange := Nat × Nat

/-- Whether one of the ranges, given in ascending order, holds a code point. -/
def inRanges (code : Nat) : List CharRange → Bool
  | [] => false
  | (low, high) :: rest =>
      if code < low then
        false
      else if code ≤ high then
        true
      else
        inRanges code rest

end CodeDeck.Text
