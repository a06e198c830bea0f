namespace CodeDeck.Text

/-!
# Separated lists

A written list is cut into its items at each separator, and items are put
together with one separator between neighbours. Cutting never yields an empty
list, and what is cut can be put together again: `joined_separated`.
-/

/-- The items of a written list; a text without separator is one item. -/
def separated (separator : Char) : List Char → List (List Char)
  | [] => [[]]
  | c :: rest =>
      match separated separator rest with
      | [] => [[c]]
      | item :: items => if c = separator then [] :: item :: items else (c :: item) :: items

/-- Items with one separator between neighbours. -/
def joined (separator : Char) : List (List Char) → List Char
  | [] => []
  | [item] => item
  | item :: next :: items => item ++ separator :: joined separator (next :: items)

theorem separated_ne_nil (separator : Char) (chars : List Char) :
    separated separator chars ≠ [] := by
  cases chars with
  | nil => simp [separated]
  | cons c rest =>
      rw [separated]
      split
      · simp
      · split <;> simp

/-- Cutting and joining gives the text back. -/
theorem joined_separated (separator : Char) (chars : List Char) :
    joined separator (separated separator chars) = chars := by
  induction chars with
  | nil => rfl
  | cons c rest inductionHypothesis =>
      cases shape : separated separator rest with
      | nil => exact absurd shape (separated_ne_nil separator rest)
      | cons item items =>
          rw [shape] at inductionHypothesis
          by_cases found : c = separator
          · simp [separated, shape, found, joined, inductionHypothesis]
          · cases items with
            | nil => simpa [separated, shape, found, joined] using inductionHypothesis
            | cons second more =>
                simpa [separated, shape, found, joined] using inductionHypothesis

end CodeDeck.Text
