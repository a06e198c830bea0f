import CodeDeck.Text.Space
import Mathlib.Data.List.TakeWhile

namespace CodeDeck.Text

/-!
# Stripped texts

A text is its stripped part between whitespace, so stripping keeps all other
characters. Text around another one does not count for stripping exactly when it
is all whitespace: `stripSpaces_surrounded_iff`.
-/

/-- Whether two texts are the same but for whitespace at their ends. -/
def SameStripped (first second : String) : Prop :=
  stripSpaces first.toList = stripSpaces second.toList

variable {front middle behind : List Char}

/-- Whitespace in front does not count. -/
theorem stripSpaces_append
    {front : List Char}
    (chars : List Char)
    (spaces : ∀ c ∈ front, isSpace c = true) :
    stripSpaces (front ++ chars) = stripSpaces chars := by
  rw [stripSpaces, List.dropWhile_append_of_pos spaces, stripSpaces]

theorem stripSpaces_eq_nil
    (spaces : ∀ c ∈ middle, isSpace c = true) :
    stripSpaces middle = [] := by
  rw [stripSpaces, List.dropWhile_eq_nil_iff.mpr spaces]
  rfl

/-- Whitespace behind does not count. -/
theorem stripSpaces_append_spaces
    (spaces : ∀ c ∈ behind, isSpace c = true) :
    stripSpaces (middle ++ behind) = stripSpaces middle := by
  by_cases blank : ∀ c ∈ middle, isSpace c = true
  · rw [stripSpaces_append behind blank, stripSpaces_eq_nil spaces, stripSpaces_eq_nil blank]
  · have kept : (middle.dropWhile isSpace).isEmpty = false := by
      rw [List.isEmpty_eq_false_iff]
      exact fun empty => blank (List.dropWhile_eq_nil_iff.mp empty)
    have spacesReversed : ∀ c ∈ behind.reverse, isSpace c = true :=
      fun c member => spaces c (List.mem_reverse.mp member)
    rw [stripSpaces, List.dropWhile_append, kept, if_neg Bool.false_ne_true, List.reverse_append,
      List.dropWhile_append_of_pos spacesReversed, stripSpaces]

/-- A text is its stripped part between whitespace. -/
theorem exists_stripSpaces (chars : List Char) :
    ∃ front behind,
      chars = front ++ (stripSpaces chars ++ behind) ∧
        (∀ c ∈ front, isSpace c = true) ∧
        ∀ c ∈ behind, isSpace c = true := by
  let rest := chars.dropWhile isSpace
  refine ⟨chars.takeWhile isSpace, (rest.reverse.takeWhile isSpace).reverse, ?_,
    fun c => List.mem_takeWhile_imp,
    fun c member => List.mem_takeWhile_imp (List.mem_reverse.mp member)⟩
  rw [stripSpaces, ← List.reverse_append, List.takeWhile_append_dropWhile, List.reverse_reverse,
    List.takeWhile_append_dropWhile]

/-- Stripping keeps the characters that are no whitespace. -/
theorem filter_stripSpaces (chars : List Char) :
    (stripSpaces chars).filter (fun c => !isSpace c) = chars.filter fun c => !isSpace c := by
  obtain ⟨front, behind, shape, frontSpaces, behindSpaces⟩ := exists_stripSpaces chars
  have noneOf (spaces : List Char) (allSpaces : ∀ c ∈ spaces, isSpace c = true) :
      spaces.filter (fun c => !isSpace c) = [] :=
    List.filter_eq_nil_iff.mpr fun c member => by simp [allSpaces c member]
  have kept := congrArg (List.filter fun c => !isSpace c) shape
  rw [List.filter_append, List.filter_append, noneOf front frontSpaces, noneOf behind behindSpaces,
    List.nil_append, List.append_nil] at kept
  exact kept.symm

/-- What surrounds a text does not count exactly when it is all whitespace. -/
theorem stripSpaces_surrounded_iff :
    stripSpaces (front ++ (middle ++ behind)) = stripSpaces middle ↔
      ∀ c ∈ front ++ behind, isSpace c = true := by
  constructor
  · intro same
    have kept := congrArg (List.filter fun c => !isSpace c) same
    rw [filter_stripSpaces, filter_stripSpaces, List.filter_append, List.filter_append] at kept
    have lengths := congrArg List.length kept
    simp only [List.length_append] at lengths
    have none : (front ++ behind).filter (fun c => !isSpace c) = [] := by
      rw [List.filter_append]
      exact List.eq_nil_of_length_eq_zero (by rw [List.length_append]; omega)
    intro c member
    simpa using List.filter_eq_nil_iff.mp none c member
  · intro spaces
    rw [stripSpaces_append _ fun c member => spaces c (List.mem_append_left _ member),
      stripSpaces_append_spaces fun c member => spaces c (List.mem_append_right _ member)]

end CodeDeck.Text
