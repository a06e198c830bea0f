import CodeDeck.Json.Mapping

namespace CodeDeck.Json

/-!
# Which values are mappings

Entries can be made of an object, and of a sequence of pairs with keys that are
no containers; of no other value: `exists_toEntries_iff`.
-/

/-- A value that holds values. -/
def isContainer : Json → Bool
  | .array _ | .object _ => true
  | _ => false

/-- A sequence of a key and a value. -/
def IsPair (item : Json) : Prop :=
  ∃ key value, item.sequence? = some [key, value] ∧ key.isContainer = false

/-- An object, or a sequence of pairs. -/
def IsMapping (value : Json) : Prop :=
  value.kind = .object ∨ ∃ items, value.sequence? = some items ∧ ∀ item ∈ items, item.IsPair

variable {item key value : Json}

theorem pairOf_eq_ok_iff (index : Nat) :
    pairOf index item = .ok (key, value) ↔
      item.sequence? = some [key, value] ∧ key.isContainer = false := by
  cases isSequence : item.sequence? with
  | none => simp [pairOf, isSequence]
  | some items =>
      match items with
      | [] | [_] | _ :: _ :: _ :: _ => simp [pairOf, isSequence]
      | [first, second] =>
          cases first with
          | array | object =>
              simp only [pairOf, isSequence, Option.some.injEq, List.cons.injEq]
              refine iff_of_false (by simp) ?_
              rintro ⟨⟨rfl, -⟩, noContainer⟩
              contradiction
          | null | bool | int | float | string =>
              simp only [pairOf, isSequence, Except.ok.injEq, Prod.mk.injEq, Option.some.injEq,
                List.cons.injEq, and_true]
              refine (and_iff_left_of_imp ?_).symm
              rintro ⟨rfl, -⟩
              rfl

/-- Pairs are stored when all items are pairs, whatever has been stored before. -/
theorem exists_putPairs_iff
    (items : List Json)
    (stored : List (Json × Json))
    (index : Nat) :
    (∃ pairs, putPairs stored index items = .ok pairs) ↔ ∀ item ∈ items, item.IsPair := by
  induction items generalizing stored index with
  | nil => simp [putPairs]
  | cons item items inductionHypothesis =>
      rw [List.forall_mem_cons, putPairs]
      cases taken : pairOf index item with
      | error cause =>
          have noPair : ¬ item.IsPair := by
            rintro ⟨key, value, isPair⟩
            rw [(pairOf_eq_ok_iff index).mpr isPair] at taken
            contradiction
          simp [noPair, bind, Except.bind]
      | ok pair =>
          have isPair : item.IsPair := ⟨pair.1, pair.2, (pairOf_eq_ok_iff index).mp taken⟩
          simpa [isPair, bind, Except.bind] using
            inductionHypothesis (putAny stored pair.1 pair.2) (index + 1)

/-- The values that entries can be made of. -/
theorem exists_toEntries_iff (value : Json) :
    (∃ entries, value.toEntries = .ok entries) ↔ value.IsMapping := by
  unfold toEntries
  split
  case h_1 entries => simp [IsMapping, kind]
  case h_2 notObject =>
      have noObject : value.kind ≠ .object := by
        cases value with
        | object entries => exact absurd rfl (notObject entries)
        | null | bool | int | float | string | array => simp [kind]
      rw [IsMapping, or_iff_right noObject]
      cases value.sequence? with
      | none => simp
      | some items =>
          simp only [Option.some.injEq, exists_eq_left']
          rw [← exists_putPairs_iff items [] 0]
          cases putPairs [] 0 items with
          | error cause => simp [bind, Except.bind]
          | ok pairs => simp [bind, Except.bind, pure, Except.pure]

end CodeDeck.Json
