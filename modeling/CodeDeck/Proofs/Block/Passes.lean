import CodeDeck.Proofs.Link.Meaning

namespace CodeDeck.Block

/-!
# Passes over blocks

A pass takes its blocks one by one. So it returns exactly when each block does,
and what it returns is what they return, in their order. This holds for every
step that a pass may take, with and without limits.
-/

variable {ε : Type} {step : Block → Outcome ε ProcessedBlock} {config : Config}
variable {blocks : List Block} {processed : List ProcessedBlock}

/-- A pass returns what the steps for its blocks return one by one, if each of them does. -/
theorem pass_eq_ok_iff :
    (pass step blocks).result = .ok processed ↔
      List.Forall₂ (fun block done => (step block).result = .ok done) blocks processed := by
  induction blocks generalizing processed with
  | nil =>
      rw [pass, List.forall₂_nil_left_iff]
      exact ⟨fun same => (Except.ok.inj same).symm, fun same => congrArg Except.ok same.symm⟩
  | cons block blocks inductionHypothesis =>
      rw [pass, List.forall₂_cons_left_iff]
      simp only [← inductionHypothesis]
      cases firstDone : (step block).result with
      | error failure => simp
      | ok done =>
          cases othersDone : (pass step blocks).result with
          | error failure => simp [Except.map]
          | ok others => simp [Except.map, eq_comm]

theorem exists_forall₂_iff
    {first second : Type}
    {related : first → second → Prop}
    {members : List first} :
    (∃ others, List.Forall₂ related members others) ↔
      ∀ member ∈ members, ∃ other, related member other := by
  induction members with
  | nil => exact iff_of_true ⟨[], .nil⟩ (by simp)
  | cons member members inductionHypothesis =>
      simp only [List.forall₂_cons_left_iff, List.forall_mem_cons, ← inductionHypothesis]
      constructor
      · rintro ⟨_, other, others, here, behind, -⟩
        exact ⟨⟨other, here⟩, others, behind⟩
      · rintro ⟨⟨other, here⟩, others, behind⟩
        exact ⟨_, other, others, here, behind, rfl⟩

/-- A pass returns exactly when the step for each of its blocks does. -/
theorem exists_pass_iff :
    (∃ processed, (pass step blocks).result = .ok processed) ↔
      ∀ block ∈ blocks, ∃ done, (step block).result = .ok done := by
  simp only [pass_eq_ok_iff, exists_forall₂_iff]

/-- A pass gives one processed block for each block, in their order. -/
theorem processAll_parsed
    (returned : (processAll config blocks).result = .ok processed) :
    processed.map ProcessedBlock.parsed = blocks.map fun block => block.parse config := by
  rw [processAll, pass_eq_ok_iff] at returned
  induction returned with
  | nil => rfl
  | cons here _ inductionHypothesis =>
      rw [List.map_cons, List.map_cons, inductionHypothesis, process_parsed here]

/-- What a pass gives comes from one of its blocks. -/
theorem exists_of_processAll
    {done : ProcessedBlock}
    (returned : (processAll config blocks).result = .ok processed)
    (member : done ∈ processed) :
    ∃ block ∈ blocks, block.parse config = done.parsed := by
  have parsed := List.mem_map_of_mem (f := ProcessedBlock.parsed) member
  rwa [processAll_parsed returned, List.mem_map] at parsed

end CodeDeck.Block
