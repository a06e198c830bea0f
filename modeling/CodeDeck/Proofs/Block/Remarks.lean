import CodeDeck.Proofs.Block.Passes

namespace CodeDeck

/-!
# What comes up in a pass

Doubts come up between the reports of a pass, and those that have come up
before are dropped. Neither takes anything from the reports: wherever a pass
ends, the reports among what comes up are those of the pass, in their order
(`filterMap_passRemarks`), and dropping doubts leaves them as they are
(`filterMap_fresh`).
-/

namespace Remark

variable {before : List Pattern.Doubt} {remarks : List Remark} {reports : List Report}

theorem filterMap_map_report : (reports.map report).filterMap report? = reports := by
  rw [List.filterMap_map]
  exact List.filterMap_some

theorem filterMap_map_doubt
    (doubts : List Pattern.Doubt) :
    (doubts.map doubt).filterMap report? = [] := by
  simp [report?]

end Remark

namespace Block

variable {config : Config} {block : Block} {blocks : List Block}

/-- The reports among what comes up about a block are its reports. -/
theorem filterMap_remarks :
    (block.remarks config).filterMap Remark.report? = (block.process config).reports := by
  rw [remarks, List.filterMap_append, List.filterMap_append, Remark.filterMap_map_report,
    Remark.filterMap_map_doubt, Remark.filterMap_map_report, List.append_nil]
  rfl

/-- The reports among what comes up in a pass are its reports, wherever it ends. -/
theorem filterMap_passRemarks :
    (passRemarks config blocks).filterMap Remark.report? = (processAll config blocks).reports := by
  induction blocks with
  | nil => rfl
  | cons block blocks inductionHypothesis =>
      rw [passRemarks, processAll, pass]
      cases (block.process config).result with
      | error failure => exact filterMap_remarks
      | ok done =>
          dsimp only
          rw [List.filterMap_append, filterMap_remarks, inductionHypothesis]
          rfl

/-- In a pass that returns there comes up what comes up about each of its blocks. -/
theorem passRemarks_of_ok
    {processed : List ProcessedBlock}
    (returned : (processAll config blocks).result = .ok processed) :
    passRemarks config blocks = blocks.flatMap fun block => block.remarks config := by
  rw [processAll, pass_eq_ok_iff] at returned
  induction returned with
  | nil => rfl
  | cons here _ inductionHypothesis =>
      rw [passRemarks, here, List.flatMap_cons, ← inductionHypothesis]

end Block

end CodeDeck
