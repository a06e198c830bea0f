import CodeDeck.Proofs.Pattern.Ways
import CodeDeck.Redaction
import Mathlib.Data.List.Basic

namespace CodeDeck

/-!
# What a removal takes out

The matches of a program are looked for from left to right, each behind the one
before it, until there is none: `Pattern.Scanned`. They cut a text into what is
taken out and the gaps between, and at no place in a gap does a match start that
takes any characters, whatever the order of preference: `Pattern.Cut`. So a
redaction that uses its pattern takes out matches and nothing else, and leaves
none in place: `Redaction.redact_cuts`.
-/

namespace Pattern

variable {program : Program} {text : Array Char} {position finish count fuel : Nat}
variable {mayBeEmpty : Bool} {span : Span} {spans : List Span}

/-! ## Matches at a position -/

/-- A program matches between two positions when one of its ways leads from one to the other. -/
def Program.Matches (program : Program) (text : Array Char) (start finish : Nat) : Prop :=
  ∃ way ∈ program.ways text (.startingAt start), way.position = finish

/-- No match that starts at a position takes any characters. -/
def Program.Misses (program : Program) (text : Array Char) (start : Nat) : Prop :=
  ∀ finish, program.Matches text start finish → finish = start

theorem Program.Matches.forward
    {start : Nat}
    (matched : program.Matches text start finish) :
    start ≤ finish ∧ (start ≤ text.size → finish ≤ text.size) := by
  obtain ⟨way, member, rfl⟩ := matched
  obtain ⟨forward, inside⟩ := program.advance_ways text _ way member
  exact ⟨forward, inside⟩

/-- The match at a position is the first way from there that is allowed to be one. -/
theorem Program.matchAt?_eq
    (program : Program)
    (text : Array Char)
    (start : Nat)
    (mayBeEmpty : Bool) :
    program.matchAt? text start mayBeEmpty =
      ((program.ways text (.startingAt start)).find? fun way =>
        mayBeEmpty || way.position != start).map Progress.position := by
  rw [matchAt?, run_eq_ofWays, Matcher.ofWays_apply, List.find?_eq_findSome?_guard]
  rfl

theorem Program.matches_of_matchAt?
    {start : Nat}
    (found : program.matchAt? text start mayBeEmpty = some finish) :
    program.Matches text start finish ∧ (mayBeEmpty = false → finish ≠ start) := by
  rw [matchAt?_eq] at found
  obtain ⟨way, isFirst, rfl⟩ := Option.map_eq_some_iff.mp found
  refine ⟨⟨way, List.mem_of_find?_eq_some isFirst, rfl⟩, ?_⟩
  rintro rfl
  simpa using List.find?_some isFirst

theorem Program.misses_of_matchAt?
    {start : Nat}
    (notFound : program.matchAt? text start mayBeEmpty = none) :
    program.Misses text start := by
  rintro _ ⟨way, member, rfl⟩
  rw [matchAt?_eq, Option.map_eq_none_iff, List.find?_eq_none] at notFound
  have rejected := notFound way member
  rw [Bool.or_eq_true, not_or, bne_iff_ne, not_not] at rejected
  exact rejected.2

/-! ## One search -/

/-- What a search finds: a match that starts at or behind a position, and none before it. -/
structure Program.Finds
    (program : Program)
    (text : Array Char)
    (position : Nat)
    (mayBeEmpty : Bool)
    (span : Span) : Prop where
  notBefore : position ≤ span.start
  matched : program.Matches text span.start span.finish
  moves : mayBeEmpty = false → span.start = position → span.finish ≠ span.start
  missed : ∀ other, position ≤ other → other < span.start → program.Misses text other

theorem Program.finds_of_search?
    (found : program.search? text count position mayBeEmpty = some span) :
    program.Finds text position mayBeEmpty span ∧ span.start ≤ position + count := by
  induction count generalizing position mayBeEmpty with
  | zero =>
      obtain ⟨finish, isMatch, rfl⟩ := Option.map_eq_some_iff.mp found
      obtain ⟨matched, moves⟩ := matches_of_matchAt? isMatch
      refine ⟨⟨Nat.le_refl _, matched, fun notEmpty _ => moves notEmpty, ?_⟩, Nat.le_refl _⟩
      intro other from_ before
      exact absurd before (Nat.not_lt.mpr from_)
  | succ count inductionHypothesis =>
      rw [search?] at found
      split at found
      · rename_i finish isMatch
        cases found
        obtain ⟨matched, moves⟩ := matches_of_matchAt? isMatch
        refine ⟨⟨Nat.le_refl _, matched, fun notEmpty _ => moves notEmpty, ?_⟩,
          Nat.le_add_right ..⟩
        intro other from_ before
        exact absurd before (Nat.not_lt.mpr from_)
      · rename_i notFound
        obtain ⟨later, bounded⟩ := inductionHypothesis found
        have behind := later.notBefore
        refine ⟨⟨by omega, later.matched, fun _ same => by omega, ?_⟩, by omega⟩
        intro other from_ before
        rcases Nat.eq_or_lt_of_le from_ with rfl | above
        · exact misses_of_matchAt? notFound
        · exact later.missed other above before

theorem Program.misses_of_search?
    (notFound : program.search? text count position mayBeEmpty = none)
    {other : Nat}
    (fromPosition : position ≤ other)
    (below : other ≤ position + count) :
    program.Misses text other := by
  induction count generalizing position mayBeEmpty with
  | zero =>
      obtain rfl : position = other := by omega
      exact misses_of_matchAt? (Option.map_eq_none_iff.mp notFound)
  | succ count inductionHypothesis =>
      rw [search?] at notFound
      split at notFound
      · contradiction
      · rename_i noMatch
        rcases Nat.eq_or_lt_of_le fromPosition with rfl | above
        · exact misses_of_matchAt? noMatch
        · exact inductionHypothesis notFound above (by omega)

/-! ## The whole scan -/

/--
Matches found one after the other from a position on, until a search finds none. This is a
derivation, so it ends, and nothing but a search without result ends it.
-/
inductive Scanned (program : Program) (text : Array Char) : Nat → Bool → List Span → Prop where
  | done
      {position : Nat}
      {mayBeEmpty : Bool}
      (notFound :
        program.search? text (text.size - position) position mayBeEmpty = none) :
      Scanned program text position mayBeEmpty []
  | found
      {position : Nat}
      {mayBeEmpty : Bool}
      {span : Span}
      {spans : List Span}
      (isNext :
        program.search? text (text.size - position) position mayBeEmpty = some span)
      (others : Scanned program text span.finish (span.finish != span.start) spans) :
      Scanned program text position mayBeEmpty (span :: spans)

theorem finish_le_of_search?
    (inside : position ≤ text.size)
    (found : program.search? text (text.size - position) position mayBeEmpty = some span) :
    span.finish ≤ text.size := by
  obtain ⟨finds, bounded⟩ := Program.finds_of_search? found
  exact finds.matched.forward.2 (by omega)

/--
A scan ends: every match starts behind the last one, or at its end, and of two at one place only
the first can be empty.
-/
theorem scanned_spansFrom
    (inside : position ≤ text.size)
    (enough : 2 * (text.size - position) + mayBeEmpty.toNat < fuel) :
    Scanned program text position mayBeEmpty
      (program.spansFrom text fuel position mayBeEmpty) := by
  induction fuel generalizing position mayBeEmpty with
  | zero => omega
  | succ fuel inductionHypothesis =>
      rw [Program.spansFrom]
      split
      · rename_i notFound
        exact .done notFound
      · rename_i span isNext
        have finishInside := finish_le_of_search? inside isNext
        obtain ⟨finds, -⟩ := Program.finds_of_search? isNext
        have notBefore := finds.notBefore
        have forward := finds.matched.forward.1
        refine .found isNext (inductionHypothesis finishInside ?_)
        by_cases empty : span.finish = span.start
        · rw [empty, bne_self_eq_false, Bool.toNat_false]
          cases mayBeEmpty with
          | true =>
              rw [Bool.toNat_true] at enough
              omega
          | false =>
              have moved : span.start ≠ position := fun same => finds.moves rfl same empty
              omega
        · rw [bne_iff_ne.mpr empty, Bool.toNat_true]
          omega

/-- The matches in a text are those of a scan that has ended. -/
theorem scanned_spans (program : Program) (text : Array Char) :
    Scanned program text 0 true (program.spans text) :=
  scanned_spansFrom (Nat.zero_le _) (by simp)

namespace Scanned

/-- The matches are parts of the text behind the position where the scan starts. -/
theorem within
    (scanned : Scanned program text position mayBeEmpty spans)
    (inside : position ≤ text.size) :
    ∀ span ∈ spans,
      position ≤ span.start ∧ span.start ≤ span.finish ∧ span.finish ≤ text.size := by
  induction scanned with
  | done => simp
  | found isNext others inductionHypothesis =>
      obtain ⟨finds, -⟩ := Program.finds_of_search? isNext
      have finishInside := finish_le_of_search? inside isNext
      have notBefore := finds.notBefore
      have forward := finds.matched.forward.1
      intro other member
      rcases List.mem_cons.mp member with rfl | later
      · exact ⟨notBefore, forward, finishInside⟩
      · have := inductionHypothesis finishInside other later
        omega

/-- No match starts before another one has ended. -/
theorem ordered
    (scanned : Scanned program text position mayBeEmpty spans)
    (inside : position ≤ text.size) :
    spans.Pairwise fun first second => first.finish ≤ second.start := by
  induction scanned with
  | done => exact .nil
  | found isNext others inductionHypothesis =>
      have finishInside := finish_le_of_search? inside isNext
      exact .cons (fun other later => (others.within finishInside other later).1)
        (inductionHypothesis finishInside)

theorem matched
    (scanned : Scanned program text position mayBeEmpty spans) :
    ∀ span ∈ spans, program.Matches text span.start span.finish := by
  induction scanned with
  | done => simp
  | found isNext others inductionHypothesis =>
      exact List.forall_mem_cons.mpr
        ⟨(Program.finds_of_search? isNext).1.matched, inductionHypothesis⟩

end Scanned

/-! ## Cuts -/

/-- Whether a position lies in a part of a text. -/
def Span.Covers (span : Span) (position : Nat) : Prop :=
  span.start ≤ position ∧ position < span.finish

instance (span : Span) (position : Nat) : Decidable (span.Covers position) :=
  inferInstanceAs (Decidable (_ ∧ _))

/-- At a place that no match covers, none starts that takes any characters. -/
theorem Scanned.missed
    (scanned : Scanned program text position mayBeEmpty spans)
    (inside : position ≤ text.size)
    {other : Nat}
    (fromPosition : position ≤ other)
    (below : other ≤ text.size)
    (uncovered : ∀ span ∈ spans, ¬ span.Covers other) :
    program.Misses text other := by
  induction scanned with
  | done notFound => exact Program.misses_of_search? notFound fromPosition (by omega)
  | @found position mayBeEmpty span spans isNext others inductionHypothesis =>
      obtain ⟨finds, -⟩ := Program.finds_of_search? isNext
      have finishInside := finish_le_of_search? inside isNext
      rw [List.forall_mem_cons] at uncovered
      by_cases before : other < span.start
      · exact finds.missed other fromPosition before
      · have behind : span.finish ≤ other :=
          Nat.not_lt.mp fun within => uncovered.1 ⟨Nat.not_lt.mp before, within⟩
        exact inductionHypothesis finishInside behind uncovered.2

/-- The characters from a position on that no part of a list covers. -/
def uncovered (chars : List Char) (position : Nat) (spans : List Span) : List Char :=
  ((chars.zipIdx position).filter fun entry => ∀ span ∈ spans, ¬ span.Covers entry.2).map Prod.fst

theorem uncovered_append
    (first second : List Char)
    (position : Nat)
    (spans : List Span) :
    uncovered (first ++ second) position spans =
      uncovered first position spans ++ uncovered second (position + first.length) spans := by
  rw [uncovered, List.zipIdx_append, List.filter_append, List.map_append, uncovered, uncovered]

/-- Parts that lie elsewhere cover nothing. -/
theorem uncovered_eq_self
    {chars : List Char}
    (elsewhere : ∀ other, position ≤ other → other < position + chars.length →
      ∀ span ∈ spans, ¬ span.Covers other) :
    uncovered chars position spans = chars := by
  rw [uncovered, List.filter_eq_self.mpr, List.zipIdx_map_fst]
  rintro ⟨c, other⟩ member
  obtain ⟨fromPosition, below, -⟩ := List.mem_zipIdx member
  exact decide_eq_true (elsewhere other fromPosition below)

/-- A part covers all of itself. -/
theorem uncovered_eq_nil
    {chars : List Char}
    (covered : ∀ other, position ≤ other → other < position + chars.length → span.Covers other)
    (member : span ∈ spans) :
    uncovered chars position spans = [] := by
  rw [uncovered, List.filter_eq_nil_iff.mpr, List.map_nil]
  rintro ⟨c, other⟩ isEntry uncovered
  obtain ⟨fromPosition, below, -⟩ := List.mem_zipIdx isEntry
  exact of_decide_eq_true uncovered span member (covered other fromPosition below)

/-- Behind a part that part covers nothing. -/
theorem uncovered_cons
    (chars : List Char)
    (spans : List Span)
    (behind : span.finish ≤ position) :
    uncovered chars position (span :: spans) = uncovered chars position spans := by
  rw [uncovered, uncovered]
  refine congrArg (List.map Prod.fst) (List.filter_congr ?_)
  rintro ⟨c, other⟩ member
  have fromPosition := (List.mem_zipIdx member).1
  have notCovered : ¬ span.Covers other :=
    fun covers => Nat.not_lt.mpr (Nat.le_trans behind fromPosition) covers.2
  simp [notCovered]

/-- The gaps between parts are what none of them covers. -/
theorem gaps_eq_uncovered
    {chars : List Char}
    (ordered : spans.Pairwise fun first second => first.finish ≤ second.start)
    (within : ∀ span ∈ spans,
      position ≤ span.start ∧ span.start ≤ span.finish ∧
        span.finish ≤ position + chars.length) :
    gaps chars position spans = uncovered chars position spans := by
  induction spans generalizing chars position with
  | nil => exact (uncovered_eq_self (by simp)).symm
  | cons span spans inductionHypothesis =>
      obtain ⟨first, others⟩ := List.pairwise_cons.mp ordered
      rw [List.forall_mem_cons] at within
      obtain ⟨⟨notBefore, forward, inside⟩, othersWithin⟩ := within
      -- The text is what stands before the first part, the part, and the rest.
      let before := chars.take (span.start - position)
      let part := (chars.drop (span.start - position)).take (span.finish - span.start)
      let rest := chars.drop (span.finish - position)
      have shape : chars = before ++ (part ++ rest) := by
        have behind : (chars.drop (span.start - position)).drop (span.finish - span.start) =
            rest := by
          rw [List.drop_drop]
          congr 1
          omega
        rw [← behind, List.take_append_drop, List.take_append_drop]
      have beforeLength : position + before.length = span.start := by
        rw [List.length_take]
        omega
      have partLength : span.start + part.length = span.finish := by
        rw [List.length_take, List.length_drop]
        omega
      have restLength : span.finish + rest.length = position + chars.length := by
        rw [List.length_drop]
        omega
      have beforeKept : uncovered before position (span :: spans) = before := by
        refine uncovered_eq_self fun other _ below otherSpan member covers => ?_
        have notAbove := covers.1
        rcases List.mem_cons.mp member with rfl | later
        · omega
        · have := first otherSpan later
          omega
      have partCut : uncovered part span.start (span :: spans) = [] :=
        uncovered_eq_nil (fun other above below => ⟨above, by omega⟩) List.mem_cons_self
      have restKept : uncovered rest span.finish (span :: spans) =
          gaps rest span.finish spans := by
        rw [uncovered_cons rest spans (Nat.le_refl _)]
        refine (inductionHypothesis others fun other member => ?_).symm
        have within := othersWithin other member
        exact ⟨first other member, within.2.1, by omega⟩
      calc gaps chars position (span :: spans)
          = before ++ gaps rest span.finish spans := rfl
        _ = uncovered (before ++ (part ++ rest)) position (span :: spans) := by
          rw [uncovered_append, uncovered_append, beforeLength, partLength, beforeKept, partCut,
            restKept, List.nil_append]
        _ = uncovered chars position (span :: spans) := by rw [← shape]

/--
A text cut into matches of a program and the gaps between them. No two matches overlap, and no
match starts in a gap that takes any characters.
-/
structure Cut (program : Program) (text : List Char) where
  spans : List Span
  ordered : spans.Pairwise fun first second => first.finish ≤ second.start
  within : ∀ span ∈ spans, span.start ≤ span.finish ∧ span.finish ≤ text.length
  matched : ∀ span ∈ spans, program.Matches text.toArray span.start span.finish
  missed : ∀ position ≤ text.length,
    (∀ span ∈ spans, ¬ span.Covers position) → program.Misses text.toArray position

namespace Cut

/-- The gaps of a cut. -/
def kept {program : Program} {text : List Char} (cut : Cut program text) : List Char :=
  uncovered text 0 cut.spans

/-- The cut that a scan makes. -/
def ofScanned
    {program : Program}
    {text : List Char}
    (scanned : Scanned program text.toArray 0 true spans) : Cut program text where
  spans
  ordered := scanned.ordered (Nat.zero_le _)
  within span member := (scanned.within (Nat.zero_le _) span member).2
  matched := scanned.matched
  missed _ below uncovered := scanned.missed (Nat.zero_le _) (Nat.zero_le _) below uncovered

theorem kept_sublist
    {program : Program}
    {text : List Char}
    (cut : Cut program text) :
    cut.kept.Sublist text := by
  have kept := (List.filter_sublist (p := fun entry : Char × Nat =>
    decide (∀ span ∈ cut.spans, ¬ span.Covers entry.2)) (l := text.zipIdx)).map Prod.fst
  rwa [List.zipIdx_map_fst] at kept

end Cut

/-- A removal leaves the gaps of the cut that the scan of the text makes. -/
theorem Program.removeAll_eq_kept
    (program : Program)
    (text : List Char) :
    program.removeAll text = (Cut.ofScanned (scanned_spans program text.toArray)).kept := by
  have scanned := scanned_spans program text.toArray
  refine gaps_eq_uncovered (scanned.ordered (Nat.zero_le _)) fun span member => ?_
  have within := scanned.within (Nat.zero_le _) span member
  rwa [List.size_toArray, ← Nat.zero_add text.length] at within

end Pattern

namespace Redaction

open Pattern List

/-- A pattern that is a text, or none. -/
def ofOption (pattern : Option String) : Json :=
  pattern.elim .null .string

theorem redact_of_noPattern
    {pattern : Option String}
    (source : String)
    (noPattern : pattern = none ∨ pattern = some "") :
    redact source (ofOption pattern) = ⟨[], .ok source⟩ := by
  rcases noPattern with rfl | rfl
  · rfl
  · rfl

theorem redact_of_pattern
    {text : String}
    (source : String)
    (given : text ≠ "") :
    redact source (ofOption (some text)) = withPattern source text := by
  simp [redact, ofOption, Json.isGiven, given]

/--
A redaction that returns, with a text as pattern or without one, leaves the source alone when
there is no pattern and when the pattern is refused, which is reported once. Otherwise nothing
is reported, and the source is cut by a scan that ends: what is left are its gaps, and nothing
is left that a match would take.
-/
theorem redact_cuts
    (source : String)
    (pattern : Option String)
    (result : String)
    (returned : (redact source (ofOption pattern)).result = .ok result) :
    let reports := (redact source (ofOption pattern)).reports
    ((pattern = none ∨ pattern = some "") ∧ reports = [] ∧ result = source) ∨
      ∃ text,
        pattern = some text ∧
          text ≠ "" ∧
          ((∃ refusal,
            Program.compile text.toList = .error (.refused refusal) ∧
              reports = [.badPattern text refusal] ∧
              result = source) ∨
            ∃ program,
              Program.compile text.toList = .ok program ∧
                reports = [] ∧
                ∃ cut : Cut program source.toList,
                  Scanned program source.toList.toArray 0 true cut.spans ∧
                    result.toList = cut.kept ∧
                    result.toList <+ source.toList) := by
  intro reports
  by_cases noPattern : pattern = none ∨ pattern = some ""
  · have redacted := redact_of_noPattern source noPattern
    rw [redacted] at returned
    cases returned
    exact .inl ⟨noPattern, congrArg Outcome.reports redacted, rfl⟩
  obtain ⟨notNone, notEmpty⟩ := not_or.mp noPattern
  obtain ⟨text, rfl⟩ := Option.ne_none_iff_exists'.mp notNone
  have given : text ≠ "" := fun empty => notEmpty (congrArg some empty)
  have redacted := redact_of_pattern source given
  refine .inr ⟨text, rfl, given, ?_⟩
  rw [show reports = (withPattern source text).reports from congrArg Outcome.reports redacted]
  rw [redacted] at returned
  rw [withPattern] at returned ⊢
  cases compiled : Program.compile text.toList with
  | ok program =>
      rw [compiled] at returned
      have isKept := program.removeAll_eq_kept source.toList
      cases returned
      refine .inr ⟨program, rfl, rfl, .ofScanned (scanned_spans program _),
        scanned_spans program _, ?_, ?_⟩
      · rw [String.toList_ofList, isKept]
      · rw [String.toList_ofList, isKept]
        exact Cut.kept_sublist _
  | error cause =>
      rw [compiled] at returned
      cases cause with
      | refused refusal =>
          cases returned
          exact .inl ⟨refusal, rfl, rfl, rfl⟩
      | hugeRepeat | hugeCodePoint | longNumeral _ | asciiAndUnicode => contradiction

/-- A pattern that looks back over what has been taken out, and that matches the empty text. -/
theorem redact_cuts_lookbehind :
    let pattern := "(?<=x)b|x*"
    (redact "axxbb" (.string pattern)).result = .ok "ab" ∧
      ∃ program,
        Program.compile pattern.toList = .ok program ∧
          ∃ cut : Cut program "axxbb".toList, cut.kept = ['a', 'b'] := by
  intro pattern
  have returned : (redact "axxbb" (.string pattern)).result = .ok "ab" := by decide +kernel
  refine ⟨returned, ?_⟩
  rcases redact_cuts "axxbb" (some pattern) "ab" returned with
    ⟨none | empty, -⟩ | ⟨text, isText, -, ⟨refusal, -, -, unchanged⟩ | used⟩
  · contradiction
  · exact absurd empty (by decide)
  · exact absurd unchanged (by decide)
  · cases isText
    obtain ⟨program, compiled, -, cut, -, isKept, -⟩ := used
    exact ⟨program, compiled, cut, isKept.symm⟩

end Redaction

end CodeDeck
