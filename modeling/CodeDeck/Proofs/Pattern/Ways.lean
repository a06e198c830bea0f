import CodeDeck.Pattern.Removal

namespace CodeDeck.Pattern

/-!
# The ways through a program

A matcher tries one way through its program after the other and asks what
follows about each. Which ways it tries, and in which order, does not depend on
what follows. So they can be listed, and a match is the first way on the list
that is accepted: `Program.run_eq_ofWays`. From the list one reads off what no
match can be without, such as that a way only leads forward in the text.
-/

/-- The ways through a part of a program, in order of preference. -/
abbrev Ways := Progress → List Progress

/-- The first way that is accepted. -/
def Matcher.ofWays (ways : Ways) : Matcher :=
  fun progress next => (ways progress).findSome? next

namespace Ways

/-- The ways through a part as often as a count says. -/
def times (part : Ways) : Nat → Ways
  | 0, progress => [progress]
  | count + 1, progress => (part progress).flatMap (times part count)

/--
The ways through a part as often as possible, or as seldom: the ways that take another round
stand before or behind the one that does not.
-/
def rounds (eager : Bool) (part : Ways) : Nat → Option Nat → Option Nat → Ways
  | 0, _, _, progress => [progress]
  | fuel + 1, count, last, progress =>
      let more :=
        if Matcher.mayGoOn count last progress then
          (part progress).flatMap
            (rounds eager part fuel (count.map (· - 1)) (some progress.position))
        else
          []
      if eager then more ++ [progress] else progress :: more

end Ways

/-- The ways through a program over a text. -/
def Program.ways (text : Array Char) : Program → Ways
  | .empty, progress => [progress]
  | .test check, progress =>
      match text[progress.position]? with
      | some c => if check.accepts c then [progress.moved (progress.position + 1)] else []
      | none => []
  | .place spot, progress => if spot.holds text progress.position then [progress] else []
  | .sequence first second, progress => (ways text first progress).flatMap (ways text second)
  | .choice first second, progress => ways text first progress ++ ways text second progress
  | .capture group body, progress =>
      (ways text body (progress.started group)).map fun progress => progress.ended group
  | .atomic body, progress => (ways text body progress).head?.toList
  | .ahead negated body, progress =>
      match (ways text body progress).head?, negated with
      | some later, false => [later.moved progress.position]
      | none, true => [progress]
      | _, _ => []
  | .behind distance negated body, progress =>
      let found :=
        if distance ≤ progress.position then
          (ways text body (progress.moved (progress.position - distance))).head?
        else
          none
      match found, negated with
      | some later, false => [later.moved progress.position]
      | none, true => [progress]
      | _, _ => []
  | .reference group caseless, progress =>
      match progress.span? group with
      | none => []
      | some (start, finish) =>
          match copyEnd? caseless text start finish progress.position with
          | some position => [progress.moved position]
          | none => []
  | .conditional group matched unmatched, progress =>
      match progress.span? group with
      | some _ => ways text matched progress
      | none => ways text unmatched progress
  | .repeated mode least most body, progress =>
      let count := most.map (· - least)
      let fuel (progress : Progress) : Nat := text.size - progress.position + 2
      match mode with
      | .greedy =>
          (Ways.times (ways text body) least progress).flatMap fun progress =>
            Ways.rounds true (ways text body) (fuel progress) count none progress
      | .lazy =>
          (Ways.times (ways text body) least progress).flatMap fun progress =>
            Ways.rounds false (ways text body) (fuel progress) count none progress
      | .possessive =>
          let part := Matcher.ofWays (ways text body)
          match Matcher.timesOnce part least progress with
          | none => []
          | some progress =>
              [Matcher.possessive part (fuel progress) count none progress]

/-! ## The first way that is accepted -/

/-- What is found first over several lists is found in the first list that has any. -/
theorem findSome?_flatMap
    {α β γ : Type}
    (list : List α)
    (lists : α → List β)
    (find : β → Option γ) :
    (list.flatMap lists).findSome? find =
      list.findSome? fun item => (lists item).findSome? find := by
  induction list with
  | nil => rfl
  | cons item list inductionHypothesis =>
      rw [List.flatMap_cons, List.findSome?_append, inductionHypothesis, List.findSome?_cons]
      cases (lists item).findSome? find with
      | none => rfl
      | some found => rfl

namespace Matcher

theorem ofWays_apply
    (ways : Ways)
    (progress : Progress)
    (next : Continuation) :
    ofWays ways progress next = (ways progress).findSome? next := rfl

theorem once_ofWays (ways : Ways) (progress : Progress) :
    once (ofWays ways) progress = (ways progress).head? := by
  rw [once, ofWays_apply]
  cases ways progress with
  | nil => rfl
  | cons way ways => rfl

theorem times_ofWays
    (ways : Ways)
    (count : Nat)
    (progress : Progress)
    (next : Continuation) :
    times (ofWays ways) count progress next = (ways.times count progress).findSome? next := by
  induction count generalizing progress with
  | zero => simp [times, Ways.times]
  | succ count inductionHypothesis =>
      simp only [times, Ways.times, findSome?_flatMap, inductionHypothesis, ofWays_apply]

theorem greedy_ofWays
    (ways : Ways)
    (fuel : Nat)
    (count last : Option Nat)
    (progress : Progress)
    (next : Continuation) :
    greedy (ofWays ways) fuel count last progress next =
      (ways.rounds true fuel count last progress).findSome? next := by
  induction fuel generalizing count last progress with
  | zero => simp [greedy, Ways.rounds]
  | succ fuel inductionHypothesis =>
      rw [greedy, Ways.rounds, if_pos rfl, List.findSome?_append]
      split
      · simp only [inductionHypothesis, ofWays_apply, findSome?_flatMap]
        cases (ways progress).findSome? _ with
        | none => simp
        | some result => rfl
      · simp

theorem lazy_ofWays
    (ways : Ways)
    (fuel : Nat)
    (count last : Option Nat)
    (progress : Progress)
    (next : Continuation) :
    Matcher.lazy (ofWays ways) fuel count last progress next =
      (ways.rounds false fuel count last progress).findSome? next := by
  induction fuel generalizing count last progress with
  | zero =>
      rw [Matcher.lazy, Ways.rounds, List.findSome?_singleton]
  | succ fuel inductionHypothesis =>
      rw [Matcher.lazy, Ways.rounds, if_neg Bool.false_ne_true, List.findSome?_cons]
      cases next progress with
      | some result => rfl
      | none =>
          simp only [inductionHypothesis, ofWays_apply]
          split
          · rw [findSome?_flatMap]
          · rfl

end Matcher

/-- A match is the first way through a program that is accepted. -/
theorem Program.run_eq_ofWays
    (text : Array Char)
    (program : Program) :
    program.run text = Matcher.ofWays (program.ways text) := by
  induction program with
  | empty =>
      funext progress next
      simp [run, ways, Matcher.ofWays]
  | test check =>
      funext progress next
      rw [run, Matcher.ofWays, ways]
      cases text[progress.position]? with
      | none => rfl
      | some c =>
          dsimp only
          split
          · simp
          · rfl
  | place spot =>
      funext progress next
      rw [run, Matcher.ofWays, ways]
      split
      · simp
      · rfl
  | sequence first second firstIs secondIs =>
      funext progress next
      rw [run, Matcher.ofWays_apply, ways, firstIs, secondIs, findSome?_flatMap]
      rfl
  | choice first second firstIs secondIs =>
      funext progress next
      rw [run, Matcher.ofWays_apply, ways, firstIs, secondIs, List.findSome?_append,
        Matcher.ofWays_apply]
      cases (first.ways text progress).findSome? next with
      | none => rfl
      | some result => rfl
  | capture group body bodyIs =>
      funext progress next
      rw [run, Matcher.ofWays_apply, ways, bodyIs, List.findSome?_map]
      rfl
  | atomic body bodyIs =>
      funext progress next
      rw [run, Matcher.ofWays_apply, ways, bodyIs, Matcher.once_ofWays]
      cases (body.ways text progress).head? with
      | none => rfl
      | some later => simp
  | ahead negated body bodyIs =>
      funext progress next
      cases negated with
      | false | true =>
          cases found : (body.ways text progress).head? with
          | none | some later =>
              simp [run, ways, bodyIs, Matcher.once_ofWays, Matcher.ofWays_apply, found]
  | behind distance negated body bodyIs =>
      funext progress next
      rw [run.eq_def, Matcher.ofWays_apply, ways.eq_def]
      dsimp only
      rw [bodyIs, Matcher.once_ofWays]
      generalize (if distance ≤ progress.position then _ else none : Option Progress) = found
      cases found with
      | none => cases negated <;> simp
      | some later => cases negated <;> simp
  | reference group caseless =>
      funext progress next
      rw [run.eq_def, Matcher.ofWays_apply, ways.eq_def]
      dsimp only
      cases progress.span? group with
      | none => rfl
      | some span =>
          dsimp only
          cases copyEnd? caseless text span.1 span.2 progress.position with
          | none => rfl
          | some position => simp
  | conditional group matched unmatched matchedIs unmatchedIs =>
      funext progress next
      rw [run, Matcher.ofWays_apply, ways, matchedIs, unmatchedIs]
      cases progress.span? group with
      | none => rfl
      | some span => rfl
  | repeated mode least most body bodyIs =>
      funext progress next
      rw [run.eq_def, Matcher.ofWays_apply, ways.eq_def]
      dsimp only
      rw [bodyIs]
      cases mode with
      | greedy => simp only [Matcher.times_ofWays, Matcher.greedy_ofWays, findSome?_flatMap]
      | «lazy» => simp only [Matcher.times_ofWays, Matcher.lazy_ofWays, findSome?_flatMap]
      | possessive =>
          dsimp only
          cases Matcher.timesOnce (Matcher.ofWays (body.ways text)) least progress with
          | none => rfl
          | some later => simp

/-! ## Ways lead forward -/

/-- One progress is not before another one, and not behind the end of the text if that is not. -/
structure Progress.Reaches (size : Nat) (first second : Progress) : Prop where
  forward : first.position ≤ second.position
  inside : first.position ≤ size → second.position ≤ size

namespace Progress.Reaches

variable {size : Nat} {first second third : Progress}

theorem refl (size : Nat) (progress : Progress) : Reaches size progress progress :=
  ⟨Nat.le_refl _, id⟩

theorem trans
    (toSecond : Reaches size first second)
    (toThird : Reaches size second third) :
    Reaches size first third :=
  ⟨Nat.le_trans toSecond.forward toThird.forward, toThird.inside ∘ toSecond.inside⟩

end Progress.Reaches

namespace Ways

variable {size : Nat} {part : Ways} {eager : Bool} {fuel : Nat} {count last : Option Nat}
variable {progress way : Progress}

/-- All ways lead forward and stay inside of a text. -/
def Advance (size : Nat) (ways : Ways) : Prop :=
  ∀ progress, ∀ way ∈ ways progress, progress.Reaches size way

/-- Behind a round either no further one is taken or one that may be taken is. -/
theorem mem_rounds_succ_iff :
    way ∈ part.rounds eager (fuel + 1) count last progress ↔
      way = progress ∨
        Matcher.mayGoOn count last progress = true ∧
          ∃ later ∈ part progress,
            way ∈ part.rounds eager fuel (count.map (· - 1)) (some progress.position) later := by
  rw [Ways.rounds]
  cases eager with
  | false | true =>
      split
      · rename_i goesOn
        simp [goesOn, or_comm]
      · rename_i stops
        simp [stops]

namespace Advance

theorem times
    (advance : Advance size part)
    (count : Nat) :
    Advance size (part.times count) := by
  induction count with
  | zero =>
      intro progress way member
      obtain rfl := List.mem_singleton.mp member
      exact .refl size way
  | succ count inductionHypothesis =>
      intro progress way member
      obtain ⟨later, first, others⟩ := List.mem_flatMap.mp member
      exact (advance progress later first).trans (inductionHypothesis later way others)

theorem rounds
    (advance : Advance size part)
    (eager : Bool)
    (fuel : Nat)
    (count last : Option Nat) :
    Advance size (part.rounds eager fuel count last) := by
  induction fuel generalizing count last with
  | zero =>
      intro progress way member
      obtain rfl := List.mem_singleton.mp member
      exact .refl size way
  | succ fuel inductionHypothesis =>
      intro progress way member
      rcases mem_rounds_succ_iff.mp member with rfl | ⟨-, later, first, others⟩
      · exact .refl size way
      · exact (advance progress later first).trans (inductionHypothesis _ _ later way others)

theorem once
    {later : Progress}
    (advance : Advance size part)
    (found : Matcher.once (.ofWays part) progress = some later) :
    progress.Reaches size later := by
  rw [Matcher.once_ofWays] at found
  exact advance progress later (List.mem_of_head? found)

theorem timesOnce
    {later : Progress}
    (advance : Advance size part)
    (count : Nat)
    (found : Matcher.timesOnce (.ofWays part) count progress = some later) :
    progress.Reaches size later := by
  induction count generalizing progress with
  | zero =>
      cases found
      exact .refl size _
  | succ count inductionHypothesis =>
      rw [Matcher.timesOnce] at found
      split at found
      · rename_i next isNext
        exact (advance.once isNext).trans (inductionHypothesis found)
      · contradiction

theorem possessive
    (advance : Advance size part)
    (fuel : Nat)
    (count last : Option Nat)
    (progress : Progress) :
    progress.Reaches size (Matcher.possessive (.ofWays part) fuel count last progress) := by
  induction fuel generalizing count last progress with
  | zero => exact .refl size progress
  | succ fuel inductionHypothesis =>
      rw [Matcher.possessive]
      split
      · split
        · rename_i next isNext
          exact (advance.once isNext).trans (inductionHypothesis ..)
        · exact .refl size progress
      · exact .refl size progress

end Advance

end Ways

/-- A copy of a part of a text ends inside of the text. -/
theorem copyEnd?_le
    {caseless : Option Repertoire}
    {text : Array Char}
    {start finish position behind : Nat}
    (found : copyEnd? caseless text start finish position = some behind) :
    position ≤ behind ∧ (position ≤ text.size → behind ≤ text.size) := by
  simp only [copyEnd?] at found
  split at found
  · rename_i same
    cases found
    refine ⟨Nat.le_add_right .., fun inside => ?_⟩
    rcases Nat.eq_zero_or_pos (finish - start) with empty | positive
    · rwa [empty]
    -- The last character is compared with one that stands in the text.
    · have last := List.all_eq_true.mp same (finish - start - 1)
        (List.mem_range.mpr (Nat.sub_lt positive Nat.one_pos))
      cases stands : text[position + (finish - start - 1)]? with
      | none => simp [stands] at last
      | some c =>
          have := (Array.getElem?_eq_some_iff.mp stands).1
          omega
  · contradiction

/-- All ways through a program lead forward and stay inside of the text. -/
theorem Program.advance_ways
    (text : Array Char)
    (program : Program) :
    Ways.Advance text.size (program.ways text) := by
  induction program with
  | empty =>
      intro progress way member
      obtain rfl := List.mem_singleton.mp member
      exact .refl _ way
  | test check =>
      intro progress way member
      rw [ways] at member
      split at member
      · rename_i c stands
        split at member
        · obtain rfl := List.mem_singleton.mp member
          exact ⟨Nat.le_succ _, fun _ => (Array.getElem?_eq_some_iff.mp stands).1⟩
        · contradiction
      · contradiction
  | place spot =>
      intro progress way member
      rw [ways] at member
      split at member
      · obtain rfl := List.mem_singleton.mp member
        exact .refl _ way
      · contradiction
  | sequence first second firstAdvance secondAdvance =>
      intro progress way member
      obtain ⟨later, isFirst, isSecond⟩ := List.mem_flatMap.mp member
      exact (firstAdvance progress later isFirst).trans (secondAdvance later way isSecond)
  | choice first second firstAdvance secondAdvance =>
      intro progress way member
      rcases List.mem_append.mp member with isFirst | isSecond
      · exact firstAdvance progress way isFirst
      · exact secondAdvance progress way isSecond
  | capture group body bodyAdvance =>
      intro progress way member
      obtain ⟨later, isBody, rfl⟩ := List.mem_map.mp member
      obtain ⟨forward, inside⟩ := bodyAdvance _ later isBody
      exact ⟨forward, inside⟩
  | atomic body bodyAdvance =>
      intro progress way member
      exact bodyAdvance progress way (List.mem_of_head? (Option.mem_toList.mp member))
  | ahead negated body bodyAdvance =>
      intro progress way member
      rw [ways.eq_def] at member
      dsimp only at member
      split at member
      · obtain rfl := List.mem_singleton.mp member
        exact ⟨Nat.le_refl _, id⟩
      · obtain rfl := List.mem_singleton.mp member
        exact .refl _ way
      · contradiction
  | behind distance negated body bodyAdvance =>
      intro progress way member
      rw [ways.eq_def] at member
      dsimp only at member
      split at member
      · obtain rfl := List.mem_singleton.mp member
        exact ⟨Nat.le_refl _, id⟩
      · obtain rfl := List.mem_singleton.mp member
        exact .refl _ way
      · contradiction
  | reference group caseless =>
      intro progress way member
      rw [ways.eq_def] at member
      dsimp only at member
      split at member
      · contradiction
      · split at member
        · rename_i found
          obtain rfl := List.mem_singleton.mp member
          exact ⟨(copyEnd?_le found).1, (copyEnd?_le found).2⟩
        · contradiction
  | conditional group matched unmatched matchedAdvance unmatchedAdvance =>
      intro progress way member
      rw [ways] at member
      split at member
      · exact matchedAdvance progress way member
      · exact unmatchedAdvance progress way member
  | repeated mode least most body bodyAdvance =>
      intro progress way member
      rw [ways.eq_def] at member
      dsimp only at member
      cases mode with
      | greedy =>
          obtain ⟨later, first, others⟩ := List.mem_flatMap.mp member
          exact (bodyAdvance.times least progress later first).trans
            (bodyAdvance.rounds _ _ _ _ later way others)
      | «lazy» =>
          obtain ⟨later, first, others⟩ := List.mem_flatMap.mp member
          exact (bodyAdvance.times least progress later first).trans
            (bodyAdvance.rounds _ _ _ _ later way others)
      | possessive =>
          dsimp only at member
          split at member
          · contradiction
          · rename_i found
            obtain rfl := List.mem_singleton.mp member
            exact (bodyAdvance.timesOnce least found).trans (bodyAdvance.possessive ..)

/-! ## Repetitions do not run out of rounds -/

/--
A way that takes rounds of a part, as many as it likes of those that may be taken, and stops
behind any of them.
-/
inductive Ways.Rounds (part : Ways) : Option Nat → Option Nat → Progress → Progress → Prop where
  | stop {count last : Option Nat} (progress : Progress) : Rounds part count last progress progress
  | round
      {count last : Option Nat}
      {progress later way : Progress}
      (goesOn : Matcher.mayGoOn count last progress = true)
      (first : later ∈ part progress)
      (others : Rounds part (count.map (· - 1)) (some progress.position) later way) :
      Rounds part count last progress way

namespace Ways

variable {size : Nat} {part : Ways} {eager : Bool} {fuel : Nat} {count last : Option Nat}
variable {progress way : Progress}

theorem rounds_of_mem
    (member : way ∈ part.rounds eager fuel count last progress) :
    Rounds part count last progress way := by
  induction fuel generalizing count last progress with
  | zero =>
      obtain rfl := List.mem_singleton.mp member
      exact .stop way
  | succ fuel inductionHypothesis =>
      rcases mem_rounds_succ_iff.mp member with rfl | ⟨goesOn, later, first, others⟩
      · exact .stop way
      · exact .round goesOn first (inductionHypothesis others)

theorem mem_rounds_self
    (fuel : Nat)
    (count last : Option Nat)
    (progress : Progress) :
    progress ∈ part.rounds eager fuel count last progress := by
  cases fuel with
  | zero => exact List.mem_singleton.mpr rfl
  | succ fuel => exact mem_rounds_succ_iff.mpr (.inl rfl)

/--
As every round but the last moves, as many rounds as there are characters left, and one, are
enough for all ways.
-/
theorem mem_rounds_iff
    (advance : Advance size part)
    (inside : progress.position ≤ size)
    (enough : size - progress.position < fuel) :
    way ∈ part.rounds eager fuel count last progress ↔ Rounds part count last progress way := by
  refine ⟨rounds_of_mem, fun rounds => ?_⟩
  induction rounds generalizing fuel with
  | stop progress => exact mem_rounds_self ..
  | @round count last progress later way goesOn first others inductionHypothesis =>
      obtain ⟨forward, laterInside⟩ := advance progress later first
      cases fuel with
      | zero => omega
      | succ fuel =>
          refine mem_rounds_succ_iff.mpr (.inr ⟨goesOn, later, first, ?_⟩)
          by_cases moved : progress.position < later.position
          · have := laterInside inside
            exact inductionHypothesis (laterInside inside) (by omega)
          -- A round that has not moved is the last one, for which no fuel is needed.
          · have stands : later.position = progress.position := by omega
            cases others with
            | stop => exact mem_rounds_self ..
            | round goesOn => simp [Matcher.mayGoOn, stands] at goesOn

end Ways

end CodeDeck.Pattern
