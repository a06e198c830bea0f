import CodeDeck.Proofs.Pattern.Reading

namespace CodeDeck.Pattern

/-!
# Whole patterns

Every part of the reader keeps to the pattern, so a pattern that is not read is
refused or asks for too much. The part that matters for each excess is the one
that knows what stands in front of it: the braces of a repetition, the letters
of flags, and the letter of an escape.
-/

namespace Read

variable {α : Type} {whole front : List Char}

/-! ## Sets -/

theorem keeps_setMember (token : Token) : Keeps whole token.chars (setMember token) := by
  cases token with
  | char c => exact keeps_pure _
  | escape c => exact Escape.keeps_readInSet c
  | dangling => exact keeps_pure _

theorem keeps_setRange
    (low high : Token)
    (first second : Escape) :
    Keeps whole front (setRange low high first second) := by
  unfold setRange
  split
  · split_ifs
    · exact keeps_fail _ _
    · exact keeps_pure _
  · exact keeps_fail _ _

theorem triple_doubtDoubled
    (before : List SetItem)
    (token : Token) :
    Triple whole (Reading whole front) (doubtDoubled before token) fun _ =>
      Reading whole front := by
  unfold doubtDoubled
  split
  · split
    · refine (triple_nextIs _).bind fun doubled => Triple.before ?_ fun _ looked => looked.2
      split_ifs
      · exact triple_doubt _ _
      · exact triple_pure fun _ reading => reading
    · exact triple_pure fun _ reading => reading
  · exact triple_pure fun _ reading => reading

theorem keeps_setLoop
    (start fuel : Nat)
    (before : List SetItem) :
    Keeps whole [] (setLoop start fuel before) := by
  induction fuel generalizing before with
  | zero => exact keeps_failAt _ _
  | succ fuel inductionHypothesis =>
      refine Triple.bind triple_next fun token? => ?_
      split
      · exact keeps_failAt _ _
      · rename_i token
        show Keeps whole token.chars _
        split_ifs
        · exact keeps_pure _
        · refine Triple.bind (triple_doubtDoubled before token) fun _ => ?_
          refine (keeps_setMember token).bind fun first => (keeps_accept _).bind fun isRange => ?_
          split_ifs
          · refine Triple.bind triple_next fun high? => ?_
            split
            · exact keeps_failAt _ _
            · rename_i high
              show Keeps whole high.chars _
              have onward : Keeps whole high.chars (do
                  let second ← setMember high
                  let range ← setRange token high first second
                  setLoop start fuel (before ++ [range])) :=
                (keeps_setMember high).bind fun second =>
                  (keeps_setRange token high first second).bind fun _ => inductionHypothesis _
              split_ifs
              · exact keeps_pure _
              · exact Triple.bind (triple_doubt _ _) fun _ => onward
              · exact onward
          · exact inductionHypothesis _

theorem keeps_doubtNested : Keeps whole front doubtNested := by
  refine (keeps_nextIs _).bind fun nested => ?_
  split_ifs
  · exact triple_doubt _ _
  · exact keeps_pure _

theorem keeps_characterSet : Keeps whole front characterSet := by
  refine keeps_get.bind fun state => keeps_doubtNested.bind fun _ => (keeps_accept _).bind
    fun negated => keeps_get.bind fun inner => (keeps_setLoop _ _ _).bind fun items => ?_
  split
  · exact keeps_pure _
  · exact keeps_pure _

/-! ## Repetitions -/

/-- A count is used only where it stands in braces. -/
theorem keeps_repeatCount
    {digits : List Char}
    (hasCount : HasCount whole digits) :
    Keeps whole front (repeatCount digits) := by
  unfold repeatCount
  dsimp only
  split_ifs with long large
  · exact triple_throw fun _ _ => .inr ⟨digits, hasCount, rfl, long⟩
  · exact triple_throw fun _ _ => .inr ⟨digits, hasCount, Nat.not_lt.mp long, large⟩
  · exact keeps_pure _

/-- The rest of a repetition in braces behind the digits of its bounds. -/
def boundsFrom
    (start : ReadState)
    (low high : List Char) : Read (Option (Nat × Option Nat)) := do
  if !(← accept '\x7d') then
    set start
    return none
  else
    let least ← if low.isEmpty then pure 0 else repeatCount low
    if high.isEmpty then
      return some (least, none)
    else
      let most ← repeatCount high
      if most < least then
        failAt .emptyRepeat start.position
      else
        return some (least, some most)

theorem braceBounds_eq :
    braceBounds = (do
      let start ← get
      if ← nextIs '\x7d' then
        return none
      else
        let low ← takeAll Decimal.isDigit
        if ← accept ',' then
          boundsFrom start low (← takeAll Decimal.isDigit)
        else
          boundsFrom start low low) :=
  rfl

theorem keeps_boundsFrom
    {start : ReadState}
    {low high : List Char}
    (started : Reading whole ['\x7b'] start)
    (counts : front ++ ['\x7d'] <:+: whole → HasCount whole low ∧ HasCount whole high) :
    Keeps whole front (boundsFrom start low high) := by
  refine (triple_accept _).bind fun closed => ?_
  cases closed with
  | false => exact (keeps_set started.weaken).bind fun _ => keeps_pure none
  | true =>
      refine Triple.known (fun _ reading => counts reading.infix) fun ⟨lowCount, highCount⟩ => ?_
      have upTo (least : Nat) : Keeps whole [] (do
          let most ← repeatCount high
          if most < least then
            failAt .emptyRepeat start.position
          else
            return some (least, some most)) := by
        refine (keeps_repeatCount highCount).bind fun most => ?_
        split_ifs
        · exact keeps_failAt _ _
        · exact keeps_pure _
      show Keeps whole (front ++ ['\x7d']) _
      dsimp only
      split_ifs
      · contradiction
      · exact (keeps_pure 0).bind fun _ => keeps_pure _
      · exact (keeps_pure 0).bind upTo
      · exact (keeps_repeatCount lowCount).bind fun _ => keeps_pure _
      · exact (keeps_repeatCount lowCount).bind upTo

/-- The counts of a repetition stand in the braces that are behind its sign. -/
theorem keeps_braceBounds : Keeps whole ['\x7b'] braceBounds := by
  rw [braceBounds_eq]
  refine keeps_get_bind fun start started => ?_
  refine (triple_nextIs _).bind fun isEnd => Triple.before ?_ fun _ looked => looked.2
  split_ifs
  · exact keeps_pure none
  refine (triple_takeAll _).bind fun low => Triple.known (fun _ taken => taken.1)
    fun lowDigits => Triple.before ?_ fun _ taken => taken.2
  refine (triple_accept _).bind fun hasComma => ?_
  cases hasComma with
  | false =>
      refine keeps_boundsFrom started fun occurs => ?_
      have lowCount : HasCount whole low := .only lowDigits (by simpa using occurs)
      exact ⟨lowCount, lowCount⟩
  | true =>
      refine (triple_takeAll _).bind fun high => Triple.known (fun _ taken => taken.1)
        fun highDigits => Triple.before ?_ fun _ taken => taken.2
      refine keeps_boundsFrom started fun occurs => ⟨?_, ?_⟩
      · exact .low lowDigits highDigits (by simpa using occurs)
      · exact .high highDigits lowDigits (by simpa using occurs)

theorem keeps_repeatBounds
    {sign : Char}
    (isSign : sign = '?' ∨ sign = '*' ∨ sign = '+' ∨ sign = '\x7b') :
    Keeps whole [sign] (repeatBounds sign) := by
  unfold repeatBounds
  split_ifs
  · exact keeps_pure _
  · exact keeps_pure _
  · exact keeps_pure _
  · obtain rfl : sign = '\x7b' := by tauto
    exact keeps_braceBounds

theorem keeps_repeatMode : Keeps whole front repeatMode := by
  refine (keeps_accept _).bind fun isLazy => ?_
  split_ifs
  · exact keeps_pure _
  · refine (keeps_accept _).bind fun isPossessive => ?_
    split_ifs
    · exact keeps_pure _
    · exact keeps_pure _

theorem keeps_repeatLast
    (start : Nat)
    (bounds : Nat × Option Nat)
    (before : List Node) :
    Keeps whole front (repeatLast start bounds before) := by
  unfold repeatLast
  split
  · exact keeps_failAt _ _
  · exact keeps_failAt _ _
  · exact keeps_failAt _ _
  · exact keeps_repeatMode.bind fun _ => keeps_pure _

/-! ## Comments -/

theorem keeps_skipLine (fuel : Nat) : Keeps whole front (skipLine fuel) := by
  induction fuel generalizing front with
  | zero => exact keeps_pure _
  | succ fuel inductionHypothesis =>
      refine keeps_next.bind fun token? => ?_
      split
      · exact keeps_pure _
      · split_ifs
        · exact keeps_pure _
        · exact inductionHypothesis

theorem keeps_skipComment (start fuel : Nat) : Keeps whole front (skipComment start fuel) := by
  induction fuel generalizing front with
  | zero => exact keeps_failAt _ _
  | succ fuel inductionHypothesis =>
      refine keeps_next.bind fun token? => ?_
      split
      · exact keeps_failAt _ _
      · split_ifs
        · exact keeps_pure _
        · exact inductionHypothesis

/-! ## Flags -/

/-- Flags that come from letters. -/
structure Flagged (letters : List Char) (flags : Flags) : Prop where
  areFlags : ∀ c ∈ letters, (Flags.ofLetter? c).isSome = true
  ascii : flags.ascii = true → 'a' ∈ letters
  unicode : flags.unicode = true → 'u' ∈ letters

theorem flagged_none : Flagged [] .none :=
  ⟨by simp, by simp [Flags.none], by simp [Flags.none]⟩

theorem eq_of_ascii
    {c : Char}
    (ascii : ((Flags.ofLetter? c).getD .none).ascii = true) :
    c = 'a' := by
  unfold Flags.ofLetter? at ascii
  split_ifs at ascii
  all_goals first | assumption | contradiction

theorem eq_of_unicode
    {c : Char}
    (unicode : ((Flags.ofLetter? c).getD .none).unicode = true) :
    c = 'u' := by
  unfold Flags.ofLetter? at unicode
  split_ifs at unicode
  all_goals first | assumption | contradiction

theorem Flagged.snoc
    {letters : List Char}
    {letter : Char}
    {before : Flags}
    (flagged : Flagged letters before)
    (isFlag : (Flags.ofLetter? letter).isSome = true) :
    Flagged (letters ++ [letter]) (before.union ((Flags.ofLetter? letter).getD .none)) := by
  refine ⟨?_, fun ascii => ?_, fun unicode => ?_⟩
  · exact List.forall_mem_append.mpr ⟨flagged.areFlags, List.forall_mem_singleton.mpr isFlag⟩
  · rcases (Bool.or_eq_true _ _).mp ascii with before | this
    · exact List.mem_append_left _ (flagged.ascii before)
    · rw [eq_of_ascii this]
      simp
  · rcases (Bool.or_eq_true _ _).mp unicode with before | this
    · exact List.mem_append_left _ (flagged.unicode before)
    · rw [eq_of_unicode this]
      simp

theorem triple_refuseFlag
    {pre : ReadState → Prop}
    {post : α → ReadState → Prop}
    (missing : Fault)
    (token : Token) :
    Triple whole pre (refuseFlag missing token) post := by
  unfold refuseFlag
  split
  · exact triple_fail _ _
  · exact triple_fail _ _

/-- Flags that are turned on come from the letters between the question mark and the sign. -/
theorem triple_flagsOn
    {letters : List Char}
    {letter : Char}
    {before : Flags}
    (fuel : Nat)
    (flagged : Flagged letters before)
    (isFlag : letter = 'L' ∨ (Flags.ofLetter? letter).isSome = true) :
    Triple whole (Reading whole ('(' :: '?' :: (letters ++ [letter]))) (flagsOn fuel letter before)
      fun result state => ∃ letters,
        Flagged letters result.1 ∧ Reading whole ('(' :: '?' :: (letters ++ [result.2])) state := by
  induction fuel generalizing letters letter before with
  | zero => exact triple_fail _ _
  | succ fuel inductionHypothesis =>
      unfold flagsOn
      dsimp only
      split_ifs with isLocale
      · exact triple_fail _ _
      · exact triple_fail _ _
      · have more := flagged.snoc (isFlag.resolve_left isLocale)
        refine triple_next.bind fun token? => ?_
        split
        · exact triple_fail _ _
        · rename_i c
          split_ifs with isEnd isNext
          · refine triple_pure fun state reading => ⟨_, more, ?_⟩
            simpa [charsOf, Token.chars] using reading
          · refine (inductionHypothesis more isNext).before fun state reading => ?_
            simpa [charsOf, Token.chars] using reading
          · exact triple_refuseFlag _ _
        · exact triple_refuseFlag _ _

theorem keeps_flagsOff
    (fuel : Nat)
    (letter : Char)
    (before : Flags) :
    Keeps whole front (flagsOff fuel letter before) := by
  induction fuel generalizing front letter before with
  | zero => exact keeps_fail _ _
  | succ fuel inductionHypothesis =>
      unfold flagsOff
      dsimp only
      split_ifs
      · exact keeps_fail _ _
      · refine keeps_next.bind fun token? => ?_
        split
        · exact keeps_fail _ _
        · split_ifs
          · exact keeps_pure _
          · exact inductionHypothesis _ _
          · exact triple_refuseFlag _ _
        · exact triple_refuseFlag _ _

theorem keeps_flagsBehindMinus : Keeps whole front flagsBehindMinus := by
  refine keeps_next.bind fun token? => ?_
  split
  · exact keeps_fail _ _
  · split_ifs
    · exact keeps_get.bind fun _ => keeps_flagsOff _ _ _
    · exact triple_refuseFlag _ _
  · exact triple_refuseFlag _ _

/-- The rest of flags in a group behind those that are turned on and the sign that ends these. -/
def flagsFrom (added : Flags) (sign : Char) : Read FlagGroup := do
  if sign = ')' then
    modify fun state => { state with flags := state.flags.union added }
    return .whole
  else if added.template then
    fail .globalFlagOn 1
  else
    let removed ← if sign = '-' then flagsBehindMinus else pure Flags.none
    if removed.template then
      fail .globalFlagOff 1
    else if added.meets removed then
      fail .flagOnAndOff 1
    else
      return .inside added removed

theorem flagGroup_eq (first : Char) :
    flagGroup first = (do
      let (added, sign) ←
        if first = '-' then
          pure (Flags.none, '-')
        else
          flagsOn ((← get).tokens.length + 1) first .none
      flagsFrom added sign) :=
  rfl

/-- Flags are only put into the state when all of their group stands in the pattern. -/
theorem keeps_flagsFrom
    {letters : List Char}
    {added : Flags}
    {sign : Char}
    (flagged : Flagged letters added) :
    Keeps whole ('(' :: '?' :: (letters ++ [sign])) (flagsFrom added sign) := by
  have inside (removed : Flags) : Keeps whole [] (do
      if removed.template then
        fail .globalFlagOff 1
      else if added.meets removed then
        fail .flagOnAndOff 1
      else
        return FlagGroup.inside added removed) := by
    split_ifs
    · exact keeps_fail _ _
    · exact keeps_fail _ _
    · exact keeps_pure _
  unfold flagsFrom
  dsimp only
  split_ifs with isWhole
  · subst isWhole
    refine (keeps_modify fun state reading => ?_).bind fun _ => keeps_pure _
    have hasFlag {c : Char} (member : c ∈ letters) : HasFlag whole c :=
      ⟨letters, member, flagged.areFlags, reading.infix⟩
    refine ⟨reading.weaken.rest, fun ascii => ?_, fun unicode => ?_⟩
    · rcases (Bool.or_eq_true _ _).mp ascii with before | this
      · exact reading.ascii before
      · exact hasFlag (flagged.ascii this)
    · rcases (Bool.or_eq_true _ _).mp unicode with before | this
      · exact reading.unicode before
      · exact hasFlag (flagged.unicode this)
  · exact keeps_fail _ _
  · exact keeps_flagsBehindMinus.bind inside
  · exact (keeps_pure _).bind inside

theorem keeps_flagGroup
    {first : Char}
    (isFirst : first = '-' ∨ first = 'L' ∨ (Flags.ofLetter? first).isSome = true) :
    Keeps whole ['(', '?', first] (flagGroup first) := by
  rw [flagGroup_eq]
  dsimp only
  split_ifs with isMinus
  · subst isMinus
    show Keeps whole ['(', '?', '-'] (flagsFrom .none '-')
    exact keeps_flagsFrom flagged_none
  · refine keeps_get_bind fun state _ => ?_
    refine (triple_flagsOn _ flagged_none (isFirst.resolve_left isMinus)).bind fun result => ?_
    exact fun current ⟨letters, flagged, reading⟩ => keeps_flagsFrom flagged current reading

/-! ## Groups -/

theorem keeps_groupName (terminator : Char) : Keeps whole front (groupName terminator) := by
  refine (keeps_name _ _).bind fun chars => ?_
  split_ifs
  · exact keeps_pure _
  · exact keeps_fail _ _

theorem keeps_knownGroup (chars : List Char) : Keeps whole front (knownGroup chars) := by
  refine (keeps_namedGroup? _).bind fun number? => ?_
  split
  · exact keeps_pure _
  · exact keeps_fail _ _

theorem keeps_namedReference : Keeps whole front namedReference := by
  refine (keeps_groupName _).bind fun chars => (keeps_knownGroup chars).bind fun number =>
    (keeps_isClosed number).bind fun closed => ?_
  split_ifs
  · exact keeps_fail _ _
  · exact (keeps_checkLookbehind number).bind fun _ => keeps_pure _

theorem keeps_conditionGroup : Keeps whole front conditionGroup := by
  refine (keeps_name _ _).bind fun chars => ?_
  split_ifs
  · exact keeps_knownGroup chars
  · split
    · exact keeps_fail _ _
    · split_ifs
      · exact keeps_fail _ _
      · refine keeps_get_bind fun state reading => ?_
        dsimp only
        split_ifs
        · refine (keeps_set ?_).bind fun _ => keeps_pure _
          exact ⟨reading.rest, reading.ascii, reading.unicode⟩
        · exact keeps_pure _
    · exact keeps_fail _ _

theorem keeps_openGroup (name? : Option (List Char)) : Keeps whole [] (openGroup name?) := by
  refine keeps_get_bind fun state reading => ?_
  dsimp only
  split
  · refine (keeps_set ?_).bind fun _ => keeps_pure _
    exact ⟨reading.rest, reading.ascii, reading.unicode⟩
  · refine (keeps_namedGroup? _).bind fun earlier? => ?_
    split
    · exact keeps_fail _ _
    · refine (keeps_set ?_).bind fun _ => keeps_pure _
      exact ⟨reading.rest, reading.ascii, reading.unicode⟩

theorem keeps_closeGroup
    (number : Nat)
    (body : Node) :
    Keeps whole [] (closeGroup number body) :=
  keeps_modify fun _ reading => ⟨reading.rest, reading.ascii, reading.unicode⟩

theorem keeps_closeParenthesis (start : Nat) : Keeps whole front (closeParenthesis start) := by
  refine (keeps_accept _).bind fun closed => ?_
  split_ifs
  · exact keeps_failAt _ _
  · exact keeps_pure _

/-! ## The parts that call each other -/

/-- The parts of the reader that call each other keep to the pattern, up to some depth. -/
structure AllKeep (whole : List Char) (fuel : Nat) : Prop where
  choices (verbose outermost : Bool) : Keeps whole [] (choices fuel verbose outermost)
  moreChoices (verbose : Bool) : Keeps whole [] (moreChoices fuel verbose)
  items (verbose outermost : Bool) (before : List Node) :
    Keeps whole [] (items fuel verbose outermost before)
  parenthesis (verbose flagsAllowed : Bool) (start : Nat) :
    Keeps whole ['('] (parenthesis fuel verbose flagsAllowed start)
  kept (verbose : Bool) (start : Nat) (name? : Option (List Char)) :
    Keeps whole [] (kept fuel verbose start name?)
  lookbehind (verbose : Bool) (start : Nat) : Keeps whole [] (lookbehind fuel verbose start)
  conditional (verbose : Bool) (start : Nat) : Keeps whole [] (conditional fuel verbose start)

namespace AllKeep

variable {fuel : Nat}

theorem zero : AllKeep whole 0 := by
  constructor
  all_goals
    intros
    simp only [Read.choices, Read.moreChoices, Read.items, Read.parenthesis, Read.kept,
      Read.lookbehind, Read.conditional]
    exact keeps_fail _ _

theorem choices_succ
    (all : AllKeep whole fuel)
    (verbose outermost : Bool) :
    Keeps whole [] (Read.choices (fuel + 1) verbose outermost) := by
  rw [Read.choices]
  refine (all.items _ _ _).bind fun first => (keeps_accept _).bind fun isMore => ?_
  split_ifs
  · exact keeps_get.bind fun _ => (all.moreChoices _).bind fun _ => keeps_pure _
  · exact keeps_get.bind fun _ => (all.moreChoices _).bind fun _ => keeps_pure _
  · exact keeps_pure _

theorem moreChoices_succ
    (all : AllKeep whole fuel)
    (verbose : Bool) :
    Keeps whole [] (Read.moreChoices (fuel + 1) verbose) := by
  rw [Read.moreChoices]
  refine (all.items _ _ _).bind fun first => (keeps_accept _).bind fun isMore => ?_
  split_ifs
  · exact (all.moreChoices _).bind fun _ => keeps_pure _
  · exact keeps_pure _

theorem kept_succ
    (all : AllKeep whole fuel)
    (verbose : Bool)
    (start : Nat)
    (name? : Option (List Char)) :
    Keeps whole [] (Read.kept (fuel + 1) verbose start name?) := by
  rw [Read.kept]
  exact (keeps_openGroup name?).bind fun number => (all.choices _ _).bind fun body =>
    (keeps_closeParenthesis start).bind fun _ => (keeps_closeGroup number body).bind fun _ =>
      keeps_pure _

theorem lookbehind_succ
    (all : AllKeep whole fuel)
    (verbose : Bool)
    (start : Nat) :
    Keeps whole [] (Read.lookbehind (fuel + 1) verbose start) := by
  have changed (change : ReadState → Option Nat) :
      Keeps whole [] (modify fun state => { state with lookbehindStart := change state }) :=
    keeps_modify fun _ reading => ⟨reading.rest, reading.ascii, reading.unicode⟩
  rw [Read.lookbehind]
  refine keeps_next.bind fun token? => ?_
  split
  · exact keeps_fail _ _
  · split_ifs
    · exact keeps_fail _ _
    · exact keeps_get.bind fun outer => (changed _).bind fun _ => (all.choices _ _).bind
        fun body => (changed _).bind fun _ => (keeps_closeParenthesis start).bind fun _ =>
          keeps_pure _

theorem conditional_succ
    (all : AllKeep whole fuel)
    (verbose : Bool)
    (start : Nat) :
    Keeps whole [] (Read.conditional (fuel + 1) verbose start) := by
  rw [Read.conditional]
  refine keeps_conditionGroup.bind fun number => (keeps_checkLookbehind number).bind fun _ =>
    (all.items _ _ _).bind fun matched => (keeps_accept _).bind fun isMore => ?_
  have closing (unmatched : List Node) : Keeps whole [] (do
      closeParenthesis start
      return Parenthesis.mk
        (some (.conditional number (Node.ofSequence matched) (Node.ofSequence unmatched)))
        verbose) :=
    (keeps_closeParenthesis start).bind fun _ => keeps_pure _
  dsimp only
  split_ifs
  · refine (all.items _ _ _).bind fun unmatched => (keeps_nextIs _).bind fun isThird => ?_
    split_ifs
    · exact (keeps_fail _ _).bind closing
    · exact (keeps_pure _).bind closing
  · exact (keeps_pure _).bind closing

theorem items_succ
    (all : AllKeep whole fuel)
    (verbose outermost : Bool)
    (before : List Node) :
    Keeps whole [] (Read.items (fuel + 1) verbose outermost before) := by
  have onward {front : List Char} (verbose : Bool) (before : List Node) :
      Keeps whole front (Read.items fuel verbose outermost before) :=
    (all.items verbose outermost before).behind
  rw [Read.items]
  refine triple_peek.bind fun token? => ?_
  split
  · exact triple_pure fun _ looked => looked.2
  · rename_i token
    refine .ite (fun _ => triple_pure fun _ looked => looked.2) fun _ => ?_
    refine triple_get.bind fun state => ?_
    refine ((triple_next_of_peek token).before fun _ got => got.2).bind fun _ => ?_
    show Keeps whole token.chars _
    split
    · exact keeps_fail _ _
    · exact (Escape.keeps_read _).bind fun _ => onward _ _
    · refine .ite (fun isBlank => onward _ _) fun _ => ?_
      refine .ite (fun isComment => ?_) fun _ => ?_
      · exact keeps_get.bind fun _ => (keeps_skipLine _).bind fun _ => onward _ _
      refine .ite (fun isSet => keeps_characterSet.bind fun _ => onward _ _) fun _ => ?_
      refine .ite (fun isSign => ?_) fun _ => ?_
      · refine (keeps_repeatBounds isSign).bind fun bounds? => ?_
        split
        · exact onward _ _
        · exact (keeps_repeatLast _ _ _).bind fun _ => onward _ _
      refine .ite (fun isAny => onward _ _) fun _ => ?_
      refine .ite (fun isStart => onward _ _) fun _ => ?_
      refine .ite (fun isEnd => onward _ _) fun _ => ?_
      refine .ite (fun isGroup => ?_) fun isOrdinary => onward _ _
      subst isGroup
      refine (all.parenthesis _ _ _).bind fun inner => ?_
      split
      · exact onward _ _
      · exact onward _ _

theorem parenthesis_succ
    (all : AllKeep whole fuel)
    (verbose flagsAllowed : Bool)
    (start : Nat) :
    Keeps whole ['('] (Read.parenthesis (fuel + 1) verbose flagsAllowed start) := by
  have enclosed {front : List Char} (verbose : Bool) (nodeOf : Node → Parenthesis) :
      Keeps whole front (do
        let body ← Read.choices fuel verbose false
        closeParenthesis start
        return nodeOf body) :=
    ((all.choices _ _).bind fun _ => (keeps_closeParenthesis start).bind fun _ =>
      keeps_pure _).behind
  rw [Read.parenthesis]
  refine (triple_accept '?').bind fun isSpecial => ?_
  cases isSpecial with
  | false => exact (all.kept verbose start none).behind
  | true =>
      show Keeps whole ['(', '?'] _
      refine Triple.bind triple_next fun token? => ?_
      split
      · exact keeps_fail _ _
      · rename_i c
        show Keeps whole ['(', '?', c] _
        refine .ite (fun isNamed => ?_) fun _ => ?_
        · refine (keeps_accept _).bind fun hasName => ?_
          refine .ite (fun _ => (keeps_groupName _).bind fun _ => all.kept _ _ _) fun _ => ?_
          refine (keeps_accept _).bind fun isReference => ?_
          refine .ite (fun _ => keeps_namedReference.bind fun _ => keeps_pure _) fun _ => ?_
          refine keeps_next.bind fun other? => ?_
          split
          · exact keeps_fail _ _
          · exact keeps_fail _ _
        refine .ite (fun isPlain => enclosed _ _) fun _ => ?_
        refine .ite (fun isComment => ?_) fun _ => ?_
        · exact keeps_get.bind fun _ => (keeps_skipComment _ _).bind fun _ => keeps_pure _
        refine .ite (fun isAhead => enclosed _ _) fun _ => ?_
        refine .ite (fun isBehind => (all.lookbehind _ _).behind) fun _ => ?_
        refine .ite (fun isCondition => (all.conditional _ _).behind) fun _ => ?_
        refine .ite (fun isAtomic => enclosed _ _) fun _ => ?_
        refine .ite (fun isFlags => ?_) fun isUnknown => keeps_fail _ _
        refine (keeps_flagGroup isFlags).bind fun group => ?_
        split
        · refine .ite (fun isAllowed => ?_) fun isLate => keeps_failAt _ _
          exact keeps_get.bind fun _ => keeps_pure _
        · exact enclosed _ _
      · exact keeps_fail _ _

theorem succ (all : AllKeep whole fuel) : AllKeep whole (fuel + 1) where
  choices := all.choices_succ
  moreChoices := all.moreChoices_succ
  items := all.items_succ
  parenthesis := all.parenthesis_succ
  kept := all.kept_succ
  lookbehind := all.lookbehind_succ
  conditional := all.conditional_succ

end AllKeep

theorem allKeep (whole : List Char) (fuel : Nat) : AllKeep whole fuel := by
  induction fuel with
  | zero => exact .zero
  | succ fuel inductionHypothesis => exact inductionHypothesis.succ

/-! ## Whole patterns -/

theorem flatMap_split (pattern : List Char) :
    (Token.split pattern).flatMap Token.chars = pattern := by
  fun_induction Token.split pattern
  all_goals simp_all [Token.chars]

theorem reading_start (pattern : List Char) : Reading pattern [] (start pattern) where
  rest := by
    rw [start, flatMap_split]
    exact List.suffix_rfl
  ascii := by simp [start, Flags.none]
  unicode := by simp [start, Flags.none]

theorem keeps_pattern : Keeps whole [] pattern := by
  refine keeps_get.bind fun state => ?_
  split_ifs
  · exact keeps_fail _ _
  · refine ((allKeep whole _).choices _ _).bind fun node => ?_
    refine keeps_get_bind fun after reading => ?_
    split_ifs with both
    · obtain ⟨ascii, unicode⟩ := (Bool.and_eq_true _ _).mp both
      exact triple_throw fun _ _ => .inr ⟨reading.ascii ascii, reading.unicode unicode⟩
    · exact keeps_fail _ _
    · split
      · exact keeps_failAt _ _
      · exact keeps_pure _

end Read

/-- A pattern with no tree is refused or asks for too much. -/
theorem explained_of_parse
    {pattern : List Char}
    {cause : Failure}
    (failed : parse pattern = .error cause) :
    Explained pattern cause := by
  have led := Read.keeps_pattern (Read.start pattern) (Read.reading_start pattern)
  rw [parse] at failed
  match read : Read.pattern (Read.start pattern) with
  | (.error other, state) =>
      rw [read] at failed led
      cases failed
      exact led
  | (.ok node, state) =>
      rw [read] at failed
      cases failed

namespace Program

/-- A step that fails only by a refusal. -/
def OnlyRefuses {α : Type} (step : Except Failure α) : Prop :=
  ∀ cause, step = .error cause → ∃ refusal, cause = .refused refusal

section

variable {α β : Type} {step : Except Failure α} {next : α → Except Failure β}

/-- What fails in two steps fails in the first, or in the second behind it. -/
theorem error_of_bind
    {cause : Failure}
    (failed : step >>= next = .error cause) :
    step = .error cause ∨ ∃ value, next value = .error cause := by
  cases step with
  | error other =>
      cases failed
      exact .inl rfl
  | ok value => exact .inr ⟨value, failed⟩

theorem onlyRefuses_ok (value : α) : OnlyRefuses (.ok value) := by
  intro cause failed
  cases failed

theorem onlyRefuses_refuse (refusal : Refusal) :
    OnlyRefuses (.error (.refused refusal) : Except Failure α) := by
  intro cause failed
  exact ⟨refusal, (Except.error.inj failed).symm⟩

theorem OnlyRefuses.bind
    (first : OnlyRefuses step)
    (rest : ∀ value, OnlyRefuses (next value)) :
    OnlyRefuses (step >>= next) := by
  intro cause failed
  rcases error_of_bind failed with here | ⟨value, behind⟩
  · exact first cause here
  · exact rest value cause behind

end

/-- To work out the flags of a tree fails only by a refusal. -/
theorem onlyRefuses_ofNode
    (groups : Nat → Width)
    (flags : Flags)
    (node : Node) :
    OnlyRefuses (ofNode groups flags node) := by
  induction node generalizing flags with
  | empty | literal _ _ | any | set _ _ | anchor _ | reference _ => exact onlyRefuses_ok _
  | sequence first second ofFirst ofSecond | choice first second ofFirst ofSecond =>
      exact (ofFirst _).bind fun _ => (ofSecond _).bind fun _ => onlyRefuses_ok _
  | conditional _ matched unmatched ofMatched ofUnmatched =>
      exact (ofMatched _).bind fun _ => (ofUnmatched _).bind fun _ => onlyRefuses_ok _
  | group number _ _ _ ofBody =>
      refine (ofBody _).bind fun _ => ?_
      cases number with
      | none => exact onlyRefuses_ok _
      | some _ => exact onlyRefuses_ok _
  | atomic _ ofBody => exact (ofBody _).bind fun _ => onlyRefuses_ok _
  | look direction _ _ ofBody =>
      cases direction with
      | ahead => exact (ofBody _).bind fun _ => onlyRefuses_ok _
      | behind =>
          rw [ofNode]
          split_ifs
          · exact onlyRefuses_refuse _
          · exact onlyRefuses_refuse _
          · exact (ofBody _).bind fun _ => onlyRefuses_ok _
  | repeated _ _ _ _ ofBody =>
      rw [ofNode]
      split_ifs
      · exact onlyRefuses_refuse _
      · exact (ofBody _).bind fun _ => onlyRefuses_ok _

/-- A pattern with no program is refused or asks for too much. -/
theorem explained_of_compile
    {pattern : List Char}
    {cause : Failure}
    (failed : compile pattern = .error cause) :
    Explained pattern cause := by
  rcases error_of_bind failed with unread | ⟨parsed, unworked⟩
  · exact explained_of_parse unread
  · exact .inl (onlyRefuses_ofNode _ _ _ cause unworked)

end Program

end CodeDeck.Pattern
