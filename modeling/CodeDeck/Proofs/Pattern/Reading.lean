import CodeDeck.Proofs.Pattern.Excess

namespace CodeDeck.Pattern

/-!
# Steps of reading a pattern

A step leads from states that satisfy one condition to a value and a state that
satisfy another, or it ends in a failure that the pattern explains. The
condition that all steps keep is that what has not been read is the end of the
pattern, and that the flags found so far stand in it; a few steps also know
what stands right in front of the rest.
-/

namespace Read

/-! ## Conditions on steps -/

/-- A result that satisfies a condition, or a failure that the pattern explains. -/
def Leads
    {α : Type}
    (whole : List Char)
    (post : α → ReadState → Prop) : Except Failure α × ReadState → Prop
  | (.ok value, after) => post value after
  | (.error cause, _) => Explained whole cause

/-- From every state with one condition a step leads to the other. -/
def Triple
    {α : Type}
    (whole : List Char)
    (pre : ReadState → Prop)
    (step : Read α)
    (post : α → ReadState → Prop) : Prop :=
  ∀ state, pre state → Leads whole post (step state)

section

variable {α β : Type} {whole : List Char} {pre : ReadState → Prop}
variable {post : α → ReadState → Prop} {step : Read α}

/-- What follows a step starts where the step has led to, or is left out when it fails. -/
theorem bind_apply
    (step : Read α)
    (next : α → Read β)
    (state : ReadState) :
    (step >>= next) state =
      match step state with
      | (.ok value, after) => next value after
      | (.error cause, after) => (.error cause, after) := by
  show (match step state with | (result, after) => ExceptT.bindCont next result after) = _
  rcases step state with ⟨cause | value, after⟩
  · rfl
  · rfl

theorem Triple.bind
    {middle : α → ReadState → Prop}
    {last : β → ReadState → Prop}
    {next : α → Read β}
    (first : Triple whole pre step middle)
    (rest : ∀ value, Triple whole (middle value) (next value) last) :
    Triple whole pre (step >>= next) last := by
  intro state holds
  have led := first state holds
  rw [bind_apply]
  match stepped : step state with
  | (.error cause, after) =>
      rw [stepped] at led
      exact led
  | (.ok value, after) =>
      rw [stepped] at led
      exact rest value after led

theorem Triple.weaken
    {weaker : ReadState → Prop}
    {stronger : α → ReadState → Prop}
    (triple : Triple whole weaker step stronger)
    (before : ∀ state, pre state → weaker state)
    (behind : ∀ value state, stronger value state → post value state) :
    Triple whole pre step post := by
  intro state holds
  have led := triple state (before state holds)
  match stepped : step state with
  | (.error cause, after) =>
      rw [stepped] at led
      exact led
  | (.ok value, after) =>
      rw [stepped] at led
      exact behind value after led

theorem Triple.before
    {weaker : ReadState → Prop}
    (triple : Triple whole weaker step post)
    (weakens : ∀ state, pre state → weaker state) :
    Triple whole pre step post :=
  triple.weaken weakens fun _ _ holds => holds

/-- What all states before a step tell may be used to show where it leads. -/
theorem Triple.known
    {fact : Prop}
    (tells : ∀ state, pre state → fact)
    (triple : fact → Triple whole pre step post) :
    Triple whole pre step post :=
  fun state holds => triple (tells state holds) state holds

/-- A long row of cases is walked down one case at a time. -/
theorem Triple.ite
    {condition : Prop}
    [Decidable condition]
    {other : Read α}
    (holds : condition → Triple whole pre step post)
    (fails : ¬condition → Triple whole pre other post) :
    Triple whole pre (if condition then step else other) post := by
  split_ifs with h
  · exact holds h
  · exact fails h

theorem triple_pure
    {value : α}
    (holds : ∀ state, pre state → post value state) :
    Triple whole pre (pure value) post :=
  holds

theorem triple_get : Triple whole pre get fun value state => value = state ∧ pre state :=
  fun _ holds => ⟨rfl, holds⟩

theorem triple_set
    {state : ReadState}
    {last : Unit → ReadState → Prop}
    (holds : ∀ before, pre before → last () state) :
    Triple whole pre (set state) last :=
  holds

theorem triple_modify
    {change : ReadState → ReadState}
    {last : Unit → ReadState → Prop}
    (holds : ∀ state, pre state → last () (change state)) :
    Triple whole pre (modify change) last :=
  holds

/-- To fail for what the pattern explains leads anywhere. -/
theorem triple_throw
    {cause : Failure}
    (explained : ∀ state, pre state → Explained whole cause) :
    Triple whole pre (throw cause) post :=
  explained

theorem triple_failAt
    (fault : Fault)
    (position : Nat) :
    Triple whole pre (failAt fault position) post :=
  triple_throw fun _ _ => .inl ⟨_, rfl⟩

theorem triple_fail
    (fault : Fault)
    (back : Nat) :
    Triple whole pre (fail fault back) post :=
  triple_get.bind fun _ => triple_failAt fault _

end

/-! ## What all steps keep -/

/-- A state in which some characters of the pattern and then the unread ones end the pattern. -/
structure Reading (whole front : List Char) (state : ReadState) : Prop where
  rest : front ++ state.tokens.flatMap Token.chars <:+ whole
  ascii : state.flags.ascii = true → HasFlag whole 'a'
  unicode : state.flags.unicode = true → HasFlag whole 'u'

/-- A step that keeps to the pattern when it is taken behind some characters. -/
def Keeps {α : Type} (whole front : List Char) (step : Read α) : Prop :=
  Triple whole (Reading whole front) step fun _ => Reading whole []

variable {α β : Type} {whole front : List Char} {state : ReadState} {step : Read α}

theorem Reading.weaken
    (reading : Reading whole front state) :
    Reading whole [] state :=
  ⟨(List.suffix_append front _).trans reading.rest, reading.ascii, reading.unicode⟩

/-- The characters in front of the rest stand in the pattern. -/
theorem Reading.infix
    (reading : Reading whole front state) :
    front <:+: whole :=
  (List.prefix_append front _).isInfix.trans reading.rest.isInfix

theorem Keeps.bind
    {next : α → Read β}
    (first : Keeps whole front step)
    (rest : ∀ value, Keeps whole [] (next value)) :
    Keeps whole front (step >>= next) :=
  Triple.bind first rest

/-- A step that keeps to the pattern does so whatever has been read before it. -/
theorem Keeps.behind
    (keeps : Keeps whole [] step) :
    Keeps whole front step :=
  keeps.weaken (fun _ reading => reading.weaken) fun _ _ reading => reading

theorem keeps_pure (value : α) : Keeps whole front (pure value) :=
  triple_pure fun _ reading => reading.weaken

theorem keeps_get : Keeps whole front get :=
  triple_get.weaken (fun _ reading => reading) fun _ _ got => got.2.weaken

/-- A state that is looked up is one that keeps to the pattern. -/
theorem keeps_get_bind
    {next : ReadState → Read α}
    (rest : ∀ state, Reading whole front state → Keeps whole front (next state)) :
    Keeps whole front (get >>= next) := by
  refine triple_get.bind fun state => ?_
  have tells (current : ReadState) (got : state = current ∧ Reading whole front current) :
      Reading whole front state :=
    got.1 ▸ got.2
  exact Triple.known tells fun reading => (rest state reading).before fun _ got => got.2

/-- To go on with a state that keeps to the pattern. -/
theorem keeps_set
    (reading : Reading whole [] state) :
    Keeps whole front (set state) :=
  triple_set fun _ _ => reading

theorem keeps_modify
    {change : ReadState → ReadState}
    (changes : ∀ state, Reading whole front state → Reading whole [] (change state)) :
    Keeps whole front (modify change) :=
  triple_modify changes

theorem keeps_failAt
    (fault : Fault)
    (position : Nat) :
    Keeps whole front (failAt fault position : Read α) :=
  triple_failAt fault position

theorem keeps_fail
    (fault : Fault)
    (back : Nat) :
    Keeps whole front (fail fault back : Read α) :=
  triple_fail fault back

/-- To doubt a part of the pattern keeps to it. -/
theorem triple_doubt
    (idiom : SetIdiom)
    (back : Nat) :
    Triple whole (Reading whole front) (doubt idiom back) fun _ => Reading whole front :=
  triple_modify fun _ reading => ⟨reading.rest, reading.ascii, reading.unicode⟩

/-! ## Tokens -/

theorem triple_peek
    {pre : ReadState → Prop} :
    Triple whole pre peek fun value state => value = state.tokens.head? ∧ pre state :=
  triple_get.bind fun _ => triple_pure fun _ got => ⟨got.1 ▸ rfl, got.2⟩

theorem triple_nextIs
    {pre : ReadState → Prop}
    (c : Char) :
    Triple whole pre (nextIs c) fun value state =>
      value = (state.tokens.head? == some (.char c)) ∧ pre state :=
  triple_peek.bind fun _ => triple_pure fun _ peeked => ⟨peeked.1 ▸ rfl, peeked.2⟩

/-- The characters of a token, if there is one. -/
def charsOf (token? : Option Token) : List Char :=
  token?.elim [] Token.chars

/-- The token that is taken is the one that has been looked at. -/
theorem triple_next_of_head
    (token? : Option Token) :
    Triple whole (fun state => token? = state.tokens.head? ∧ Reading whole front state) next
      fun value state => value = token? ∧ Reading whole (front ++ charsOf token?) state := by
  refine triple_get.bind fun state => ?_
  match tokens_eq : state.tokens with
  | [] =>
      refine triple_pure fun current ⟨same, isHead, reading⟩ => ?_
      subst same
      rw [tokens_eq] at isHead
      subst isHead
      exact ⟨rfl, by simpa [charsOf] using reading⟩
  | token :: rest =>
      dsimp only
      split_ifs
      · exact triple_failAt _ _
      · refine (triple_set ?_).bind fun _ => triple_pure fun _ holds => holds
        rintro current ⟨rfl, isHead, reading⟩
        rw [tokens_eq] at isHead
        subst isHead
        refine ⟨rfl, ?_, reading.ascii, reading.unicode⟩
        have suffix := reading.rest
        rw [tokens_eq, List.flatMap_cons, ← List.append_assoc] at suffix
        exact suffix

/-- What is taken stands right in front of the rest. -/
theorem triple_next :
    Triple whole (Reading whole front) next fun value =>
      Reading whole (front ++ charsOf value) := by
  intro state reading
  have taken := triple_next_of_head state.tokens.head? state ⟨rfl, reading⟩
  match stepped : next state with
  | (.error cause, after) =>
      rw [stepped] at taken
      exact taken
  | (.ok value, after) =>
      rw [stepped] at taken
      show Reading whole (front ++ charsOf value) after
      rw [taken.1]
      exact taken.2

/-- A token that has been looked at is taken as what it is. -/
theorem triple_next_of_peek
    (token : Token) :
    Triple whole (fun state => some token = state.tokens.head? ∧ Reading whole front state) next
      fun _ => Reading whole (front ++ token.chars) :=
  (triple_next_of_head (some token)).weaken (fun _ looked => looked) fun _ _ taken => taken.2

theorem keeps_next : Keeps whole front next :=
  triple_next.weaken (fun _ reading => reading) fun _ _ reading => reading.weaken

theorem triple_accept (c : Char) :
    Triple whole (Reading whole front) (accept c) fun value =>
      Reading whole (if value then front ++ [c] else front) := by
  refine (triple_nextIs c).bind fun value => ?_
  split_ifs with isNext
  · have taken : Triple whole (fun state =>
        value = (state.tokens.head? == some (.char c)) ∧ Reading whole front state) next
        fun _ => Reading whole (front ++ [c]) := by
      refine (triple_next_of_peek (.char c)).weaken ?_ fun _ _ reading => reading
      rintro state ⟨same, reading⟩
      exact ⟨(eq_of_beq (same.symm.trans isNext)).symm, reading⟩
    exact taken.bind fun _ => triple_pure fun _ reading => reading
  · exact triple_pure fun _ looked => looked.2

theorem keeps_nextIs (c : Char) : Keeps whole front (nextIs c) :=
  (triple_nextIs c).weaken (fun _ reading => reading) fun _ _ looked => looked.2.weaken

theorem keeps_accept (c : Char) : Keeps whole front (accept c) :=
  (triple_accept c).weaken (fun _ reading => reading) fun _ _ reading => reading.weaken

/-- The characters taken are of the kind, and stand behind those taken before. -/
theorem triple_takeKind
    (kind : Char → Bool)
    (count : Nat) :
    Triple whole (Reading whole front) (takeKind kind count) fun taken state =>
      (∀ c ∈ taken, kind c = true) ∧ Reading whole (front ++ taken) state := by
  have noneTaken {pre : ReadState → Prop} {front : List Char}
      (reads : ∀ state, pre state → Reading whole front state) :
      Triple whole pre (pure []) fun (taken : List Char) state =>
        (∀ c ∈ taken, kind c = true) ∧ Reading whole (front ++ taken) state :=
    triple_pure fun state holds => ⟨by simp, by simpa using reads state holds⟩
  induction count generalizing front with
  | zero => exact noneTaken fun _ reading => reading
  | succ count inductionHypothesis =>
      refine triple_peek.bind fun token? => ?_
      split
      · rename_i c
        split_ifs with isKind
        · refine (triple_next_of_peek (.char c)).bind fun _ => inductionHypothesis.bind
            fun taken => triple_pure fun state ⟨areKind, reading⟩ => ?_
          exact ⟨List.forall_mem_cons.mpr ⟨isKind, areKind⟩, by simpa [Token.chars] using reading⟩
        · exact noneTaken fun _ looked => looked.2
      · exact noneTaken fun _ looked => looked.2

theorem keeps_takeKind
    (kind : Char → Bool)
    (count : Nat) :
    Keeps whole front (takeKind kind count) :=
  (triple_takeKind kind count).weaken (fun _ reading => reading) fun _ _ taken => taken.2.weaken

theorem triple_takeAll (kind : Char → Bool) :
    Triple whole (Reading whole front) (takeAll kind) fun taken state =>
      (∀ c ∈ taken, kind c = true) ∧ Reading whole (front ++ taken) state :=
  triple_get.bind fun _ => (triple_takeKind kind _).weaken (fun _ got => got.2) fun _ _ taken => taken

/-! ## Names and groups -/

theorem keeps_nameLoop
    (terminator : Char)
    (subject : String)
    (fuel : Nat)
    (before : List Char) :
    Keeps whole front (nameLoop terminator subject fuel before) := by
  induction fuel generalizing front before with
  | zero => exact keeps_fail _ _
  | succ fuel inductionHypothesis =>
      refine keeps_next.bind fun token? => ?_
      split
      · split_ifs
        · exact keeps_fail _ _
        · exact keeps_fail _ _
      · split_ifs
        · exact keeps_fail _ _
        · exact keeps_pure _
        · exact inductionHypothesis _

theorem keeps_name
    (terminator : Char)
    (subject : String) :
    Keeps whole front (name terminator subject) :=
  keeps_get.bind fun _ => keeps_nameLoop _ _ _ _

theorem keeps_groupCount : Keeps whole front groupCount :=
  keeps_get.bind fun _ => keeps_pure _

theorem keeps_isClosed (group : Nat) : Keeps whole front (isClosed group) :=
  keeps_get.bind fun _ => keeps_pure _

theorem keeps_namedGroup? (name : String) : Keeps whole front (namedGroup? name) :=
  keeps_get.bind fun _ => keeps_pure _

theorem keeps_checkLookbehind (group : Nat) : Keeps whole front (checkLookbehind group) := by
  refine keeps_get.bind fun state => ?_
  split
  · exact keeps_pure _
  · refine (keeps_isClosed group).bind fun closed => ?_
    split_ifs
    · exact keeps_fail _ _
    · exact keeps_fail _ _
    · exact keeps_pure _

end Read

/-! ## Escapes -/

namespace Escape

open Read

variable {whole front : List Char}

theorem keeps_failFor
    (fault : String → Fault)
    (chars : List Char) :
    Keeps whole front (failFor fault chars : Read Escape) :=
  keeps_fail _ _

/-- A code point is too large only by the eight digits behind a capital `U`. -/
theorem keeps_readHex
    {letter : Char}
    {count : Nat}
    (few : count ≤ 4 ∨ (letter = 'U' ∧ count = 8)) :
    Keeps whole ['\\', letter] (readHex letter count) := by
  refine (triple_takeKind _ count).bind fun digits => ?_
  dsimp only
  split_ifs with otherLength tooLarge
  · exact triple_fail _ _
  · refine triple_throw fun state ⟨areHex, reading⟩ => .inr ?_
    rw [ne_eq, not_not] at otherLength
    rcases few with short | ⟨rfl, rfl⟩
    · exact absurd (toNat_lt_of_short (otherLength ▸ short)) (Nat.not_lt.mpr tooLarge)
    · exact ⟨digits, ⟨otherLength, areHex, reading.infix⟩, tooLarge⟩
  · exact triple_fail _ _
  · exact triple_pure fun _ taken => taken.2.weaken

theorem keeps_readNamed : Keeps whole front readNamed := by
  refine (keeps_accept _).bind fun opened => ?_
  split_ifs
  · exact keeps_fail _ _
  · refine (keeps_name _ _).bind fun name => ?_
    split
    · exact keeps_pure _
    · exact keeps_fail _ _

theorem keeps_ofOctal (chars : List Char) : Keeps whole front (ofOctal chars) := by
  unfold ofOctal
  dsimp only
  split_ifs
  · exact keeps_failFor _ _
  · exact keeps_pure _

theorem keeps_readOther (c : Char) : Keeps whole ['\\', c] (readOther c) := by
  unfold readOther
  split_ifs with isX isShort isLong
  · exact keeps_readHex (.inl (by decide))
  · exact keeps_readHex (.inl (by decide))
  · exact keeps_readHex (.inr ⟨isLong, rfl⟩)
  · exact keeps_readNamed
  · exact keeps_failFor _ _
  · exact keeps_pure _

theorem keeps_readInSet (c : Char) : Keeps whole ['\\', c] (readInSet c) := by
  unfold readInSet
  split
  · exact keeps_pure _
  · exact keeps_pure _
  · split_ifs
    · exact (keeps_takeKind _ _).bind fun _ => keeps_ofOctal _
    · exact keeps_readOther c

theorem keeps_readReference (digits : List Char) : Keeps whole front (readReference digits) := by
  refine keeps_groupCount.bind fun count => ?_
  split_ifs
  · refine (keeps_isClosed _).bind fun closed => ?_
    split_ifs
    · exact keeps_fail _ _
    · exact (keeps_checkLookbehind _).bind fun _ => keeps_pure _
  · exact keeps_fail _ _

theorem keeps_readNumber (first : Char) : Keeps whole front (readNumber first) := by
  have behind (second third : List Char) :
      Keeps whole [] (if third.isEmpty then readReference (first :: second)
        else ofOctal ('\\' :: first :: second ++ third)) := by
    split_ifs
    · exact keeps_readReference _
    · exact keeps_ofOctal _
  refine (keeps_takeKind _ _).bind fun second => ?_
  dsimp only
  split_ifs
  · exact (keeps_takeKind _ _).bind fun third => behind second third
  · exact (keeps_pure _).bind fun third => behind second third

theorem keeps_read (c : Char) : Keeps whole ['\\', c] (read c) := by
  unfold read
  split
  · exact keeps_pure _
  · exact keeps_pure _
  · exact keeps_pure _
  · split_ifs
    · exact (keeps_takeKind _ _).bind fun _ => keeps_ofOctal _
    · exact keeps_readNumber c
    · exact keeps_readOther c

end Escape

end CodeDeck.Pattern
