import CodeDeck.Command.Arguments

namespace CodeDeck.Command

/-!
# Arguments that ask for a verb

A verb with a deck, behind a settings file if one is named, means no more than
that when it is read: `read_verb`. When `render` with a deck is read, the same
arguments with an output behind them are read, too, and mean the same but for
the output: `read_render`; and so is `links` with the flag for codes:
`read_links`.
-/

variable {scope : Scope} {text deck output : String} {texts : List String}
variable {arguments : List Argument} {options : Options} {invocation : Invocation}
variable {config : Option String}

/-- The arguments that ask for a rendering, with a settings file if one is named. -/
def renderArguments (config : Option String) (texts : List String) : List String :=
  match config with
  | none => "render" :: texts
  | some path => "--config" :: path :: "render" :: texts

/-- The arguments that ask for a verb, with a settings file if one is named. -/
def verbArguments (verb : Verb) (config : Option String) (texts : List String) : List String :=
  match config with
  | none => verb.name :: texts
  | some path => "--config" :: path :: verb.name :: texts

theorem renderArguments_eq (config : Option String) (texts : List String) :
    renderArguments config texts = verbArguments .render config texts := by
  cases config with
  | none => rfl
  | some path => rfl

theorem name_ne_separator (verb : Verb) : verb.name ≠ "--" := by
  cases verb with
  | render | links | preview => decide

/-! ## Words -/

theorem words_cons_eq_ok_iff
    (noSeparator : text ≠ "--") :
    words scope (text :: texts) = .ok arguments ↔
      ∃ word others,
        wordOf scope text.toList = .ok word ∧
          words scope texts = .ok others ∧
          arguments = ⟨text, word⟩ :: others := by
  rw [words, if_neg noSeparator]
  cases wordOf scope text.toList with
  | error problem => simp [bind, Except.bind]
  | ok word =>
      cases words scope texts with
      | error problem => simp [bind, Except.bind]
      | ok others => simp [bind, Except.bind, pure, Except.pure, eq_comm]

theorem text_of_words
    (read : words scope texts = .ok arguments) :
    arguments.map Argument.text = texts := by
  induction texts generalizing arguments with
  | nil =>
      cases read
      rfl
  | cons text texts inductionHypothesis =>
      by_cases isSeparator : text = "--"
      · rw [words, if_pos isSeparator] at read
        cases read
        simp [Function.comp_def]
      · obtain ⟨word, others, -, foundOthers, rfl⟩ := (words_cons_eq_ok_iff isSeparator).mp read
        rw [List.map_cons, inductionHypothesis foundOthers]

/-- What does not start with a dash is an operand. -/
theorem wordOf_of_noDash
    {chars : List Char}
    (noDash : chars.head? ≠ some '-') :
    wordOf scope chars = .ok .operand := by
  unfold wordOf
  split
  · simp at noDash
  · rfl

theorem isFlag_of_mem_abbreviated
    {chars : List Char}
    {name : String}
    {word : Word}
    (member : (name, word) ∈ abbreviated scope chars) :
    ∃ flag isShort value, word = .flag flag isShort value := by
  unfold abbreviated at member
  split at member
  · obtain ⟨entry, -, same⟩ := List.mem_map.mp member
    exact ⟨_, _, _, (Prod.mk.inj same).2.symm⟩
  · obtain ⟨entry, -, same⟩ := List.mem_map.mp member
    exact ⟨_, _, _, (Prod.mk.inj same).2.symm⟩
  · contradiction

/-- Only `--` is a separator, and it is taken for one before it is looked at. -/
theorem wordOf_ne_separator (scope : Scope) (chars : List Char) :
    wordOf scope chars ≠ .ok .separator := by
  have other : wordOfOther scope chars ≠ .ok .separator := by
    unfold wordOfOther
    split
    · split
      · simp
      · simp
    · rename_i name word only
      obtain ⟨flag, isShort, value, rfl⟩ :=
        isFlag_of_mem_abbreviated (only ▸ List.mem_cons_self)
      simp
    · simp
  unfold wordOf
  split
  · dsimp only
    split
    · simp
    · simp
    · exact other
  · simp

/-- An output, and its flag as the scope takes it. -/
theorem words_output
    {word : Word}
    (noDash : output.toList.head? ≠ some '-')
    (isFlag : wordOf scope "-o".toList = .ok word) :
    words scope ["-o", output] = .ok [⟨"-o", word⟩, ⟨output, .operand⟩] := by
  have noSeparator : output ≠ "--" := by
    rintro rfl
    contradiction
  have isOutput : words scope [output] = .ok [⟨output, .operand⟩] :=
    (words_cons_eq_ok_iff noSeparator).mpr ⟨_, _, wordOf_of_noDash noDash, rfl, rfl⟩
  exact (words_cons_eq_ok_iff (by decide)).mpr ⟨_, _, isFlag, isOutput, rfl⟩

/-! ## Behind the verb -/

/-- Arguments that do not start with an operand, and leave none when their flags are read. -/
structure LeavesNone (scope : Scope) (tail : List Argument) : Prop where
  noOperand : ∀ text others, tail ≠ ⟨text, .operand⟩ :: others
  rest_eq : ∀ {options others rest},
    readFlags scope false options tail = .ok (others, rest) → rest = []

theorem leavesNone_nil (scope : Scope) : LeavesNone scope [] where
  noOperand := by simp
  rest_eq read := by
    cases read
    rfl

theorem leavesNone_output (output : String) :
    LeavesNone (.ofVerb .render) [⟨"-o", .flag .output true none⟩, ⟨output, .operand⟩] where
  noOperand := by simp
  rest_eq read := by
    cases read
    rfl

theorem LeavesNone.flag
    {flag : Flag}
    {isShort : Bool}
    {value : Option Attached}
    {tail rest : List Argument}
    {others : Options}
    (leavesNone : LeavesNone scope tail)
    (read :
      readFlags scope false options (⟨text, .flag flag isShort value⟩ :: tail) =
        .ok (others, rest)) :
    rest = [] := by
  rw [readFlags] at read
  dsimp only at read
  cases found : cluster scope flag isShort value with
  | error problem =>
      rw [found] at read
      contradiction
  | ok cluster =>
      rw [found] at read
      cases waits : cluster.waiting with
      | none =>
          simp only [waits, bind, Except.bind] at read
          split at read
          · contradiction
          · exact leavesNone.rest_eq read
      | some flag =>
          simp only [waits] at read
          split at read
          · contradiction
          · exact absurd rfl (leavesNone.noOperand _ _)
          · contradiction

/-- What stands behind a verb is the deck when nothing behind it can be. -/
theorem operand_of_readVerb
    {verb : Verb}
    {tail : List Argument}
    (noSeparator : deck ≠ "--")
    (tailFound : words (.ofVerb verb) texts = .ok tail)
    (leavesNone : LeavesNone (.ofVerb verb) tail)
    (read : readVerb verb options (deck :: texts) = .ok invocation) :
    wordOf (.ofVerb verb) deck.toList = .ok .operand := by
  rw [readVerb] at read
  cases found : words (.ofVerb verb) (deck :: texts) with
  | error problem =>
      rw [found] at read
      contradiction
  | ok arguments =>
      rw [found] at read
      obtain ⟨word, others, isWord, othersFound, rfl⟩ :=
        (words_cons_eq_ok_iff noSeparator).mp found
      cases tailFound.symm.trans othersFound
      cases word with
      | operand => exact isWord
      | separator => exact absurd isWord (wordOf_ne_separator _ _)
      | unknown =>
          simp only [bind, Except.bind] at read
          split at read
          · contradiction
          · rename_i isRead
            rw [readFlags] at isRead
            rw [leavesNone.rest_eq isRead] at read
            contradiction
      | flag flag isShort value =>
          simp only [bind, Except.bind] at read
          split at read
          · contradiction
          · rename_i isRead
            rw [leavesNone.flag isRead] at read
            contradiction

theorem readVerb_single
    {verb : Verb}
    (noSeparator : deck ≠ "--")
    (isOperand : wordOf (.ofVerb verb) deck.toList = .ok .operand) :
    readVerb verb options [deck] = .ok ⟨verb, deck, options⟩ := by
  rw [readVerb, (words_cons_eq_ok_iff noSeparator).mpr ⟨_, _, isOperand, rfl, rfl⟩]
  rfl

/-- An output behind the deck is read as the output. -/
theorem readVerb_output
    (noSeparator : deck ≠ "--")
    (isOperand : wordOf (.ofVerb .render) deck.toList = .ok .operand)
    (noDash : output.toList.head? ≠ some '-') :
    readVerb .render options [deck, "-o", output] =
      .ok ⟨.render, deck, { options with output := some output }⟩ := by
  have found : words (.ofVerb .render) [deck, "-o", output] =
      .ok [⟨deck, .operand⟩, ⟨"-o", .flag .output true none⟩, ⟨output, .operand⟩] :=
    (words_cons_eq_ok_iff noSeparator).mpr ⟨_, _, isOperand, words_output noDash rfl, rfl⟩
  rw [readVerb, found]
  rfl

/-! ## Before the verb -/

/-- A settings file is named by an operand. -/
def NamesConfig (config : Option String) : Prop :=
  ∀ path ∈ config, path ≠ "--" ∧ wordOf .program path.toList = .ok .operand

theorem words_verb
    (verb : Verb)
    (found : words .program texts = .ok arguments) :
    words .program (verb.name :: texts) = .ok (⟨verb.name, .operand⟩ :: arguments) := by
  have isOperand : wordOf .program verb.name.toList = .ok .operand := by
    cases verb with
    | render | links | preview => rfl
  exact (words_cons_eq_ok_iff (name_ne_separator verb)).mpr ⟨_, _, isOperand, found, rfl⟩

/-- The verb is read with the options before it. -/
theorem readKnown_verb
    (verb : Verb)
    (names : NamesConfig config)
    (found : words .program texts = .ok arguments) :
    readKnown (verbArguments verb config texts) =
      readVerb verb ⟨config, none, false, []⟩ texts := by
  cases config with
  | none =>
      rw [readKnown, verbArguments, words_verb verb found, ← text_of_words found]
      cases verb with
      | render | links | preview => rfl
  | some path =>
      obtain ⟨noSeparator, isOperand⟩ := names path rfl
      have pathFound := (words_cons_eq_ok_iff noSeparator).mpr
        ⟨_, _, isOperand, words_verb verb found, rfl⟩
      have allFound : words .program ("--config" :: path :: verb.name :: texts) =
          .ok (⟨"--config", .flag .config false none⟩ :: ⟨path, .operand⟩ ::
            ⟨verb.name, .operand⟩ :: arguments) :=
        (words_cons_eq_ok_iff (by decide)).mpr ⟨_, _, rfl, pathFound, rfl⟩
      rw [readKnown, verbArguments, allFound, ← text_of_words found]
      cases verb with
      | render | links | preview => rfl

/-- What must be the case before the verb when arguments are read. -/
theorem namesConfig_of_readKnown
    {verb : Verb}
    (read : readKnown (verbArguments verb config texts) = .ok invocation) :
    NamesConfig config ∧ ∃ arguments, words .program texts = .ok arguments := by
  rw [readKnown] at read
  cases found : words .program (verbArguments verb config texts) with
  | error problem =>
      rw [found] at read
      contradiction
  | ok arguments =>
      rw [found] at read
      cases config with
      | none =>
          obtain ⟨word, others, -, textsFound, -⟩ :=
            (words_cons_eq_ok_iff (name_ne_separator verb)).mp found
          exact ⟨by simp [NamesConfig], others, textsFound⟩
      | some path =>
          obtain ⟨flag, others, isFlag, othersFound, rfl⟩ :=
            (words_cons_eq_ok_iff (by decide)).mp found
          cases isFlag
          by_cases isSeparator : path = "--"
          · subst isSeparator
            cases othersFound
            contradiction
          obtain ⟨word, others, isWord, behindFound, rfl⟩ :=
            (words_cons_eq_ok_iff isSeparator).mp othersFound
          obtain ⟨-, others, -, textsFound, -⟩ :=
            (words_cons_eq_ok_iff (name_ne_separator verb)).mp behindFound
          cases word with
          | operand =>
              refine ⟨?_, others, textsFound⟩
              rintro _ ⟨⟩
              exact ⟨isSeparator, isWord⟩
          | separator | unknown | flag => contradiction

/-! ## All arguments -/

theorem read_eq_ok_iff :
    Invocation.read texts = .ok invocation ↔
      readKnown texts = .ok invocation ∧ invocation.options.unrecognized = [] := by
  rw [Invocation.read]
  cases readKnown texts with
  | error stop => simp [bind, Except.bind]
  | ok known =>
      cases unrecognized : known.options.unrecognized with
      | nil => simp +contextual [unrecognized, bind, Except.bind, pure, Except.pure, eq_comm]
      | cons argument others =>
          simp only [unrecognized, bind, Except.bind]
          refine iff_of_false (by simp) ?_
          rintro ⟨⟨⟩, isEmpty⟩
          rw [unrecognized] at isEmpty
          contradiction

/-- What a verb with a deck means, when it is read. -/
theorem read_verb
    {verb : Verb}
    (read : Invocation.read (verbArguments verb config [deck]) = .ok invocation) :
    invocation = ⟨verb, deck, ⟨config, none, false, []⟩⟩ ∧
      deck ≠ "--" ∧
      wordOf (.ofVerb verb) deck.toList = .ok .operand := by
  obtain ⟨isKnown, -⟩ := read_eq_ok_iff.mp read
  obtain ⟨names, arguments, found⟩ := namesConfig_of_readKnown isKnown
  rw [readKnown_verb verb names found] at isKnown
  have noSeparator : deck ≠ "--" := by
    rintro rfl
    contradiction
  have isOperand := operand_of_readVerb noSeparator rfl (leavesNone_nil _) isKnown
  rw [readVerb_single noSeparator isOperand] at isKnown
  cases isKnown
  exact ⟨rfl, noSeparator, isOperand⟩

/--
A verb with a deck that is read is also read with arguments behind the deck, when those are read
behind the verb and no argument is left that nobody knows.
-/
theorem read_verb_append
    {verb : Verb}
    {tail : List String}
    {longer : Invocation}
    (read : Invocation.read (verbArguments verb config [deck]) = .ok invocation)
    (tailFound : words .program tail = .ok arguments)
    (isRead : readVerb verb ⟨config, none, false, []⟩ (deck :: tail) = .ok longer)
    (recognized : longer.options.unrecognized = []) :
    Invocation.read (verbArguments verb config (deck :: tail)) = .ok longer := by
  obtain ⟨-, noSeparator, -⟩ := read_verb read
  obtain ⟨names, others, found⟩ := namesConfig_of_readKnown (read_eq_ok_iff.mp read).1
  obtain ⟨word, _, isWord, _, _⟩ := (words_cons_eq_ok_iff noSeparator).mp found
  have longerFound := (words_cons_eq_ok_iff noSeparator).mpr ⟨_, _, isWord, tailFound, rfl⟩
  refine read_eq_ok_iff.mpr ⟨?_, recognized⟩
  rw [readKnown_verb verb names longerFound, isRead]

/-- A rendering that is read is also read with an output behind it, and means the same else. -/
theorem read_render
    (read : Invocation.read (renderArguments config [deck]) = .ok invocation)
    (noDash : output.toList.head? ≠ some '-') :
    invocation = ⟨.render, deck, ⟨config, none, false, []⟩⟩ ∧
      Invocation.read (renderArguments config [deck, "-o", output]) =
        .ok ⟨.render, deck, ⟨config, some output, false, []⟩⟩ := by
  rw [renderArguments_eq] at read ⊢
  obtain ⟨rfl, noSeparator, isOperand⟩ := read_verb read
  exact ⟨rfl, read_verb_append read (words_output noDash rfl)
    (readVerb_output noSeparator isOperand noDash) rfl⟩

/-- A listing that is read is also read with the flag for codes behind it, and is one with codes. -/
theorem read_links
    (read : Invocation.read (verbArguments .links config [deck]) = .ok invocation) :
    invocation = ⟨.links, deck, ⟨config, none, false, []⟩⟩ ∧
      Invocation.read (verbArguments .links config [deck, "--qr"]) =
        .ok ⟨.links, deck, ⟨config, none, true, []⟩⟩ := by
  obtain ⟨rfl, noSeparator, isOperand⟩ := read_verb read
  have found : words (.ofVerb .links) [deck, "--qr"] =
      .ok [⟨deck, .operand⟩, ⟨"--qr", .flag .codes false none⟩] :=
    (words_cons_eq_ok_iff noSeparator).mpr ⟨_, _, isOperand, rfl, rfl⟩
  refine ⟨rfl, read_verb_append read rfl ?_ rfl⟩
  rw [readVerb, found]
  rfl

/-- What a rendering with an output means, when it is read. -/
theorem read_render_output
    (read : Invocation.read (renderArguments config [deck, "-o", output]) = .ok invocation)
    (noDash : output.toList.head? ≠ some '-') :
    invocation = ⟨.render, deck, ⟨config, some output, false, []⟩⟩ := by
  rw [renderArguments_eq] at read
  obtain ⟨isKnown, recognized⟩ := read_eq_ok_iff.mp read
  obtain ⟨names, arguments, found⟩ := namesConfig_of_readKnown isKnown
  rw [readKnown_verb .render names found] at isKnown
  -- Behind `--` the flag is taken for the deck, and the output is left over.
  have noSeparator : deck ≠ "--" := by
    rintro rfl
    cases isKnown
    contradiction
  have isOperand := operand_of_readVerb noSeparator (words_output noDash rfl)
    (leavesNone_output output) isKnown
  rw [readVerb_output noSeparator isOperand noDash] at isKnown
  cases isKnown
  rfl

end CodeDeck.Command
