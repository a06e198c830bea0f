import CodeDeck.Proofs.Json.Grammar

namespace CodeDeck

/-!
# Which written values are JSON texts

A written value is a JSON text exactly when all of its numbers are finite. That
finite ones are is shown rule by rule along the value. That others are not
cannot be seen from one rule, since the grammar could cut the text elsewhere;
but what stands outside of the strings of a text does not depend on how it is
cut, and there the grammar has none of the capital letters `N` and `I`.
-/

/-- Whether a number is finite. -/
def Binary64.isFinite : Binary64 → Bool
  | .finite .. => true
  | _ => false

namespace Json

mutual

/-- Whether all numbers in a value are finite. -/
def isFinite : Json → Bool
  | .null => true
  | .bool _ => true
  | .int _ => true
  | .float value => value.isFinite
  | .string _ => true
  | .array items => areFinite items
  | .object entries => areEntriesFinite entries

/-- Whether all numbers in the items of an array are finite. -/
def areFinite : List Json → Bool
  | [] => true
  | item :: items => isFinite item && areFinite items

/-- Whether all numbers in the values of entries are finite. -/
def areEntriesFinite : List (String × Json) → Bool
  | [] => true
  | (_, value) :: entries => isFinite value && areEntriesFinite entries

end

/-! ## Finite values -/

theorem areBlanks_nil : AreBlanks [] := by
  simp [AreBlanks]

theorem Derives.alone
    {text : List Char}
    (value : Derives .value text) :
    Derives .element text := by
  simpa using Derives.element areBlanks_nil value areBlanks_nil

theorem Derives.entryAlone
    {key value : List Char}
    (isKey : IsString key)
    (derives : Derives .value value) :
    Derives .entries (key ++ ':' :: value) := by
  simpa using Derives.entry areBlanks_nil isKey areBlanks_nil derives.alone

theorem Derives.entryBefore
    {key value entries : List Char}
    (isKey : IsString key)
    (derives : Derives .value value)
    (others : Derives .entries entries) :
    Derives .entries (key ++ ':' :: (value ++ ',' :: entries)) := by
  simpa using Derives.moreEntries areBlanks_nil isKey areBlanks_nil derives.alone others

mutual

/-- A value with finite numbers only is written as the grammar has it. -/
theorem derives_write :
    ∀ value : Json, value.isFinite = true → Derives .value value.write
  | .null, _ => .nullWord
  | .bool true, _ => .trueWord
  | .bool false, _ => .falseWord
  | .int value, _ => .number (isNumber_ofInt value)
  | .float (.finite negative significand exponent), _ =>
      .number (isNumber_toText negative significand exponent)
  | .float .nan, finite => by
      simp [isFinite, Binary64.isFinite] at finite
  | .float (.infinite _), finite => by
      simp [isFinite, Binary64.isFinite] at finite
  | .string text, _ => .string (isString_writeString text)
  | .array [], _ => .emptyArray areBlanks_nil
  | .array (item :: items), finite => by
      obtain ⟨itemFinite, itemsFinite⟩ : item.isFinite = true ∧ areFinite items = true := by
        simpa only [isFinite, areFinite, Bool.and_eq_true] using finite
      obtain ⟨written, shape, derives⟩ :=
        derives_writeItems items itemsFinite (derives_write item itemFinite)
      rw [write, List.cons_append, shape]
      exact .array derives
  | .object [], _ => .emptyObject areBlanks_nil
  | .object ((key, value) :: entries), finite => by
      obtain ⟨valueFinite, entriesFinite⟩ :
          value.isFinite = true ∧ areEntriesFinite entries = true := by
        simpa only [isFinite, areEntriesFinite, Bool.and_eq_true] using finite
      obtain ⟨written, shape, derives⟩ :=
        derives_writeEntries entries entriesFinite (isString_writeString key)
          (derives_write value valueFinite)
      simp only [write, List.cons_append, List.append_assoc]
      rw [shape]
      exact .object derives

/-- The items behind a first one, and the end of their array. -/
theorem derives_writeItems :
    ∀ (items : List Json) {first : List Char},
      areFinite items = true →
      Derives .value first →
      ∃ written, first ++ writeItems items = written ++ [']'] ∧ Derives .items written
  | [], first, _, derives => ⟨first, rfl, .item derives.alone⟩
  | item :: items, first, finite, derives => by
      obtain ⟨itemFinite, itemsFinite⟩ : item.isFinite = true ∧ areFinite items = true := by
        simpa only [areFinite, Bool.and_eq_true] using finite
      obtain ⟨written, shape, others⟩ :=
        derives_writeItems items itemsFinite (derives_write item itemFinite)
      refine ⟨first ++ ',' :: written, ?_, .moreItems derives.alone others⟩
      rw [writeItems, List.cons_append, shape, List.append_assoc, List.cons_append]

/-- The entries behind a first one, and the end of their object. -/
theorem derives_writeEntries :
    ∀ (entries : List (String × Json)) {key first : List Char},
      areEntriesFinite entries = true →
      IsString key →
      Derives .value first →
      ∃ written,
        key ++ ':' :: (first ++ writeEntries entries) = written ++ ['\x7d'] ∧
          Derives .entries written
  | [], key, first, _, isKey, derives =>
      ⟨key ++ ':' :: first, by simp [writeEntries], .entryAlone isKey derives⟩
  | (nextKey, value) :: entries, key, first, finite, isKey, derives => by
      obtain ⟨valueFinite, entriesFinite⟩ :
          value.isFinite = true ∧ areEntriesFinite entries = true := by
        simpa only [areEntriesFinite, Bool.and_eq_true] using finite
      obtain ⟨written, shape, others⟩ :=
        derives_writeEntries entries entriesFinite (isString_writeString nextKey)
          (derives_write value valueFinite)
      refine ⟨key ++ ':' :: (first ++ ',' :: written), ?_, .entryBefore isKey derives others⟩
      simp only [writeEntries, List.cons_append, List.append_assoc]
      rw [shape]

end

/-! ## What stands outside of strings -/

/-- Whether a character stands in a string, and there behind a backslash. -/
inductive Quoting where
  | bare
  | quoted
  | escaped

/-- The characters of a text that stand outside of its strings. -/
def bareFrom : Quoting → List Char → List Char
  | _, [] => []
  | .bare, c :: rest => if c = '"' then bareFrom .quoted rest else c :: bareFrom .bare rest
  | .quoted, c :: rest =>
      if c = '"' then bareFrom .bare rest
      else if c = '\\' then bareFrom .escaped rest
      else bareFrom .quoted rest
  | .escaped, _ :: rest => bareFrom .quoted rest

/-- Whether a text, in front of whatever follows, ends outside of strings and shows these there. -/
def Shows (text shown : List Char) : Prop :=
  ∀ rest, bareFrom .bare (text ++ rest) = shown ++ bareFrom .bare rest

/-- A text that ends outside of strings and shows neither of the letters `N` and `I` there. -/
def Calm (text : List Char) : Prop :=
  ∃ shown, Shows text shown ∧ 'N' ∉ shown ∧ 'I' ∉ shown

/-- A text that ends outside of strings, and shows one of the two letters unless it is `finite`. -/
def Marked (finite : Bool) (text : List Char) : Prop :=
  ∃ shown, Shows text shown ∧ (finite = false → 'N' ∈ shown ∨ 'I' ∈ shown)

theorem Shows.append
    {first second firstShown secondShown : List Char}
    (shows : Shows first firstShown)
    (shows' : Shows second secondShown) :
    Shows (first ++ second) (firstShown ++ secondShown) := by
  intro rest
  rw [List.append_assoc, shows, shows', List.append_assoc]

/-- A text without quotes shows itself. -/
theorem shows_self
    {text : List Char}
    (noQuote : '"' ∉ text) :
    Shows text text := by
  intro rest
  induction text with
  | nil => rfl
  | cons c text inductionHypothesis =>
      rw [List.mem_cons, not_or] at noQuote
      rw [List.cons_append, bareFrom, if_neg (Ne.symm noQuote.1), inductionHypothesis noQuote.2]
      rfl

theorem Calm.append
    {first second : List Char}
    (calm : Calm first)
    (calm' : Calm second) :
    Calm (first ++ second) := by
  obtain ⟨shown, shows, noN, noI⟩ := calm
  obtain ⟨shown', shows', noN', noI'⟩ := calm'
  exact ⟨shown ++ shown', shows.append shows', by simp [noN, noN'], by simp [noI, noI']⟩

/-- Characters other than quotes and the two letters. -/
theorem calm_of_chars
    {text : List Char}
    (noQuote : '"' ∉ text)
    (noN : 'N' ∉ text)
    (noI : 'I' ∉ text) :
    Calm text :=
  ⟨text, shows_self noQuote, noN, noI⟩

theorem calm_char
    {c : Char}
    (allowed : c ≠ '"' ∧ c ≠ 'N' ∧ c ≠ 'I') :
    Calm [c] :=
  calm_of_chars (mt List.mem_singleton.mp allowed.1.symm)
    (mt List.mem_singleton.mp allowed.2.1.symm)
    (mt List.mem_singleton.mp allowed.2.2.symm)

theorem Calm.cons
    {c : Char}
    {text : List Char}
    (calm : Calm text)
    (allowed : c ≠ '"' ∧ c ≠ 'N' ∧ c ≠ 'I') :
    Calm (c :: text) :=
  (calm_char allowed).append calm

/-- The characters of a string show nothing. -/
theorem bareFrom_stringChars
    {chars : List Char}
    (stringChars : AreStringChars chars)
    (rest : List Char) :
    bareFrom .quoted (chars ++ rest) = bareFrom .quoted rest := by
  have plainStep {c : Char} (noQuote : c ≠ '"') (noBackslash : c ≠ '\\') (others : List Char) :
      bareFrom .quoted (c :: others) = bareFrom .quoted others := by
    rw [bareFrom, if_neg noQuote, if_neg noBackslash]
  induction stringChars with
  | nil => rfl
  | plain _ noQuote noBackslash _ inductionHypothesis =>
      rw [List.cons_append, plainStep noQuote noBackslash, inductionHypothesis]
  | escape _ _ inductionHypothesis => exact inductionHypothesis
  | code _ hexDigits _ inductionHypothesis =>
      rename_i digits others count _
      have skipped : bareFrom .quoted (digits ++ (others ++ rest)) =
          bareFrom .quoted (others ++ rest) := by
        clear count
        induction digits with
        | nil => rfl
        | cons c digits digitsHypothesis =>
            obtain ⟨isHex, areHex⟩ := List.forall_mem_cons.mp hexDigits
            rw [List.cons_append, plainStep ?_ ?_, digitsHypothesis areHex]
            · rintro rfl
              revert isHex
              decide
            · rintro rfl
              revert isHex
              decide
      rw [List.cons_append, List.cons_append, List.append_assoc]
      exact skipped.trans inductionHypothesis

theorem IsString.calm
    {text : List Char}
    (isString : IsString text) :
    Calm text := by
  obtain ⟨chars, stringChars, rfl⟩ := isString
  refine ⟨[], fun rest => ?_, by simp, by simp⟩
  rw [List.cons_append, List.append_assoc]
  exact bareFrom_stringChars stringChars _

theorem AreBlanks.calm
    {text : List Char}
    (blanks : AreBlanks text) :
    Calm text := by
  apply calm_of_chars
  all_goals
    intro member
    have isBlank := blanks _ member
    revert isBlank
    decide

theorem calm_of_digits
    {text : List Char}
    (digits : ∀ c ∈ text, Decimal.isDigit c = true) :
    Calm text := by
  apply calm_of_chars
  all_goals
    intro member
    have isDigit := digits _ member
    revert isDigit
    decide

theorem calm_of_sign
    {sign : List Char}
    (signed : sign ∈ [[], ['+'], ['-']]) :
    Calm sign := by
  apply calm_of_chars
  all_goals
    revert sign
    decide

theorem IsNumber.calm
    {text : List Char}
    (isNumber : IsNumber text) :
    Calm text := by
  obtain ⟨signed, whole, isFraction, isExponent⟩ := isNumber
  refine (calm_of_sign (List.cons_subset_cons _ (by simp) signed)).append
    ((calm_of_digits whole.1.2).append (Calm.append ?_ ?_))
  · obtain rfl | ⟨digits, areDigits, rfl⟩ := isFraction
    · exact calm_of_digits (by simp)
    · exact (calm_of_digits areDigits.2).cons (by decide)
  · obtain rfl | ⟨mark, sign, digits, isMark, signed, areDigits, rfl⟩ := isExponent
    · exact calm_of_digits (by simp)
    · refine Calm.cons ((calm_of_sign signed).append (calm_of_digits areDigits.2)) ?_
      obtain rfl | rfl : mark = 'e' ∨ mark = 'E' := by simpa using isMark
      · decide
      · decide

/-- No text of the grammar shows one of the two letters. -/
theorem Derives.calm
    {symbol : Symbol}
    {text : List Char}
    (derives : Derives symbol text) :
    Calm text := by
  induction derives with
  | nullWord => exact calm_of_chars (by decide) (by decide) (by decide)
  | trueWord => exact calm_of_chars (by decide) (by decide) (by decide)
  | falseWord => exact calm_of_chars (by decide) (by decide) (by decide)
  | number isNumber => exact isNumber.calm
  | string isString => exact isString.calm
  | emptyArray blanks => exact (blanks.calm.append (calm_char (by decide))).cons (by decide)
  | array _ items => exact (items.append (calm_char (by decide))).cons (by decide)
  | emptyObject blanks => exact (blanks.calm.append (calm_char (by decide))).cons (by decide)
  | object _ entries => exact (entries.append (calm_char (by decide))).cons (by decide)
  | element before _ behind value => exact before.calm.append (value.append behind.calm)
  | item _ element => exact element
  | moreItems _ _ element items => exact element.append (items.cons (by decide))
  | entry before isKey behind _ element =>
      exact before.calm.append (isKey.calm.append (behind.calm.append (element.cons (by decide))))
  | moreEntries before isKey behind _ _ element entries =>
      exact before.calm.append (isKey.calm.append (behind.calm.append
        ((element.append (entries.cons (by decide))).cons (by decide))))

/-! ## Written values that are not finite -/

theorem Marked.append
    {finite finite' : Bool}
    {first second : List Char}
    (marked : Marked finite first)
    (marked' : Marked finite' second) :
    Marked (finite && finite') (first ++ second) := by
  obtain ⟨shown, shows, letters⟩ := marked
  obtain ⟨shown', shows', letters'⟩ := marked'
  refine ⟨shown ++ shown', shows.append shows', fun notFinite => ?_⟩
  rcases Bool.and_eq_false_iff.mp notFinite with firstNot | secondNot
  · exact (letters firstNot).imp (List.mem_append_left _) (List.mem_append_left _)
  · exact (letters' secondNot).imp (List.mem_append_right _) (List.mem_append_right _)

theorem Calm.marked
    {text : List Char}
    (calm : Calm text) :
    Marked true text := by
  obtain ⟨shown, shows, -⟩ := calm
  exact ⟨shown, shows, by simp⟩

/-- A calm text in front of a marked one. -/
theorem Marked.behind
    {finite : Bool}
    {first second : List Char}
    (marked : Marked finite second)
    (calm : Calm first) :
    Marked finite (first ++ second) := by
  simpa only [Bool.true_and] using calm.marked.append marked

theorem Marked.cons
    {finite : Bool}
    {c : Char}
    {text : List Char}
    (marked : Marked finite text)
    (allowed : c ≠ '"' ∧ c ≠ 'N' ∧ c ≠ 'I') :
    Marked finite (c :: text) :=
  marked.behind (calm_char allowed)

theorem marked_float (value : Binary64) :
    Marked value.isFinite (value.toText numberStyle) := by
  cases value with
  | finite negative significand exponent =>
      exact (isNumber_toText negative significand exponent).calm.marked
  | nan => exact ⟨_, shows_self (by decide), fun _ => by decide⟩
  | infinite negative =>
      cases negative with
      | true => exact ⟨_, shows_self (by decide), fun _ => by decide⟩
      | false => exact ⟨_, shows_self (by decide), fun _ => by decide⟩

theorem marked_entry
    {finite : Bool}
    {text : List Char}
    (key : String)
    (marked : Marked finite text) :
    Marked finite (writeString key ++ ':' :: text) :=
  (marked.cons (by decide)).behind (isString_writeString key).calm

mutual

/-- A written value shows one of the two letters unless its numbers are finite. -/
theorem marked_write :
    ∀ value : Json, Marked value.isFinite value.write
  | .null => Derives.nullWord.calm.marked
  | .bool true => Derives.trueWord.calm.marked
  | .bool false => Derives.falseWord.calm.marked
  | .int value => (isNumber_ofInt value).calm.marked
  | .float value => marked_float value
  | .string text => (isString_writeString text).calm.marked
  | .array [] => (Derives.emptyArray areBlanks_nil).calm.marked
  | .array (item :: items) =>
      ((marked_write item).append (marked_writeItems items)).cons (by decide)
  | .object [] => (Derives.emptyObject areBlanks_nil).calm.marked
  | .object ((key, value) :: entries) =>
      ((marked_entry key (marked_write value)).append (marked_writeEntries entries)).cons
        (by decide)

theorem marked_writeItems :
    ∀ items : List Json, Marked (areFinite items) (writeItems items)
  | [] => (calm_char (by decide)).marked
  | item :: items =>
      ((marked_write item).append (marked_writeItems items)).cons (by decide)

theorem marked_writeEntries :
    ∀ entries : List (String × Json), Marked (areEntriesFinite entries) (writeEntries entries)
  | [] => (calm_char (by decide)).marked
  | (key, value) :: entries =>
      ((marked_entry key (marked_write value)).append (marked_writeEntries entries)).cons
        (by decide)

end

/-- A written value is a JSON text exactly when its numbers are finite. -/
theorem isJsonText_write_iff {value : Json} :
    IsJsonText value.write ↔ value.isFinite = true := by
  refine ⟨fun isText => ?_, fun finite => (derives_write value finite).alone⟩
  obtain ⟨shown, shows, noN, noI⟩ := Derives.calm isText
  obtain ⟨shown', shows', letters⟩ := marked_write value
  -- A text shows one thing only, whatever it is shown to be made of.
  obtain rfl : shown = shown' :=
    List.append_cancel_right ((shows []).symm.trans (shows' []))
  by_contra notFinite
  exact (letters (Bool.eq_false_iff.mpr notFinite)).elim noN noI

end Json

end CodeDeck
