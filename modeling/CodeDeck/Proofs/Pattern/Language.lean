import CodeDeck.Proofs.Pattern.Ways
import Mathlib.Computability.Language

namespace CodeDeck.Pattern

/-!
# Programs that stand for languages

A program built of tests, sequences, choices and repetitions that give rounds
back stands for a language, whatever its preferences are: `Program.Denotes`. Its
ways lead from a position behind each word of that language that stands there,
and nowhere else: `Program.Denotes.takes`.
-/

/-- The words of one character that passes a test. -/
def CharTest.words (check : CharTest) : Language Char :=
  {word | ∃ c, check.accepts c = true ∧ word = [c]}

/-- What is made of words of a language, of no more of them than allowed. -/
def repeats (most : Option Nat) (language : Language Char) : Language Char :=
  {text | ∃ words : List (List Char),
    words.flatten = text ∧
      (∀ bound ∈ most, words.length ≤ bound) ∧
      ∀ word ∈ words, word ∈ language}

/-- A program stands for a language. -/
inductive Program.Denotes : Program → Language Char → Prop where
  | empty : Denotes .empty 1
  | test (check : CharTest) : Denotes (.test check) check.words
  | sequence
      {first second : Program}
      {firstWords secondWords : Language Char}
      (firstDenotes : Denotes first firstWords)
      (secondDenotes : Denotes second secondWords) :
      Denotes (.sequence first second) (firstWords * secondWords)
  | choice
      {first second : Program}
      {firstWords secondWords : Language Char}
      (firstDenotes : Denotes first firstWords)
      (secondDenotes : Denotes second secondWords) :
      Denotes (.choice first second) (firstWords + secondWords)
  | repeated
      {mode : RepeatMode}
      {body : Program}
      {words : Language Char}
      (givesBack : mode ≠ .possessive)
      (least : Nat)
      (most : Option Nat)
      (bodyDenotes : Denotes body words) :
      Denotes
        (.repeated mode least most body)
        (words ^ least * repeats (most.map (· - least)) words)

/-- The ways through a part lead behind the words of a language that stand at a position. -/
def Ways.Takes (text : Array Char) (ways : Ways) (language : Language Char) : Prop :=
  ∀ progress way,
    progress.position ≤ text.size →
      (way ∈ ways progress ↔
        ∃ word ∈ language,
          word <+: text.toList.drop progress.position ∧
            way = progress.moved (progress.position + word.length))

/-! ## Words at a position -/

section Prefixes

variable {text : List Char} {first second : List Char} {position : Nat}

/-- Two words stand behind each other where their joint text stands. -/
theorem append_isPrefix_drop_iff :
    first ++ second <+: text.drop position ↔
      first <+: text.drop position ∧ second <+: text.drop (position + first.length) := by
  constructor
  · rintro ⟨rest, shape⟩
    rw [List.append_assoc] at shape
    refine ⟨⟨second ++ rest, shape⟩, rest, ?_⟩
    rw [← List.drop_drop, ← shape, List.drop_left]
  · rintro ⟨⟨rest, shape⟩, secondStands⟩
    rw [← List.drop_drop, ← shape, List.drop_left] at secondStands
    rw [← shape]
    exact (List.prefix_append_right_inj first).mpr secondStands

theorem singleton_isPrefix_drop_iff
    {c : Char} :
    [c] <+: text.drop position ↔ text[position]? = some c := by
  rw [← List.head?_drop, List.head?_eq_some_iff]
  exact exists_congr fun rest => eq_comm

/-- A word stands inside of the text. -/
theorem add_length_le_of_isPrefix_drop
    (inside : position ≤ text.length)
    (stands : first <+: text.drop position) :
    position + first.length ≤ text.length := by
  have := stands.length_le
  rw [List.length_drop] at this
  omega

end Prefixes

/-! ## Words of repetitions -/

section Repeats

variable {language : Language Char} {text word : List Char} {most : Option Nat}

/-- Empty words make no difference to what is made of words. -/
theorem exists_nonempty_of_mem_repeats
    (member : text ∈ repeats most language) :
    ∃ words : List (List Char),
      words.flatten = text ∧
        (∀ bound ∈ most, words.length ≤ bound) ∧
        ∀ word ∈ words, word ∈ language ∧ word ≠ [] := by
  obtain ⟨words, rfl, bounded, inLanguage⟩ := member
  refine ⟨words.filter (· ≠ []), List.flatten_filter_ne_nil, fun bound isMost => ?_,
    fun word kept => ?_⟩
  · exact (List.length_filter_le ..).trans (bounded bound isMost)
  · obtain ⟨listed, nonempty⟩ := List.mem_filter.mp kept
    exact ⟨inLanguage word listed, of_decide_eq_true nonempty⟩

/-- If one more word is allowed, it may be put in front. -/
theorem append_mem_repeats
    {rest : List Char}
    (oneMore : most ≠ some 0)
    (member : word ∈ language)
    (others : rest ∈ repeats (most.map (· - 1)) language) :
    word ++ rest ∈ repeats most language := by
  obtain ⟨words, rfl, bounded, inLanguage⟩ := others
  refine ⟨word :: words, rfl, ?_, List.forall_mem_cons.mpr ⟨member, inLanguage⟩⟩
  rintro bound rfl
  have positive : bound ≠ 0 := fun zero => oneMore (by rw [zero])
  have := bounded (bound - 1) rfl
  rw [List.length_cons]
  omega

/-- What is made of words that pass a test is any text all of whose characters pass it. -/
theorem mem_repeats_words_iff
    {check : CharTest} :
    text ∈ repeats none check.words ↔ ∀ c ∈ text, check.accepts c = true := by
  constructor
  · rintro ⟨words, rfl, -, areWords⟩ c member
    obtain ⟨word, listed, inWord⟩ := List.mem_flatten.mp member
    obtain ⟨c, accepted, rfl⟩ := areWords word listed
    rwa [List.mem_singleton.mp inWord]
  · intro accepted
    refine ⟨text.map fun c => [c], List.flatMap_singleton' text, by simp, fun word listed => ?_⟩
    obtain ⟨c, member, rfl⟩ := List.mem_map.mp listed
    exact ⟨c, accepted c member, rfl⟩

/-- What is made of at most one word is nothing or a word. -/
theorem mem_repeats_one_iff :
    text ∈ repeats (some 1) language ↔ text = [] ∨ text ∈ language := by
  constructor
  · rintro ⟨words, rfl, bounded, inLanguage⟩
    match words, bounded 1 rfl with
    | [], _ => exact .inl rfl
    | [word], _ =>
        rw [List.flatten_cons, List.flatten_nil, List.append_nil]
        exact .inr (inLanguage word (List.mem_singleton.mpr rfl))
  · rintro (rfl | member)
    · exact ⟨[], rfl, by simp, by simp⟩
    · exact ⟨[text], by simp, by simp, by simpa using member⟩

end Repeats

namespace Ways.Takes

variable {text : Array Char} {first second part : Ways}
variable {firstWords secondWords words : Language Char}

/-- Ways behind each other lead behind words behind each other. -/
theorem flatMap
    (firstTakes : first.Takes text firstWords)
    (secondTakes : second.Takes text secondWords) :
    Ways.Takes text
      (fun progress => (first progress).flatMap second)
      (firstWords * secondWords) := by
  intro progress way inside
  rw [List.mem_flatMap]
  constructor
  · rintro ⟨later, isFirst, isSecond⟩
    obtain ⟨front, frontIn, frontStands, rfl⟩ := (firstTakes _ _ inside).mp isFirst
    have laterInside := add_length_le_of_isPrefix_drop inside frontStands
    obtain ⟨rest, restIn, restStands, rfl⟩ := (secondTakes _ _ laterInside).mp isSecond
    refine ⟨front ++ rest, Language.append_mem_mul frontIn restIn, ?_, ?_⟩
    · exact append_isPrefix_drop_iff.mpr ⟨frontStands, restStands⟩
    · simp [Progress.moved, Nat.add_assoc]
  · rintro ⟨word, member, stands, rfl⟩
    obtain ⟨front, frontIn, rest, restIn, rfl⟩ := Language.mem_mul.mp member
    obtain ⟨frontStands, restStands⟩ := append_isPrefix_drop_iff.mp stands
    have laterInside := add_length_le_of_isPrefix_drop inside frontStands
    refine ⟨_, (firstTakes _ _ inside).mpr ⟨front, frontIn, frontStands, rfl⟩, ?_⟩
    refine (secondTakes _ _ laterInside).mpr ⟨rest, restIn, restStands, ?_⟩
    simp [Progress.moved, Nat.add_assoc]

theorem times
    (takes : part.Takes text words)
    (count : Nat) :
    Ways.Takes text (part.times count) (words ^ count) := by
  induction count with
  | zero =>
      intro progress way inside
      simp [Ways.times, Language.mem_one, Progress.moved]
  | succ count inductionHypothesis =>
      rw [pow_succ']
      exact takes.flatMap inductionHypothesis

/-- Rounds of a part lead behind what is made of its words. -/
theorem exists_of_rounds
    {count last : Option Nat}
    {progress way : Progress}
    (takes : part.Takes text words)
    (inside : progress.position ≤ text.size)
    (rounds : Ways.Rounds part count last progress way) :
    ∃ word ∈ repeats count words,
      word <+: text.toList.drop progress.position ∧
        way = progress.moved (progress.position + word.length) := by
  induction rounds with
  | stop progress => exact ⟨[], ⟨[], rfl, by simp, by simp⟩, List.nil_prefix, rfl⟩
  | round goesOn first others inductionHypothesis =>
      obtain ⟨front, frontIn, frontStands, rfl⟩ := (takes _ _ inside).mp first
      have laterInside := add_length_le_of_isPrefix_drop inside frontStands
      obtain ⟨rest, restIn, restStands, rfl⟩ := inductionHypothesis laterInside
      have oneMore := (Bool.and_eq_true_iff.mp goesOn).1
      refine ⟨front ++ rest, append_mem_repeats (bne_iff_ne.mp oneMore) frontIn restIn, ?_, ?_⟩
      · exact append_isPrefix_drop_iff.mpr ⟨frontStands, restStands⟩
      · simp [Progress.moved, Nat.add_assoc]

/--
Words that are not empty are taken one in each round: behind each of them the next round
may be taken, as this one has moved.
-/
theorem rounds_of_words
    {list : List (List Char)}
    {count last : Option Nat}
    {progress : Progress}
    (takes : part.Takes text words)
    (inside : progress.position ≤ text.size)
    (areWords : ∀ word ∈ list, word ∈ words ∧ word ≠ [])
    (bounded : ∀ bound ∈ count, list.length ≤ bound)
    (moved : last ≠ some progress.position)
    (stands : list.flatten <+: text.toList.drop progress.position) :
    Ways.Rounds part count last progress
      (progress.moved (progress.position + list.flatten.length)) := by
  induction list generalizing count last progress with
  | nil => exact .stop progress
  | cons word list inductionHypothesis =>
      obtain ⟨⟨isWord, nonempty⟩, othersAre⟩ := List.forall_mem_cons.mp areWords
      rw [List.flatten_cons] at stands ⊢
      obtain ⟨wordStands, othersStand⟩ := append_isPrefix_drop_iff.mp stands
      have laterInside := add_length_le_of_isPrefix_drop inside wordStands
      have oneMore : count ≠ some 0 := by
        rintro rfl
        exact absurd (bounded 0 rfl) (by simp)
      have othersBounded : ∀ bound ∈ count.map (· - 1), list.length ≤ bound := by
        intro bound isBound
        obtain ⟨larger, rfl, rfl⟩ := Option.map_eq_some_iff.mp isBound
        exact Nat.le_pred_of_lt (bounded larger rfl)
      let later := progress.moved (progress.position + word.length)
      have movedAgain : some progress.position ≠ some later.position := by
        have := List.length_pos_of_ne_nil nonempty
        simp only [later, Progress.moved, ne_eq, Option.some.injEq]
        omega
      have others : Ways.Rounds part (count.map (· - 1)) (some progress.position) later
          (later.moved (later.position + list.flatten.length)) :=
        inductionHypothesis laterInside othersAre othersBounded movedAgain othersStand
      rw [List.length_append, ← Nat.add_assoc]
      exact .round
        (Bool.and_eq_true_iff.mpr ⟨bne_iff_ne.mpr oneMore, bne_iff_ne.mpr moved⟩)
        ((takes _ _ inside).mpr ⟨word, isWord, wordStands, rfl⟩)
        others

/-- The rounds of a part take what is made of its words. -/
theorem rounds
    (takes : part.Takes text words)
    (advance : Ways.Advance text.size part)
    (eager : Bool)
    (count : Option Nat) :
    Ways.Takes text
      (fun progress => part.rounds eager (text.size - progress.position + 2) count none progress)
      (repeats count words) := by
  intro progress way inside
  rw [Ways.mem_rounds_iff advance inside (by omega)]
  refine ⟨takes.exists_of_rounds inside, ?_⟩
  rintro ⟨word, member, stands, rfl⟩
  obtain ⟨list, rfl, bounded, areWords⟩ := exists_nonempty_of_mem_repeats member
  exact takes.rounds_of_words inside areWords bounded (by simp) stands

end Ways.Takes

/-- A test takes a character that passes it. -/
theorem Program.takes_test
    (text : Array Char)
    (check : CharTest) :
    ((Program.test check).ways text).Takes text check.words := by
  intro progress way inside
  rw [ways]
  constructor
  · intro member
    split at member
    · rename_i c stands
      split at member
      · rename_i accepted
        refine ⟨[c], ⟨c, accepted, rfl⟩, ?_, List.mem_singleton.mp member⟩
        rwa [singleton_isPrefix_drop_iff, Array.getElem?_toList]
      · contradiction
    · contradiction
  · rintro ⟨word, ⟨c, accepted, rfl⟩, stands, rfl⟩
    rw [singleton_isPrefix_drop_iff, Array.getElem?_toList] at stands
    simp [stands, accepted]

/-- The ways through a program that stands for a language take the words of that language. -/
theorem Program.Denotes.takes
    {program : Program}
    {language : Language Char}
    (text : Array Char)
    (denotes : program.Denotes language) :
    (program.ways text).Takes text language := by
  induction denotes with
  | empty =>
      intro progress way inside
      simp [ways, Language.mem_one, Progress.moved]
  | test check => exact takes_test text check
  | sequence firstDenotes secondDenotes firstTakes secondTakes =>
      exact firstTakes.flatMap secondTakes
  | choice firstDenotes secondDenotes firstTakes secondTakes =>
      intro progress way inside
      rw [ways, List.mem_append, firstTakes _ _ inside, secondTakes _ _ inside]
      simp only [Language.mem_add, or_and_right, exists_or]
  | @repeated mode body words givesBack least most bodyDenotes bodyTakes =>
      have rounds (eager : Bool) := (bodyTakes.times least).flatMap
        (bodyTakes.rounds (body.advance_ways text) eager (most.map (· - least)))
      intro progress way inside
      rw [ways.eq_def]
      cases mode with
      | greedy => exact rounds true progress way inside
      | «lazy» => exact rounds false progress way inside
      | possessive => contradiction

namespace Program

variable {text : Array Char} {first second body : Program} {words : Language Char}
variable {progress way : Progress}

theorem ways_sequence :
    (sequence first second).ways text progress =
      (first.ways text progress).flatMap fun later => second.ways text later := rfl

/-- What follows a program that stands for a language goes on behind one of its words. -/
theorem mem_ways_sequence_iff
    (denotes : first.Denotes words)
    (inside : progress.position ≤ text.size) :
    way ∈ (sequence first second).ways text progress ↔
      ∃ word ∈ words,
        word <+: text.toList.drop progress.position ∧
          way ∈ second.ways text (progress.moved (progress.position + word.length)) := by
  rw [ways, List.mem_flatMap]
  constructor
  · rintro ⟨later, isFirst, isSecond⟩
    obtain ⟨word, member, stands, rfl⟩ := (denotes.takes text _ _ inside).mp isFirst
    exact ⟨word, member, stands, isSecond⟩
  · rintro ⟨word, member, stands, isSecond⟩
    exact ⟨_, (denotes.takes text _ _ inside).mpr ⟨word, member, stands, rfl⟩, isSecond⟩

theorem mem_ways_sequence_startingAt_iff
    (denotes : first.Denotes words) :
    way ∈ (sequence first second).ways text (.startingAt 0) ↔
      ∃ word ∈ words,
        word <+: text.toList ∧ way ∈ second.ways text (.startingAt word.length) := by
  rw [mem_ways_sequence_iff denotes (Nat.zero_le text.size)]
  simp only [Progress.startingAt, Progress.moved, List.drop_zero, Nat.zero_add]

/-- A group holds a word of the language that its body stands for. -/
theorem mem_ways_capture_iff
    {group : Nat}
    (denotes : body.Denotes words)
    (inside : progress.position ≤ text.size) :
    way ∈ (capture group body).ways text progress ↔
      ∃ word ∈ words,
        word <+: text.toList.drop progress.position ∧
          way = ((progress.started group).moved (progress.position + word.length)).ended group := by
  rw [ways, List.mem_map]
  constructor
  · rintro ⟨later, isBody, rfl⟩
    obtain ⟨word, member, stands, rfl⟩ :=
      (denotes.takes text (progress.started group) later inside).mp isBody
    exact ⟨word, member, stands, rfl⟩
  · rintro ⟨word, member, stands, rfl⟩
    refine ⟨_, (denotes.takes text (progress.started group) _ inside).mpr ?_, rfl⟩
    exact ⟨word, member, stands, rfl⟩

end Program

end CodeDeck.Pattern
