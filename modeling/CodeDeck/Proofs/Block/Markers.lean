import CodeDeck.Proofs.Block.FixedPoint
import CodeDeck.Proofs.Pattern.Language

namespace CodeDeck

/-!
# How a marker is spelled

A marker line is three slashes and a word, with whitespace around and between
them, and a line is spelled like that in one way at most: `Marker.Spelling`. A
pattern says the same: it matches a line that is spelled so, finds the word, and
matches no other line, whichever way its repetitions share the whitespace and
whether or not it stops before a last newline: `Marker.pattern_grammar`.
-/

namespace Pattern

/-- The match of a program at the start of a text. -/
def Program.match? (program : Program) (text : List Char) : Option Progress :=
  program.run text.toArray (.startingAt 0) some

/-- The part of a text that a group has found. -/
def Progress.group? (progress : Progress) (text : List Char) (group : Nat) : Option (List Char) :=
  (progress.span? group).map fun (start, finish) => (text.drop start).take (finish - start)

/-- What the first group has found when a line is matched. -/
def Program.firstGroup? (program : Program) (line : String) : Option (Option (List Char)) :=
  (program.match? line.toList).map fun progress => progress.group? line.toList 1

/-- A group has found what stands between its start and its end. -/
theorem Progress.group?_captured
    (progress : Progress)
    (text : List Char)
    (group size finish : Nat) :
    ((((progress.started group).moved (progress.position + size)).ended group).moved finish).group?
        text group =
      some ((text.drop progress.position).take size) := by
  have found : ((((progress.started group).moved (progress.position + size)).ended group).moved
      finish).span? group = some (progress.position, progress.position + size) := by
    simp [span?, started, ended, moved]
  rw [group?, found, Option.map_some]
  dsimp only
  rw [Nat.add_sub_cancel_left]

theorem Program.match?_eq
    (program : Program)
    (text : List Char) :
    program.match? text = (program.ways text.toArray (.startingAt 0)).head? := by
  rw [match?, run_eq_ofWays]
  exact Matcher.once_ofWays ..

end Pattern

namespace Marker

open Pattern

/-- The pattern of a marker line; its group is the word. -/
def pattern : String := "^\\s*///\\s*((?:un)?hide)\\s*$"

/-- The characters in front of the word. -/
def slashes : List Char := ['/', '/', '/']

/-- How a line spells a marker. -/
structure Spelling (line : String) where
  front : List Char
  between : List Char
  marker : Marker
  behind : List Char
  shape : line.toList = front ++ (slashes ++ (between ++ (marker.keyword ++ behind)))
  frontSpaces : ∀ c ∈ front, Text.isSpace c = true
  betweenSpaces : ∀ c ∈ between, Text.isSpace c = true
  behindSpaces : ∀ c ∈ behind, Text.isSpace c = true

/-! ## A line is spelled in one way -/

/-- Whitespace is dropped up to the first character that is none. -/
theorem dropWhile_spaces_append
    {front rest : List Char}
    (spaces : ∀ c ∈ front, Text.isSpace c = true)
    (ends : ∀ c ∈ rest.head?, Text.isSpace c = false) :
    (front ++ rest).dropWhile Text.isSpace = rest := by
  rw [List.dropWhile_append_of_pos spaces]
  cases rest with
  | nil => rfl
  | cons c rest => exact List.dropWhile_cons_of_neg (by simp [ends c rfl])

/-- Whitespace in front of texts that start with none ends in one place only. -/
theorem spaces_append_inj
    {front front' rest rest' : List Char}
    (spaces : ∀ c ∈ front, Text.isSpace c = true)
    (spaces' : ∀ c ∈ front', Text.isSpace c = true)
    (ends : ∀ c ∈ rest.head?, Text.isSpace c = false)
    (ends' : ∀ c ∈ rest'.head?, Text.isSpace c = false)
    (same : front ++ rest = front' ++ rest') :
    front = front' ∧ rest = rest' := by
  have sameRest : rest = rest' := by
    rw [← dropWhile_spaces_append spaces ends, same, dropWhile_spaces_append spaces' ends']
  rw [sameRest] at same
  exact ⟨List.append_cancel_right same, sameRest⟩

/-- A word starts with a letter. -/
theorem isSpace_head?_keyword
    (marker : Marker)
    (rest : List Char) :
    ∀ c ∈ (marker.keyword ++ rest).head?, Text.isSpace c = false := by
  cases marker with
  | hide | unhide =>
      rintro c ⟨⟩
      rfl

theorem keyword_append_inj
    {first second : Marker}
    {behind behind' : List Char}
    (same : first.keyword ++ behind = second.keyword ++ behind') :
    first = second ∧ behind = behind' := by
  cases first with
  | hide | unhide => cases second <;> simp_all [keyword]

/-- A line spells a marker in one way at most. -/
theorem Spelling.eq
    {line : String}
    (first second : Spelling line) :
    first = second := by
  obtain ⟨front, between, marker, behind, shape, frontSpaces, betweenSpaces, _⟩ := first
  obtain ⟨front', between', marker', behind', shape', frontSpaces', betweenSpaces', _⟩ := second
  have slash : ∀ rest, ∀ c ∈ (slashes ++ rest).head?, Text.isSpace c = false := by
    rintro rest c ⟨⟩
    rfl
  obtain ⟨rfl, sameBehindFront⟩ :=
    spaces_append_inj frontSpaces frontSpaces' (slash _) (slash _) (shape.symm.trans shape')
  obtain ⟨rfl, sameBehindBetween⟩ :=
    spaces_append_inj betweenSpaces betweenSpaces' (isSpace_head?_keyword marker behind)
      (isSpace_head?_keyword marker' behind') (List.append_cancel_left sameBehindFront)
  obtain ⟨rfl, rfl⟩ := keyword_append_inj sameBehindBetween
  rfl

instance (line : String) : Subsingleton (Spelling line) :=
  ⟨Spelling.eq⟩

/-! ## A line is read as it is spelled -/

theorem ofKeyword?_keyword (marker : Marker) : ofKeyword? marker.keyword = some marker := by
  cases marker with
  | hide | unhide => rfl

theorem eq_keyword_of_ofKeyword?
    {word : List Char}
    {marker : Marker}
    (found : ofKeyword? word = some marker) :
    word = marker.keyword := by
  rw [ofKeyword?] at found
  split at found
  · rename_i isHide
    cases found
    exact isHide
  · split at found
    · rename_i isUnhide
      cases found
      exact isUnhide
    · contradiction

/-- What starts with a slash and ends with a word is stripped already. -/
theorem stripSpaces_slashes
    (between : List Char)
    (marker : Marker) :
    Text.stripSpaces (slashes ++ (between ++ marker.keyword)) =
      slashes ++ (between ++ marker.keyword) := by
  have front : (slashes ++ (between ++ marker.keyword)).dropWhile Text.isSpace =
      slashes ++ (between ++ marker.keyword) := rfl
  have ends : (slashes ++ (between ++ marker.keyword)).reverse.dropWhile Text.isSpace =
      (slashes ++ (between ++ marker.keyword)).reverse := by
    rw [← List.append_assoc, List.reverse_append]
    cases marker with
    | hide | unhide => rfl
  rw [Text.stripSpaces, front, ends, List.reverse_reverse]

/-- A line that spells a marker is read as that marker. -/
theorem Spelling.ofLine?_eq
    {line : String}
    (spelling : Spelling line) :
    ofLine? line = some spelling.marker := by
  obtain ⟨front, between, marker, behind, shape, frontSpaces, betweenSpaces, behindSpaces⟩ :=
    spelling
  have stripped : Text.stripSpaces line.toList = slashes ++ (between ++ marker.keyword) := by
    calc
      Text.stripSpaces line.toList
          = Text.stripSpaces (front ++ ((slashes ++ (between ++ marker.keyword)) ++ behind)) := by
        rw [shape]
        simp
      _ = Text.stripSpaces (slashes ++ (between ++ marker.keyword)) :=
        Text.stripSpaces_surrounded_iff.mpr
          (List.forall_mem_append.mpr ⟨frontSpaces, behindSpaces⟩)
      _ = slashes ++ (between ++ marker.keyword) := stripSpaces_slashes between marker
  have word : (between ++ marker.keyword).dropWhile Text.isSpace = marker.keyword :=
    dropWhile_spaces_append betweenSpaces
      (List.append_nil marker.keyword ▸ isSpace_head?_keyword marker [])
  rw [ofLine?, stripped]
  exact (congrArg ofKeyword? word).trans (ofKeyword?_keyword marker)

/-- A line that is read as a marker spells one. -/
theorem nonempty_spelling_of_ofLine?
    {line : String}
    {marker : Marker}
    (found : ofLine? line = some marker) :
    Nonempty (Spelling line) := by
  obtain ⟨front, behind, shape, frontSpaces, behindSpaces⟩ := Text.exists_stripSpaces line.toList
  rw [ofLine?] at found
  split at found
  · rename_i rest stripped
    have word := eq_keyword_of_ofKeyword? found
    have whole := List.takeWhile_append_dropWhile (p := Text.isSpace) (l := rest)
    refine ⟨⟨front, rest.takeWhile Text.isSpace, marker, behind, ?_, frontSpaces,
      fun c => List.mem_takeWhile_imp, behindSpaces⟩⟩
    rw [shape, stripped, ← word, ← List.append_assoc (rest.takeWhile _), whole]
    rfl
  · contradiction

theorem isSome_ofLine?_iff (line : String) : (ofLine? line).isSome ↔ Nonempty (Spelling line) := by
  constructor
  · intro found
    obtain ⟨marker, found⟩ := Option.isSome_iff_exists.mp found
    exact nonempty_spelling_of_ofLine? found
  · rintro ⟨spelling⟩
    rw [spelling.ofLine?_eq]
    rfl

/-! ## The pattern matches what is spelled like a marker -/

/-- One whitespace character of the pattern. -/
def spaceTest : CharTest := .set [.category .space false] .unicode false

/-- Whitespace of the pattern. -/
def spaces : Program := .repeated .greedy 0 none (.test spaceTest)

/-- A character that stands for itself. -/
def letter (c : Char) : Program := .test (.code c.toNat false)

/-- The word of the pattern. -/
def word : Program :=
  .sequence
    (.repeated .greedy 0 (some 1) (.sequence (letter 'u') (letter 'n')))
    (.sequence (letter 'h') (.sequence (letter 'i') (.sequence (letter 'd') (letter 'e'))))

/-- The program of the pattern. -/
def program : Program :=
  .sequence (.place .textStart)
    (.sequence spaces
      (.sequence (letter '/')
        (.sequence (letter '/')
          (.sequence (letter '/')
            (.sequence spaces
              (.sequence (.capture 1 word)
                (.sequence spaces (.place .lastLineEnd))))))))

theorem compile_pattern : Program.compile pattern.toList = .ok program := by
  decide +kernel

theorem words_letter (c : Char) : (CharTest.code c.toNat false).words = {[c]} := by
  ext word
  constructor
  · rintro ⟨d, accepted, rfl⟩
    have sameCode : d.toNat = c.toNat := by simpa [CharTest.accepts] using accepted
    exact congrArg (fun c => [c]) (Char.toNat_inj.mp sameCode)
  · rintro rfl
    exact ⟨c, by simp [CharTest.accepts], rfl⟩

theorem denotes_letter (c : Char) : (letter c).Denotes {[c]} :=
  words_letter c ▸ .test _

/-- Texts that are all whitespace. -/
def spaceTexts : Language Char := {text | ∀ c ∈ text, Text.isSpace c = true}

theorem denotes_spaces : spaces.Denotes spaceTexts := by
  have denotes : spaces.Denotes (spaceTest.words ^ 0 * repeats none spaceTest.words) :=
    .repeated (by decide) 0 none (.test spaceTest)
  have same : spaceTest.words ^ 0 * repeats none spaceTest.words = spaceTexts := by
    rw [pow_zero, one_mul]
    ext text
    rw [mem_repeats_words_iff]
    simp only [spaceTest, CharTest.accepts, SetItem.holds, Category.holds, List.any_cons,
      List.any_nil, Bool.or_false, Bool.bne_false]
    rfl
  rwa [same] at denotes

theorem singleton_mul_singleton
    (first second : List Char) :
    ({first} * {second} : Language Char) = {first ++ second} :=
  Set.image2_singleton

/-- The words of the markers. -/
def keywords : Language Char := {word | ∃ marker : Marker, word = marker.keyword}

theorem denotes_word : word.Denotes keywords := by
  have prefixDenotes := (denotes_letter 'u').sequence (denotes_letter 'n')
  have suffixDenotes :=
    (denotes_letter 'h').sequence
      ((denotes_letter 'i').sequence ((denotes_letter 'd').sequence (denotes_letter 'e')))
  simp only [singleton_mul_singleton] at prefixDenotes suffixDenotes
  have denotes := Program.Denotes.sequence
    (prefixDenotes.repeated (by decide : RepeatMode.greedy ≠ .possessive) 0 (some 1)) suffixDenotes
  have same : ({['u', 'n']} ^ 0 * repeats (some 1) {['u', 'n']}) * {['h', 'i', 'd', 'e']} =
      keywords := by
    rw [pow_zero, one_mul]
    ext text
    constructor
    · rintro ⟨front, isFront, rest, rfl, rfl⟩
      rcases mem_repeats_one_iff.mp isFront with rfl | rfl
      · exact ⟨.hide, rfl⟩
      · exact ⟨.unhide, rfl⟩
    · rintro ⟨marker, rfl⟩
      refine Language.mem_mul.mpr ?_
      cases marker with
      | hide => exact ⟨[], mem_repeats_one_iff.mpr (.inl rfl), hide.keyword, rfl, rfl⟩
      | unhide => exact ⟨['u', 'n'], mem_repeats_one_iff.mpr (.inr rfl), hide.keyword, rfl, rfl⟩
  exact same ▸ denotes

/-- What stands in front of the word. -/
def opening : Program :=
  .sequence spaces
    (.sequence (letter '/') (.sequence (letter '/') (.sequence (letter '/') spaces)))

/-- What stands behind the word. -/
def closing : Program := .sequence spaces (.place .lastLineEnd)

/-- What may stand in front of the word. -/
def openings : Language Char := spaceTexts * ({slashes} * spaceTexts)

theorem denotes_opening : opening.Denotes openings := by
  have denotes :=
    denotes_spaces.sequence
      ((denotes_letter '/').sequence
        ((denotes_letter '/').sequence ((denotes_letter '/').sequence denotes_spaces)))
  have same : ({['/']} * ({['/']} * ({['/']} * spaceTexts)) : Language Char) =
      {slashes} * spaceTexts := by
    rw [← mul_assoc, singleton_mul_singleton, ← mul_assoc, singleton_mul_singleton]
    rfl
  rwa [same] at denotes

theorem mem_openings_iff
    {text : List Char} :
    text ∈ openings ↔
      ∃ front ∈ spaceTexts, ∃ between ∈ spaceTexts, text = front ++ (slashes ++ between) := by
  constructor
  · rintro ⟨front, frontSpaces, rest, ⟨first, rfl, between, betweenSpaces, rfl⟩, rfl⟩
    exact ⟨front, frontSpaces, between, betweenSpaces, rfl⟩
  · rintro ⟨front, frontSpaces, between, betweenSpaces, rfl⟩
    exact Language.append_mem_mul frontSpaces (Language.append_mem_mul rfl betweenSpaces)

variable {text : List Char} {progress way : Progress} {position : Nat}

/-- Behind the last position of a text stands nothing or a newline. -/
theorem isSpace_of_lastLineEnd
    (isLast : Place.holds .lastLineEnd text.toArray position = true) :
    ∀ c ∈ text.drop position, Text.isSpace c = true := by
  simp only [Place.holds, List.size_toArray, List.getElem?_toArray, Bool.or_eq_true,
    Bool.and_eq_true, beq_iff_eq] at isLast
  rcases isLast with atEnd | ⟨beforeLast, newline⟩
  · rw [atEnd, List.drop_length]
    exact List.forall_mem_nil _
  · rw [List.drop_eq_getElem?_toList_append, newline, beforeLast, List.drop_length]
    exact List.forall_mem_singleton.mpr rfl

/-- The pattern ends only where nothing but whitespace is left. -/
theorem isSpace_of_mem_closing
    (inside : progress.position ≤ text.length)
    (member : way ∈ closing.ways text.toArray progress) :
    (∃ finish, way = progress.moved finish) ∧
      ∀ c ∈ text.drop progress.position, Text.isSpace c = true := by
  obtain ⟨behind, behindSpaces, ⟨rest, shape⟩, atPlace⟩ :=
    (Program.mem_ways_sequence_iff denotes_spaces inside).mp member
  rw [Program.ways] at atPlace
  split at atPlace
  · rename_i isLast
    have restSpaces := isSpace_of_lastLineEnd isLast
    obtain rfl := List.mem_singleton.mp atPlace
    have isRest : text.drop (progress.position + behind.length) = rest := by
      rw [← List.drop_drop, ← shape, List.drop_left]
    refine ⟨⟨_, rfl⟩, ?_⟩
    rw [← shape]
    exact List.forall_mem_append.mpr ⟨behindSpaces, isRest ▸ restSpaces⟩
  · contradiction

/-- The pattern can end where nothing but whitespace is left. -/
theorem exists_mem_closing
    (inside : progress.position ≤ text.length)
    (spaces : ∀ c ∈ text.drop progress.position, Text.isSpace c = true) :
    ∃ way, way ∈ closing.ways text.toArray progress := by
  have atEnd : progress.position + (text.drop progress.position).length = text.length := by
    rw [List.length_drop]
    omega
  refine ⟨progress.moved text.length, (Program.mem_ways_sequence_iff denotes_spaces inside).mpr
    ⟨text.drop progress.position, spaces, List.prefix_refl _, ?_⟩⟩
  rw [atEnd, Program.ways, if_pos (by simp [Place.holds, Progress.moved])]
  exact List.mem_singleton.mpr rfl

/-- The program is what stands in front of the word, the word, and what stands behind it. -/
theorem ways_program (text : Array Char) :
    program.ways text (.startingAt 0) =
      (Program.sequence opening (.sequence (.capture 1 word) closing)).ways text
        (.startingAt 0) := by
  simp only [program, opening, Program.ways_sequence, List.flatMap_assoc]
  exact List.flatMap_singleton ..

/-- How far a match of the pattern is behind a word: its group is found. -/
def behindWord (opened word : List Char) : Progress :=
  (((Progress.startingAt opened.length).started 1).moved (opened.length + word.length)).ended 1

/-- The ways through the program, piece by piece of the text. -/
theorem mem_ways_program_iff :
    way ∈ program.ways text.toArray (.startingAt 0) ↔
      ∃ opened ∈ openings, ∃ marker : Marker, ∃ rest,
        text = opened ++ (marker.keyword ++ rest) ∧
          way ∈ closing.ways text.toArray (behindWord opened marker.keyword) := by
  rw [ways_program, Program.mem_ways_sequence_startingAt_iff denotes_opening]
  refine exists_congr fun opened => and_congr_right fun isOpening => ?_
  rw [Program.ways_sequence, List.mem_flatMap]
  constructor
  · rintro ⟨⟨behind, rfl⟩, later, isWord, member⟩
    have inside : opened.length ≤ (opened ++ behind).toArray.size := by simp
    obtain ⟨_, ⟨marker, rfl⟩, ⟨rest, shape⟩, rfl⟩ :=
      (Program.mem_ways_capture_iff denotes_word inside).mp isWord
    refine ⟨marker, rest, ?_, member⟩
    rw [shape]
    exact congrArg (opened ++ ·) List.drop_left.symm
  · rintro ⟨marker, rest, rfl, member⟩
    have inside : opened.length ≤ (opened ++ (marker.keyword ++ rest)).toArray.size := by simp
    refine ⟨⟨_, rfl⟩, _, ?_, member⟩
    refine (Program.mem_ways_capture_iff denotes_word inside).mpr
      ⟨marker.keyword, ⟨marker, rfl⟩, ⟨rest, ?_⟩, rfl⟩
    exact List.drop_left.symm

/-- Behind a word stands the rest of the text. -/
theorem drop_behindWord
    (opened word rest : List Char) :
    (opened ++ (word ++ rest)).drop (behindWord opened word).position = rest := by
  rw [behindWord, Progress.ended, Progress.moved, ← List.drop_drop, List.drop_left, List.drop_left]

theorem behindWord_position_le
    (opened word rest : List Char) :
    (behindWord opened word).position ≤ (opened ++ (word ++ rest)).length := by
  rw [← List.append_assoc, List.length_append, List.length_append]
  exact Nat.le_add_right ..

theorem group?_behindWord
    (opened word rest : List Char)
    (finish : Nat) :
    ((behindWord opened word).moved finish).group? (opened ++ (word ++ rest)) 1 = some word := by
  refine (Progress.group?_captured (.startingAt opened.length) _ 1 word.length finish).trans ?_
  rw [Progress.startingAt, List.drop_left, List.take_left]

variable {line : String}

/-- A match of the pattern finds the word of a marker that the line spells. -/
theorem exists_spelling_of_match?
    (found : program.match? line.toList = some way) :
    ∃ spelling : Spelling line, way.group? line.toList 1 = some spelling.marker.keyword := by
  rw [Program.match?_eq] at found
  obtain ⟨opened, isOpening, marker, rest, shape, atClosing⟩ :=
    mem_ways_program_iff.mp (List.mem_of_head? found)
  rw [shape] at atClosing
  obtain ⟨⟨finish, rfl⟩, restSpaces⟩ :=
    isSpace_of_mem_closing (behindWord_position_le ..) atClosing
  rw [drop_behindWord] at restSpaces
  have captured := group?_behindWord opened marker.keyword rest finish
  rw [← shape] at captured
  obtain ⟨front, frontSpaces, between, betweenSpaces, rfl⟩ := mem_openings_iff.mp isOpening
  rw [List.append_assoc, List.append_assoc] at shape
  exact ⟨⟨front, between, marker, rest, shape, frontSpaces, betweenSpaces, restSpaces⟩, captured⟩

/-- The pattern matches a line that spells a marker. -/
theorem Spelling.exists_match?
    (spelling : Spelling line) :
    ∃ way, program.match? line.toList = some way := by
  obtain ⟨front, between, marker, behind, shape, frontSpaces, betweenSpaces, behindSpaces⟩ :=
    spelling
  let opened := front ++ (slashes ++ between)
  have isOpening : opened ∈ openings :=
    mem_openings_iff.mpr ⟨front, frontSpaces, between, betweenSpaces, rfl⟩
  have shape' : line.toList = opened ++ (marker.keyword ++ behind) := by simp [shape, opened]
  have restSpaces := drop_behindWord opened marker.keyword behind ▸ behindSpaces
  obtain ⟨way, atClosing⟩ := exists_mem_closing (behindWord_position_le ..) restSpaces
  have member : way ∈ program.ways line.toList.toArray (.startingAt 0) :=
    mem_ways_program_iff.mpr
      ⟨opened, isOpening, marker, behind, shape', shape'.symm ▸ atClosing⟩
  rw [Program.match?_eq]
  exact Option.isSome_iff_exists.mp (List.isSome_head?.mpr (List.ne_nil_of_mem member))

/-- The pattern finds the word of the marker that a line is, and does not match other lines. -/
theorem firstGroup?_program (line : String) :
    program.firstGroup? line = (ofLine? line).map fun marker => some marker.keyword := by
  rw [Program.firstGroup?]
  cases found : program.match? line.toList with
  | none =>
      have noMarker : ofLine? line = none := by
        rw [← Option.not_isSome_iff_eq_none, isSome_ofLine?_iff]
        rintro ⟨spelling⟩
        obtain ⟨way, isWay⟩ := spelling.exists_match?
        rw [found] at isWay
        contradiction
      rw [noMarker]
      rfl
  | some way =>
      obtain ⟨spelling, captured⟩ := exists_spelling_of_match? found
      rw [spelling.ofLine?_eq, Option.map_some, Option.map_some, captured]

/-! ## Whitespace at the ends does not count -/

theorem ofLine?_surrounded
    {front behind : List Char}
    (line : String)
    (spaces : ∀ c ∈ front ++ behind, Text.isSpace c = true) :
    ofLine? (String.ofList (front ++ (line.toList ++ behind))) = ofLine? line := by
  rw [ofLine?, ofLine?, String.toList_ofList, Text.stripSpaces_surrounded_iff.mpr spaces]

end Marker

namespace Trim

/-- Dropping blank lines in front drops no marker. -/
theorem filterMap_ofLine?_dropWhile (lines : List String) :
    (lines.dropWhile Text.isBlank).filterMap Marker.ofLine? = lines.filterMap Marker.ofLine? := by
  have blanks : (lines.takeWhile Text.isBlank).filterMap Marker.ofLine? = [] :=
    List.filterMap_eq_nil_iff.mpr fun line member =>
      Marker.ofLine?_of_isBlank (List.mem_takeWhile_imp member)
  conv_rhs => rw [← List.takeWhile_append_dropWhile (p := Text.isBlank) (l := lines)]
  rw [List.filterMap_append, blanks, List.nil_append]

/-- The markers among the kept lines are those among all lines. -/
theorem filterMap_ofLine?_lines
    (source : List String)
    (undented : Bool) :
    (lines source undented).filterMap Marker.ofLine? = source.filterMap Marker.ofLine? := by
  calc
    (lines source undented).filterMap Marker.ofLine?
        = (window source).filterMap Marker.ofLine? := by
      rw [lines_eq_map, List.filterMap_map]
      exact List.filterMap_congr fun line member => ofLine?_kept undented member
    _ = source.filterMap Marker.ofLine? := by
      rw [window, List.filterMap_reverse, filterMap_ofLine?_dropWhile, List.filterMap_reverse,
        List.reverse_reverse, filterMap_ofLine?_dropWhile]

end Trim

namespace Marker

open Pattern

/--
The pattern of a marker line has a program that matches a line exactly when the line spells a
marker. A line does so in one way at most, the group is the word, and the line is read as that
marker. Whitespace at the ends of a line makes no difference to this, so that neither trimming
nor undenting makes a marker or loses one.
-/
theorem pattern_grammar :
    ∃ program, Program.compile pattern.toList = .ok program ∧
      (∀ line : String,
        ((program.match? line.toList).isSome ↔ Nonempty (Spelling line)) ∧
        (∀ first second : Spelling line, first = second) ∧
        (∀ spelling : Spelling line,
          program.firstGroup? line = some (some spelling.marker.keyword)) ∧
        (program.firstGroup? line = (ofLine? line).map fun marker => some marker.keyword) ∧
        ∀ front behind,
          (∀ c ∈ front ++ behind, Text.isSpace c = true) →
            let padded := String.ofList (front ++ (line.toList ++ behind))
            program.firstGroup? padded = program.firstGroup? line ∧
              ofLine? padded = ofLine? line) ∧
      ∀ source undented,
        (Trim.lines source undented).filterMap program.firstGroup? =
          source.filterMap program.firstGroup? := by
  have groups : program.firstGroup? = fun line =>
      (ofLine? line).map fun marker => some marker.keyword := funext firstGroup?_program
  refine ⟨program, compile_pattern, fun line => ⟨?matched, Spelling.eq, ?found,
    firstGroup?_program line, ?padded⟩, ?trimmed⟩
  case matched =>
    constructor
    · intro matched
      obtain ⟨way, found⟩ := Option.isSome_iff_exists.mp matched
      exact ⟨(exists_spelling_of_match? found).choose⟩
    · rintro ⟨spelling⟩
      exact Option.isSome_iff_exists.mpr spelling.exists_match?
  case found =>
    intro spelling
    rw [firstGroup?_program, spelling.ofLine?_eq, Option.map_some]
  case padded =>
    intro front behind spaces
    have same := ofLine?_surrounded line spaces
    exact ⟨by rw [firstGroup?_program, firstGroup?_program, same], same⟩
  case trimmed =>
    intro source undented
    rw [groups, ← List.map_filterMap, ← List.map_filterMap, Trim.filterMap_ofLine?_lines]

end Marker

end CodeDeck
