import CodeDeck.Markup.Print
import CodeDeck.Proofs.Markup.Made
import CodeDeck.Proofs.Markup.Names
import Mathlib.Data.List.TakeWhile

namespace CodeDeck.Markup

open List

/-!
# Reading what has been written

The tokens of a written forest are those that its texts and elements are written
as. Escaping keeps the characters of markup out of texts and values, so every
bracket that is read is one of a tag, and every reference one of a character
that was escaped. Texts come in pieces, which is why tokens are compared by
what a reader makes of them.
-/

/-- A character of a name that is the same when the name has been written and read. -/
def isNameChar (c : Char) : Bool :=
  Scan.isTagChar c && Scan.isAttributeChar c && Text.lower c.toNat == c.toNat

/-- A name that is the same when it has been written and read. -/
def IsName (name : String) : Prop :=
  name ≠ "" ∧ ∀ c ∈ name.toList, isNameChar c = true

-- The instances are named: to decide a statement on all characters is not to be thought of.
instance (name : String) : Decidable (IsName name) :=
  @instDecidableAnd _ _ _ (List.decidableBAll _ name.toList)

example : IsName "abcdefghijklmnopqrstuvwxyz-0123456789" := by decide

/-! ## Values -/

namespace Reference

theorem decodeValue_plain
    {c : Char}
    (plain : c ≠ '&')
    (rest : List Char) :
    decodeValue (c :: rest) = c :: decodeValue rest := by
  rw [decodeValue]
  exact plain

theorem decodeValue_amp (rest : List Char) :
    decodeValue ('&' :: 'a' :: 'm' :: 'p' :: ';' :: rest) = '&' :: decodeValue rest := by
  rw [decodeValue]
  rfl

theorem decodeValue_lt (rest : List Char) :
    decodeValue ('&' :: 'l' :: 't' :: ';' :: rest) = '<' :: decodeValue rest := by
  rw [decodeValue]
  rfl

theorem decodeValue_gt (rest : List Char) :
    decodeValue ('&' :: 'g' :: 't' :: ';' :: rest) = '>' :: decodeValue rest := by
  rw [decodeValue]
  rfl

theorem decodeValue_quot (rest : List Char) :
    decodeValue ('&' :: 'q' :: 'u' :: 'o' :: 't' :: ';' :: rest) = '"' :: decodeValue rest := by
  rw [decodeValue]
  rfl

theorem decodeValue_escapeChar (c : Char) (rest : List Char) :
    decodeValue (escapeChar c ++ rest) = c :: decodeValue rest := by
  rw [escapeChar]
  split
  · rename_i isAmp
    rw [isAmp]
    exact decodeValue_amp rest
  · rename_i notAmp
    split
    · rename_i isLt
      rw [isLt]
      exact decodeValue_lt rest
    · split
      · rename_i isGt
        rw [isGt]
        exact decodeValue_gt rest
      · exact decodeValue_plain notAmp rest

/-- Escaping double quotes as well makes no difference to what is read. -/
theorem decodeValue_escapeQuote (c : Char) (rest : List Char) :
    decodeValue ((escapeChar c).flatMap escapeQuote ++ rest) = c :: decodeValue rest := by
  by_cases isQuote : c = '"'
  · subst isQuote
    exact decodeValue_quot rest
  · have unchanged : (escapeChar c).flatMap escapeQuote = escapeChar c := by
      rw [escapeChar]
      split
      · rfl
      · split
        · rfl
        · split
          · rfl
          · rw [List.flatMap_singleton, escapeQuote, if_neg isQuote]
    rw [unchanged]
    exact decodeValue_escapeChar c rest

theorem decodeValue_flatMap
    {encode : Char → List Char}
    (decodes : ∀ c rest, decodeValue (encode c ++ rest) = c :: decodeValue rest)
    (value : List Char) :
    decodeValue (value.flatMap encode) = value := by
  induction value with
  | nil => rw [List.flatMap_nil, decodeValue]
  | cons c rest inductionHypothesis =>
      rw [List.flatMap_cons, decodes, inductionHypothesis]

end Reference

theorem mem_escape
    {c : Char}
    {chars : List Char}
    (member : c ∈ escape chars) :
    c ∈ chars ∨ c ∈ "&;amplgt".toList := by
  obtain ⟨original, inChars, written⟩ := List.mem_flatMap.mp member
  rw [escapeChar] at written
  split at written
  · right
    simp only [List.mem_cons, List.not_mem_nil] at written
    rcases written with rfl | rfl | rfl | rfl | rfl | none <;> first | decide | contradiction
  · split at written
    · right
      simp only [List.mem_cons, List.not_mem_nil] at written
      rcases written with rfl | rfl | rfl | rfl | none <;> first | decide | contradiction
    · split at written
      · right
        simp only [List.mem_cons, List.not_mem_nil] at written
        rcases written with rfl | rfl | rfl | rfl | none <;> first | decide | contradiction
      · left
        rwa [List.mem_singleton.mp written]

theorem quote_not_mem_escapeQuote (chars : List Char) :
    '"' ∉ chars.flatMap escapeQuote := by
  intro member
  obtain ⟨original, -, written⟩ := List.mem_flatMap.mp member
  rw [escapeQuote] at written
  split at written
  · contradiction
  · rename_i notQuote
    exact notQuote (List.mem_singleton.mp written).symm

/-- A value stands between two quotes that are not inside of it, and is what stands there. -/
theorem exists_quoteValue (value : List Char) :
    ∃ quote inner,
      quoteValue value = quote :: (inner ++ [quote]) ∧
        (quote = '\'' ∨ quote = '"') ∧
        quote ∉ inner ∧
        Reference.decodeValue inner = value := by
  have decoded : Reference.decodeValue (escape value) = value :=
    Reference.decodeValue_flatMap Reference.decodeValue_escapeChar value
  rw [quoteValue]
  split
  · split
    · refine ⟨'"', _, rfl, .inr rfl, quote_not_mem_escapeQuote _, ?_⟩
      rw [escape, List.flatMap_assoc]
      exact Reference.decodeValue_flatMap Reference.decodeValue_escapeQuote value
    · rename_i noSingle
      refine ⟨'\'', _, rfl, .inl rfl, fun member => ?_, decoded⟩
      rcases mem_escape member with inValue | written
      · exact noSingle (List.contains_iff_mem.mpr inValue)
      · exact absurd written (by decide)
  · rename_i noDouble
    refine ⟨'"', _, rfl, .inr rfl, fun member => ?_, decoded⟩
    rcases mem_escape member with inValue | written
    · exact noDouble (List.contains_iff_mem.mpr inValue)
    · exact absurd written (by decide)

/-- Items that are each written as at least one character are no more than these. -/
theorem length_le_length_flatMap
    {item : Type}
    {write : item → List Char}
    (written : ∀ entry, write entry ≠ [])
    (items : List item) :
    items.length ≤ (items.flatMap write).length := by
  induction items with
  | nil => exact Nat.le_refl _
  | cons entry others inductionHypothesis =>
      rw [List.flatMap_cons, List.length_append, List.length_cons, Nat.add_comm]
      exact Nat.add_le_add (List.length_pos_iff.mpr (written entry)) inductionHypothesis

/-! ## Tags -/

namespace Scan

theorem upTo?_append
    {stop : Char}
    {chars : List Char}
    (absent : stop ∉ chars)
    (rest : List Char) :
    upTo? stop (chars ++ stop :: rest) = some (chars, rest) := by
  have passes : ∀ c ∈ chars, (c != stop) = true := fun c member =>
    bne_iff_ne.mpr fun same => absent (same ▸ member)
  rw [upTo?, List.dropWhile_append_of_pos passes, List.takeWhile_append_of_pos passes,
    List.dropWhile_cons_of_neg (by simp), List.takeWhile_cons_of_neg (by simp)]
  rw [List.append_nil]

theorem takeWhile_name
    {holds : Char → Bool}
    {name : List Char}
    {stop : Char}
    (allHold : ∀ c ∈ name, holds c = true)
    (stops : holds stop = false)
    (rest : List Char) :
    (name ++ stop :: rest).takeWhile holds = name ∧
      (name ++ stop :: rest).dropWhile holds = stop :: rest := by
  rw [List.takeWhile_append_of_pos allHold, List.dropWhile_append_of_pos allHold,
    List.takeWhile_cons_of_neg (by simp [stops]), List.dropWhile_cons_of_neg (by simp [stops]),
    List.append_nil]
  exact ⟨rfl, rfl⟩

theorem toList_ne_nil
    {name : String}
    (isName : IsName name) :
    name.toList ≠ [] := fun empty =>
  isName.1 (String.toList_eq_nil_iff.mp empty)

theorem lowerName_toList
    {name : String}
    (isName : IsName name) :
    lowerName name.toList = name := by
  have same : name.toList.map (fun c => Char.ofNat (Text.lower c.toNat)) = name.toList := by
    refine (List.map_congr_left fun c member => ?_).trans (List.map_id' _)
    have keeps := isName.2 c member
    simp only [isNameChar, Bool.and_eq_true, beq_iff_eq] at keeps
    rw [keeps.2, Char.ofNat_toNat]
  rw [lowerName, same, String.ofList_toList]

theorem isAttributeChar_of_isNameChar
    {c : Char}
    (nameChar : isNameChar c = true) :
    isAttributeChar c = true := by
  simp only [isNameChar, Bool.and_eq_true] at nameChar
  exact nameChar.1.2

theorem isTagChar_of_isNameChar
    {c : Char}
    (nameChar : isNameChar c = true) :
    isTagChar c = true := by
  simp only [isNameChar, Bool.and_eq_true] at nameChar
  exact nameChar.1.1

/-- What an attribute never starts with. -/
theorem attributeChar_cases
    {c : Char}
    (attributeChar : isAttributeChar c = true) :
    Text.isSpace c = false ∧ c ≠ '/' ∧ c ≠ '=' ∧ c ≠ '>' := by
  simpa [isAttributeChar, and_assoc] using attributeChar

theorem skipGap_of_attributeChar
    {c : Char}
    (attributeChar : isAttributeChar c = true)
    (rest : List Char) :
    skipGap (c :: rest) = c :: rest := by
  obtain ⟨notSpace, notSlash, -, -⟩ := attributeChar_cases attributeChar
  rw [skipGap, notSpace, if_neg Bool.false_ne_true, if_neg fun both => notSlash both.1]

theorem skipGap_space (rest : List Char) : skipGap (' ' :: rest) = skipGap rest :=
  rfl

theorem skipGap_bracket (rest : List Char) : skipGap ('>' :: rest) = '>' :: rest :=
  rfl

theorem readValue_quoteValue (value rest : List Char) :
    ∃ inner,
      readValue ('=' :: (quoteValue value ++ rest)) = (some inner, rest, true) ∧
        Reference.decodeValue inner = value := by
  obtain ⟨quote, inner, written, isQuote, absent, decoded⟩ := exists_quoteValue value
  refine ⟨inner, ?_, decoded⟩
  have notSign : (quote == '=') = false := by rcases isQuote with rfl | rfl <;> rfl
  have notSpace : Text.isSpace quote = false := by rcases isQuote with rfl | rfl <;> rfl
  have found := upTo?_append absent rest
  rw [written, readValue, List.dropWhile_cons_of_neg (by decide)]
  simp only [List.cons_append, List.append_assoc, List.nil_append, notSign, List.dropWhile_cons,
    notSpace, Bool.false_eq_true, if_false, if_pos isQuote, found]

theorem readAttributes_write
    {attributes : List Attribute}
    {fuel : Nat}
    {before : Char}
    (names : ∀ entry ∈ attributes, IsName entry.name)
    (enough : attributes.length < fuel)
    (apart : attributes ≠ [] → isApart before = true)
    (rest : List Char) :
    readAttributes fuel before
        (skipGap (attributes.flatMap Attribute.write ++ '>' :: rest)) =
      (attributes, '>' :: rest) := by
  induction attributes generalizing fuel before with
  | nil =>
      match fuel with
      | fuel + 1 =>
          rw [List.flatMap_nil, List.nil_append, skipGap_bracket, readAttributes]
          simp
  | cons entry others inductionHypothesis =>
      match fuel with
      | fuel + 1 =>
          obtain ⟨isName, otherNames⟩ := List.forall_mem_cons.mp names
          obtain ⟨c, nameRest, nameIs⟩ := List.exists_cons_of_ne_nil (toList_ne_nil isName)
          let more := others.flatMap Attribute.write ++ '>' :: rest
          obtain ⟨inner, valueRead, decoded⟩ := readValue_quoteValue entry.value.toList more
          have nameChars : ∀ d ∈ c :: nameRest, isAttributeChar d = true := fun d member =>
            isAttributeChar_of_isNameChar (isName.2 d (nameIs ▸ member))
          obtain ⟨firstChar, restChars⟩ := List.forall_mem_cons.mp nameChars
          obtain ⟨notSpace, notSlash, -, notBracket⟩ := attributeChar_cases firstChar
          obtain ⟨nameTaken, nameDropped⟩ :=
            takeWhile_name restChars (show isAttributeChar '=' = false from rfl)
              (quoteValue entry.value.toList ++ more)
          have written : (entry :: others).flatMap Attribute.write ++ '>' :: rest =
              ' ' :: c :: (nameRest ++ '=' :: (quoteValue entry.value.toList ++ more)) := by
            simp [Attribute.write, nameIs, more]
          have starts : (!isApart before || c == '>' || c == '/' || Text.isSpace c) = false := by
            simp [apart (List.cons_ne_nil _ _), notSpace, notSlash, notBracket]
          rw [written, skipGap_space, skipGap_of_attributeChar firstChar, readAttributes]
          simp only [starts, Bool.false_eq_true, if_false, nameTaken, nameDropped, valueRead,
            if_true]
          rw [inductionHypothesis otherNames (Nat.lt_of_succ_lt_succ enough) (fun _ => by
            split <;> rfl)]
          rw [← nameIs, lowerName_toList isName, Option.getD_some, decoded, String.ofList_toList]

theorem length_skipGap_le (chars : List Char) : (skipGap chars).length ≤ chars.length := by
  induction chars with
  | nil => exact Nat.le_refl _
  | cons c rest inductionHypothesis =>
      rw [skipGap]
      split
      · exact Nat.le_succ_of_le inductionHypothesis
      · split
        · exact Nat.le_succ_of_le inductionHypothesis
        · exact Nat.le_refl _

theorem startTag_write
    {name : String}
    {attributes : List Attribute}
    (isName : IsName name)
    (names : ∀ entry ∈ attributes, IsName entry.name)
    (rest : List Char) :
    startTag (name.toList ++ (attributes.flatMap Attribute.write ++ '>' :: rest)) =
      .tag name.toList attributes false rest := by
  let behind := attributes.flatMap Attribute.write ++ '>' :: rest
  have tagChars : ∀ c ∈ name.toList, isTagChar c = true := fun c member =>
    isTagChar_of_isNameChar (isName.2 c member)
  obtain ⟨nameTaken, nameDropped⟩ :
      (name.toList ++ behind).takeWhile isTagChar = name.toList ∧
        (name.toList ++ behind).dropWhile isTagChar = behind := by
    cases attributes with
    | nil => exact takeWhile_name tagChars (by decide) rest
    | cons entry others => exact takeWhile_name tagChars (by decide) _
  have enough : attributes.length < (name.toList ++ behind).length := by
    have written (entry : Attribute) : entry.write ≠ [] := by simp [Attribute.write]
    have atLeast := length_le_length_flatMap written attributes
    simp only [behind, List.length_append, List.length_cons]
    omega
  have apart : attributes ≠ [] →
      isApart (if (skipGap behind).length < behind.length then ' '
        else name.toList.getLastD 'a') = true := by
    intro notEmpty
    obtain ⟨entry, others, rfl⟩ := List.exists_cons_of_ne_nil notEmpty
    have shorter : (skipGap behind).length < behind.length := by
      have skipped := length_skipGap_le (behind.drop 1)
      exact Nat.lt_succ_of_le skipped
    rw [if_pos shorter]
    rfl
  have attributesRead := readAttributes_write names enough apart rest
  show startTag (name.toList ++ behind) = _
  rw [startTag]
  simp only [nameTaken, nameDropped]
  rw [attributesRead]
  rfl

theorem angle_of_isAlpha
    {c : Char}
    {chars others name rest : List Char}
    {attributes : List Attribute}
    (opens : chars = c :: others)
    (letter : c.isAlpha = true)
    (notRaw : isRaw (lowerName name) = false)
    (found : startTag chars = .tag name attributes false rest) :
    angle chars = .go [.startTag (lowerName name) attributes false] rest none := by
  subst opens
  rw [angle.eq_def]
  split
  · contradiction
  · rename_i same
    injection same with isSlash
    exact absurd letter (by rw [isSlash]; decide)
  · rename_i same
    injection same with isMark
    exact absurd letter (by rw [isMark]; decide)
  · rename_i same
    injection same with isMark
    exact absurd letter (by rw [isMark]; decide)
  · rename_i same
    injection same with isMark
    exact absurd letter (by rw [isMark]; decide)
  · rename_i same
    injection same with sameChar sameChars
    subst sameChar sameChars
    rw [if_pos letter, found]
    simp [notRaw]

/-- An end tag without blanks is read as it is, or left to the reader of other end tags. -/
theorem plainEndTag?_name
    {c : Char}
    {name nameRest : List Char}
    (nameIs : name = c :: nameRest)
    (letter : c.isAlpha = true)
    (nameChars : ∀ d ∈ name, isAttributeChar d = true)
    (rest : List Char) :
    plainEndTag? (name ++ '>' :: rest) = some (name, rest) ∨
      plainEndTag? (name ++ '>' :: rest) = none := by
  have starts : name ++ '>' :: rest = c :: (nameRest ++ '>' :: rest) := by
    rw [nameIs]
    rfl
  have notSpace : Text.isSpace c = false :=
    (attributeChar_cases (nameChars c (nameIs ▸ List.mem_cons_self ..))).1
  have start : (c :: (nameRest ++ '>' :: rest)).dropWhile Text.isSpace =
      c :: (nameRest ++ '>' :: rest) :=
    List.dropWhile_cons_of_neg (by simp [notSpace])
  cases dropped : name.dropWhile isEndTagChar with
  | nil =>
      obtain ⟨taken, droppedAll⟩ :=
        takeWhile_name (List.dropWhile_eq_nil_iff.mp dropped)
          (show isEndTagChar '>' = false by decide) rest
      left
      rw [starts] at taken droppedAll ⊢
      rw [plainEndTag?, start]
      refine (if_pos letter).trans ?_
      rw [taken, droppedAll]
      rfl
  | cons d others =>
      have member : d ∈ name :=
        (List.dropWhile_suffix isEndTagChar).subset (dropped ▸ List.mem_cons_self ..)
      obtain ⟨notSpace, -, -, notBracket⟩ := attributeChar_cases (nameChars d member)
      have droppedSome : (name ++ '>' :: rest).dropWhile isEndTagChar =
          d :: (others ++ '>' :: rest) := by
        rw [List.dropWhile_append, dropped, List.isEmpty_cons, if_neg Bool.false_ne_true,
          List.cons_append]
      right
      rw [starts] at droppedSome ⊢
      rw [plainEndTag?, start]
      refine (if_pos letter).trans ?_
      rw [droppedSome, List.dropWhile_cons_of_neg (by simp [notSpace])]
      split
      · rename_i same
        injection same with isBracket
        exact absurd isBracket notBracket
      · rfl

/-- The end tag of an element is read, whatever characters are in its name. -/
theorem angle_endTag
    {name : String}
    (isName : IsName name)
    (letterFirst : StartsWithLetter name)
    (rest : List Char) :
    angle ('/' :: (name.toList ++ '>' :: rest)) = .go [.endTag name] rest none := by
  obtain ⟨c, nameRest, nameIs, letter⟩ := letterFirst
  have nameChars : ∀ d ∈ name.toList, isTagChar d = true ∧ isAttributeChar d = true :=
    fun d member => ⟨isTagChar_of_isNameChar (isName.2 d member),
      isAttributeChar_of_isNameChar (isName.2 d member)⟩
  have notBracket : '>' ∉ name.toList := fun member =>
    absurd (nameChars '>' member).1 (by decide)
  have tagTaken := (takeWhile_name (fun d member => (nameChars d member).1)
    (show isTagChar '>' = false from rfl) rest).1
  have plain := plainEndTag?_name nameIs letter (fun d member => (nameChars d member).2) rest
  rw [angle, endTag, upTo?_append notBracket]
  rcases plain with asItIs | other
  · simp only [asItIs, lowerName_toList isName]
  · simp only [other]
    have written : name.toList ++ '>' :: rest = c :: (nameRest ++ '>' :: rest) := by
      rw [nameIs, List.cons_append]
    split
    · rename_i same
      rw [written] at same
      injection same with isBracket
      exact absurd letter (by rw [isBracket]; decide)
    · rename_i same
      rw [written] at same
      injection same with sameChar
      rw [← sameChar, if_pos letter, tagTaken, lowerName_toList isName]
    · rename_i same
      rw [written] at same
      contradiction

/-- A character that is text wherever it stands between tags. -/
def isText (c : Char) : Bool :=
  !(c == '<' || c == '&')

/-- The tokens from the next bracket or reference on. -/
def openedTokens (fuel : Nat) (ending : Bool) : List Char → Except Rejection (List Token)
  | [] => .ok []
  | opener :: rest =>
      match if opener = '<' then angle rest else ampersand ending rest with
      | .go tokens rest raw => (tokensFrom fuel ending raw rest).map (tokens ++ ·)
      | .stop tokens rest =>
          if ending then .ok (tokens ++ textToken rest)
          else (tokensFrom fuel true none rest).map (tokens ++ ·)
      | .stalled =>
          if ending then
            (tokensFrom fuel ending none (stalledText (opener :: rest)).2).map
              (textToken (stalledText (opener :: rest)).1 ++ ·)
          else
            tokensFrom fuel true none (opener :: rest)
      | .rejected rejection => .error rejection

theorem map_append_append
    (first second : List Token)
    (others : Except Rejection (List Token)) :
    (others.map (second ++ ·)).map (first ++ ·) = others.map (first ++ second ++ ·) := by
  cases others with
  | error rejection => rfl
  | ok tokens => exact congrArg Except.ok (List.append_assoc ..).symm

theorem tokensFrom_succ (fuel : Nat) (ending : Bool) (chars : List Char) :
    tokensFrom (fuel + 1) ending none chars =
      (openedTokens fuel ending (chars.dropWhile isText)).map
        (textToken (chars.takeWhile isText) ++ ·) := by
  rw [tokensFrom]
  show (match chars.dropWhile isText with
    | [] => _
    | opener :: rest => _) = _
  cases chars.dropWhile isText with
  | nil => exact congrArg Except.ok (List.append_nil _).symm
  | cons opener rest =>
      simp only [openedTokens]
      cases (if opener = '<' then angle rest else ampersand ending rest) with
      | go tokens rest raw => exact (map_append_append _ _ _).symm
      | stop tokens rest =>
          cases ending with
          | false => exact (map_append_append _ _ _).symm
          | true => exact congrArg Except.ok (List.append_assoc ..)
      | stalled =>
          cases ending with
          | false => rfl
          | true => exact (map_append_append _ _ _).symm
      | rejected rejection => rfl

end Scan

namespace Builder

/-- What a reader makes of the characters from here on. -/
def read (fuel : Nat) (builder : Builder) (chars : List Char) : Except Rejection Builder :=
  (Scan.tokensFrom fuel false none chars).map fun tokens => tokens.foldl step builder

variable {fuel : Nat} {builder : Builder} {chars rest : List Char}

theorem step_text_nil (builder : Builder) : builder.step (.text []) = builder := by
  rw [step, List.append_nil]

theorem step_text_append (builder : Builder) (first second : List Char) :
    builder.step (.text (first ++ second)) = (builder.step (.text first)).step (.text second) := by
  simp only [step, List.append_assoc]

theorem foldl_step_textToken (builder : Builder) (chars : List Char) :
    (Scan.textToken chars).foldl step builder = builder.step (.text chars) := by
  rw [Scan.textToken]
  split
  · rename_i empty
    rw [List.isEmpty_iff.mp empty, step_text_nil]
    rfl
  · rfl

theorem read_eq (fuel : Nat) (builder : Builder) (chars : List Char) :
    builder.read (fuel + 1) chars =
      (Scan.openedTokens fuel false (chars.dropWhile Scan.isText)).map fun tokens =>
        tokens.foldl step (builder.step (.text (chars.takeWhile Scan.isText))) := by
  rw [read, Scan.tokensFrom_succ]
  cases Scan.openedTokens fuel false (chars.dropWhile Scan.isText) with
  | error rejection => rfl
  | ok tokens =>
      have folded : (Scan.textToken (chars.takeWhile Scan.isText) ++ tokens).foldl step builder =
          tokens.foldl step (builder.step (.text (chars.takeWhile Scan.isText))) := by
        rw [List.foldl_append, foldl_step_textToken]
      exact congrArg Except.ok folded

theorem read_nil : builder.read (fuel + 1) [] = .ok builder := by
  rw [read_eq]
  exact congrArg Except.ok (step_text_nil builder)

theorem read_text
    {c : Char}
    (plain : Scan.isText c = true) :
    builder.read (fuel + 1) (c :: rest) = (builder.step (.text [c])).read (fuel + 1) rest := by
  rw [read_eq, read_eq, List.dropWhile_cons_of_pos plain, List.takeWhile_cons_of_pos plain,
    ← step_text_append]
  rfl

theorem read_go
    {opener : Char}
    {tokens : List Token}
    {behind : List Char}
    (opens : Scan.isText opener = false)
    (found : (if opener = '<' then Scan.angle behind else Scan.ampersand false behind) =
      .go tokens rest none) :
    builder.read (fuel + 1) (opener :: behind) = (tokens.foldl step builder).read fuel rest := by
  rw [read_eq, List.dropWhile_cons_of_neg (by simp [opens]),
    List.takeWhile_cons_of_neg (by simp [opens]), step_text_nil, Scan.openedTokens, found, read]
  dsimp only
  cases Scan.tokensFrom fuel false none rest with
  | error rejection => rfl
  | ok others => exact congrArg Except.ok (List.foldl_append ..)

theorem read_angle
    {tokens : List Token}
    {behind : List Char}
    (found : Scan.angle behind = .go tokens rest none) :
    builder.read (fuel + 1) ('<' :: behind) = (tokens.foldl step builder).read fuel rest :=
  read_go rfl ((if_pos rfl).trans found)

theorem read_escapeChar (c : Char) :
    builder.read (fuel + (escapeChar c).count '&' + 1) (escapeChar c ++ rest) =
      (builder.step (.text [c])).read (fuel + 1) rest := by
  have reference {opened : List Char}
      (found : Scan.ampersand false opened = .go [.text [c]] rest none) :
      builder.read (fuel + 1 + 1) ('&' :: opened) =
        (builder.step (.text [c])).read (fuel + 1) rest :=
    read_go (rfl : Scan.isText '&' = false) found
  rw [escapeChar]
  split
  · rename_i isAmp
    subst isAmp
    exact reference rfl
  · rename_i notAmp
    split
    · rename_i isLt
      subst isLt
      exact reference rfl
    · rename_i notLt
      split
      · rename_i isGt
        subst isGt
        exact reference rfl
      · have noReference : [c].count '&' = 0 :=
          List.count_eq_zero.mpr fun member => notAmp (List.mem_singleton.mp member).symm
        rw [noReference]
        exact read_text (by simp [Scan.isText, notAmp, notLt])

/-- An escaped text is read as the text. -/
theorem read_escape (chars : List Char) :
    builder.read (fuel + (escape chars).count '&' + 1) (escape chars ++ rest) =
      (builder.step (.text chars)).read (fuel + 1) rest := by
  induction chars generalizing builder with
  | nil =>
      rw [step_text_nil]
      rfl
  | cons c others inductionHypothesis =>
      have written : escape (c :: others) = escapeChar c ++ escape others := List.flatMap_cons
      have sameFuel : fuel + (escape (c :: others)).count '&' + 1 =
          fuel + (escape others).count '&' + (escapeChar c).count '&' + 1 := by
        rw [written, List.count_append]
        omega
      rw [sameFuel, written, List.append_assoc, read_escapeChar, inductionHypothesis,
        ← step_text_append]
      rfl

end Builder

/-! ## Written forests -/

mutual

/-- The tokens that a part is written as. -/
def Node.tokens : Node → List Token
  | .text _ content => [.text content.toList]
  | .element tag children =>
      .startTag tag.name (sortAttributes tag.attributes) false ::
        (Forest.tokens children ++ [.endTag tag.name])

/-- The tokens that a forest is written as. -/
def Forest.tokens : List Node → List Token
  | [] => []
  | node :: nodes => node.tokens ++ Forest.tokens nodes

end

mutual

/-- How many brackets and references a part is written with. -/
def Node.openers : Node → Nat
  | .text _ content => (escape content.toList).count '&'
  | .element _ children => Forest.openers children + 2

/-- How many brackets and references a forest is written with. -/
def Forest.openers : List Node → Nat
  | [] => 0
  | node :: nodes => node.openers + Forest.openers nodes

end

/-- An element that is read as it is written, with nothing but plain texts directly in it. -/
structure Tag.Writable (tag : Tag) : Prop where
  name : IsName tag.name
  startsWithLetter : StartsWithLetter tag.name
  notVoid : isVoid tag.name = false
  ordinary : textKindIn? tag.name = none
  attributes : ∀ entry ∈ tag.attributes, IsName entry.name
  distinctNames : (attributeNames tag.attributes).Nodup

theorem isRaw_of_ordinary
    {name : String}
    (ordinary : textKindIn? name = none) :
    isRaw name = false := by
  by_contra raw
  simp only [isRaw, Bool.not_eq_false, Bool.or_eq_true, beq_iff_eq] at raw
  rcases raw with rfl | rfl
  · exact absurd ordinary (by decide)
  · exact absurd ordinary (by decide)

theorem Tag.angle_write
    {tag : Tag}
    (writable : tag.Writable)
    (rest : List Char) :
    Scan.angle (tag.write ++ '>' :: rest) =
      .go [.startTag tag.name (sortAttributes tag.attributes) false] rest none := by
  obtain ⟨c, nameRest, nameIs, letter⟩ := writable.startsWithLetter
  have names : ∀ entry ∈ sortAttributes tag.attributes, IsName entry.name := fun entry member =>
    writable.attributes entry (List.mem_mergeSort.mp member)
  have found := Scan.startTag_write writable.name names rest
  have lowered := Scan.lowerName_toList writable.name
  have notRaw : isRaw (Scan.lowerName tag.name.toList) = false := by
    rw [lowered]
    exact isRaw_of_ordinary writable.ordinary
  have opens : tag.name.toList ++
      ((sortAttributes tag.attributes).flatMap Attribute.write ++ '>' :: rest) =
        c :: (nameRest ++
          ((sortAttributes tag.attributes).flatMap Attribute.write ++ '>' :: rest)) := by
    rw [nameIs, List.cons_append]
  have read := Scan.angle_of_isAlpha opens letter notRaw found
  rw [lowered] at read
  rw [Tag.write, List.append_assoc, read]

/-- A text that is read as it is written, or an empty one. -/
def IsWritableText (kind : TextKind) (content : String) : Prop :=
  kind = .plain ∧ (content = "" ∨ ∃ c ∈ content.toList, Builder.isFoldable c = false)

/-- A forest that is read as it is written. -/
def Forest.Writable (forest : Forest) : Prop :=
  Forest.Made Tag.Writable IsWritableText forest

namespace Forest

variable {kind : TextKind} {content : String} {tag : Tag} {forest children nodes : Forest}

theorem tokens_text :
    tokens (.text kind content :: nodes) = .text content.toList :: tokens nodes :=
  rfl

theorem tokens_element :
    tokens (.element tag children :: nodes) =
      .startTag tag.name (sortAttributes tag.attributes) false ::
        (tokens children ++ .endTag tag.name :: tokens nodes) := by
  simp [tokens, Node.tokens]

theorem openers_element :
    openers (.element tag children :: nodes) = openers children + 2 + openers nodes :=
  rfl

theorem write_text :
    write false (.text .plain content :: nodes) =
      escape content.toList ++ write false nodes :=
  rfl

theorem write_element
    (writable : tag.Writable) :
    write false (.element tag children :: nodes) =
      '<' :: (tag.write ++ '>' :: (write false children ++
        '<' :: '/' :: (tag.name.toList ++ '>' :: write false nodes))) := by
  simp [write, Node.write, writable.notVoid, isRaw_of_ordinary writable.ordinary]

/-- What is written is read as the tokens that it is written as. -/
theorem read_write
    {fuel : Nat}
    {builder : Builder}
    {rest : List Char}
    (writable : Writable forest) :
    builder.read (fuel + openers forest + 1) (write false forest ++ rest) =
      ((tokens forest).foldl Builder.step builder).read (fuel + 1) rest := by
  induction forest using Forest.induction generalizing fuel builder rest with
  | nil => rfl
  | text kind content nodes ofNodes =>
      obtain ⟨⟨rfl, -⟩, -, nodesWritable⟩ := writable
      have text := @Builder.read_escape (fuel + openers nodes) builder
        (write false nodes ++ rest) content.toList
      rw [write_text, List.append_assoc, tokens_text, List.foldl_cons,
        ← ofNodes nodesWritable, ← text]
      refine congrArg (fun fuel => builder.read fuel _) ?_
      simp only [openers, Node.openers]
      omega
  | element tag children nodes ofChildren ofNodes =>
      obtain ⟨⟨tagWritable, childrenWritable⟩, -, nodesWritable⟩ := writable
      let behind := write false nodes ++ rest
      let closing := '<' :: '/' :: (tag.name.toList ++ '>' :: behind)
      let opened := builder.step (.startTag tag.name (sortAttributes tag.attributes) false)
      let filled := (tokens children).foldl Builder.step opened
      have startFound := tag.angle_write tagWritable (write false children ++ closing)
      have endFound := Scan.angle_endTag tagWritable.name tagWritable.startsWithLetter behind
      have written : write false (.element tag children :: nodes) ++ rest =
          '<' :: (tag.write ++ '>' :: (write false children ++ closing)) := by
        simp [write_element tagWritable, closing, behind]
      have sameFuel : fuel + openers (.element tag children :: nodes) + 1 =
          fuel + openers nodes + 1 + openers children + 1 + 1 := by
        rw [openers_element]
        omega
      calc
        builder.read (fuel + openers (.element tag children :: nodes) + 1)
            (write false (.element tag children :: nodes) ++ rest)
          = opened.read (fuel + openers nodes + 1 + openers children + 1)
              (write false children ++ closing) := by
            rw [written, sameFuel]
            exact Builder.read_angle startFound
        _ = filled.read (fuel + openers nodes + 1 + 1) closing := ofChildren childrenWritable
        _ = (filled.step (.endTag tag.name)).read (fuel + openers nodes + 1) behind :=
            Builder.read_angle endFound
        _ = ((tokens nodes).foldl Builder.step (filled.step (.endTag tag.name))).read
              (fuel + 1) rest := ofNodes nodesWritable
        _ = ((tokens (.element tag children :: nodes)).foldl Builder.step builder).read
              (fuel + 1) rest := by
            rw [tokens_element, List.foldl_cons, List.foldl_append, List.foldl_cons]

theorem openers_le_length_write
    (writable : Writable forest) :
    openers forest ≤ (write false forest).length := by
  induction forest using Forest.induction with
  | nil => exact Nat.le_refl _
  | text kind content nodes ofNodes =>
      obtain ⟨⟨rfl, -⟩, -, nodesWritable⟩ := writable
      rw [write_text, List.length_append]
      exact Nat.add_le_add List.count_le_length (ofNodes nodesWritable)
  | element tag children nodes ofChildren ofNodes =>
      obtain ⟨⟨tagWritable, childrenWritable⟩, -, nodesWritable⟩ := writable
      have inChildren := ofChildren childrenWritable
      have inNodes := ofNodes nodesWritable
      rw [openers_element, write_element tagWritable]
      simp only [List.length_cons, List.length_append]
      omega

/-- A written forest is parsed as the tokens that it is written as. -/
theorem parse_write_eq_ofTokens
    (writable : Writable forest) :
    parse (write false forest) = .ok (ofTokens (tokens forest)) := by
  let page := write false forest
  have enough : openers forest ≤ page.length := openers_le_length_write writable
  have read := @read_write forest (2 * page.length + 1 - openers forest) .initial [] writable
  have fuel_eq : 2 * page.length + 1 - openers forest + openers forest + 1 =
      2 * page.length + 2 := by
    omega
  rw [List.append_nil, fuel_eq, Builder.read_nil] at read
  rw [Builder.read] at read
  rw [parse, Scan.tokens]
  cases found : Scan.tokensFrom (2 * page.length + 2) false none page with
  | error rejection =>
      rw [found] at read
      contradiction
  | ok readTokens =>
      rw [found] at read
      injection read with sameBuilder
      exact congrArg (fun builder => Except.ok (Builder.finish builder)) sameBuilder

end Forest

end CodeDeck.Markup
