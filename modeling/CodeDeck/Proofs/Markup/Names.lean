import CodeDeck.Proofs.Markup.Attributes
import CodeDeck.Proofs.Markup.Numbering

namespace CodeDeck.Markup

open List

/-!
# The names on a page

What every element has that is read from a page: its name starts with a letter,
since otherwise no tag starts, and its attributes have distinct names, since a
later one of the same name takes the place of an earlier one.
-/

/-- Whether a name starts with a letter. -/
def StartsWithLetter (name : String) : Prop :=
  ∃ c rest, name.toList = c :: rest ∧ c.isAlpha = true

namespace Scan

/-- The tokens that a step of reading finds. -/
def Move.tokens : Move → List Token
  | .go tokens _ _ => tokens
  | .stop tokens _ => tokens
  | .stalled => []
  | .rejected _ => []

/-- The start tags among some tokens have names that start with a letter. -/
def LettersFirst (tokens : List Token) : Prop :=
  ∀ name attributes closed, .startTag name attributes closed ∈ tokens → StartsWithLetter name

theorem lettersFirst_of_none
    {tokens : List Token}
    (noStart : ∀ token ∈ tokens, ∀ name attributes closed,
      token ≠ .startTag name attributes closed) :
    LettersFirst tokens :=
  fun name attributes closed member => absurd rfl (noStart _ member name attributes closed)

theorem isAlpha_lower
    {c : Char}
    (letter : c.isAlpha = true) :
    (Char.ofNat (Text.lower c.toNat)).isAlpha = true := by
  have below : c.toNat < 128 := by
    have upperOrLower : c.isUpper = true ∨ c.isLower = true := (Bool.or_eq_true _ _).mp letter
    rcases upperOrLower with upper | lower
    · have last : c.val ≤ 'Z'.val := (of_decide_eq_true upper).2
      exact Nat.lt_of_le_of_lt (UInt32.le_iff_toNat_le.mp last) (by decide)
    · have last : c.val ≤ 'z'.val := of_decide_eq_true (Bool.and_eq_true_iff.mp lower).2
      exact Nat.lt_of_le_of_lt (UInt32.le_iff_toNat_le.mp last) (by decide)
  have all : ∀ code < 128, (Char.ofNat code).isAlpha = true →
      (Char.ofNat (Text.lower code)).isAlpha = true := by
    decide +kernel
  refine all c.toNat below ?_
  rwa [Char.ofNat_toNat]

theorem startsWithLetter_lowerName
    {c : Char}
    {rest : List Char}
    (letter : c.isAlpha = true) :
    StartsWithLetter (lowerName (c :: rest)) :=
  ⟨_, _, String.toList_ofList, isAlpha_lower letter⟩

theorem lettersFirst_nil : LettersFirst [] :=
  fun _ _ _ member => nomatch member

theorem LettersFirst.append
    {first second : List Token}
    (firstLetters : LettersFirst first)
    (secondLetters : LettersFirst second) :
    LettersFirst (first ++ second) := by
  intro name attributes closed member
  rcases List.mem_append.mp member with inFirst | inSecond
  · exact firstLetters name attributes closed inFirst
  · exact secondLetters name attributes closed inSecond

theorem lettersFirst_text (chars : List Char) : LettersFirst [.text chars] :=
  lettersFirst_of_none (by simp)

theorem lettersFirst_textToken (chars : List Char) : LettersFirst (textToken chars) := by
  rw [textToken]
  split
  · exact lettersFirst_nil
  · exact lettersFirst_text chars

theorem lettersFirst_special (kind : TextKind) (chars : List Char) :
    LettersFirst [.special kind chars] :=
  lettersFirst_of_none (by simp)

theorem lettersFirst_endTag (name : String) : LettersFirst [.endTag name] :=
  lettersFirst_of_none (by simp)

theorem lettersFirst_upToBracket (kind : TextKind) (skipped : Nat) (chars : List Char) :
    LettersFirst (upToBracket kind skipped chars).tokens := by
  rw [upToBracket]
  split
  · exact lettersFirst_special _ _
  · exact lettersFirst_nil

theorem lettersFirst_sectionToken (content : List Char) :
    LettersFirst [sectionToken content] := by
  rw [sectionToken]
  split
  · exact lettersFirst_special _ _
  · exact lettersFirst_special _ _

theorem lettersFirst_markedSection (chars : List Char) :
    LettersFirst (markedSection chars).tokens := by
  rw [markedSection.eq_def]
  split
  · exact lettersFirst_nil
  · split
    · dsimp only
      split
      · exact lettersFirst_nil
      · split
        · exact lettersFirst_nil
        · split
          · exact lettersFirst_sectionToken _
          · exact lettersFirst_nil
    · exact lettersFirst_nil

theorem lettersFirst_declaration (chars : List Char) :
    LettersFirst (declaration chars).tokens := by
  rw [declaration.eq_def]
  split
  · exact lettersFirst_markedSection _
  · split
    · exact lettersFirst_upToBracket _ _ _
    · exact lettersFirst_upToBracket _ _ _

theorem lettersFirst_endTagMove (chars : List Char) :
    LettersFirst (endTag chars).tokens := by
  rw [endTag]
  split
  · exact lettersFirst_nil
  · split
    · exact lettersFirst_endTag _
    · split
      · exact lettersFirst_nil
      · split
        · exact lettersFirst_endTag _
        · exact lettersFirst_special _ _
      · exact lettersFirst_nil

theorem isTagChar_of_isAlpha
    {c : Char}
    (letter : c.isAlpha = true) :
    isTagChar c = true := by
  by_contra notTag
  simp only [isTagChar, Bool.not_eq_true, Bool.not_eq_false', Bool.or_eq_true, beq_iff_eq]
    at notTag
  rcases notTag with ((((((rfl | rfl) | rfl) | rfl) | rfl) | rfl) | rfl) | rfl <;>
    exact absurd letter (by decide)

/-- A start tag starts with a letter, and with that its name. -/
theorem exists_name_of_startTag
    {c : Char}
    {chars name rest : List Char}
    {attributes : List Attribute}
    {closed : Bool}
    (letter : c.isAlpha = true)
    (found : startTag (c :: chars) = .tag name attributes closed rest) :
    ∃ others, name = c :: others := by
  have isName : name = (c :: chars).takeWhile isTagChar := by
    rw [startTag] at found
    dsimp only at found
    split at found
    · injection found with sameName
      exact sameName.symm
    · injection found with sameName
      exact sameName.symm
    · contradiction
    · contradiction
    · contradiction
  rw [List.takeWhile_cons, if_pos (isTagChar_of_isAlpha letter)] at isName
  exact ⟨_, isName⟩

theorem lettersFirst_angle (chars : List Char) :
    LettersFirst (angle chars).tokens := by
  rw [angle.eq_def]
  split
  · exact lettersFirst_nil
  · exact lettersFirst_endTagMove _
  · split
    · exact lettersFirst_special _ _
    · exact lettersFirst_nil
  · exact lettersFirst_upToBracket _ _ _
  · exact lettersFirst_declaration _
  · split
    · rename_i letter
      split
      · rename_i found
        obtain ⟨others, rfl⟩ := exists_name_of_startTag letter found
        intro name attributes closed member
        rw [Move.tokens, List.mem_singleton] at member
        injection member with sameName
        rw [sameName]
        exact startsWithLetter_lowerName letter
      · exact lettersFirst_nil
      · exact lettersFirst_text _
    · exact lettersFirst_text _

theorem lettersFirst_ampersand (ending : Bool) (chars : List Char) :
    LettersFirst (ampersand ending chars).tokens := by
  rw [ampersand.eq_def]
  repeat' split
  all_goals first
    | exact lettersFirst_nil
    | exact lettersFirst_text _

theorem exists_of_bind_eq_ok
    {failure first second : Type}
    {before : Except failure first}
    {next : first → Except failure second}
    {result : second}
    (done : before.bind next = .ok result) :
    ∃ value, before = .ok value ∧ next value = .ok result := by
  cases before with
  | error problem => contradiction
  | ok value => exact ⟨value, rfl, done⟩

theorem lettersFirst_tokensFrom
    {fuel : Nat}
    {ending : Bool}
    {raw : Option (List Char)}
    {chars : List Char}
    {tokens : List Token}
    (read : tokensFrom fuel ending raw chars = .ok tokens) :
    LettersFirst tokens := by
  induction fuel generalizing ending raw chars tokens with
  | zero =>
      cases read
      exact lettersFirst_nil
  | succ fuel inductionHypothesis =>
      cases raw with
      | some name =>
          rw [tokensFrom] at read
          split at read
          · cases read
            exact lettersFirst_nil
          · obtain ⟨more, moreRead, done⟩ := exists_of_bind_eq_ok read
            cases done
            exact (lettersFirst_textToken _).append
              (.append (lettersFirst_endTag _) (inductionHypothesis moreRead))
      | none =>
          rw [tokensFrom] at read
          dsimp only at read
          split at read
          · cases read
            exact lettersFirst_textToken _
          · rename_i opener rest opened
            have moveLetters : LettersFirst
                (if opener = '<' then angle rest else ampersand ending rest).tokens := by
              split
              · exact lettersFirst_angle rest
              · exact lettersFirst_ampersand ending rest
            split at read
            · rename_i found
              rw [found] at moveLetters
              obtain ⟨more, moreRead, done⟩ := exists_of_bind_eq_ok read
              cases done
              exact ((lettersFirst_textToken _).append moveLetters).append
                (inductionHypothesis moreRead)
            · rename_i found
              rw [found] at moveLetters
              split at read
              · cases read
                exact ((lettersFirst_textToken _).append moveLetters).append
                  (lettersFirst_textToken _)
              · obtain ⟨more, moreRead, done⟩ := exists_of_bind_eq_ok read
                cases done
                exact ((lettersFirst_textToken _).append moveLetters).append
                  (inductionHypothesis moreRead)
            · split at read
              · obtain ⟨more, moreRead, done⟩ := exists_of_bind_eq_ok read
                cases done
                exact ((lettersFirst_textToken _).append (lettersFirst_textToken _)).append
                  (inductionHypothesis moreRead)
              · obtain ⟨more, moreRead, done⟩ := exists_of_bind_eq_ok read
                cases done
                exact (lettersFirst_textToken _).append (inductionHypothesis moreRead)
            · contradiction

end Scan

/-! ## Attributes -/

namespace Builder

theorem nodup_distinct (attributes : List Attribute) :
    (attributeNames (distinct attributes)).Nodup := by
  have onTag (tag : Tag) (nodup : (attributeNames tag.attributes).Nodup) :
      (attributeNames (attributes.foldl (fun tag entry => tag.put entry.name entry.value)
        tag).attributes).Nodup := by
    induction attributes generalizing tag with
    | nil => exact nodup
    | cons entry rest inductionHypothesis =>
        exact inductionHypothesis _ (Tag.nodup_put nodup entry.name entry.value)
  exact onTag ⟨0, "", []⟩ List.nodup_nil

theorem nodup_withEncodings
    {tag : Tag}
    (nodup : (attributeNames tag.attributes).Nodup) :
    (attributeNames (withEncodings tag).attributes).Nodup := by
  rw [withEncodings]
  split
  · split
    · exact Tag.nodup_put nodup _ _
    · split
      · exact Tag.nodup_put nodup _ _
      · exact nodup
    · exact nodup
  · exact nodup

theorem nodup_tagOf (id : Nat) (name : String) (attributes : List Attribute) :
    (attributeNames (tagOf id name attributes).attributes).Nodup := by
  refine nodup_withEncodings ?_
  have sameNames :
      ((distinct attributes).map fun entry =>
        if isListAttribute name entry.name then { entry with value := normalizeList entry.value }
        else entry).map Attribute.name = attributeNames (distinct attributes) := by
    rw [List.map_map]
    refine List.map_congr_left fun entry _ => ?_
    rw [Function.comp_apply]
    split <;> rfl
  rw [attributeNames, sameNames]
  exact nodup_distinct attributes

@[simp] theorem name_tagOf (id : Nat) (name : String) (attributes : List Attribute) :
    (tagOf id name attributes).name = name := by
  simp only [tagOf, withEncodings]
  split
  · split
    · rfl
    · split <;> rfl
    · rfl
  · rfl

end Builder

/-- What every element of a page has. -/
structure Tag.Read (tag : Tag) : Prop where
  startsWithLetter : StartsWithLetter tag.name
  distinctNames : (attributeNames tag.attributes).Nodup

theorem Forest.read_of_parse
    {page : List Char}
    {document : Forest}
    (read : parse page = .ok document) :
    ∀ tag ∈ tags document, tag.Read := by
  obtain ⟨tokens, found, rfl⟩ := exists_tokens_of_parse read
  refine forall_tags_ofTokens fun id name attributes closed member => ?_
  refine ⟨?_, Builder.nodup_tagOf id name attributes⟩
  rw [Builder.name_tagOf]
  exact Scan.lettersFirst_tokensFrom found name attributes closed member

end CodeDeck.Markup
