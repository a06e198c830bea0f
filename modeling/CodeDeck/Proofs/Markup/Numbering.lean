import CodeDeck.Markup.Build
import CodeDeck.Proofs.Markup.Numbers
import Mathlib.Data.List.Count

namespace CodeDeck.Markup

open List

/-!
# The elements of a page

While a page is read its elements are made from its start tags and numbered one
after the other. Closing an element only moves it, so no number is given twice,
whatever end tags are missing or too many.
-/

namespace Forest

theorem tags_cons (node : Node) (nodes : Forest) :
    tags (node :: nodes) = tags [node] ++ tags nodes := by
  rw [← tags_append, List.singleton_append]

theorem tags_reverse_perm (forest : Forest) : tags forest.reverse ~ tags forest := by
  induction forest with
  | nil => exact .refl _
  | cons node nodes inductionHypothesis =>
      rw [List.reverse_cons, tags_append, tags_cons node nodes]
      exact List.perm_append_comm.trans (inductionHypothesis.append_left _)

end Forest

namespace Builder

variable {builder next : Builder}

/-- The elements that have been read, those still open last. -/
def tags (builder : Builder) : List Tag :=
  Forest.tags builder.roots ++
    builder.stack.flatMap fun element => element.tag :: Forest.tags element.children

/-- Two readers with the same elements, of which the next gets the same number too. -/
def SameTags (next builder : Builder) : Prop :=
  next.tags ~ builder.tags ∧ next.nextId = builder.nextId

theorem SameTags.trans
    {first second third : Builder}
    (firstSame : first.SameTags second)
    (secondSame : second.SameTags third) :
    first.SameTags third :=
  ⟨firstSame.1.trans secondSame.1, firstSame.2.trans secondSame.2⟩

theorem tags_append_perm (builder : Builder) (node : Node) :
    (builder.append node).tags ~ Forest.tags [node] ++ builder.tags := by
  rw [append]
  split
  · rename_i noneOpen
    simp only [tags, noneOpen, List.flatMap_nil, List.append_nil]
    rw [Forest.tags_cons]
  · rename_i element others someOpen
    simp only [tags, someOpen, List.flatMap_cons]
    rw [Forest.tags_cons]
    refine List.perm_iff_count.mpr fun tag => ?_
    simp only [List.count_append, List.count_cons]
    omega

theorem nextId_append (builder : Builder) (node : Node) :
    (builder.append node).nextId = builder.nextId := by
  rw [append]
  split
  · rfl
  · rfl

theorem sameTags_appendText (builder : Builder) (kind : TextKind) (chars : List Char) :
    (builder.appendText kind chars).SameTags builder :=
  ⟨tags_append_perm _ _, nextId_append _ _⟩

theorem sameTags_flush (builder : Builder) : builder.flush.SameTags builder := by
  rw [flush]
  split
  · exact ⟨.refl _, rfl⟩
  · exact builder.sameTags_appendText _ _

theorem sameTags_closeInnermost (builder : Builder) :
    builder.closeInnermost.SameTags builder := by
  rw [closeInnermost]
  split
  · exact ⟨.refl _, rfl⟩
  · rename_i element others someOpen
    refine ⟨(tags_append_perm _ _).trans ?_, nextId_append _ _⟩
    have reversed := Forest.tags_reverse_perm element.children
    simp only [OpenElement.node, Forest.tags_element, Forest.tags_nil, List.append_nil, tags,
      someOpen, List.flatMap_cons]
    refine List.perm_iff_count.mpr fun tag => ?_
    simp only [List.count_append, List.count_cons, reversed.count_eq]
    omega

theorem sameTags_closeMany (builder : Builder) (count : Nat) :
    (builder.closeMany count).SameTags builder := by
  induction count generalizing builder with
  | zero => exact ⟨.refl _, rfl⟩
  | succ count inductionHypothesis =>
      exact (inductionHypothesis builder.closeInnermost).trans builder.sameTags_closeInnermost

theorem sameTags_close (builder : Builder) (name : String) :
    (builder.close name).SameTags builder := by
  rw [close]
  split
  · exact ⟨.refl _, rfl⟩
  · exact builder.sameTags_closeMany _

/-- A start tag makes an element with the next number, whether it is closed or left open. -/
theorem tags_step_startTag
    (builder : Builder)
    (name : String)
    (attributes : List Attribute)
    (closed : Bool) :
    (builder.step (.startTag name attributes closed)).tags ~
        tagOf builder.nextId name attributes :: builder.tags ∧
      (builder.step (.startTag name attributes closed)).nextId = builder.nextId + 1 := by
  obtain ⟨sameTags, sameNext⟩ := builder.sameTags_flush
  have made : (builder.step (.startTag name attributes closed)).tags ~
      tagOf builder.flush.nextId name attributes :: builder.flush.tags := by
    simp only [step]
    split
    · refine (tags_append_perm _ _).trans ?_
      simp [OpenElement.node, tags]
    · refine List.perm_iff_count.mpr fun tag => ?_
      simp only [tags, List.flatMap_cons, Forest.tags_nil, List.count_append, List.count_cons,
        List.count_nil]
      omega
  rw [sameNext] at made
  refine ⟨made.trans (sameTags.cons _), ?_⟩
  rw [← sameNext]
  simp only [step]
  split
  · exact nextId_append _ _
  · rfl

theorem sameTags_step
    {token : Token}
    (noStart : ∀ name attributes closed, token ≠ .startTag name attributes closed) :
    (builder.step token).SameTags builder := by
  cases token with
  | text chars => exact ⟨.refl _, rfl⟩
  | startTag name attributes closed => exact absurd rfl (noStart name attributes closed)
  | endTag name => exact (sameTags_close _ name).trans builder.sameTags_flush
  | special kind chars =>
      exact (sameTags_appendText _ kind chars).trans builder.sameTags_flush

theorem tags_finish_subperm (builder : Builder) :
    Forest.tags builder.finish <+~ builder.tags := by
  rw [finish]
  have same := (sameTags_closeMany builder.flush builder.flush.stack.length).trans
    builder.sameTags_flush
  refine (Forest.tags_reverse_perm _).subperm.trans ?_
  exact (List.sublist_append_left _ _).subperm.trans same.1.subperm

/-! ## Distinct numbers -/

/-- The numbers given so far are distinct, and the next one is greater than all. -/
structure Numbered (builder : Builder) : Prop where
  distinct : (builder.tags.map Tag.id).Nodup
  below : ∀ tag ∈ builder.tags, tag.id < builder.nextId

theorem Numbered.of_same
    (numbered : builder.Numbered)
    (same : next.SameTags builder) :
    next.Numbered := by
  refine ⟨(same.1.map Tag.id).nodup_iff.mpr numbered.distinct, fun tag member => ?_⟩
  rw [same.2]
  exact numbered.below tag (same.1.mem_iff.mp member)

@[simp] theorem id_tagOf (id : Nat) (name : String) (attributes : List Attribute) :
    (tagOf id name attributes).id = id := by
  simp only [tagOf, withEncodings]
  split
  · split
    · rfl
    · split <;> rfl
    · rfl
  · rfl

theorem Numbered.step
    (numbered : builder.Numbered)
    (token : Token) :
    (builder.step token).Numbered := by
  match token with
  | .startTag name attributes closed =>
      obtain ⟨made, followed⟩ := builder.tags_step_startTag name attributes closed
      have fresh : builder.nextId ∉ builder.tags.map Tag.id := by
        intro member
        obtain ⟨tag, isTag, sameId⟩ := List.mem_map.mp member
        exact Nat.lt_irrefl _ (sameId ▸ numbered.below tag isTag)
      refine ⟨?_, fun tag member => ?_⟩
      · rw [(made.map Tag.id).nodup_iff, List.map_cons, id_tagOf]
        exact List.nodup_cons.mpr ⟨fresh, numbered.distinct⟩
      · rw [followed]
        rcases List.mem_cons.mp (made.mem_iff.mp member) with rfl | before
        · rw [id_tagOf]
          exact Nat.lt_succ_self _
        · exact Nat.lt_succ_of_lt (numbered.below tag before)
  | .text _ | .endTag _ | .special _ _ =>
      exact numbered.of_same (sameTags_step fun _ _ _ same => nomatch same)

theorem Numbered.foldl_step
    (numbered : builder.Numbered)
    (tokens : List Token) :
    (tokens.foldl Builder.step builder).Numbered := by
  induction tokens generalizing builder with
  | nil => exact numbered
  | cons token tokens inductionHypothesis => exact inductionHypothesis (numbered.step token)

theorem numbered_initial : initial.Numbered :=
  ⟨List.nodup_nil, fun _ member => nomatch member⟩

/-! ## Start tags -/

/-- Every element is made from a start tag. -/
theorem forall_tags_foldl_step
    {holds : Tag → Prop}
    {tokens : List Token}
    (before : ∀ tag ∈ builder.tags, holds tag)
    (made : ∀ id name attributes closed,
      .startTag name attributes closed ∈ tokens → holds (tagOf id name attributes)) :
    ∀ tag ∈ (tokens.foldl Builder.step builder).tags, holds tag := by
  induction tokens generalizing builder with
  | nil => exact before
  | cons token tokens inductionHypothesis =>
      refine inductionHypothesis ?_ fun id name attributes closed member =>
        made id name attributes closed (List.mem_cons_of_mem _ member)
      intro tag member
      match token with
      | .startTag name attributes closed =>
          have isMade := (builder.tags_step_startTag name attributes closed).1.mem_iff.mp member
          rcases List.mem_cons.mp isMade with rfl | earlier
          · exact made _ name attributes closed (List.mem_cons_self ..)
          · exact before tag earlier
      | .text _ | .endTag _ | .special _ _ =>
          refine before tag ((sameTags_step ?_).1.mem_iff.mp member)
          exact fun _ _ _ same => nomatch same

end Builder

namespace Forest

/-- The elements of a document that has been read have distinct numbers. -/
theorem nodup_ids_ofTokens (tokens : List Token) : (ids (ofTokens tokens)).Nodup := by
  have numbered := Builder.numbered_initial.foldl_step tokens
  obtain ⟨kept, sameKept, inOrder⟩ :=
    Builder.tags_finish_subperm (tokens.foldl Builder.step .initial)
  exact (sameKept.map Tag.id).nodup_iff.mp (numbered.distinct.sublist (inOrder.map Tag.id))

theorem forall_tags_ofTokens
    {holds : Tag → Prop}
    {tokens : List Token}
    (made : ∀ id name attributes closed,
      .startTag name attributes closed ∈ tokens → holds (Builder.tagOf id name attributes)) :
    ∀ tag ∈ tags (ofTokens tokens), holds tag := by
  have noneBefore : ∀ tag ∈ Builder.initial.tags, holds tag := fun _ member => nomatch member
  intro tag member
  refine Builder.forall_tags_foldl_step noneBefore made tag ?_
  exact (Builder.tags_finish_subperm (tokens.foldl Builder.step .initial)).subset member

theorem exists_tokens_of_parse
    {page : List Char}
    {document : Forest}
    (read : parse page = .ok document) :
    ∃ tokens, Scan.tokens page = .ok tokens ∧ document = ofTokens tokens := by
  rw [parse] at read
  cases found : Scan.tokens page with
  | error rejection => rw [found] at read; contradiction
  | ok tokens =>
      rw [found] at read
      cases read
      exact ⟨tokens, rfl, rfl⟩

theorem nodup_ids_of_parse
    {page : List Char}
    {document : Forest}
    (read : parse page = .ok document) :
    (ids document).Nodup := by
  obtain ⟨tokens, -, rfl⟩ := exists_tokens_of_parse read
  exact nodup_ids_ofTokens tokens

end Forest

end CodeDeck.Markup
