import CodeDeck.Proofs.Markup.Lexing

namespace CodeDeck.Markup

open List

/-!
# A forest that has been written and read

Reading the tokens of a written forest makes the forest again, with its
elements numbered in document order, its attributes sorted and its empty texts
left out.
-/

/-- An element after it has been written and read, by its new number. -/
def Tag.reread (number : Nat → Nat) (tag : Tag) : Tag :=
  Builder.tagOf (number tag.id) tag.name (sortAttributes tag.attributes)

mutual

/-- A part after it has been written and read. -/
def Node.reread (number : Nat → Nat) : Node → List Node
  | .text kind content => if content = "" then [] else [.text kind content]
  | .element tag children => [.element (tag.reread number) (Forest.reread number children)]

/-- A forest after it has been written and read. -/
def Forest.reread (number : Nat → Nat) : List Node → List Node
  | [] => []
  | node :: nodes => node.reread number ++ Forest.reread number nodes

end

namespace Builder

variable {builder : Builder}

/-- No open element has texts of its own kind. -/
def Ordinary (builder : Builder) : Prop :=
  ∀ element ∈ builder.stack, textKindIn? element.tag.name = none

/-- Put some parts at the end of the innermost open element. -/
def appendAll (builder : Builder) (nodes : Forest) : Builder :=
  nodes.foldl append builder

theorem Ordinary.append
    (ordinary : builder.Ordinary)
    (node : Node) :
    (builder.append node).Ordinary := by
  rw [Builder.append]
  split
  · exact ordinary
  · rename_i element stack isOpen
    intro other member
    rw [Ordinary, isOpen] at ordinary
    rcases List.mem_cons.mp member with rfl | inStack
    · exact ordinary element (List.mem_cons_self ..)
    · exact ordinary other (List.mem_cons_of_mem _ inStack)

theorem pending_append (builder : Builder) (node : Node) :
    (builder.append node).pending = builder.pending := by
  rw [append]
  split <;> rfl

theorem appendAll_of_open
    {element : OpenElement}
    {stack : List OpenElement}
    (isOpen : builder.stack = element :: stack)
    (nodes : Forest) :
    builder.appendAll nodes =
      { builder with
        stack := { element with children := nodes.reverse ++ element.children } :: stack } := by
  induction nodes generalizing builder element with
  | nil => rw [List.reverse_nil, List.nil_append, ← isOpen]; rfl
  | cons node nodes inductionHypothesis =>
      have appended : builder.append node =
          { builder with
            stack := { element with children := node :: element.children } :: stack } := by
        rw [append, isOpen]
      have onAppended := @inductionHypothesis (builder.append node)
        { element with children := node :: element.children } (by rw [appended])
      rw [appendAll, List.foldl_cons, ← appendAll, onAppended, appended, List.reverse_cons,
        List.append_assoc]
      rfl

theorem appendAll_of_none_open
    (noneOpen : builder.stack = [])
    (nodes : Forest) :
    builder.appendAll nodes = { builder with roots := nodes.reverse ++ builder.roots } := by
  induction nodes generalizing builder with
  | nil => rfl
  | cons node nodes inductionHypothesis =>
      have appended : builder.append node = { builder with roots := node :: builder.roots } := by
        rw [append, noneOpen]
      have onAppended := @inductionHypothesis (builder.append node) (by rw [appended]; exact noneOpen)
      rw [appendAll, List.foldl_cons, ← appendAll, onAppended, appended, List.reverse_cons,
        List.append_assoc]
      rfl

theorem pending_flush (builder : Builder) : builder.flush.pending = [] := by
  rw [flush]
  split
  · rename_i empty
    exact List.isEmpty_iff.mp empty
  · rfl

theorem flush_of_pending_nil
    (noneBefore : builder.pending = []) :
    builder.flush = builder := by
  rw [flush, noneBefore]
  rfl

theorem Ordinary.flush
    (ordinary : builder.Ordinary) :
    builder.flush.Ordinary := by
  rw [Builder.flush]
  split
  · exact ordinary
  · exact ordinary.append _

theorem nextId_flush (builder : Builder) : builder.flush.nextId = builder.nextId :=
  builder.sameTags_flush.2

theorem foldBlanks_eq
    {chars : List Char}
    (kept : ∃ c ∈ chars, isFoldable c = false) :
    foldBlanks chars = chars := by
  obtain ⟨c, member, notFoldable⟩ := kept
  rw [foldBlanks, if_neg]
  intro all
  have foldable := List.all_eq_true.mp all c member
  rw [notFoldable] at foldable
  contradiction

theorem plainKind_eq
    (ordinary : builder.Ordinary) :
    builder.plainKind = .plain := by
  rw [plainKind, List.findSome?_eq_none_iff.mpr ordinary]
  rfl

/-- A text with more than blanks is put into the tree as it is, an empty one not at all. -/
theorem flush_step_text
    {content : String}
    (ordinary : builder.Ordinary)
    (noneBefore : builder.pending = [])
    (kept : content = "" ∨ ∃ c ∈ content.toList, isFoldable c = false)
    (number : Nat → Nat) :
    (builder.step (.text content.toList)).flush =
      builder.appendAll ((Node.text .plain content).reread number) := by
  by_cases empty : content = ""
  · subst empty
    have unchanged : builder.step (.text "".toList) = builder := step_text_nil builder
    rw [unchanged, flush_of_pending_nil noneBefore]
    rfl
  · have someKept := kept.resolve_left empty
    have stepped : builder.step (.text content.toList) =
        { builder with pending := content.toList } := by
      rw [step, noneBefore, List.nil_append]
    have notEmpty : content.toList.isEmpty = false := by
      rw [List.isEmpty_eq_false_iff]
      exact fun none => empty (String.toList_eq_nil_iff.mp none)
    have plain : plainKind { builder with pending := content.toList } = .plain :=
      @plainKind_eq { builder with pending := content.toList } ordinary
    rw [stepped, flush, notEmpty, if_neg Bool.false_ne_true, plain, appendText,
      foldBlanks_eq someKept, ite_self, String.ofList_toList, Node.reread, if_neg empty, appendAll,
      List.foldl_cons, List.foldl_nil, append, append]
    cases isOpen : builder.stack with
    | nil => simp [noneBefore]
    | cons element stack => simp [noneBefore]

theorem append_nextId (builder : Builder) (nextId : Nat) (node : Node) :
    append { builder with nextId } node = { builder.append node with nextId } := by
  obtain ⟨roots, stack, pending, number⟩ := builder
  cases stack <;> rfl

theorem appendAll_nextId (builder : Builder) (nextId : Nat) (nodes : Forest) :
    appendAll { builder with nextId } nodes = { builder.appendAll nodes with nextId } := by
  induction nodes generalizing builder with
  | nil => rfl
  | cons node nodes inductionHypothesis =>
      rw [appendAll, List.foldl_cons, append_nextId, ← appendAll, inductionHypothesis]
      rfl

/-- A reader in an element that has just been opened. -/
def opened (builder : Builder) (tag : Tag) : Builder :=
  { builder.flush with
    stack := ⟨tag, []⟩ :: builder.flush.stack
    nextId := builder.nextId + 1 }

theorem step_startTag
    {name : String}
    (notVoid : isVoid name = false)
    (attributes : List Attribute) :
    builder.step (.startTag name attributes false) =
      builder.opened (tagOf builder.nextId name attributes) := by
  simp only [step, opened, notVoid, Bool.or_self, Bool.false_eq_true, if_false,
    builder.nextId_flush]

theorem pending_opened (builder : Builder) (tag : Tag) : (builder.opened tag).pending = [] :=
  builder.pending_flush

theorem Ordinary.opened
    {tag : Tag}
    (ordinary : builder.Ordinary)
    (tagOrdinary : textKindIn? tag.name = none) :
    (builder.opened tag).Ordinary := by
  intro element member
  rcases List.mem_cons.mp member with rfl | before
  · exact tagOrdinary
  · exact ordinary.flush element before

/-- An element that is opened, filled and closed is put into the tree. -/
theorem step_endTag_of_filled
    {inner : Builder}
    {tag : Tag}
    {nodes : Forest}
    {nextId : Nat}
    (filled : inner.flush = { (builder.opened tag).appendAll nodes with nextId }) :
    inner.step (.endTag tag.name) =
      { builder.flush.append (.element tag nodes) with nextId } := by
  have isOpen : (builder.opened tag).stack = ⟨tag, []⟩ :: builder.flush.stack := rfl
  have innermost : (⟨tag, nodes.reverse⟩ :: builder.flush.stack).findIdx?
      (fun element => element.tag.name == tag.name) = some 0 := by
    simp [List.findIdx?_cons]
  rw [step, filled, appendAll_of_open isOpen, List.append_nil, close]
  simp only [innermost, closeMany, closeInnermost, OpenElement.node, List.reverse_reverse]
  cases stackIs : builder.flush.stack with
  | nil => simp only [append, opened, stackIs]
  | cons element stack => simp only [append, opened, stackIs]

end Builder

namespace Forest

variable {number : Nat → Nat} {forest : Forest} {builder : Builder}

/-- Reading the tokens of a forest puts the forest again into the tree. -/
theorem foldl_step_tokens
    (writable : Writable forest)
    (ordinary : builder.Ordinary)
    (apart : builder.pending = [] ∨ StartsWithoutText forest)
    (numbered : (ids forest).map number = List.range' builder.nextId (ids forest).length) :
    ((tokens forest).foldl Builder.step builder).flush =
      { builder.flush.appendAll (reread number forest) with
        nextId := builder.nextId + (ids forest).length } := by
  induction forest using Forest.induction generalizing builder with
  | nil =>
      have sameNext := builder.nextId_flush
      show builder.flush = { builder.flush with nextId := builder.nextId }
      rw [← sameNext]
  | text kind content nodes ofNodes =>
      obtain ⟨⟨rfl, kept⟩, nextApart, nodesWritable⟩ := writable
      have noneBefore : builder.pending = [] := by
        rcases apart with none | notText
        · exact none
        · have isText := notText (.text .plain content) rfl
          contradiction
      have put := Builder.flush_step_text ordinary noneBefore kept number
      have others := @ofNodes (builder.step (.text content.toList)) nodesWritable ordinary
        (.inr (nextApart rfl)) numbered
      rw [tokens_text, List.foldl_cons, others, put, Builder.flush_of_pending_nil noneBefore,
        reread, Builder.appendAll, Builder.appendAll, Builder.appendAll, List.foldl_append]
      rfl
  | element tag children nodes ofChildren ofNodes =>
      obtain ⟨⟨tagWritable, childrenWritable⟩, -, nodesWritable⟩ := writable
      rw [ids_element, List.map_cons, List.map_append, List.length_cons, List.length_append,
        List.range'_succ, ← List.range'_append_1, List.cons.injEq] at numbered
      obtain ⟨isNext, restNumbered⟩ := numbered
      obtain ⟨childrenNumbered, nodesNumbered⟩ :=
        List.append_inj restNumbered (by rw [List.length_map, List.length_range'])
      have sameName : (tag.reread number).name = tag.name := Builder.name_tagOf ..
      have tagOrdinary : textKindIn? (tag.reread number).name = none := by
        rw [sameName]
        exact tagWritable.ordinary
      have openedNone := builder.pending_opened (tag.reread number)
      have inner := ofChildren childrenWritable (ordinary.opened tagOrdinary) (.inl openedNone)
        childrenNumbered
      rw [Builder.flush_of_pending_nil openedNone] at inner
      -- The element is put where its start tag stood, and the nodes behind it come next.
      let closed : Builder :=
        { builder.flush.append (.element (tag.reread number) (reread number children)) with
          nextId := builder.nextId + 1 + (ids children).length }
      have closed_eq : ((tokens children).foldl Builder.step
          (builder.opened (tag.reread number))).step (.endTag tag.name) = closed := by
        rw [← sameName]
        exact Builder.step_endTag_of_filled inner
      have closedNone : closed.pending = [] :=
        (Builder.pending_append _ _).trans builder.pending_flush
      have closedOrdinary : closed.Ordinary := ordinary.flush.append _
      have outer := ofNodes nodesWritable closedOrdinary (.inl closedNone) nodesNumbered
      rw [Builder.flush_of_pending_nil closedNone, Builder.appendAll_nextId] at outer
      have lastNext : builder.nextId + 1 + (ids children).length + (ids nodes).length =
          builder.nextId + (ids (.element tag children :: nodes)).length := by
        rw [ids_element, List.length_cons, List.length_append]
        omega
      have openedTag : Builder.tagOf builder.nextId tag.name (sortAttributes tag.attributes) =
          tag.reread number := by
        rw [← isNext]
        rfl
      rw [tokens_element, List.foldl_cons, List.foldl_append, List.foldl_cons,
        Builder.step_startTag tagWritable.notVoid, openedTag, closed_eq, ← lastNext]
      exact outer

/-- The new numbers are those of the document order. -/
theorem map_idxOf_ids
    (distinct : (ids forest).Nodup) :
    (ids forest).map (fun id => (ids forest).idxOf id) = List.range' 0 (ids forest).length := by
  refine List.ext_getElem (by simp) fun index inIds inRange => ?_
  rw [List.getElem_map, List.getElem_range', distinct.idxOf_getElem, Nat.one_mul, Nat.zero_add]

/-- A forest that is written is read as itself, with its elements numbered in document order. -/
theorem parse_write
    (writable : Writable forest)
    (distinct : (ids forest).Nodup) :
    parse (write false forest) = .ok (reread (fun id => (ids forest).idxOf id) forest) := by
  have ordinary : Builder.initial.Ordinary := fun _ member => nomatch member
  have all := foldl_step_tokens writable ordinary (.inl rfl) (map_idxOf_ids distinct)
  have noneOpen : Builder.initial.flush.stack = [] := rfl
  rw [Builder.appendAll_of_none_open noneOpen] at all
  rw [parse_write_eq_ofTokens writable, ofTokens, Builder.finish, all]
  exact congrArg Except.ok ((congrArg _ (List.append_nil _)).trans (List.reverse_reverse _))

/-! ## What is found where -/

variable {id : Nat} {kind : TextKind} {content : String} {tag : Tag} {children nodes : Forest}

theorem reread_text :
    reread number (.text kind content :: nodes) =
      (if content = "" then [] else [.text kind content]) ++ reread number nodes :=
  rfl

theorem reread_element :
    reread number (.element tag children :: nodes) =
      .element (tag.reread number) (reread number children) :: reread number nodes :=
  rfl

theorem tags_reread : tags (reread number forest) = (tags forest).map (Tag.reread number) := by
  induction forest using Forest.induction with
  | nil => rfl
  | text kind content nodes ofNodes =>
      rw [reread_text, tags_append, tags_text, ofNodes]
      split <;> rfl
  | element tag children nodes ofChildren ofNodes =>
      rw [reread_element, tags_element, tags_element, ofChildren, ofNodes, List.map_cons,
        List.map_append]

theorem ids_reread : ids (reread number forest) = (ids forest).map number := by
  rw [ids, ids, tags_reread, List.map_map, List.map_map]
  refine List.map_congr_left fun tag _ => ?_
  exact Builder.id_tagOf ..

theorem topIds_reread : topIds (reread number forest) = (topIds forest).map number := by
  induction forest with
  | nil => rfl
  | cons node nodes inductionHypothesis =>
      cases node with
      | text kind content =>
          rw [reread_text]
          split
          · exact inductionHypothesis
          · exact inductionHypothesis
      | element tag children =>
          rw [reread_element, topIds_element, topIds_element, inductionHypothesis, List.map_cons,
            Tag.reread, Builder.id_tagOf]

theorem find?_reread
    (apart : ∀ other ∈ ids forest, number other = number id → other = id)
    (found : find? id forest = some (tag, children)) :
    find? (number id) (reread number forest) =
      some (tag.reread number, reread number children) := by
  induction forest using Forest.induction with
  | nil => contradiction
  | text kind content nodes ofNodes =>
      rw [reread_text, find?_append, ofNodes apart found]
      split <;> rfl
  | element front inner nodes ofInner ofNodes =>
      simp only [ids_element, List.mem_cons, List.mem_append] at apart
      have sameFront : (front.reread number).id = number front.id := Builder.id_tagOf ..
      rw [reread_element, find?_element, sameFront]
      rcases cases_of_find?_element found with
        ⟨isFront, rfl, rfl⟩ | ⟨different, inside⟩ | ⟨different, absent, behind⟩
      · rw [if_pos (congrArg number isFront)]
      · rw [if_neg fun same => different (apart _ (.inl rfl) same),
          ofInner (fun other member => apart other (.inr (.inl member))) inside, Option.some_or]
      · have notInner : find? (number id) (reread number inner) = none := by
          rw [find?_eq_none_iff, ids_reread, List.mem_map]
          rintro ⟨other, member, same⟩
          have isSame := apart other (.inr (.inl member)) same
          exact find?_eq_none_iff.mp absent (isSame ▸ member)
        rw [if_neg fun same => different (apart _ (.inl rfl) same), notInner, Option.none_or,
          ofNodes (fun other member => apart other (.inr (.inr member))) behind]

end Forest

/-! ## Attributes -/

theorem Builder.distinct_of_nodup
    {attributes : List Attribute}
    (nodup : (attributeNames attributes).Nodup) :
    distinct attributes = attributes := by
  have onTag (tag : Tag) (allDistinct : (attributeNames (tag.attributes ++ attributes)).Nodup) :
      (attributes.foldl (fun tag entry => tag.put entry.name entry.value) tag).attributes =
        tag.attributes ++ attributes := by
    induction attributes generalizing tag with
    | nil => exact (List.append_nil _).symm
    | cons entry rest inductionHypothesis =>
        have isNew : entry.name ∉ attributeNames tag.attributes := by
          intro member
          rw [attributeNames, List.map_append, List.map_cons, List.nodup_append] at allDistinct
          exact allDistinct.2.2 _ member _ (List.mem_cons_self ..) rfl
        have put_eq : (tag.put entry.name entry.value).attributes = tag.attributes ++ [entry] :=
          Tag.put_go_of_new isNew
        have others := inductionHypothesis (List.nodup_cons.mp nodup).2
          (tag.put entry.name entry.value) (by rwa [put_eq, List.append_assoc])
        rw [List.foldl_cons, others, put_eq, List.append_assoc]
        rfl
  exact onTag ⟨0, "", []⟩ nodup

/-- What an element has under a name whose values are no lists, it still has when it is read. -/
theorem Tag.get?_reread
    {tag : Tag}
    {number : Nat → Nat}
    {name : String}
    (writable : tag.Writable)
    (noList : isListAttribute tag.name name = false) :
    (tag.reread number).get? name = tag.get? name := by
  have sorted : sortAttributes tag.attributes ~ tag.attributes := List.mergeSort_perm _ _
  have sortedNames : (attributeNames (sortAttributes tag.attributes)).Nodup :=
    (sorted.map Attribute.name).nodup_iff.mpr writable.distinctNames
  have notMeta : tag.name ≠ "meta" := fun same => by
    have notVoid := writable.notVoid
    rw [same] at notVoid
    exact absurd notVoid (by decide)
  have attributes_eq : (tag.reread number).attributes =
      (sortAttributes tag.attributes).map fun entry =>
        if isListAttribute tag.name entry.name then
          { entry with value := normalizeList entry.value }
        else entry := by
    rw [Tag.reread, Builder.tagOf, Builder.withEncodings, if_neg notMeta,
      Builder.distinct_of_nodup sortedNames]
  have rereadNames : (attributeNames (tag.reread number).attributes).Nodup :=
    Builder.nodup_tagOf ..
  refine Option.ext fun value => ?_
  rw [get?_eq_some_iff rereadNames, get?_eq_some_iff writable.distinctNames, attributes_eq,
    List.mem_map]
  constructor
  · rintro ⟨entry, member, same⟩
    have isName : entry.name = name := by
      split at same <;> exact congrArg Attribute.name same
    rw [isName, noList, if_neg Bool.false_ne_true] at same
    exact sorted.mem_iff.mp (same ▸ member)
  · intro member
    refine ⟨⟨name, value⟩, sorted.mem_iff.mpr member, ?_⟩
    rw [noList, if_neg Bool.false_ne_true]

end CodeDeck.Markup
