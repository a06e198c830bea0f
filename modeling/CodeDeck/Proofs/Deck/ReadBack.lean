import CodeDeck.Proofs.Block.Passes
import CodeDeck.Proofs.Block.Trimmed
import CodeDeck.Proofs.Deck.Frame
import CodeDeck.Proofs.Markup.Reread

namespace CodeDeck

open List Markup

/-!
# Rendered decks, read again

A deck of plain elements and texts, with blocks applied to it, is rendered to a
page on which the same elements are marked, with the sources and addresses that
have been written. What is applied keeps a deck writable, because a shown
source is empty or has a character that is no blank.
-/

namespace Block

/-- A shown source is empty or has a character that is no whitespace. -/
theorem visible_displaySource
    (block : Block)
    (config : Config) :
    (block.parse config).displaySource = "" ∨
      ∃ c ∈ (block.parse config).displaySource.toList, Text.isSpace c = false := by
  let shown := Trim.lines (block.classified config).display config.undent
  have joined : (block.parse config).displaySource = Text.joinLines shown := rfl
  rw [joined]
  cases linesAre : shown with
  | nil => exact .inl rfl
  | cons first more =>
      have notBlank : Text.isBlank first = false :=
        Trim.isBlank_head?_lines (show first ∈ shown.head? by rw [linesAre]; rfl)
      obtain ⟨c, member, notSpace⟩ := List.all_eq_false.mp notBlank
      refine .inr ⟨c, ?_, by simpa using notSpace⟩
      rw [Text.joinLines, String.toList_ofList, List.map_cons]
      cases more with
      | nil => exact member
      | cons next others => exact List.mem_append_left _ member

theorem visible_of_processAll
    {blocks : List Block}
    {config : Config}
    {processed : List ProcessedBlock}
    (produced : (processAll config blocks).result = .ok processed) :
    ∀ block ∈ processed,
      block.parsed.displaySource = "" ∨
        ∃ c ∈ block.parsed.displaySource.toList, Text.isSpace c = false := by
  intro done member
  obtain ⟨block, -, same⟩ := exists_of_processAll produced member
  rw [← same]
  exact block.visible_displaySource config

end Block

theorem isFoldable_of_isSpace_eq_false
    {c : Char}
    (notSpace : Text.isSpace c = false) :
    Builder.isFoldable c = false := by
  by_contra foldable
  simp only [Builder.isFoldable, Bool.not_eq_false, Bool.or_eq_true, beq_iff_eq] at foldable
  rcases foldable with (((rfl | rfl) | rfl) | rfl) | rfl <;> exact absurd notSpace (by decide)

namespace Markup

/-- A plain element: all names of lower-case letters and digits will do but the special ones. -/
structure Tag.Simple (tag : Tag) : Prop where
  name : IsName tag.name
  notVoid : isVoid tag.name = false
  notSpecial : tag.name ∉ ["script", "style", "template", "textarea", "rt", "rp"]
  attributes : ∀ entry ∈ tag.attributes, IsName entry.name

instance (tag : Tag) : Decidable tag.Simple :=
  decidable_of_iff
    (IsName tag.name ∧ isVoid tag.name = false ∧
      tag.name ∉ ["script", "style", "template", "textarea", "rt", "rp"] ∧
        ∀ entry ∈ tag.attributes, IsName entry.name)
    ⟨fun ⟨name, notVoid, notSpecial, attributes⟩ => ⟨name, notVoid, notSpecial, attributes⟩,
      fun ⟨name, notVoid, notSpecial, attributes⟩ => ⟨name, notVoid, notSpecial, attributes⟩⟩

/-- A plain text that is not only blanks. -/
def IsSimpleText (kind : TextKind) (content : String) : Prop :=
  kind = .plain ∧ ∃ c ∈ content.toList, Builder.isFoldable c = false

instance (kind : TextKind) (content : String) : Decidable (IsSimpleText kind content) :=
  @instDecidableAnd _ _ _ (List.decidableBEx _ content.toList)

/-- A document of plain elements and texts. -/
def Forest.Simple (forest : Forest) : Prop :=
  Forest.Made Tag.Simple IsSimpleText forest

instance (forest : Forest) : Decidable forest.Simple :=
  inferInstanceAs (Decidable (Forest.Made Tag.Simple IsSimpleText forest))

theorem Tag.Simple.writable
    {tag : Tag}
    (simple : tag.Simple)
    (read : tag.Read) :
    tag.Writable := by
  refine ⟨simple.name, read.startsWithLetter, simple.notVoid, ?_, simple.attributes,
    read.distinctNames⟩
  have notSpecial := simple.notSpecial
  simp only [List.mem_cons, List.not_mem_nil, or_false, not_or] at notSpecial
  obtain ⟨notScript, notStyle, notTemplate, -, notText, notParenthesis⟩ := notSpecial
  rw [textKindIn?, if_neg notText, if_neg notParenthesis, if_neg notStyle, if_neg notScript,
    if_neg notTemplate]

theorem Forest.Simple.writable
    {forest : Forest}
    (simple : forest.Simple)
    (read : ∀ tag ∈ tags forest, tag.Read) :
    Writable forest := by
  refine Made.imp simple (fun tag member isSimple => isSimple.writable (read tag member)) ?_
  exact fun kind content isSimple => ⟨isSimple.1, .inr isSimple.2⟩

theorem Tag.Writable.put
    {tag : Tag}
    {name : String}
    (writable : tag.Writable)
    (isName : IsName name)
    (value : String) :
    (tag.put name value).Writable := by
  refine ⟨writable.name, writable.startsWithLetter, writable.notVoid, writable.ordinary, ?_,
    Tag.nodup_put writable.distinctNames name value⟩
  intro entry member
  have inNames : entry.name ∈ attributeNames (tag.put name value).attributes :=
    List.mem_map_of_mem member
  rw [Tag.attributeNames_put] at inNames
  have inOld : entry.name ∈ attributeNames tag.attributes ∨ entry.name = name := by
    split at inNames
    · exact .inl inNames
    · exact (List.mem_append.mp inNames).imp_right List.mem_singleton.mp
  rcases inOld with old | new
  · obtain ⟨oldEntry, oldMember, sameName⟩ := List.mem_map.mp old
    exact sameName ▸ writable.attributes oldEntry oldMember
  · exact new ▸ isName

end Markup

namespace Deck

variable {deck : Deck} {id other : Nat} {processed : List ProcessedBlock}

/-! ## What writes keep -/

theorem writable_putAll
    {writes : List Write}
    (writable : Forest.Writable deck.document)
    (texts : ∀ target text, .source target text ∈ writes → IsWritableText .plain text) :
    Forest.Writable (deck.putAll writes).document := by
  induction writes generalizing deck with
  | nil => exact writable
  | cons write rest inductionHypothesis =>
      have onRest : Forest.Writable (deck.put write).document →
          Forest.Writable ((deck.put write).putAll rest).document := fun kept =>
        inductionHypothesis kept fun target text member =>
          texts target text (List.mem_cons_of_mem _ member)
      refine onRest ?_
      cases write with
      | source target text =>
          have textMade : Forest.Writable [.text .plain text] :=
            ⟨texts target text (List.mem_cons_self ..), fun _ => Forest.startsWithoutText_nil,
              trivial⟩
          rw [put, setText]
          split
          · exact writable
          · exact Forest.Made.setContent writable textMade
      | address carrier url =>
          cases carrier with
          | element id =>
              have isName : IsName urlAttribute := by decide
              exact Forest.Made.setAttribute writable fun tag made => made.put isName url
          | document => exact writable

theorem markedIn_setAttribute
    {name value : String}
    {forest : Forest}
    (other : markerAttribute ≠ name) :
    markedIn (Forest.setAttribute id name value forest) = markedIn forest := by
  show Forest.idsWhere _ _ = Forest.idsWhere _ _
  induction forest using Forest.induction with
  | nil => rfl
  | text kind text nodes ofNodes => exact ofNodes
  | element tag children nodes ofChildren ofNodes =>
      rw [Forest.setAttribute_element, Forest.idsWhere_element]
      split
      · rw [Forest.idsWhere_element, Tag.get?_put_ne other tag, Tag.id_put, ofNodes]
      · rw [Forest.idsWhere_element, ofChildren, ofNodes]

theorem inside_put_subset
    (distinct : deck.Distinct)
    (write : Write) :
    (deck.put write).inside id ⊆ deck.inside id := by
  rw [← inside_shape]
  cases write with
  | source target text =>
      rw [put, shape_setText, inside_shape]
      exact inside_cut_subset distinct
  | address carrier url =>
      rw [put, shape_setUrl, inside_shape]
      exact List.Subset.refl _

/-- Writes outside of what holds marked elements keep which ones are marked. -/
theorem markedIn_putAll
    {writes : List Write}
    (distinct : deck.Distinct)
    (apart : ∀ target, .content target ∈ writes.map Write.slot →
      ∀ id ∈ markedIn deck.document, id ∉ deck.inside target) :
    markedIn (deck.putAll writes).document = markedIn deck.document := by
  induction writes generalizing deck with
  | nil => rfl
  | cons write rest inductionHypothesis =>
      have documentDistinct := distinct.document
      have sameMarked : markedIn (deck.put write).document = markedIn deck.document := by
        cases write with
        | source target text =>
            have noneInside : Forest.ContentHas (fun inner => markedIn inner = []) target
                deck.document := by
              rintro ⟨tag, children⟩ found
              rw [Option.mem_def] at found
              have foundInDeck : deck.find? target = some (tag, children) := by rw [find?, found]
              refine List.eq_nil_iff_forall_not_mem.mpr fun id member => ?_
              have inOrder : markedIn children <+ markedIn deck.document :=
                (((List.sublist_cons_self _ _).trans
                  (Forest.tags_sublist_of_find? found)).filter _).map _
              have inChildren : id ∈ Forest.ids children :=
                (List.filter_sublist.map _).subset member
              refine apart target (List.mem_cons_self ..) id (inOrder.subset member) ?_
              rwa [inside_of_find? foundInDeck]
            rw [put, setText]
            split
            · rfl
            · exact Forest.idsWhere_setContent documentDistinct rfl noneInside
        | address carrier url =>
            cases carrier with
            | element id => exact markedIn_setAttribute (by decide)
            | document => rfl
      have others := @inductionHypothesis (deck.put write) (shape_put_distinct distinct write) ?_
      · exact others.trans sameMarked
      · intro target member id isMarked nested
        rw [sameMarked] at isMarked
        exact apart target (List.mem_cons_of_mem _ member) id isMarked
          (inside_put_subset distinct write nested)

/-! ## A filled deck -/

theorem source_of_mem_writesAt
    {entries : List (Nat × ProcessedBlock)}
    {target : Nat}
    {text : String}
    (member : .source target text ∈ deck.writesAt entries) :
    ∃ entry ∈ entries, text = entry.2.parsed.displaySource := by
  obtain ⟨entry, inEntries, inWrites⟩ := List.mem_flatMap.mp member
  rcases List.mem_cons.mp inWrites with same | inRest
  · injection same with _ sameText
    exact ⟨entry, inEntries, sameText⟩
  · have isAddress := List.mem_singleton.mp inRest
    contradiction

/-- A block whose address an element carries: that of the last marked element it is around. -/
def IsLastAround
    (deck : Deck)
    (processed : List ProcessedBlock)
    (parent : Nat)
    (block : ProcessedBlock) : Prop :=
  ∃ before id behind,
    deck.marked.zip processed = before ++ (id, block) :: behind ∧
      Forest.parentOf? id deck.document = some parent ∧
      ∀ later ∈ behind, Forest.parentOf? later.1 deck.document ≠ some parent

/-- Of the members of a list that have a property, one is the last. -/
theorem exists_last_of_mem
    {member : Type}
    {holds : member → Prop}
    {first : member}
    {members : List member}
    (isMember : first ∈ members)
    (has : holds first) :
    ∃ before last behind,
      members = before ++ last :: behind ∧ holds last ∧ ∀ later ∈ behind, ¬ holds later := by
  induction members generalizing first with
  | nil => contradiction
  | cons front rest inductionHypothesis =>
      by_cases inRest : ∃ later ∈ rest, holds later
      · obtain ⟨later, laterMember, laterHas⟩ := inRest
        obtain ⟨before, last, behind, rfl, lastHas, noneBehind⟩ :=
          inductionHypothesis laterMember laterHas
        exact ⟨front :: before, last, behind, rfl, lastHas, noneBehind⟩
      · have noneBehind : ∀ later ∈ rest, ¬ holds later := fun later member has =>
          inRest ⟨later, member, has⟩
        rcases List.mem_cons.mp isMember with rfl | later
        · exact ⟨[], first, rest, rfl, has, noneBehind⟩
        · exact absurd has (noneBehind first later)

namespace Fits

theorem writable_filled
    (writable : Forest.Writable deck.document)
    (texts : ∀ block ∈ processed, IsWritableText .plain block.parsed.displaySource) :
    Forest.Writable (deck.filled processed).document := by
  refine writable_putAll writable fun target text member => ?_
  obtain ⟨entry, inEntries, rfl⟩ := source_of_mem_writesAt member
  exact texts entry.2 (List.of_mem_zip inEntries).2

theorem markedIn_filled
    (fits : deck.Fits processed)
    (isMarked : deck.marked = markedIn deck.document) :
    markedIn (deck.filled processed).document = deck.marked := by
  rw [isMarked]
  refine markedIn_putAll fits.sound.distinct fun target member id idMarked => ?_
  rw [← isMarked] at idMarked
  obtain ⟨write, inWrites, isContent⟩ := List.mem_map.mp member
  obtain ⟨entry, inEntries, content | address⟩ := slot_of_mem_writesAt inWrites
  · rw [content] at isContent
    injection isContent with sameTarget
    rw [← sameTarget]
    exact not_mem_inside_targetOf fits.sound.distinct
      (fits.unnested entry.1 (List.of_mem_zip inEntries).1 id idMarked)
  · rw [address] at isContent
    contradiction

/-- After the blocks have been written, they would be written on the same places again. -/
theorem place_filled
    (fits : deck.Fits processed)
    (idMarked : id ∈ deck.marked) :
    (deck.filled processed).place id = deck.place id := by
  have places_eq := places_eq_map fits.sound.distinct fits.nodup fits.unnested
  have settled := settled_of_run fits.sound.distinct fits.sound.inOrder
  rw [places_eq] at settled
  have inZip : (id, deck.place id) ∈ deck.marked.zip (deck.marked.map deck.place) := by
    rw [← List.map_prod_left_eq_zip]
    exact List.mem_map_of_mem idMarked
  have sameShape : (deck.filled processed).shape =
      (deck.cutAll (deck.marked.map deck.place)).shape := by
    rw [filled, ← writes_map_place]
    exact shape_putAll_writes (by rw [fits.sameLength, List.length_map, size])
  exact ((settled _ inZip).of_shape_eq sameShape).place_eq

/-- A marked element is as it was, and the element that is written into is the same. -/
theorem find?_marked
    {tag : Tag}
    {children : Forest}
    (fits : deck.Fits processed)
    (idMarked : id ∈ deck.marked)
    (found : Forest.find? id deck.document = some (tag, children)) :
    ∃ content,
      Forest.find? id (deck.filled processed).document = some (tag, content) ∧
        target id content = target id children := by
  obtain ⟨content, writtenFound, -⟩ := fits.exists_find?_marked idMarked found
  refine ⟨content, writtenFound, ?_⟩
  have sameTarget := congrArg Place.target (fits.place_filled idMarked)
  rw [← fits.find?_document] at found
  have foundFilled : (deck.filled processed).find? id = some (tag, content) := by
    rw [find?, writtenFound]
  rw [← targetOf_of_find? found, ← targetOf_of_find? foundFilled]
  exact sameTarget

/-- Around a marked element that is not at the top stands the address of the last one there. -/
theorem exists_parent
    (fits : deck.Fits processed)
    (idMarked : id ∈ deck.marked)
    (notAtTop : id ∉ Forest.topIds deck.document) :
    ∃ parent last tag content,
      Forest.parentOf? id (deck.filled processed).document = some parent ∧
        deck.IsLastAround processed parent last ∧
        Forest.find? parent (deck.filled processed).document = some (tag, content) ∧
        tag.get? urlAttribute = some last.url := by
  obtain ⟨parent, around⟩ := Forest.exists_parentOf?_of_mem (fits.present id idMarked) notAtTop
  have carried := carrier_of_parentOf? fits.sound.distinct around
  have inFilled : id ∈ Forest.ids (deck.filled processed).document := by
    obtain ⟨tag, children, found⟩ := Forest.exists_find?_of_mem_ids (fits.present id idMarked)
    obtain ⟨content, filledFound, -⟩ := fits.find?_marked idMarked found
    exact Forest.mem_ids_of_find? filledFound
  have filledAround : Forest.parentOf? id (deck.filled processed).document = some parent := by
    refine parentOf?_of_carrier inFilled ?_
    rw [← carried]
    exact congrArg Place.carrier (fits.place_filled idMarked)
  obtain ⟨entry, inEntries, isEntry⟩ :
      ∃ entry ∈ deck.marked.zip processed, entry.1 = id := by
    rw [← List.mem_map, List.map_fst_zip (Nat.le_of_eq fits.sameLength.symm)]
    exact idMarked
  obtain ⟨before, ⟨other, last⟩, behind, split, lastAround, noneBehind⟩ :=
    @exists_last_of_mem _ (fun entry => Forest.parentOf? entry.1 deck.document = some parent)
      _ _ inEntries (isEntry.symm ▸ around)
  obtain ⟨tag, content, parentFound, written⟩ := fits.find?_parent split lastAround noneBehind
  exact ⟨parent, last, tag, content, filledAround,
    ⟨before, other, behind, split, lastAround, noneBehind⟩, parentFound, written⟩

end Fits

/-! ## A deck that is read again -/

variable {number : Nat → Nat} {forest : Forest}

/-- The attributes that say how a block is compiled, or where its link leads. -/
def IsOwnAttribute (name : String) : Prop :=
  markerAttribute.toList <+: name.toList

theorem isListAttribute_of_isOwn
    {element name : String}
    (own : IsOwnAttribute name) :
    isListAttribute element name = false := by
  have noneOwn : ∀ listed ∈ listAttributes ++ listAttributesOf.map Prod.snd,
      ¬ markerAttribute.toList <+: listed.toList := by
    decide
  by_contra listed
  rw [Bool.not_eq_false, isListAttribute, Bool.or_eq_true, List.contains_iff_mem,
    List.contains_iff_mem] at listed
  refine noneOwn name ?_ own
  rcases listed with anywhere | onElement
  · exact List.mem_append_left _ anywhere
  · exact List.mem_append_right _ (List.mem_map_of_mem onElement)

theorem idsWhere_reread
    {holds : Tag → Bool}
    (kept : ∀ tag ∈ Forest.tags forest, holds (tag.reread number) = holds tag) :
    Forest.idsWhere holds (Forest.reread number forest) =
      (Forest.idsWhere holds forest).map number := by
  have sameKind : (Forest.tags forest).filter (holds ∘ Tag.reread number) =
      (Forest.tags forest).filter holds := List.filter_congr kept
  rw [Forest.idsWhere, Forest.tags_reread, List.filter_map, List.map_map, Forest.idsWhere,
    List.map_map, sameKind]
  refine List.map_congr_left fun tag _ => ?_
  exact Builder.id_tagOf ..

theorem codes_reread : codes (Forest.reread number forest) = (codes forest).map number := by
  refine idsWhere_reread fun tag _ => ?_
  rw [Tag.reread, Builder.name_tagOf]

theorem target_reread (id : Nat) (children : Forest) :
    target (number id) (Forest.reread number children) = number (target id children) := by
  rw [target, target, codes_reread]
  match codes children with
  | [] => rfl
  | [code] => rfl
  | first :: second :: others => rfl

theorem markedIn_reread
    (writable : Forest.Writable forest) :
    markedIn (Forest.reread number forest) = (markedIn forest).map number := by
  refine idsWhere_reread fun tag member => ?_
  rw [Tag.get?_reread (Forest.Made.of_mem_tags writable tag member)]
  exact isListAttribute_of_isOwn (List.prefix_refl _)

/-- A written source is read as the text of its element. -/
theorem textOf_reread
    {tag : Tag}
    (writable : tag.Writable)
    (source : String) :
    textOf (tag.reread number) (Forest.reread number [.text .plain source]) = source := by
  have ordinary : textKindIn? (tag.reread number).name = none := by
    rw [Tag.reread, Builder.name_tagOf]
    exact writable.ordinary
  have takesPlain : takesText (tag.reread number).name .plain = true := by
    rw [takesText, ordinary]
    rfl
  rw [textOf, Forest.reread_text]
  by_cases empty : source = ""
  · rw [empty]
    rfl
  · rw [if_neg empty]
    simp [Forest.texts, Node.texts, Forest.reread, takesPlain]

/-- What a marked element and the one around it are when a deck is read again. -/
structure ReadsBack
    (deck after reread : Deck)
    (processed : List ProcessedBlock)
    (id newId : Nat)
    (block : ProcessedBlock) : Prop where
  /-- The element has its own attributes, and its target the source. -/
  element : ∃ tag children newTag newChildren targetTag content,
    Forest.find? id deck.document = some (tag, children) ∧
      Forest.find? newId reread.document = some (newTag, newChildren) ∧
      (∀ name, IsOwnAttribute name → newTag.get? name = tag.get? name) ∧
      Forest.find? (target newId newChildren) reread.document = some (targetTag, content) ∧
      textOf targetTag content = block.parsed.displaySource
  /-- The element around it has the address that has been written there. -/
  parent : ∃ parent last tag children newParent newTag newChildren,
    Forest.parentOf? id after.document = some parent ∧
      deck.IsLastAround processed parent last ∧
      Forest.find? parent after.document = some (tag, children) ∧
      tag.get? urlAttribute = some last.url ∧
      Forest.parentOf? newId reread.document = some newParent ∧
      Forest.find? newParent reread.document = some (newTag, newChildren) ∧
      newTag.get? urlAttribute = some last.url

theorem Fits.readsBack
    {block : ProcessedBlock}
    (fits : deck.Fits processed)
    (writable : Forest.Writable (deck.filled processed).document)
    (apart : ∀ first ∈ Forest.ids (deck.filled processed).document,
      ∀ second ∈ Forest.ids (deck.filled processed).document,
        number first = number second → first = second)
    (notAtTop : id ∉ Forest.topIds deck.document)
    (member : (id, block) ∈ deck.marked.zip processed) :
    deck.ReadsBack (deck.filled processed)
      (ofDocument (Forest.reread number (deck.filled processed).document)) processed id (number id)
      block := by
  let after := deck.filled processed
  have idMarked := (List.of_mem_zip member).1
  have found_reread {id tag children}
      (found : Forest.find? id after.document = some (tag, children)) :
      Forest.find? (number id) (Forest.reread number after.document) =
        some (tag.reread number, Forest.reread number children) :=
    Forest.find?_reread (fun other otherMember =>
      apart other otherMember id (Forest.mem_ids_of_find? found)) found
  have tagWritable {id tag children}
      (found : Forest.find? id after.document = some (tag, children)) :
      tag.Writable :=
    Forest.Made.of_mem_tags writable tag
      ((Forest.tags_sublist_of_find? found).subset (List.mem_cons_self ..))
  refine ⟨?_, ?_⟩
  · obtain ⟨tag, children, found⟩ := Forest.exists_find?_of_mem_ids (fits.present id idMarked)
    obtain ⟨content, markedFound, sameTarget⟩ := fits.find?_marked idMarked found
    obtain ⟨before, behind, split⟩ := List.append_of_mem member
    obtain ⟨targetTag, targetFound⟩ := fits.find?_target split found
    refine ⟨tag, children, _, _, _, _, found, found_reread markedFound, ?_, ?_,
      @textOf_reread number targetTag (tagWritable targetFound) _⟩
    · exact fun name own =>
        Tag.get?_reread (tagWritable markedFound) (isListAttribute_of_isOwn own)
    · rw [target_reread, sameTarget]
      exact found_reread targetFound
  · obtain ⟨parent, last, tag, content, around, isLast, found, written⟩ :=
      fits.exists_parent idMarked notAtTop
    have afterDistinct : (Forest.ids after.document).Nodup :=
      (fits.sound.distinct.putAll _).document
    have rereadDistinct : (Forest.ids (Forest.reread number after.document)).Nodup := by
      rw [Forest.ids_reread]
      exact afterDistinct.map_on apart
    have rereadAround : Forest.parentOf? (number id) (Forest.reread number after.document) =
        some (number parent) := by
      obtain ⟨parentTag, siblings, parentFound, atTop⟩ :=
        (Forest.parentOf?_eq_some_iff afterDistinct).mp around
      refine (Forest.parentOf?_eq_some_iff rereadDistinct).mpr
        ⟨_, _, found_reread parentFound, ?_⟩
      rw [Forest.topIds_reread]
      exact List.mem_map_of_mem atTop
    refine ⟨parent, last, tag, content, number parent, _, _, around, isLast, found, written,
      rereadAround, found_reread found, ?_⟩
    have own : IsOwnAttribute urlAttribute :=
      show markerAttribute.toList <+: urlAttribute.toList by decide
    rw [Tag.get?_reread (tagWritable found) (isListAttribute_of_isOwn own), written]

/--
A page of plain elements and texts, with marked elements neither inside of each other nor at its
top: when blocks have been applied that were made by processing, the rendered page has the same
marked elements, and reads back the sources and addresses that have been written.
-/
theorem reads_back
    {page : String}
    {config : Config}
    {blocks : List Block}
    (read : Deck.parse page = .ok deck)
    (simple : Forest.Simple deck.document)
    (unnested : deck.Unnested)
    (noneAtTop : ∀ id ∈ deck.marked, id ∉ Forest.topIds deck.document)
    (produced : (Block.processAll config blocks).result = .ok processed)
    (sameLength : processed.length = deck.size) :
    ∃ after reread number,
      deck.apply processed = .ok after ∧
        Deck.parse after.render = .ok reread ∧
        reread.size = deck.size ∧
        reread.marked = deck.marked.map number ∧
        ∀ entry ∈ deck.marked.zip processed,
          deck.ReadsBack after reread processed entry.1 (number entry.1) entry.2 := by
  obtain ⟨document, parsed, rfl⟩ := exists_document_of_parse read
  have fits : (ofDocument document).Fits processed :=
    ⟨sound_of_parse read, rfl, unnested, sameLength⟩
  let after := (ofDocument document).filled processed
  let number := fun id => (Forest.ids after.document).idxOf id
  have texts : ∀ block ∈ processed, IsWritableText .plain block.parsed.displaySource := by
    intro block member
    refine ⟨rfl, (Block.visible_of_processAll produced block member).imp_right ?_⟩
    exact fun ⟨c, inSource, notSpace⟩ => ⟨c, inSource, isFoldable_of_isSpace_eq_false notSpace⟩
  have writable : Forest.Writable after.document :=
    Fits.writable_filled (simple.writable (Forest.read_of_parse parsed)) texts
  have afterDistinct : (Forest.ids after.document).Nodup := (fits.sound.distinct.putAll _).document
  have rereadMarked : markedIn (Forest.reread number after.document) =
      (ofDocument document).marked.map number := by
    rw [markedIn_reread writable, fits.markedIn_filled rfl]
  have rendered : Deck.parse after.render =
      .ok (ofDocument (Forest.reread number after.document)) := by
    rw [Deck.parse, render, Forest.render, String.toList_ofList,
      Forest.parse_write writable afterDistinct]
    rfl
  refine ⟨after, _, number, fits.apply_eq, rendered, ?_, rereadMarked, ?_⟩
  · exact (congrArg List.length rereadMarked).trans (List.length_map _)
  · intro entry member
    refine fits.readsBack writable ?_ (noneAtTop entry.1 (List.of_mem_zip member).1) member
    exact fun first firstMember second _ same => List.idxOf_inj firstMember |>.mp same

/-- A source with brackets and what looks like a reference, and an address with quotes. -/
theorem reads_back_escaped :
    let page := "<p title='&amp;lt;'><b data-ce>if (a &lt; b) say(\"&amp;lt;\");</b><i>or</i></p>"
    let config := (Config.ofEntries [("baseUrl", .string "https://a/?b=\"'&amp;")]).1
    ∃ deck processed after reread,
      Deck.parse page = .ok deck ∧
        (Block.processAll config deck.blocks).result = .ok processed ∧
        deck.apply processed = .ok after ∧
        Deck.parse after.render = .ok reread ∧
        reread.size = 1 := by
  intro page config
  have known :
      (Deck.parse page).toOption.map (fun deck =>
        (decide deck.document.Simple, decide deck.Unnested,
          decide (∀ id ∈ deck.marked, id ∉ Forest.topIds deck.document), deck.size,
          (Block.processAll config deck.blocks).result.toOption.map List.length)) =
        some (true, true, true, 1, some 1) := by
    decide +kernel
  match read : Deck.parse page with
  | .error rejection =>
      rw [read] at known
      contradiction
  | .ok deck =>
      rw [read] at known
      injection known with facts
      simp only [Prod.mk.injEq, decide_eq_true_eq] at facts
      obtain ⟨simple, unnested, noneAtTop, one, processedOne⟩ := facts
      match produced : (Block.processAll config deck.blocks).result with
      | .error failure =>
          rw [produced] at processedOne
          contradiction
      | .ok processed =>
          rw [produced] at processedOne
          have sameLength : processed.length = deck.size :=
            (Option.some.inj processedOne).trans one.symm
          obtain ⟨after, reread, _, applied, rendered, sameSize, _⟩ :=
            reads_back read simple unnested noneAtTop produced sameLength
          exact ⟨deck, processed, after, reread, rfl, produced, applied, rendered,
            sameSize.trans one⟩

end Deck

end CodeDeck
