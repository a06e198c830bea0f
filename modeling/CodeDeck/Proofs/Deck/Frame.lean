import CodeDeck.Proofs.Deck.Runs
import CodeDeck.Proofs.Markup.Erased

namespace CodeDeck

open List Markup

/-!
# What applying blocks leaves alone

When no marked element is inside of another, the steps of applying blocks do
not meet: each place is the one that the deck has from the start, and it is
still in the document at the end. The sources stand in their targets, around
every marked element stands the address of the last marked one there, and with
these two erased a document is the same before and after.
-/

namespace Deck

/-- No marked element is inside of another. -/
def Unnested (deck : Deck) : Prop :=
  ∀ outer ∈ deck.marked, ∀ inner ∈ deck.marked, inner ∉ deck.inside outer

instance (deck : Deck) : Decidable deck.Unnested :=
  inferInstanceAs (Decidable (∀ outer ∈ deck.marked, ∀ inner ∈ deck.marked, _))

/-- The elements that the sources are written into. -/
def targets (deck : Deck) : List Nat :=
  deck.marked.filterMap fun id => (deck.find? id).map fun found => target id found.2

/-- The elements around marked ones. -/
def parents (deck : Deck) : List Nat :=
  deck.marked.filterMap fun id => Forest.parentOf? id deck.document

variable {deck : Deck} {id other : Nat} {processed : List ProcessedBlock}

/-! ## The places -/

/-- Elements that are not inside of each other have targets that are not. -/
theorem targetOf_apart
    (distinct : deck.Distinct)
    (different : other ≠ id)
    (idNotInside : id ∉ deck.inside other)
    (otherNotInside : other ∉ deck.inside id) :
    deck.targetOf id ∉ other :: deck.inside other := by
  intro inOther
  rcases targetOf_mem deck id with itself | inId
  · rw [itself, List.mem_cons] at inOther
    exact inOther.elim (fun same => different same.symm) idNotInside
  · rcases List.mem_cons.mp inOther with same | insideOther
    · exact otherNotInside (same ▸ inId)
    · obtain ⟨tag, children, found, inChildren⟩ := exists_find?_of_mem_inside inId
      obtain ⟨otherTag, others, otherFound, inOthers⟩ := exists_find?_of_mem_inside insideOther
      rw [inside_of_find? otherFound] at idNotInside
      rw [inside_of_find? found] at otherNotInside
      rw [find?_eq] at found otherFound
      rcases Forest.nested_of_common distinct found otherFound (List.mem_cons_of_mem _ inChildren)
        (List.mem_cons_of_mem _ inOthers) with same | inOther | inThis
      · exact different same.symm
      · exact idNotInside inOther
      · exact otherNotInside inThis

/-- Cutting the place of one element leaves that of another when neither is inside of the other. -/
theorem place_cut_of_apart
    (distinct : deck.Distinct)
    (different : other ≠ id)
    (idNotInside : id ∉ deck.inside other)
    (otherNotInside : other ∉ deck.inside id) :
    (deck.cut (deck.targetOf id)).place other = deck.place other := by
  have notInside := not_mem_inside_targetOf distinct otherNotInside
  have notAround := targetOf_apart distinct different idNotInside otherNotInside
  have sameCodes := codesIn_cut_of_not_around distinct notInside notAround
  rw [place, place, targetOf_eq_of_codesIn_eq sameCodes, carrier_cut distinct notInside]

/-- The places of elements that are not inside of each other are there from the start. -/
theorem places_eq_map
    {ids : List Nat}
    (distinct : deck.Distinct)
    (nodup : ids.Nodup)
    (unnested : ∀ outer ∈ ids, ∀ inner ∈ ids, inner ∉ deck.inside outer) :
    deck.places ids = ids.map deck.place := by
  induction ids generalizing deck with
  | nil => rfl
  | cons id rest inductionHypothesis =>
      obtain ⟨notInRest, restNodup⟩ := List.nodup_cons.mp nodup
      have restUnnested : ∀ outer ∈ rest, ∀ inner ∈ rest,
          inner ∉ (deck.cut (deck.targetOf id)).inside outer := by
        intro outer outerMember inner innerMember nested
        exact unnested outer (List.mem_cons_of_mem _ outerMember) inner
          (List.mem_cons_of_mem _ innerMember) (inside_cut_subset distinct nested)
      rw [places, inductionHypothesis (distinct.cut _) restNodup restUnnested, List.map_cons]
      refine congrArg _ (List.map_congr_left fun other member => ?_)
      refine place_cut_of_apart distinct ?_ ?_ ?_
      · exact fun same => notInRest (same ▸ member)
      · exact unnested other (List.mem_cons_of_mem _ member) id (List.mem_cons_self ..)
      · exact unnested id (List.mem_cons_self ..) other (List.mem_cons_of_mem _ member)

/-! ## What is still in the document -/

theorem mem_ids_document_cut
    {target : Nat}
    (distinct : deck.Distinct)
    (inDocument : id ∈ Forest.ids deck.document)
    (notInside : id ∉ deck.inside target) :
    id ∈ Forest.ids (deck.cut target).document := by
  have documentDistinct := distinct.document
  have outside := (outside_of_not_mem_inside notInside).of_append_left
  obtain ⟨tag, children, found⟩ := Forest.exists_find?_of_mem_ids inDocument
  rw [cut]
  split
  · exact inDocument
  · by_cases same : id = target
    · subst same
      exact Forest.mem_ids_of_find? (Forest.find?_setContent_self found)
    · have moved := Forest.find?_setContent_of_outside documentDistinct same outside Forest.ids_nil
      rw [found, Option.map_some] at moved
      exact Forest.mem_ids_of_find? moved

theorem mem_ids_document_cutAll
    {places : List Place}
    (distinct : deck.Distinct)
    (inDocument : id ∈ Forest.ids deck.document)
    (notInside : ∀ place ∈ places, id ∉ deck.inside place.target) :
    id ∈ Forest.ids (deck.cutAll places).document := by
  induction places generalizing deck with
  | nil => exact inDocument
  | cons place rest inductionHypothesis =>
      refine inductionHypothesis (distinct.cut _) ?_ ?_
      · exact mem_ids_document_cut distinct inDocument (notInside place (List.mem_cons_self ..))
      · intro other member nested
        exact notInside other (List.mem_cons_of_mem _ member) (inside_cut_subset distinct nested)

theorem id_onCell
    (writes : List Write)
    (cell : Cell) :
    (onCell writes cell).tag.id = cell.tag.id := by
  induction writes generalizing cell with
  | nil => rfl
  | cons write rest inductionHypothesis =>
      refine (inductionHypothesis (write.onCell cell)).trans ?_
      match write with
      | .source target text => exact Cell.id_withContent ..
      | .address (.element id) url => exact Cell.id_withAttribute ..
      | .address .document url => rfl

/-- An element that is in no target is still in the document, and its cell has been written on. -/
theorem exists_find?_putAll
    {places : List Place}
    {tag : Tag}
    {children : Forest}
    (distinct : deck.Distinct)
    (sameLength : processed.length = places.length)
    (found : Forest.find? id deck.document = some (tag, children))
    (notInside : ∀ place ∈ places, id ∉ deck.inside place.target) :
    ∃ written content,
      Forest.find? id (deck.putAll (writes places processed)).document = some (written, content) ∧
        onCell (writes places processed) ⟨tag, Forest.parts children⟩ =
          ⟨written, Forest.parts content⟩ := by
  let after := deck.putAll (writes places processed)
  have sameIds : Forest.ids (deck.cutAll places).document = Forest.ids after.document := by
    have sameShape := congrArg document (@shape_putAll_writes deck places processed sameLength)
    rw [← Forest.ids_shape, ← @Forest.ids_shape after.document]
    exact congrArg Forest.ids sameShape.symm
  have inDocument := mem_ids_document_cutAll distinct (Forest.mem_ids_of_find? found) notInside
  rw [sameIds] at inDocument
  obtain ⟨written, content, writtenFound⟩ := Forest.exists_find?_of_mem_ids inDocument
  refine ⟨written, content, writtenFound, ?_⟩
  have cell : ⟨tag, Forest.parts children⟩ ∈ deck.cells := by
    rw [cells, whole, Forest.cells_append]
    exact List.mem_append_left _ (Forest.cell_mem_of_find? found)
  have writtenCell : ⟨written, Forest.parts content⟩ ∈ after.cells := by
    rw [cells, whole, Forest.cells_append]
    exact List.mem_append_left _ (Forest.cell_mem_of_find? writtenFound)
  have onCellMember :
      onCell (writes places processed) ⟨tag, Forest.parts children⟩ ∈ after.cells :=
    (cells_putAll_perm distinct _).mem_iff.mpr (List.mem_map_of_mem cell)
  have distinctCells : (after.cells.map fun cell => cell.tag.id).Nodup := by
    rw [ids_of_cells]
    exact distinct.putAll _
  refine List.inj_on_of_nodup_map distinctCells onCellMember writtenCell ?_
  rw [id_onCell]
  exact (Forest.id_of_find? found).trans (Forest.id_of_find? writtenFound).symm

/-! ## The last write on a slot -/

theorem onCell_append (first second : List Write) (cell : Cell) :
    onCell (first ++ second) cell = onCell second (onCell first cell) := by
  rw [onCell, List.foldl_append]
  rfl

theorem content_onCell_of_not_mem
    {writes : List Write}
    {cell : Cell}
    (notWritten : ∀ write ∈ writes, write.slot ≠ .content cell.tag.id) :
    (onCell writes cell).content = cell.content := by
  induction writes generalizing cell with
  | nil => rfl
  | cons write rest inductionHypothesis =>
      have here := notWritten write (List.mem_cons_self ..)
      have kept : (write.onCell cell).content = cell.content ∧
          (write.onCell cell).tag.id = cell.tag.id := by
        match write with
        | .source target text =>
            have different : cell.tag.id ≠ target := fun same => here (same ▸ rfl)
            rw [Write.onCell, Cell.withContent, if_neg different]
            exact ⟨rfl, rfl⟩
        | .address (.element id) url =>
            rw [Write.onCell, Cell.withAttribute]
            split <;> exact ⟨rfl, rfl⟩
        | .address .document url => exact ⟨rfl, rfl⟩
      refine (inductionHypothesis fun other member => ?_).trans kept.1
      rw [kept.2]
      exact notWritten other (List.mem_cons_of_mem _ member)

/-- The last source that is written into an element is its content. -/
theorem content_onCell_of_last
    {before behind : List Write}
    {target : Nat}
    {text : String}
    {cell : Cell}
    (isTarget : cell.tag.id = target)
    (last : ∀ write ∈ behind, write.slot ≠ .content target) :
    (onCell (before ++ .source target text :: behind) cell).content = [.text .plain text] := by
  subst isTarget
  have sameId := id_onCell before cell
  have writes_eq : onCell (before ++ .source cell.tag.id text :: behind) cell =
      onCell behind ((onCell before cell).withContent cell.tag.id [.text .plain text]) :=
    onCell_append ..
  rw [writes_eq, content_onCell_of_not_mem, Cell.withContent, if_pos sameId]
  rw [Cell.id_withContent, sameId]
  exact last

theorem attribute_onCell_of_not_mem
    {writes : List Write}
    {cell : Cell}
    (notWritten : ∀ write ∈ writes, write.slot ≠ .address (.element cell.tag.id)) :
    (onCell writes cell).tag = cell.tag := by
  induction writes generalizing cell with
  | nil => rfl
  | cons write rest inductionHypothesis =>
      have here := notWritten write (List.mem_cons_self ..)
      have kept : (write.onCell cell).tag = cell.tag := by
        match write with
        | .source target text =>
            rw [Write.onCell, Cell.withContent]
            split <;> rfl
        | .address (.element id) url =>
            have different : cell.tag.id ≠ id := fun same => here (same ▸ rfl)
            rw [Write.onCell, Cell.withAttribute, if_neg different]
        | .address .document url => rfl
      refine (inductionHypothesis fun other member => ?_).trans kept
      rw [kept]
      exact notWritten other (List.mem_cons_of_mem _ member)

/-- The last address that is written on an element is the one it has. -/
theorem attribute_onCell_of_last
    {before behind : List Write}
    {url : String}
    {cell : Cell}
    (isCarrier : cell.tag.id = id)
    (last : ∀ write ∈ behind, write.slot ≠ .address (.element id)) :
    (onCell (before ++ .address (.element id) url :: behind) cell).tag.get? urlAttribute =
      some url := by
  subst isCarrier
  have sameId := id_onCell before cell
  have writes_eq : onCell (before ++ .address (.element cell.tag.id) url :: behind) cell =
      onCell behind ((onCell before cell).withAttribute cell.tag.id urlAttribute url) :=
    onCell_append ..
  rw [writes_eq, attribute_onCell_of_not_mem, Cell.withAttribute, if_pos sameId]
  · exact Tag.get?_put_self _ _ _
  · rw [Cell.id_withAttribute, sameId]
    exact last

theorem documentUrl_putAll_of_not_mem
    {writes : List Write}
    (notWritten : ∀ write ∈ writes, write.slot ≠ .address .document) :
    (deck.putAll writes).documentUrl = deck.documentUrl := by
  induction writes generalizing deck with
  | nil => rfl
  | cons write rest inductionHypothesis =>
      have others := @inductionHypothesis (deck.put write) fun other member =>
        notWritten other (List.mem_cons_of_mem _ member)
      refine others.trans ?_
      match write with
      | .source target text =>
          rw [put, setText]
          split <;> rfl
      | .address (.element id) url => rfl
      | .address .document url => exact absurd rfl (notWritten _ (List.mem_cons_self ..))

theorem putAll_append (deck : Deck) (first second : List Write) :
    deck.putAll (first ++ second) = (deck.putAll first).putAll second :=
  List.foldl_append

theorem documentUrl_putAll_of_last
    {before behind : List Write}
    {url : String}
    (last : ∀ write ∈ behind, write.slot ≠ .address .document) :
    (deck.putAll (before ++ .address .document url :: behind)).documentUrl = some url := by
  rw [putAll_append]
  exact documentUrl_putAll_of_not_mem last

/-- Writes do not show where what they write on is erased. -/
theorem erase_putAll
    {writes : List Write}
    {contents attributes : List Nat}
    (sources : ∀ target, .content target ∈ writes.map Write.slot → target ∈ contents)
    (addresses : ∀ id, .address (.element id) ∈ writes.map Write.slot → id ∈ attributes) :
    Forest.erase urlAttribute contents attributes (deck.putAll writes).document =
      Forest.erase urlAttribute contents attributes deck.document := by
  induction writes generalizing deck with
  | nil => rfl
  | cons write rest inductionHypothesis =>
      have others := @inductionHypothesis (deck.put write)
        (fun target member => sources target (List.mem_cons_of_mem _ member))
        (fun id member => addresses id (List.mem_cons_of_mem _ member))
      refine others.trans ?_
      match write with
      | .source target text =>
          have erased := sources target (List.mem_cons_self ..)
          rw [put, setText]
          split
          · rfl
          · exact Forest.erase_setContent erased
      | .address (.element id) url =>
          exact Forest.erase_setAttribute (addresses id (List.mem_cons_self ..))
      | .address .document url => rfl

/-! ## Blocks on the places of a deck -/

/-- The writes of some blocks on the places that a deck has from the start. -/
def writesAt (deck : Deck) (entries : List (Nat × ProcessedBlock)) : List Write :=
  entries.flatMap fun entry => writesOf (deck.place entry.1) entry.2

theorem writes_map_place (deck : Deck) (ids : List Nat) (processed : List ProcessedBlock) :
    writes (ids.map deck.place) processed = deck.writesAt (ids.zip processed) := by
  rw [writes, writesAt, List.zip_map_left, List.flatMap_map]
  rfl

theorem slot_of_mem_writesAt
    {entries : List (Nat × ProcessedBlock)}
    {write : Write}
    (member : write ∈ deck.writesAt entries) :
    ∃ entry ∈ entries,
      write.slot = .content (deck.targetOf entry.1) ∨
        write.slot = .address (deck.carrier entry.1) := by
  obtain ⟨entry, inEntries, inWrites⟩ := List.mem_flatMap.mp member
  refine ⟨entry, inEntries, ?_⟩
  rcases List.mem_cons.mp inWrites with rfl | inRest
  · exact .inl rfl
  · rw [List.mem_singleton.mp inRest]
    exact .inr rfl

theorem carrier_eq_document_iff :
    deck.carrier id = .document ↔ id ∈ Forest.topIds deck.document := by
  rw [carrier, ← Forest.any_isElement_iff]
  split
  · rename_i atTop
    simp [atTop]
  · rename_i notAtTop
    split <;> simp [notAtTop]

theorem carrier_of_parentOf?
    {parent : Nat}
    (distinct : deck.Distinct)
    (around : Forest.parentOf? id deck.document = some parent) :
    deck.carrier id = .element parent := by
  have documentDistinct := distinct.document
  obtain ⟨tag, children, found, atTop⟩ := (Forest.parentOf?_eq_some_iff documentDistinct).mp around
  have notAtTop : ¬ deck.document.any (·.isElement id) = true := by
    rw [Forest.any_isElement_iff]
    intro top
    exact Forest.outside_of_mem_topIds documentDistinct top _ found (Forest.topIds_subset atTop)
  rw [carrier, if_neg notAtTop, around]

/-- What carries the address of an element in the document is around it. -/
theorem parentOf?_of_carrier
    {parent : Nat}
    (present : id ∈ Forest.ids deck.document)
    (carried : deck.carrier id = .element parent) :
    Forest.parentOf? id deck.document = some parent := by
  rw [carrier] at carried
  split at carried
  · contradiction
  · rename_i notAtTop
    rw [Forest.any_isElement_iff] at notAtTop
    split at carried
    · rename_i around
      cases carried
      exact around
    · rename_i noParent
      obtain ⟨other, around⟩ := Forest.exists_parentOf?_of_mem present notAtTop
      rw [around] at noParent
      contradiction

theorem writesAt_split
    {before behind : List (Nat × ProcessedBlock)}
    {block : ProcessedBlock} :
    deck.writesAt (before ++ (id, block) :: behind) =
      deck.writesAt before ++ .source (deck.targetOf id) block.parsed.displaySource ::
        .address (deck.carrier id) block.url :: deck.writesAt behind := by
  rw [writesAt, List.flatMap_append, List.flatMap_cons]
  rfl

theorem slot_ne_content
    {entries : List (Nat × ProcessedBlock)}
    {target : Nat}
    (others : ∀ entry ∈ entries, deck.targetOf entry.1 ≠ target) :
    ∀ write ∈ deck.writesAt entries, write.slot ≠ .content target := by
  intro write member same
  obtain ⟨entry, inEntries, isContent | isAddress⟩ := slot_of_mem_writesAt member
  · rw [same] at isContent
    injection isContent with sameTarget
    exact others entry inEntries sameTarget.symm
  · rw [same] at isAddress
    contradiction

theorem slot_ne_address
    {entries : List (Nat × ProcessedBlock)}
    {carrier : Carrier}
    (others : ∀ entry ∈ entries, deck.carrier entry.1 ≠ carrier) :
    ∀ write ∈ deck.writesAt entries, write.slot ≠ .address carrier := by
  intro write member same
  obtain ⟨entry, inEntries, isContent | isAddress⟩ := slot_of_mem_writesAt member
  · rw [same] at isContent
    contradiction
  · rw [same] at isAddress
    injection isAddress with sameCarrier
    exact others entry inEntries sameCarrier.symm

/-! ## Elements apart -/

/-- What is around a marked element is in no target. -/
theorem Unnested.not_mem_inside_targetOf_of_around
    {around : Nat}
    (unnested : deck.Unnested)
    (distinct : deck.Distinct)
    (idMarked : id ∈ deck.marked)
    (otherMarked : other ∈ deck.marked)
    (holds : id ∈ deck.inside around) :
    around ∉ deck.inside (deck.targetOf other) := by
  intro inTarget
  have idInTarget := (inside_trans distinct inTarget).1 holds
  exact not_mem_inside_targetOf distinct (unnested other otherMarked id idMarked) idInTarget

/-- The targets of different marked elements are different. -/
theorem Unnested.targetOf_ne
    (unnested : deck.Unnested)
    (distinct : deck.Distinct)
    (idMarked : id ∈ deck.marked)
    (otherMarked : other ∈ deck.marked)
    (different : other ≠ id) :
    deck.targetOf other ≠ deck.targetOf id := by
  intro same
  have apart := targetOf_apart distinct different (unnested other otherMarked id idMarked)
    (unnested id idMarked other otherMarked)
  rw [← same, List.mem_cons, not_or] at apart
  rcases targetOf_mem deck other with itself | inside
  · exact apart.1 itself
  · exact apart.2 inside

/-- No target is inside of a target. -/
theorem Unnested.targetOf_not_mem_inside
    (unnested : deck.Unnested)
    (distinct : deck.Distinct)
    (idMarked : id ∈ deck.marked)
    (otherMarked : other ∈ deck.marked) :
    deck.targetOf id ∉ deck.inside (deck.targetOf other) := by
  by_cases same : other = id
  · rw [same]
    exact not_mem_inside_self distinct
  · have apart := targetOf_apart distinct same (unnested other otherMarked id idMarked)
      (unnested id idMarked other otherMarked)
    rw [List.mem_cons, not_or] at apart
    exact not_mem_inside_targetOf distinct apart.2

/-! ## The frame -/

/-- Blocks for a deck with no marked element inside of another, nor outside of the document. -/
structure Fits (deck : Deck) (processed : List ProcessedBlock) : Prop where
  sound : deck.Sound
  attached : deck.detached = []
  unnested : deck.Unnested
  sameLength : processed.length = deck.size

/-- The deck with each block on the place that the deck has from the start. -/
def filled (deck : Deck) (processed : List ProcessedBlock) : Deck :=
  deck.putAll (deck.writesAt (deck.marked.zip processed))

namespace Fits

variable {before behind : List (Nat × ProcessedBlock)} {block : ProcessedBlock} {tag : Tag}
variable {children : Forest}

theorem whole_eq (fits : deck.Fits processed) : deck.whole = deck.document := by
  rw [whole, fits.attached, List.append_nil]

theorem documentDistinct (fits : deck.Fits processed) : (Forest.ids deck.document).Nodup :=
  fits.whole_eq ▸ fits.sound.distinct

theorem present (fits : deck.Fits processed) : ∀ id ∈ deck.marked, id ∈ Forest.ids deck.document :=
  fits.whole_eq ▸ fits.sound.present

theorem find?_document (fits : deck.Fits processed) (id : Nat) :
    deck.find? id = Forest.find? id deck.document := by
  rw [find?_eq, fits.whole_eq]

theorem nodup (fits : deck.Fits processed) : deck.marked.Nodup :=
  fits.sound.inOrder.imp fun apart => apart.1

theorem apply_eq (fits : deck.Fits processed) :
    deck.apply processed = .ok (deck.filled processed) := by
  rw [fits.sound.apply_eq fits.sameLength,
    places_eq_map fits.sound.distinct fits.nodup fits.unnested, writes_map_place]
  rfl

theorem marked_of_split
    (split : deck.marked.zip processed = before ++ (id, block) :: behind) :
    id ∈ deck.marked ∧ ∀ later ∈ behind, later.1 ∈ deck.marked := by
  have marked (entry) (member : entry ∈ before ++ (id, block) :: behind) :
      entry.1 ∈ deck.marked :=
    (List.of_mem_zip (split.symm ▸ member)).1
  refine ⟨marked (id, block) (by simp), fun later member => marked later ?_⟩
  exact List.mem_append_right _ (List.mem_cons_of_mem _ member)

theorem ne_of_split
    (fits : deck.Fits processed)
    (split : deck.marked.zip processed = before ++ (id, block) :: behind) :
    ∀ later ∈ behind, later.1 ≠ id := by
  have marked_eq := congrArg (List.map Prod.fst) split
  rw [List.map_fst_zip (Nat.le_of_eq fits.sameLength.symm)] at marked_eq
  have nodup := fits.nodup
  rw [marked_eq, List.map_append, List.map_cons, List.nodup_append] at nodup
  intro later member same
  exact (List.nodup_cons.mp nodup.2.1).1 (same ▸ List.mem_map.mpr ⟨later, member, rfl⟩)

/-- An element that is in no target is still in the document, with what is written on it. -/
theorem exists_find?_filled
    (fits : deck.Fits processed)
    (found : Forest.find? id deck.document = some (tag, children))
    (notInside : ∀ other ∈ deck.marked, id ∉ deck.inside (deck.targetOf other)) :
    ∃ written content,
      Forest.find? id (deck.filled processed).document = some (written, content) ∧
        onCell (deck.writesAt (deck.marked.zip processed)) ⟨tag, Forest.parts children⟩ =
          ⟨written, Forest.parts content⟩ := by
  have placesLength : processed.length = (deck.marked.map deck.place).length := by
    rw [fits.sameLength, List.length_map, size]
  have kept := exists_find?_putAll fits.sound.distinct placesLength found fun place member => by
    obtain ⟨other, otherMarked, rfl⟩ := List.mem_map.mp member
    exact notInside other otherMarked
  rwa [writes_map_place] at kept

/-- No address is written on a marked element or on what is inside of it. -/
theorem carrier_ne
    {holder : Nat}
    (fits : deck.Fits processed)
    (idMarked : id ∈ deck.marked)
    (inMarked : holder ∈ id :: deck.inside id) :
    ∀ entry ∈ deck.marked.zip processed, deck.carrier entry.1 ≠ .element holder := by
  intro entry member carried
  have entryMarked := (List.of_mem_zip member).1
  have around := parentOf?_of_carrier (fits.present _ entryMarked) carried
  obtain ⟨tag, children, found, atTop⟩ :=
    (Forest.parentOf?_eq_some_iff fits.documentDistinct).mp around
  rw [← fits.find?_document] at found
  have inHolder : entry.1 ∈ deck.inside holder := by
    rw [inside_of_find? found]
    exact Forest.topIds_subset atTop
  refine fits.unnested id idMarked entry.1 entryMarked ?_
  rcases List.mem_cons.mp inMarked with rfl | insideId
  · exact inHolder
  · exact (inside_trans fits.sound.distinct insideId).1 inHolder

/-- A marked element is still in the document with its attributes. -/
theorem exists_find?_marked
    (fits : deck.Fits processed)
    (idMarked : id ∈ deck.marked)
    (found : Forest.find? id deck.document = some (tag, children)) :
    ∃ content,
      Forest.find? id (deck.filled processed).document = some (tag, content) ∧
        onCell (deck.writesAt (deck.marked.zip processed)) ⟨tag, Forest.parts children⟩ =
          ⟨tag, Forest.parts content⟩ := by
  obtain ⟨written, content, writtenFound, cell_eq⟩ :=
    fits.exists_find?_filled found fun other otherMarked =>
      not_mem_inside_targetOf fits.sound.distinct
        (fits.unnested other otherMarked id idMarked)
  have sameTag : tag = written := by
    have written_eq := congrArg Cell.tag cell_eq
    rwa [attribute_onCell_of_not_mem] at written_eq
    rw [Forest.id_of_find? found]
    exact slot_ne_address (fits.carrier_ne idMarked (List.mem_cons_self ..))
  subst sameTag
  exact ⟨content, writtenFound, cell_eq⟩

/-- In a marked element only its target has new content. -/
theorem content_onCell_of_marked
    {cell : Cell}
    (fits : deck.Fits processed)
    (split : deck.marked.zip processed = before ++ (id, block) :: behind)
    (inMarked : cell.tag.id ∈ id :: deck.inside id) :
    (onCell (deck.writesAt (deck.marked.zip processed)) cell).content =
      if cell.tag.id = deck.targetOf id then [.text .plain block.parsed.displaySource]
      else cell.content := by
  have distinct := fits.sound.distinct
  obtain ⟨idMarked, behindMarked⟩ := marked_of_split split
  by_cases isTarget : cell.tag.id = deck.targetOf id
  · have othersDiffer : ∀ later ∈ behind, deck.targetOf later.1 ≠ deck.targetOf id :=
      fun later member => fits.unnested.targetOf_ne distinct idMarked (behindMarked later member)
        (fits.ne_of_split split later member)
    have last : ∀ write ∈ .address (deck.carrier id) block.url :: deck.writesAt behind,
        write.slot ≠ .content (deck.targetOf id) := by
      intro write member
      rcases List.mem_cons.mp member with rfl | inBehind
      · exact fun same => nomatch same
      · exact slot_ne_content othersDiffer write inBehind
    rw [if_pos isTarget, split, writesAt_split, content_onCell_of_last isTarget last]
  · have allDiffer : ∀ entry ∈ deck.marked.zip processed, deck.targetOf entry.1 ≠ cell.tag.id := by
      intro entry member same
      have entryMarked := (List.of_mem_zip member).1
      by_cases isId : entry.1 = id
      · exact isTarget (isId ▸ same).symm
      · refine targetOf_apart distinct (Ne.symm isId) ?_ ?_ (same ▸ inMarked)
        · exact fits.unnested id idMarked entry.1 entryMarked
        · exact fits.unnested entry.1 entryMarked id idMarked
    rw [if_neg isTarget, content_onCell_of_not_mem (slot_ne_content allDiffer)]

theorem find?_target
    (fits : deck.Fits processed)
    (split : deck.marked.zip processed = before ++ (id, block) :: behind)
    (found : Forest.find? id deck.document = some (tag, children)) :
    ∃ written,
      Forest.find? (target id children) (deck.filled processed).document =
        some (written, [.text .plain block.parsed.displaySource]) := by
  have idMarked := (marked_of_split split).1
  rw [← fits.find?_document] at found
  rw [← targetOf_of_find? found]
  have inMarked : deck.targetOf id ∈ id :: deck.inside id :=
    List.mem_cons.mpr (targetOf_mem deck id)
  have targetPresent : deck.targetOf id ∈ Forest.ids deck.document := by
    rcases targetOf_mem deck id with itself | inside
    · exact itself.symm ▸ fits.present id idMarked
    · exact fits.whole_eq ▸ mem_ids_of_mem_inside inside
  obtain ⟨targetTag, content, targetFound⟩ := Forest.exists_find?_of_mem_ids targetPresent
  have isTarget := Forest.id_of_find? targetFound
  obtain ⟨written, writtenContent, writtenFound, cell_eq⟩ :=
    fits.exists_find?_filled targetFound fun other otherMarked =>
      fits.unnested.targetOf_not_mem_inside fits.sound.distinct idMarked otherMarked
  have isText : Forest.parts writtenContent = [.text .plain block.parsed.displaySource] := by
    have written_eq := congrArg Cell.content cell_eq
    rw [fits.content_onCell_of_marked split (isTarget.symm ▸ inMarked), if_pos isTarget]
      at written_eq
    exact written_eq.symm
  rw [Forest.eq_text_of_parts isText] at writtenFound
  exact ⟨written, writtenFound⟩

theorem find?_parent
    {parent : Nat}
    (fits : deck.Fits processed)
    (split : deck.marked.zip processed = before ++ (id, block) :: behind)
    (around : Forest.parentOf? id deck.document = some parent)
    (last : ∀ later ∈ behind, Forest.parentOf? later.1 deck.document ≠ some parent) :
    ∃ written content,
      Forest.find? parent (deck.filled processed).document = some (written, content) ∧
        written.get? urlAttribute = some block.url := by
  obtain ⟨idMarked, behindMarked⟩ := marked_of_split split
  have distinct := fits.sound.distinct
  obtain ⟨tag, children, found, atTop⟩ :=
    (Forest.parentOf?_eq_some_iff fits.documentDistinct).mp around
  have holds : id ∈ deck.inside parent := by
    rw [← fits.find?_document] at found
    rw [inside_of_find? found]
    exact Forest.topIds_subset atTop
  obtain ⟨written, content, writtenFound, cell_eq⟩ :=
    fits.exists_find?_filled found fun other otherMarked =>
      fits.unnested.not_mem_inside_targetOf_of_around distinct idMarked otherMarked holds
  have othersDiffer : ∀ later ∈ behind, deck.carrier later.1 ≠ .element parent :=
    fun later member carried => last later member
      (parentOf?_of_carrier (fits.present _ (behindMarked later member)) carried)
  refine ⟨written, content, writtenFound, ?_⟩
  have written_eq := congrArg (fun cell => cell.tag.get? urlAttribute) cell_eq
  rw [split, writesAt_split, carrier_of_parentOf? distinct around] at written_eq
  rw [← written_eq, List.append_cons]
  exact attribute_onCell_of_last (Forest.id_of_find? found) (slot_ne_address othersDiffer)

theorem documentUrl_filled
    (split : deck.marked.zip processed = before ++ (id, block) :: behind)
    (atTop : id ∈ Forest.topIds deck.document)
    (last : ∀ later ∈ behind, later.1 ∉ Forest.topIds deck.document) :
    (deck.filled processed).documentUrl = some block.url := by
  have othersDiffer : ∀ later ∈ behind, deck.carrier later.1 ≠ .document :=
    fun later member carried => last later member (carrier_eq_document_iff.mp carried)
  rw [filled, split, writesAt_split, carrier_eq_document_iff.mpr atTop, List.append_cons]
  exact documentUrl_putAll_of_last (slot_ne_address othersDiffer)

theorem documentUrl_filled_of_none
    (noneAtTop : ∀ id ∈ deck.marked, id ∉ Forest.topIds deck.document) :
    (deck.filled processed).documentUrl = deck.documentUrl := by
  refine documentUrl_putAll_of_not_mem (slot_ne_address fun entry member carried => ?_)
  exact noneAtTop entry.1 (List.of_mem_zip member).1 (carrier_eq_document_iff.mp carried)

theorem erase_filled
    (fits : deck.Fits processed) :
    Forest.erase urlAttribute deck.targets deck.parents (deck.filled processed).document =
      Forest.erase urlAttribute deck.targets deck.parents deck.document := by
  refine erase_putAll ?_ ?_
  · intro target member
    obtain ⟨write, inWrites, isContent⟩ := List.mem_map.mp member
    obtain ⟨entry, inEntries, content | address⟩ := slot_of_mem_writesAt inWrites
    · have isMarked := (List.of_mem_zip inEntries).1
      obtain ⟨tag, children, found⟩ := Forest.exists_find?_of_mem_ids (fits.present _ isMarked)
      rw [← fits.find?_document] at found
      rw [content, targetOf_of_find? found] at isContent
      injection isContent with same
      exact List.mem_filterMap.mpr ⟨entry.1, isMarked, by rw [found, Option.map_some, same]⟩
    · rw [address] at isContent
      contradiction
  · intro parent member
    obtain ⟨write, inWrites, isAddress⟩ := List.mem_map.mp member
    obtain ⟨entry, inEntries, content | address⟩ := slot_of_mem_writesAt inWrites
    · rw [content] at isAddress
      contradiction
    · have isMarked := (List.of_mem_zip inEntries).1
      rw [address] at isAddress
      injection isAddress with carried
      exact List.mem_filterMap.mpr
        ⟨entry.1, isMarked, parentOf?_of_carrier (fits.present _ isMarked) carried⟩

end Fits

/--
Blocks that are applied to a page with no marked element inside of another: their sources are all
that is in the targets, around each marked element stands the address of the last marked one
there, and with these erased nothing differs.
-/
theorem apply_frame
    {page : String}
    (read : Deck.parse page = .ok deck)
    (unnested : deck.Unnested)
    (sameLength : processed.length = deck.size) :
    ∃ after,
      deck.apply processed = .ok after ∧
        (∀ before id block behind,
          deck.marked.zip processed = before ++ (id, block) :: behind →
            (∃ tag children written,
              Forest.find? id deck.document = some (tag, children) ∧
                Forest.find? (target id children) after.document =
                  some (written, [.text .plain block.parsed.displaySource])) ∧
            (∀ parent,
              Forest.parentOf? id deck.document = some parent →
                (∀ later ∈ behind, Forest.parentOf? later.1 deck.document ≠ some parent) →
                  ∃ written content,
                    Forest.find? parent after.document = some (written, content) ∧
                      written.get? urlAttribute = some block.url) ∧
            (id ∈ Forest.topIds deck.document →
              (∀ later ∈ behind, later.1 ∉ Forest.topIds deck.document) →
                after.documentUrl = some block.url)) ∧
        ((∀ id ∈ deck.marked, id ∉ Forest.topIds deck.document) → after.documentUrl = none) ∧
        Forest.erase urlAttribute deck.targets deck.parents after.document =
          Forest.erase urlAttribute deck.targets deck.parents deck.document := by
  obtain ⟨document, -, rfl⟩ := exists_document_of_parse read
  have fits : (ofDocument document).Fits processed :=
    ⟨sound_of_parse read, rfl, unnested, sameLength⟩
  refine ⟨_, fits.apply_eq, ?_, fun noneAtTop => Fits.documentUrl_filled_of_none noneAtTop,
    fits.erase_filled⟩
  intro before id block behind split
  refine ⟨?_, fun parent around last => fits.find?_parent split around last,
    fun atTop last => Fits.documentUrl_filled split atTop last⟩
  obtain ⟨tag, children, found⟩ :=
    Forest.exists_find?_of_mem_ids (fits.present id (Fits.marked_of_split split).1)
  obtain ⟨written, targetFound⟩ := fits.find?_target split found
  exact ⟨tag, children, written, found, targetFound⟩

/-- Two marked elements side by side, one of them with a code element inside. -/
theorem apply_frame_siblings :
    let page := "<p data-ce-url=old><pre data-ce><code>a</code></pre><code data-ce>b</code>"
    let parsed : ParsedBlock := ⟨"c", .null, .null, "i", "i < j", .null⟩
    let processed : List ProcessedBlock := [⟨parsed, "f", "u#f"⟩, ⟨parsed, "g", "u#g"⟩]
    ∃ deck after,
      Deck.parse page = .ok deck ∧
        deck.apply processed = .ok after ∧
        Forest.erase urlAttribute deck.targets deck.parents after.document =
          Forest.erase urlAttribute deck.targets deck.parents deck.document := by
  intro page parsed processed
  have known : (Deck.parse page).toOption.map (fun deck => (deck.size, decide deck.Unnested)) =
      some (2, true) := by
    decide +kernel
  match read : Deck.parse page with
  | .error rejection =>
      rw [read] at known
      contradiction
  | .ok deck =>
      rw [read] at known
      injection known with facts
      injection facts with two unnested
      have sameLength : processed.length = deck.size := two.symm
      obtain ⟨after, applied, -, -, frame⟩ :=
        apply_frame read (of_decide_eq_true unnested) sameLength
      exact ⟨deck, after, rfl, applied, frame⟩

end Deck

end CodeDeck
