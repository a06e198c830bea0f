import CodeDeck.Proofs.Deck.Places
import CodeDeck.Proofs.Markup.Cells

namespace CodeDeck.Deck

open List Markup

/-!
# What applying blocks writes

Applying blocks is a row of writes, of sources and addresses in turn, on the
places that are found on the way. These places do not depend on what is
written, because a write leaves the shape that cutting leaves. And what a write
does to a deck is a change of one cell, so a write that comes later on the same
slot leaves nothing of an earlier one: `onCell_overwritten`.
-/

/-! ## The shape of a deck -/

/-- A deck without texts, attributes and addresses. -/
def shape (deck : Deck) : Deck where
  document := Forest.shape deck.document
  detached := Forest.shape deck.detached
  documentUrl := none
  marked := deck.marked

variable {deck first second : Deck} {id target : Nat} {text url : String}

theorem whole_shape (deck : Deck) : deck.shape.whole = Forest.shape deck.whole := by
  rw [whole, whole, Forest.shape_append]
  rfl

theorem find?_shape (deck : Deck) (id : Nat) :
    deck.shape.find? id =
      (deck.find? id).map fun found => (found.1.bare, Forest.shape found.2) := by
  rw [find?_eq, find?_eq, whole_shape, Forest.find?_shape]

theorem inside_shape (deck : Deck) (id : Nat) : deck.shape.inside id = deck.inside id := by
  rw [inside, inside, find?_shape]
  cases deck.find? id with
  | none => rfl
  | some found => exact Forest.ids_shape

theorem codes_shape (forest : Forest) : codes (Forest.shape forest) = codes forest := by
  rw [codes, codes, Forest.tags_shape, List.filter_map, List.map_map]
  rfl

theorem codesIn_shape (deck : Deck) (id : Nat) : deck.shape.codesIn id = deck.codesIn id := by
  rw [codesIn, codesIn, find?_shape]
  cases deck.find? id with
  | none => rfl
  | some found => exact codes_shape found.2

theorem carrier_shape (deck : Deck) (id : Nat) : deck.shape.carrier id = deck.carrier id := by
  simp only [carrier, shape, Forest.any_isElement_iff, Forest.topIds_shape,
    Forest.parentOf?_shape]

theorem place_shape (deck : Deck) (id : Nat) : deck.shape.place id = deck.place id := by
  rw [place, place, targetOf_eq_of_codesIn_eq (codesIn_shape deck id), carrier_shape]

theorem ids_whole_shape (deck : Deck) :
    Forest.ids deck.shape.whole = Forest.ids deck.whole := by
  rw [whole_shape, Forest.ids_shape]

theorem shape_cut (deck : Deck) (target : Nat) :
    (deck.cut target).shape = deck.shape.cut target := by
  rw [cut, cut, find?_shape]
  cases deck.find? target with
  | none => rfl
  | some found =>
      simp only [shape, Option.map_some, Forest.shape_setContent, Forest.shape_append,
        Forest.shape_nil]

theorem places_shape (deck : Deck) (ids : List Nat) : deck.shape.places ids = deck.places ids := by
  induction ids generalizing deck with
  | nil => rfl
  | cons id rest inductionHypothesis =>
      have sameTarget : deck.shape.targetOf id = deck.targetOf id :=
        targetOf_eq_of_codesIn_eq (codesIn_shape deck id)
      rw [places, places, place_shape, sameTarget, ← shape_cut, inductionHypothesis]

theorem shape_cutAll (deck : Deck) (places : List Place) :
    (deck.cutAll places).shape = deck.shape.cutAll places := by
  induction places generalizing deck with
  | nil => rfl
  | cons place rest inductionHypothesis =>
      rw [cutAll, cutAll, inductionHypothesis, shape_cut]

/-- A written source leaves the shape that cutting leaves. -/
theorem shape_setText (deck : Deck) (target : Nat) (text : String) :
    (deck.setText target text).shape = (deck.cut target).shape := by
  rw [setText, cut]
  cases deck.find? target with
  | none => rfl
  | some found =>
      simp only [shape, Forest.shape_setContent, Forest.shape_append, Forest.shape_text,
        Forest.shape_nil]

theorem shape_setUrl (deck : Deck) (carrier : Carrier) (url : String) :
    (deck.setUrl carrier url).shape = deck.shape := by
  cases carrier with
  | document => rfl
  | element id => simp only [setUrl, setAttribute, shape, Forest.shape_setAttribute]

theorem Settled.of_shape_eq
    {place : Place}
    (settled : first.Settled id place)
    (sameShape : second.shape = first.shape) :
    second.Settled id place := by
  obtain ⟨placed, emptied⟩ := settled
  rw [← place_shape] at placed
  rw [← inside_shape] at emptied
  rw [← sameShape] at placed emptied
  rw [place_shape] at placed
  rw [inside_shape] at emptied
  exact ⟨placed, emptied⟩

theorem Distinct.of_shape_eq
    (distinct : first.Distinct)
    (sameShape : second.shape = first.shape) :
    second.Distinct := by
  rw [Distinct, ← ids_whole_shape] at distinct ⊢
  rwa [sameShape]

/-! ## Writes -/

/-- One write: the source into a target, or the address on what carries it. -/
inductive Write where
  | source (target : Nat) (text : String)
  | address (carrier : Carrier) (url : String)
  deriving Repr, DecidableEq

/-- What a write writes on. -/
inductive Slot where
  | content (target : Nat)
  | address (carrier : Carrier)
  deriving Repr, DecidableEq

namespace Write

/-- What a write writes on. -/
def slot : Write → Slot
  | .source target _ => .content target
  | .address carrier _ => .address carrier

/-- What a write does to the cell of an element. -/
def onCell : Write → Cell → Cell
  | .source target text => Cell.withContent target [.text .plain text]
  | .address (.element id) url => Cell.withAttribute id urlAttribute url
  | .address .document _ => fun cell => cell

end Write

/-- The deck after a write. -/
def put (deck : Deck) : Write → Deck
  | .source target text => deck.setText target text
  | .address carrier url => deck.setUrl carrier url

/-- The deck after some writes. -/
def putAll (deck : Deck) (writes : List Write) : Deck :=
  writes.foldl put deck

/-- The writes of a block on its place. -/
def writesOf (place : Place) (block : ProcessedBlock) : List Write :=
  [.source place.target block.parsed.displaySource, .address place.carrier block.url]

/-- The writes of some blocks on their places. -/
def writes (places : List Place) (processed : List ProcessedBlock) : List Write :=
  (places.zip processed).flatMap fun entry => writesOf entry.1 entry.2

theorem shape_putAll_writesOf
    (deck : Deck)
    (place : Place)
    (block : ProcessedBlock) :
    (deck.putAll (writesOf place block)).shape = (deck.cut place.target).shape := by
  show ((deck.setText place.target block.parsed.displaySource).setUrl _ _).shape = _
  rw [shape_setUrl, shape_setText]

theorem applyOne_eq_putAll
    (distinct : deck.Distinct)
    (present : id ∈ Forest.ids deck.whole)
    (block : ProcessedBlock) :
    deck.applyOne id block = deck.putAll (writesOf (deck.place id) block) := by
  obtain ⟨tag, children, found⟩ := Forest.exists_find?_of_mem_ids present
  rw [← find?_eq] at found
  have sameTarget : Deck.target id children = deck.targetOf id := (targetOf_of_find? found).symm
  have notSelf : id ∉ deck.inside id := not_mem_inside_self distinct
  have sameCarrier :
      (deck.setText (deck.targetOf id) block.parsed.displaySource).carrier id =
        deck.carrier id := by
    rw [← carrier_shape, shape_setText, carrier_shape,
      carrier_cut distinct (not_mem_inside_targetOf distinct notSelf)]
  rw [applyOne, found]
  simp only [sameTarget, sameCarrier]
  rfl

/-- Applying blocks is writing them on the places that are found on the way. -/
theorem applyAll_eq_putAll
    {ids : List Nat}
    (distinct : deck.Distinct)
    (present : ∀ id ∈ ids, id ∈ Forest.ids deck.whole)
    (processed : List ProcessedBlock) :
    deck.applyAll (ids.zip processed) = deck.putAll (writes (deck.places ids) processed) := by
  induction ids generalizing deck processed with
  | nil => rfl
  | cons id rest inductionHypothesis =>
      match processed with
      | [] => rfl
      | block :: blocks =>
          let written := deck.putAll (writesOf (deck.place id) block)
          have sameShape : written.shape = (deck.cut (deck.targetOf id)).shape :=
            shape_putAll_writesOf deck (deck.place id) block
          have samePlaces : (deck.cut (deck.targetOf id)).places rest = written.places rest := by
            rw [← places_shape, ← sameShape, places_shape]
          have stillPresent : ∀ other ∈ rest, other ∈ Forest.ids written.whole := by
            intro other member
            rw [← ids_whole_shape, sameShape, ids_whole_shape]
            exact (ids_cut_perm distinct).mem_iff.mpr (present other (List.mem_cons_of_mem _ member))
          rw [List.zip_cons_cons, applyAll,
            applyOne_eq_putAll distinct (present id (List.mem_cons_self ..)),
            inductionHypothesis ((distinct.cut _).of_shape_eq sameShape) stillPresent, places,
            samePlaces]
          rfl

/-- A run of writes leaves the shape that cutting its targets leaves. -/
theorem shape_putAll_writes
    {places : List Place}
    {processed : List ProcessedBlock}
    (sameLength : processed.length = places.length) :
    (deck.putAll (writes places processed)).shape = (deck.cutAll places).shape := by
  induction places generalizing deck processed with
  | nil => rfl
  | cons place rest inductionHypothesis =>
      match processed with
      | block :: blocks =>
          rw [cutAll, shape_cutAll, ← shape_putAll_writesOf deck place block, ← shape_cutAll,
            ← inductionHypothesis (by simpa using sameLength)]
          rfl

/-! ## Writes on cells -/

/-- The elements of a deck, each with what stands directly in it. -/
def cells (deck : Deck) : List Cell :=
  Forest.cells deck.whole

theorem ids_of_cells (deck : Deck) :
    deck.cells.map (fun cell => cell.tag.id) = Forest.ids deck.whole :=
  Forest.map_id_cells

theorem shape_put_distinct
    (distinct : deck.Distinct)
    (write : Write) :
    (deck.put write).Distinct := by
  cases write with
  | source target text => exact (distinct.cut target).of_shape_eq (shape_setText deck target text)
  | address carrier url => exact distinct.of_shape_eq (shape_setUrl deck carrier url)

theorem cells_setText_perm
    (distinct : deck.Distinct) :
    (deck.setText target text).cells ~
      deck.cells.map (Cell.withContent target [.text .plain text]) := by
  cases found : deck.find? target with
  | none =>
      have absent : target ∉ Forest.ids deck.whole := by
        rw [find?_eq] at found
        exact Forest.find?_eq_none_iff.mp found
      rw [setText, found, cells, Forest.map_withContent_of_not_mem absent]
  | some pair =>
      have whole_eq : (deck.setText target text).whole =
          Forest.setContent target [.text .plain text] deck.whole ++ pair.2 := by
        rw [setText, found, whole, whole, Forest.setContent_append, List.append_assoc]
      rw [cells, whole_eq, Forest.cells_append]
      rw [find?_eq] at found
      exact Forest.cells_setContent_perm distinct found rfl

theorem cells_setAttribute
    {name value : String}
    (distinct : deck.Distinct) :
    (deck.setAttribute id name value).cells =
      deck.cells.map (Cell.withAttribute id name value) := by
  rw [cells, cells, ← Forest.cells_setAttribute distinct, whole, whole,
    Forest.setAttribute_append]
  rfl

/-- A write changes the cells one by one. -/
theorem cells_put_perm
    (distinct : deck.Distinct)
    (write : Write) :
    (deck.put write).cells ~ deck.cells.map write.onCell := by
  match write with
  | .source target text => exact cells_setText_perm distinct
  | .address (.element id) url => exact .of_eq (cells_setAttribute distinct)
  | .address .document url => exact .of_eq (List.map_id' _).symm

/-- What some writes do to the cell of an element. -/
def onCell (writes : List Write) (cell : Cell) : Cell :=
  writes.foldl (fun cell write => write.onCell cell) cell

theorem cells_putAll_perm
    (distinct : deck.Distinct)
    (writes : List Write) :
    (deck.putAll writes).cells ~ deck.cells.map (onCell writes) := by
  induction writes generalizing deck with
  | nil => exact .of_eq (List.map_id' _).symm
  | cons write rest inductionHypothesis =>
      have afterFirst := inductionHypothesis (shape_put_distinct distinct write)
      have first := (cells_put_perm distinct write).map (onCell rest)
      rw [List.map_map] at first
      exact afterFirst.trans first

theorem Distinct.putAll
    (distinct : deck.Distinct)
    (writes : List Write) :
    (deck.putAll writes).Distinct := by
  induction writes generalizing deck with
  | nil => exact distinct
  | cons write rest inductionHypothesis =>
      exact inductionHypothesis (shape_put_distinct distinct write)

namespace Write

/-- Of two writes on one slot only the second one counts. -/
theorem onCell_onCell_of_slot_eq
    {earlier later : Write}
    (sameSlot : earlier.slot = later.slot)
    (cell : Cell) :
    later.onCell (earlier.onCell cell) = later.onCell cell := by
  match earlier, later with
  | .source target text, .source otherTarget otherText =>
      injection sameSlot with same
      subst same
      simp only [onCell, Cell.withContent]
      split <;> simp_all
  | .address (.element id) url, .address (.element otherId) otherUrl =>
      injection sameSlot with same
      injection same with same
      subst same
      simp only [onCell, Cell.withAttribute]
      split <;> simp_all [Tag.put_put]
  | .address .document url, .address .document otherUrl => rfl

/-- Writes on different slots can be exchanged. -/
theorem onCell_comm
    {first second : Write}
    (different : first.slot ≠ second.slot)
    (cell : Cell) :
    second.onCell (first.onCell cell) = first.onCell (second.onCell cell) := by
  match first, second with
  | .source target text, .source otherTarget otherText =>
      have targetsDiffer : target ≠ otherTarget := fun same => different (by simp [slot, same])
      simp only [onCell, Cell.withContent]
      grind
  | .source target text, .address (.element id) url =>
      simp only [onCell, Cell.withContent, Cell.withAttribute]
      grind [Tag.id_put]
  | .address (.element id) url, .source target text =>
      simp only [onCell, Cell.withContent, Cell.withAttribute]
      grind [Tag.id_put]
  | .address (.element id) url, .address (.element otherId) otherUrl =>
      have idsDiffer : id ≠ otherId := fun same => different (by simp [slot, same])
      simp only [onCell, Cell.withAttribute]
      grind [Tag.id_put]
  | .address .document url, _ => rfl
  | .source target text, .address .document url => rfl
  | .address (.element id) url, .address .document otherUrl => rfl

end Write

/-- A write leaves nothing behind when a later one is on the same slot. -/
theorem onCell_overwritten
    {write : Write}
    {writes : List Write}
    (overwritten : write.slot ∈ writes.map Write.slot)
    (cell : Cell) :
    onCell writes (write.onCell cell) = onCell writes cell := by
  induction writes generalizing cell with
  | nil => contradiction
  | cons next rest inductionHypothesis =>
      show onCell rest (next.onCell (write.onCell cell)) = onCell rest (next.onCell cell)
      by_cases same : write.slot = next.slot
      · rw [Write.onCell_onCell_of_slot_eq same]
      · have later : write.slot ∈ rest.map Write.slot := by
          rcases List.mem_cons.mp overwritten with here | later
          · exact absurd here same
          · exact later
        rw [Write.onCell_comm same, inductionHypothesis later]

/-- Writes leave nothing behind when later ones are on all their slots. -/
theorem onCell_append_of_overwritten
    {earlier later : List Write}
    (overwritten : ∀ write ∈ earlier, write.slot ∈ later.map Write.slot)
    (cell : Cell) :
    onCell (earlier ++ later) cell = onCell later cell := by
  induction earlier generalizing cell with
  | nil => rfl
  | cons write rest inductionHypothesis =>
      have restOverwritten := inductionHypothesis
        (fun other member => overwritten other (List.mem_cons_of_mem _ member))
      exact (restOverwritten (write.onCell cell)).trans
        (onCell_overwritten (overwritten write (List.mem_cons_self ..)) cell)

/-! ## Decks of the same cells -/

/-- Decks of the same cells hold the same elements. -/
theorem find?_eq_of_cells_perm
    (distinct : first.Distinct)
    (sameCells : first.cells ~ second.cells)
    (id : Nat) :
    first.find? id = second.find? id := by
  have sameIds : Forest.ids first.whole ~ Forest.ids second.whole := by
    rw [← ids_of_cells, ← ids_of_cells]
    exact sameCells.map _
  have distinctCells : (first.cells.map fun cell => cell.tag.id).Nodup := by
    rw [ids_of_cells]
    exact distinct
  rw [find?_eq, find?_eq]
  by_cases present : id ∈ Forest.ids first.whole
  · obtain ⟨tag, children, found⟩ := Forest.exists_find?_of_mem_ids present
    obtain ⟨otherTag, otherChildren, otherFound⟩ :=
      Forest.exists_find?_of_mem_ids (sameIds.mem_iff.mp present)
    have cell := Forest.cell_mem_of_find? found
    have otherCell := sameCells.mem_iff.mpr (Forest.cell_mem_of_find? otherFound)
    have sameId : tag.id = otherTag.id :=
      (Forest.id_of_find? found).trans (Forest.id_of_find? otherFound).symm
    have sameCell := List.inj_on_of_nodup_map distinctCells cell otherCell sameId
    injection sameCell with sameTag sameParts
    have otherMade : Forest.cells otherChildren ⊆ first.cells :=
      List.Subset.trans (Forest.cells_subset_of_find? otherFound) sameCells.symm.subset
    have sameChildren := Forest.eq_of_cells distinctCells
      (Forest.cells_subset_of_find? found) otherMade sameParts
    rw [found, otherFound, sameTag, sameChildren]
  · rw [Forest.find?_eq_none_iff.mpr present,
      Forest.find?_eq_none_iff.mpr fun member => present (sameIds.mem_iff.mpr member)]

/-- Decks of the same cells with the same at the top of their documents are the same pages. -/
theorem document_eq_of_cells_perm
    (distinct : first.Distinct)
    (sameCells : first.cells ~ second.cells)
    (sameTop : Forest.parts first.document = Forest.parts second.document) :
    first.document = second.document := by
  have distinctCells : (first.cells.map fun cell => cell.tag.id).Nodup := by
    rw [ids_of_cells]
    exact distinct
  have inWhole (deck : Deck) : Forest.cells deck.document ⊆ deck.cells := by
    rw [cells, whole, Forest.cells_append]
    exact List.subset_append_left _ _
  exact Forest.eq_of_cells distinctCells (inWhole first)
    (List.Subset.trans (inWhole second) sameCells.symm.subset) sameTop

/-- Writes leave what stands at the top of the document. -/
theorem parts_putAll (deck : Deck) (writes : List Write) :
    Forest.parts (deck.putAll writes).document = Forest.parts deck.document := by
  induction writes generalizing deck with
  | nil => rfl
  | cons write rest inductionHypothesis =>
      refine (inductionHypothesis (deck.put write)).trans ?_
      match write with
      | .source target text =>
          rw [put, setText]
          split
          · rfl
          · exact Forest.parts_setContent
      | .address (.element id) url => exact Forest.parts_setAttribute
      | .address .document url => rfl

theorem marked_putAll (deck : Deck) (writes : List Write) :
    (deck.putAll writes).marked = deck.marked := by
  induction writes generalizing deck with
  | nil => rfl
  | cons write rest inductionHypothesis =>
      refine (inductionHypothesis (deck.put write)).trans ?_
      match write with
      | .source target text =>
          rw [put, setText]
          split
          · rfl
          · rfl
      | .address (.element id) url => rfl
      | .address .document url => rfl

end CodeDeck.Deck
