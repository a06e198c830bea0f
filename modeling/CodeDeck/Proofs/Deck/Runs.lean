import CodeDeck.Proofs.Deck.Writes
import CodeDeck.Proofs.Markup.Numbering

namespace CodeDeck

open List Markup

/-!
# A deck over any run of operations

A deck may be asked for its blocks, processed, written into and rendered in any
order and any number of times. Only applying blocks changes it, and however
often that happens, it keeps its blocks, and what has been applied last is all
that can be seen. Marked elements may be inside of each other: what an outer
one takes out of the document is written into outside of it.
-/

namespace Deck

/-- Something that can be done with a deck. -/
inductive Operation where
  | size
  | blocks
  | process (config : Config)
  | apply (processed : List ProcessedBlock)
  | render
  deriving Repr

/-- What comes out of an operation. -/
inductive Answer where
  | size (count : Nat)
  | blocks (found : List Block)
  | processed (outcome : Outcome Link.Failure (List ProcessedBlock))
  | applied
  | refused (mismatch : CountMismatch)
  | page (text : String)
  deriving Repr

/-- The answer to an operation, and the deck after it. -/
def step (deck : Deck) : Operation → Answer × Deck
  | .size => (.size deck.size, deck)
  | .blocks => (.blocks deck.blocks, deck)
  | .process config => (.processed (Block.processAll config deck.blocks), deck)
  | .apply processed =>
      match deck.apply processed with
      | .ok written => (.applied, written)
      | .error mismatch => (.refused mismatch, deck)
  | .render => (.page deck.render, deck)

/-- The answers to some operations one after the other, and the deck after them. -/
def run (deck : Deck) : List Operation → List Answer × Deck
  | [] => ([], deck)
  | operation :: rest =>
      let first := deck.step operation
      let others := first.2.run rest
      (first.1 :: others.1, others.2)

/-- Whether an answer goes with a number of blocks. -/
def Answer.Counts (count : Nat) : Answer → Prop
  | .size answered => answered = count
  | .blocks found => found.length = count
  | .refused mismatch => mismatch.expected = count
  | .processed _ | .applied | .page _ => True

/-- What every deck has that comes from a page. -/
structure Sound (deck : Deck) : Prop where
  distinct : deck.Distinct
  present : ∀ id ∈ deck.marked, id ∈ Forest.ids deck.whole
  inOrder : deck.InOrder deck.marked

variable {deck written : Deck} {processed earlier later : List ProcessedBlock}

theorem sound_ofDocument
    {document : Forest}
    (distinct : (Forest.ids document).Nodup) :
    (ofDocument document).Sound := by
  have whole_eq : (ofDocument document).whole = document := List.append_nil _
  have markedSublist : markedIn document <+ Forest.ids document :=
    List.filter_sublist.map _
  refine ⟨?_, ?_, ?_⟩
  · rwa [Distinct, whole_eq]
  · rw [whole_eq]
    exact fun id member => markedSublist.subset member
  · have apart := (distinct.and (Forest.pairwise_outside distinct)).sublist markedSublist
    refine List.Pairwise.imp (fun {earlier later} held => ⟨held.1, fun inside => ?_⟩) apart
    obtain ⟨tag, children, found, inChildren⟩ := exists_find?_of_mem_inside inside
    rw [find?_eq, whole_eq] at found
    exact held.2 (tag, children) found inChildren

theorem exists_document_of_parse
    {page : String}
    (read : Deck.parse page = .ok deck) :
    ∃ document, Forest.parse page.toList = .ok document ∧ deck = ofDocument document := by
  rw [Deck.parse] at read
  cases found : Forest.parse page.toList with
  | error rejection => rw [found] at read; contradiction
  | ok document =>
      rw [found] at read
      cases read
      exact ⟨document, rfl, rfl⟩

theorem sound_of_parse
    {page : String}
    (read : Deck.parse page = .ok deck) :
    deck.Sound := by
  obtain ⟨document, found, rfl⟩ := exists_document_of_parse read
  exact sound_ofDocument (Forest.nodup_ids_of_parse found)

theorem detached_of_parse
    {page : String}
    (read : Deck.parse page = .ok deck) :
    deck.detached = [] := by
  obtain ⟨document, -, rfl⟩ := exists_document_of_parse read
  rfl

/-- What is seen of a result that is computed holds of what was returned. -/
theorem exists_ok_of_map
    {ε α β : Type}
    {result : Except ε α}
    {look : α → β}
    {seen : β}
    (found : result.toOption.map look = some seen) :
    ∃ value, result = .ok value ∧ look value = seen := by
  cases result with
  | error failure => cases found
  | ok value => exact ⟨value, rfl, Option.some.inj found⟩

/-- Applying blocks, as many as there are marked elements, writes them on their places. -/
theorem Sound.apply_eq
    (sound : deck.Sound)
    (sameLength : processed.length = deck.size) :
    deck.apply processed = .ok (deck.putAll (writes (deck.places deck.marked) processed)) := by
  rw [apply, if_pos sameLength, applyAll_eq_putAll sound.distinct sound.present]

theorem apply_eq_error
    (otherLength : processed.length ≠ deck.size) :
    deck.apply processed = .error ⟨deck.size, processed.length⟩ := by
  rw [apply, if_neg otherLength]

theorem exists_apply_of_ok
    (applied : deck.apply processed = .ok written) :
    processed.length = deck.size := by
  by_contra otherLength
  rw [apply_eq_error otherLength] at applied
  contradiction

/-! ## What stays -/

theorem ids_cutAll_perm
    (distinct : deck.Distinct)
    (places : List Place) :
    Forest.ids (deck.cutAll places).whole ~ Forest.ids deck.whole := by
  induction places generalizing deck with
  | nil => exact .refl _
  | cons place rest inductionHypothesis =>
      exact (inductionHypothesis (distinct.cut _)).trans (ids_cut_perm distinct)

theorem InOrder.cutAll
    {ids : List Nat}
    (inOrder : deck.InOrder ids)
    (distinct : deck.Distinct)
    (places : List Place) :
    (deck.cutAll places).InOrder ids := by
  induction places generalizing deck with
  | nil => exact inOrder
  | cons place rest inductionHypothesis =>
      exact inductionHypothesis (inOrder.cut distinct) (distinct.cut _)

/-- One step keeps a deck sound, and the marked elements as well. -/
theorem Sound.apply
    (sound : deck.Sound)
    (applied : deck.apply processed = .ok written) :
    written.Sound ∧ written.marked = deck.marked := by
  have sameLength := exists_apply_of_ok applied
  rw [sound.apply_eq sameLength] at applied
  cases applied
  let places := deck.places deck.marked
  have sameShape :
      (deck.putAll (writes places processed)).shape = (deck.cutAll places).shape :=
    shape_putAll_writes (by rw [sameLength, length_places, size])
  have sameMarked := deck.marked_putAll (writes places processed)
  have cutInOrder := sound.inOrder.cutAll sound.distinct places
  refine ⟨⟨sound.distinct.putAll _, ?_, ?_⟩, sameMarked⟩
  · rw [sameMarked]
    intro id member
    rw [← ids_whole_shape, sameShape, ids_whole_shape]
    exact (ids_cutAll_perm sound.distinct places).mem_iff.mpr (sound.present id member)
  · rw [sameMarked]
    refine cutInOrder.imp fun apart => ⟨apart.1, ?_⟩
    rw [← inside_shape, sameShape, inside_shape]
    exact apart.2

/-- Every marked element has its block. -/
theorem Sound.map_some_blocks
    (sound : deck.Sound) :
    deck.blocks.map some =
      deck.marked.map fun id => (deck.find? id).map fun found => blockOf found.1 found.2 := by
  have found : ∀ ids ⊆ Forest.ids deck.whole,
      (ids.filterMap fun id =>
        (deck.find? id).map fun found => blockOf found.1 found.2).map some =
          ids.map fun id => (deck.find? id).map fun found => blockOf found.1 found.2 := by
    intro ids present
    induction ids with
    | nil => rfl
    | cons id rest inductionHypothesis =>
        obtain ⟨here, inRest⟩ := List.cons_subset.mp present
        obtain ⟨tag, children, found⟩ := Forest.exists_find?_of_mem_ids here
        rw [← find?_eq] at found
        simp only [List.filterMap_cons, found, Option.map_some, List.map_cons]
        rw [inductionHypothesis inRest]
  exact found deck.marked sound.present

theorem Sound.length_blocks
    (sound : deck.Sound) :
    deck.blocks.length = deck.size := by
  have lengths := congrArg List.length sound.map_some_blocks
  rwa [List.length_map, List.length_map] at lengths

theorem Sound.step
    (sound : deck.Sound)
    (operation : Operation) :
    (deck.step operation).2.Sound ∧
      (deck.step operation).2.marked = deck.marked ∧
      (deck.step operation).1.Counts deck.size := by
  cases operation with
  | size => exact ⟨sound, rfl, rfl⟩
  | blocks => exact ⟨sound, rfl, sound.length_blocks⟩
  | process config => exact ⟨sound, rfl, trivial⟩
  | render => exact ⟨sound, rfl, trivial⟩
  | apply processed =>
      rw [Deck.step]
      by_cases sameLength : processed.length = deck.size
      · have applied := sound.apply_eq sameLength
        obtain ⟨stillSound, sameMarked⟩ := sound.apply applied
        rw [applied]
        exact ⟨stillSound, sameMarked, trivial⟩
      · rw [apply_eq_error sameLength]
        exact ⟨sound, rfl, rfl⟩

/-- Any run of operations keeps a deck sound, and all its answers go with its number of blocks. -/
theorem Sound.run
    (sound : deck.Sound)
    (operations : List Operation) :
    (deck.run operations).2.Sound ∧
      (deck.run operations).2.marked = deck.marked ∧
      ∀ answer ∈ (deck.run operations).1, answer.Counts deck.size := by
  induction operations generalizing deck with
  | nil => exact ⟨sound, rfl, fun _ member => nomatch member⟩
  | cons operation rest inductionHypothesis =>
      obtain ⟨stillSound, sameMarked, counts⟩ := sound.step operation
      obtain ⟨endSound, endMarked, endCounts⟩ := inductionHypothesis stillSound
      refine ⟨endSound, endMarked.trans sameMarked, fun answer member => ?_⟩
      rcases List.mem_cons.mp member with rfl | inRest
      · exact counts
      · have counted := endCounts answer inRest
        rwa [size, sameMarked] at counted

/-! ## The last blocks count -/

theorem slots_of_writes
    {places : List Place}
    (sameLength : processed.length = places.length) :
    (writes places processed).map Write.slot =
      places.flatMap fun place => [.content place.target, .address place.carrier] := by
  induction places generalizing processed with
  | nil => rfl
  | cons place rest inductionHypothesis =>
      match processed with
      | block :: blocks =>
          have restLength : blocks.length = rest.length := by simpa using sameLength
          rw [writes, List.zip_cons_cons, List.flatMap_cons, List.map_append, ← writes,
            inductionHypothesis restLength, List.flatMap_cons]
          rfl

/-- After some blocks have been applied, other ones find the same places. -/
theorem Sound.places_apply
    (sound : deck.Sound)
    (sameLength : processed.length = deck.size) :
    (deck.putAll (writes (deck.places deck.marked) processed)).places deck.marked =
      deck.places deck.marked := by
  let places := deck.places deck.marked
  have sameShape :
      (deck.putAll (writes places processed)).shape = (deck.cutAll places).shape :=
    shape_putAll_writes (by rw [sameLength, length_places, size])
  have settled := settled_of_run sound.distinct sound.inOrder
  refine places_of_settled (sound.distinct.putAll _) (length_places _ _) fun entry member => ?_
  exact (settled entry member).of_shape_eq sameShape

/-- Of two rows of blocks that are applied, only the later one can be seen. -/
theorem Sound.apply_apply
    (sound : deck.Sound)
    (earlierLength : earlier.length = deck.size)
    (laterLength : later.length = deck.size) :
    ∃ first both once,
      deck.apply earlier = .ok first ∧
        first.apply later = .ok both ∧
        deck.apply later = .ok once ∧
        both.render = once.render ∧
        both.blocks = once.blocks := by
  let places := deck.places deck.marked
  let first := deck.putAll (writes places earlier)
  let both := first.putAll (writes places later)
  let once := deck.putAll (writes places later)
  have firstApplied : deck.apply earlier = .ok first := sound.apply_eq earlierLength
  obtain ⟨firstSound, sameMarked⟩ := sound.apply firstApplied
  have bothApplied : first.apply later = .ok both := by
    have firstSize : later.length = first.size := by rw [laterLength, size, size, sameMarked]
    rw [firstSound.apply_eq firstSize, sameMarked]
    exact congrArg (fun places => Except.ok (first.putAll (writes places later)))
      (sound.places_apply earlierLength)
  have overwritten : ∀ write ∈ writes places earlier,
      write.slot ∈ (writes places later).map Write.slot := by
    intro write member
    rw [slots_of_writes (by rw [laterLength, length_places, size]),
      ← slots_of_writes (show earlier.length = places.length by
        rw [earlierLength, length_places, size])]
    exact List.mem_map_of_mem member
  have sameCells : both.cells ~ once.cells := by
    have onBoth : both.cells ~
        deck.cells.map (onCell (writes places earlier ++ writes places later)) := by
      have all := cells_putAll_perm sound.distinct (writes places earlier ++ writes places later)
      rwa [putAll, List.foldl_append] at all
    have onOnce := cells_putAll_perm sound.distinct (writes places later)
    refine onBoth.trans (Perm.trans (.of_eq ?_) onOnce.symm)
    exact List.map_congr_left fun cell _ => onCell_append_of_overwritten overwritten cell
  have bothDistinct : both.Distinct := firstSound.distinct.putAll _
  have sameTop : Forest.parts both.document = Forest.parts once.document := by
    rw [parts_putAll, parts_putAll, parts_putAll]
  have bothMarked : both.marked = once.marked := by
    rw [marked_putAll, marked_putAll, marked_putAll]
  refine ⟨first, both, once, firstApplied, bothApplied, sound.apply_eq laterLength, ?_, ?_⟩
  · rw [render, render, document_eq_of_cells_perm bothDistinct sameCells sameTop]
  · rw [blocks, blocks, bothMarked]
    exact List.filterMap_congr fun id _ => by
      rw [find?_eq_of_cells_perm bothDistinct sameCells id]

/-- Whatever has been done with a deck, blocks that are applied next are all that can be seen. -/
theorem Sound.run_apply
    (sound : deck.Sound)
    (operations : List Operation)
    (laterLength : later.length = deck.size) :
    ∃ last once,
      (deck.run operations).2.apply later = .ok last ∧
        deck.apply later = .ok once ∧
        last.render = once.render ∧
        last.blocks = once.blocks := by
  induction operations generalizing deck with
  | nil => exact ⟨_, _, sound.apply_eq laterLength, sound.apply_eq laterLength, rfl, rfl⟩
  | cons operation rest inductionHypothesis =>
      obtain ⟨stillSound, sameMarked, -⟩ := sound.step operation
      have stillLength : later.length = (deck.step operation).2.size := by
        rw [laterLength, size, size, sameMarked]
      obtain ⟨last, middle, lastApplied, middleApplied, sameRender, sameBlocks⟩ :=
        inductionHypothesis stillSound stillLength
      suffices seen : ∃ once, deck.apply later = .ok once ∧
          middle.render = once.render ∧ middle.blocks = once.blocks by
        obtain ⟨once, onceApplied, onceRender, onceBlocks⟩ := seen
        exact ⟨last, once, lastApplied, onceApplied, sameRender.trans onceRender,
          sameBlocks.trans onceBlocks⟩
      cases operation with
      | size | blocks | process | render => exact ⟨middle, middleApplied, rfl, rfl⟩
      | apply processed =>
          rw [Deck.step] at middleApplied
          split at middleApplied
          · rename_i first firstApplied
            obtain ⟨firstAgain, both, once, firstAgainApplied, bothApplied, onceApplied, seen⟩ :=
              sound.apply_apply (exists_apply_of_ok firstApplied) laterLength
            rw [firstApplied] at firstAgainApplied
            cases firstAgainApplied
            rw [bothApplied] at middleApplied
            cases middleApplied
            exact ⟨once, onceApplied, seen⟩
          · exact ⟨middle, middleApplied, rfl, rfl⟩

/--
For every page and every run of operations on its deck: the number of blocks stays, blocks that
are not as many are refused and change nothing, and what is applied last is all that can be seen.
-/
theorem run_of_parse
    {page : String}
    (read : Deck.parse page = .ok deck)
    (operations : List Operation) :
    let reached := (deck.run operations).2
    (∀ answer ∈ (deck.run operations).1, answer.Counts deck.size) ∧
      reached.size = deck.size ∧
      reached.blocks.length = deck.size ∧
      (∀ processed, processed.length ≠ deck.size →
        reached.step (.apply processed) =
          (.refused ⟨deck.size, processed.length⟩, reached)) ∧
      (∀ earlier later, earlier.length = deck.size → later.length = deck.size →
        ∃ first both once,
          reached.apply earlier = .ok first ∧
            first.apply later = .ok both ∧
            reached.apply later = .ok once ∧
            both.render = once.render ∧
            both.blocks = once.blocks) ∧
      (∀ later, later.length = deck.size →
        ∃ last once,
          reached.apply later = .ok last ∧
            deck.apply later = .ok once ∧
            last.render = once.render ∧
            last.blocks = once.blocks) := by
  intro reached
  have sound := sound_of_parse read
  obtain ⟨reachedSound, sameMarked, counts⟩ := sound.run operations
  have sameSize : reached.size = deck.size := congrArg List.length sameMarked
  refine ⟨counts, sameSize, reachedSound.length_blocks.trans sameSize, ?_, ?_, ?_⟩
  · intro processed otherLength
    rw [← sameSize] at otherLength ⊢
    rw [Deck.step, apply_eq_error otherLength]
  · intro earlier later earlierLength laterLength
    exact reachedSound.apply_apply (earlierLength.trans sameSize.symm)
      (laterLength.trans sameSize.symm)
  · intro later laterLength
    exact sound.run_apply operations laterLength

/-- A marked element inside of a marked one is taken out of the document, and counts as before. -/
theorem run_of_parse_nested :
    ∃ deck,
      Deck.parse "<pre data-ce><code data-ce>a</code><code>b</code></pre>" = .ok deck ∧
        deck.size = 2 ∧
        ∀ operations, (deck.run operations).2.blocks.length = 2 := by
  have readsTwo :
      (Deck.parse "<pre data-ce><code data-ce>a</code><code>b</code></pre>").toOption.map size =
        some 2 := by
    decide +kernel
  match read : Deck.parse "<pre data-ce><code data-ce>a</code><code>b</code></pre>" with
  | .error rejection =>
      rw [read] at readsTwo
      contradiction
  | .ok deck =>
      rw [read] at readsTwo
      have two : deck.size = 2 := Option.some.inj readsTwo
      refine ⟨deck, rfl, two, fun operations => ?_⟩
      exact ((run_of_parse read operations).2.2.1).trans two

end Deck

end CodeDeck
