import CodeDeck.Proofs.Block.Passes
import CodeDeck.Proofs.Deck.Frame
import CodeDeck.Proofs.Text.Stripped

namespace CodeDeck

open Markup

/-!
# What marked elements show

The text of a block is that of its whole element, but its source is written into
the target, which may be a code element inside. Whatever stands around the target
stays, so the element shows the source and nothing else exactly when it has only
blanks outside of its target: `apply_showsSource`.
-/

namespace Markup.Forest

variable {id : Nat} {tag : Tag} {forest children : Forest}

/-- The texts in an element stand in one piece among those of the forest, whatever they are. -/
theorem exists_texts_around
    (takes : TextKind → Bool)
    (distinct : (ids forest).Nodup)
    (found : find? id forest = some (tag, children)) :
    ∃ front behind, ∀ content,
      texts takes (setContent id content forest) = front ++ (texts takes content ++ behind) := by
  induction forest using Forest.induction with
  | nil => contradiction
  | text kind text nodes ofNodes =>
      obtain ⟨front, behind, around⟩ := ofNodes distinct found
      refine ⟨(Node.text kind text).texts takes ++ front, behind, fun content => ?_⟩
      rw [setContent_text, texts, around, List.append_assoc]
  | element top inner nodes ofInner ofNodes =>
      have apart := frontApart distinct
      rcases cases_of_find?_element found with
        ⟨rfl, -, -⟩ | ⟨different, inside⟩ | ⟨different, absent, later⟩
      · refine ⟨[], texts takes nodes, fun content => ?_⟩
        rw [setContent_element, if_pos rfl, setContent_of_not_mem apart.front_not_mem_nodes]
        rfl
      · obtain ⟨front, behind, around⟩ := ofInner apart.inner_nodup inside
        have notInNodes := apart.inner_not_mem_nodes (mem_ids_of_find? inside)
        refine ⟨front, behind ++ texts takes nodes, fun content => ?_⟩
        rw [setContent_element, if_neg different, setContent_of_not_mem notInNodes, texts,
          Node.texts, around, List.append_assoc, List.append_assoc]
      · obtain ⟨front, behind, around⟩ := ofNodes apart.nodes_nodup later
        refine ⟨texts takes inner ++ front, behind, fun content => ?_⟩
        rw [setContent_element, if_neg different,
          setContent_of_not_mem (find?_eq_none_iff.mp absent), texts, Node.texts, around,
          List.append_assoc]

end Markup.Forest

namespace Deck

/-- The text of an element outside of what its source is written into. -/
def outerText (tag : Tag) (children : Forest) : String :=
  textOf tag (Forest.setContent (target tag.id children) [] [.element tag children])

variable {deck : Deck} {id : Nat} {processed : List ProcessedBlock} {block : ProcessedBlock}
variable {tag : Tag} {children : Forest}

theorem target_mem_ids (tag : Tag) (children : Forest) :
    target tag.id children ∈ Forest.ids [.element tag children] := by
  rw [Forest.ids_element, Forest.ids_nil, List.append_nil, target]
  split
  · rename_i code only
    have isCode : code ∈ codes children := by simp [only]
    exact List.mem_cons_of_mem _ ((List.filter_sublist.map _).subset isCode)
  · exact List.mem_cons_self ..

/-- A text in the target stands in one piece in the text outside of it, when it counts at all. -/
theorem exists_outerText
    (distinct : (Forest.ids [.element tag children]).Nodup) :
    ∃ front behind,
      (outerText tag children).toList = front ++ behind ∧
        ∀ text,
          (textOf tag (Forest.setContent (target tag.id children) [.text .plain text]
              [.element tag children])).toList =
            front ++ ((if takesText tag.name .plain then text.toList else []) ++ behind) := by
  obtain ⟨targetTag, inner, found⟩ := Forest.exists_find?_of_mem_ids (target_mem_ids tag children)
  obtain ⟨front, behind, around⟩ :=
    Forest.exists_texts_around (takesText tag.name) distinct found
  refine ⟨front.flatMap String.toList, behind.flatMap String.toList, ?_, fun text => ?_⟩
  · rw [outerText, textOf, around, String.toList_join, List.flatMap_append]
    rfl
  · rw [textOf, around, String.toList_join, List.flatMap_append, List.flatMap_append, Forest.texts,
      Node.texts]
    split <;> simp [Forest.texts]

namespace Fits

/-- In a marked element nothing is written but the source into its target. -/
theorem onCell_of_marked
    {cell : Cell}
    (fits : deck.Fits processed)
    (member : (id, block) ∈ deck.marked.zip processed)
    (inMarked : cell.tag.id ∈ id :: deck.inside id) :
    onCell (deck.writesAt (deck.marked.zip processed)) cell =
      cell.withContent (deck.targetOf id) [.text .plain block.parsed.displaySource] := by
  obtain ⟨before, behind, split⟩ := List.append_of_mem member
  have idMarked := (marked_of_split split).1
  have sameTag : (onCell (deck.writesAt (deck.marked.zip processed)) cell).tag = cell.tag :=
    attribute_onCell_of_not_mem (slot_ne_address (fits.carrier_ne idMarked inMarked))
  have content := fits.content_onCell_of_marked split inMarked
  rw [Cell.withContent]
  split
  · rename_i isTarget
    exact congrArg₂ Cell.mk sameTag (content.trans (if_pos isTarget))
  · rename_i notTarget
    exact congrArg₂ Cell.mk sameTag (content.trans (if_neg notTarget))

/-- What stands in a marked element is made of its old cells, but for that of the target. -/
theorem eq_setContent_of_filled
    {content : Forest}
    (fits : deck.Fits processed)
    (member : (id, block) ∈ deck.marked.zip processed)
    (found : deck.find? id = some (tag, children))
    (filledFound : Forest.find? id (deck.filled processed).document = some (tag, content))
    (targetInside : target id children ∈ Forest.ids children)
    (sameTop : Forest.parts content = Forest.parts children) :
    content =
      Forest.setContent (target id children) [.text .plain block.parsed.displaySource]
        children := by
  have distinct := fits.sound.distinct
  let after := deck.filled processed
  have distinctCells : (after.cells.map fun cell => cell.tag.id).Nodup := by
    rw [ids_of_cells]
    exact distinct.putAll _
  have foundInDocument := found
  rw [fits.find?_document] at foundInDocument
  obtain ⟨targetTag, inner, targetFound⟩ := Forest.exists_find?_of_mem_ids targetInside
  have noElements : Forest.ids [.text .plain block.parsed.displaySource] = [] := rfl
  have childrenDistinct := Forest.nodup_of_find? fits.documentDistinct foundInDocument
  -- Both sides are made of cells of the deck after the writes, whose numbers are all different.
  refine Forest.eq_of_cells distinctCells ?_ ?_ (by rw [sameTop, Forest.parts_setContent])
  · intro cell inContent
    rw [cells, whole, Forest.cells_append]
    exact List.mem_append_left _ (Forest.cells_subset_of_find? filledFound inContent)
  · intro cell inFilled
    have moved := Forest.cells_setContent_perm childrenDistinct targetFound noElements
    obtain ⟨old, oldMember, rfl⟩ :=
      List.mem_map.mp (moved.subset (List.mem_append_left _ inFilled))
    have inMarked : old.tag.id ∈ id :: deck.inside id := by
      rw [inside_of_find? found]
      exact List.mem_cons_of_mem _ (Forest.id_mem_ids_of_mem_cells oldMember)
    have inDeck : old ∈ deck.cells := by
      rw [cells, fits.whole_eq]
      exact Forest.cells_subset_of_find? foundInDocument oldMember
    have written := fits.onCell_of_marked member inMarked
    rw [targetOf_of_find? found] at written
    refine (cells_putAll_perm distinct _).mem_iff.mpr (List.mem_map.mpr ⟨old, inDeck, ?_⟩)
    exact written

/-- A marked element after its source has been written, with nothing else changed in it. -/
theorem find?_marked_filled
    (fits : deck.Fits processed)
    (member : (id, block) ∈ deck.marked.zip processed)
    (found : Forest.find? id deck.document = some (tag, children)) :
    ∃ content,
      Forest.find? id (deck.filled processed).document = some (tag, content) ∧
        [.element tag content] =
          Forest.setContent (target id children) [.text .plain block.parsed.displaySource]
            [.element tag children] := by
  have distinct := fits.sound.distinct
  have idMarked := (List.of_mem_zip member).1
  have tagId := Forest.id_of_find? found
  have foundInDeck := found
  rw [← fits.find?_document] at foundInDeck
  have sameTarget := targetOf_of_find? foundInDeck
  obtain ⟨content, filledFound, cell_eq⟩ := fits.exists_find?_marked idMarked found
  refine ⟨content, filledFound, ?_⟩
  rw [fits.onCell_of_marked member (by rw [tagId]; exact List.mem_cons_self ..), sameTarget,
    Cell.withContent] at cell_eq
  rw [Forest.setContent_element, Forest.setContent_nil]
  by_cases itself : tag.id = target id children
  · rw [if_pos itself] at cell_eq ⊢
    rw [Forest.eq_text_of_parts (Cell.mk.inj cell_eq).2.symm]
  · rw [if_neg itself] at cell_eq ⊢
    have sameTop := (Cell.mk.inj cell_eq).2
    have targetInside : target id children ∈ Forest.ids children := by
      rcases targetOf_mem deck id with isId | inside
      · exact absurd (tagId.trans (isId.symm.trans sameTarget)) itself
      · rwa [sameTarget, inside_of_find? foundInDeck] at inside
    have same := fits.eq_setContent_of_filled member foundInDeck filledFound targetInside
      sameTop.symm
    rw [same]

/-- What a marked element shows after its source has been written. -/
theorem sameStripped_filled_iff
    (fits : deck.Fits processed)
    (member : (id, block) ∈ deck.marked.zip processed)
    (found : Forest.find? id deck.document = some (tag, children)) :
    ∃ content,
      Forest.find? id (deck.filled processed).document = some (tag, content) ∧
        (takesText tag.name .plain = true →
          (Text.SameStripped (textOf tag content) block.parsed.displaySource ↔
            Text.isBlank (outerText tag children) = true)) ∧
        (takesText tag.name .plain = false → textOf tag content = outerText tag children) := by
  have distinct : (Forest.ids [.element tag children]).Nodup := by
    rw [Forest.ids_element, Forest.ids_nil, List.append_nil, Forest.id_of_find? found]
    exact fits.documentDistinct.sublist (Forest.ids_sublist_of_find? found)
  obtain ⟨content, filledFound, content_eq⟩ := fits.find?_marked_filled member found
  obtain ⟨front, behind, outer, around⟩ := exists_outerText distinct
  have shown : (textOf tag content).toList =
      front ++ ((if takesText tag.name .plain then block.parsed.displaySource.toList else []) ++
        behind) := by
    have sameText : textOf tag content = textOf tag [.element tag content] := by
      rw [textOf, textOf, Forest.texts, Node.texts, Forest.texts, List.append_nil]
    rw [sameText, content_eq, ← Forest.id_of_find? found, around]
  refine ⟨content, filledFound, fun takes => ?_, fun ignores => ?_⟩
  · rw [takes, if_pos rfl] at shown
    rw [Text.SameStripped, shown, Text.stripSpaces_surrounded_iff, Text.isBlank, outer,
      List.all_eq_true]
  · rw [ignores, if_neg Bool.false_ne_true, List.nil_append, ← outer] at shown
    exact String.toList_inj.mp shown

/-- The block of a marked element is that of its text and attributes. -/
theorem parsed_eq
    {config : Config}
    (fits : deck.Fits processed)
    (produced : (Block.processAll config deck.blocks).result = .ok processed)
    (member : (id, block) ∈ deck.marked.zip processed)
    (found : Forest.find? id deck.document = some (tag, children)) :
    block.parsed = (blockOf tag children).parse config := by
  obtain ⟨index, atIndex⟩ := List.mem_iff_getElem?.mp member
  obtain ⟨isMarked, isProcessed⟩ := List.getElem?_zip_eq_some.mp atIndex
  have isBlock : deck.blocks[index]? = some (blockOf tag children) := by
    have looked := congrArg (fun blocks => blocks[index]?) fits.sound.map_some_blocks
    rw [← fits.find?_document] at found
    simpa [isMarked, found] using looked
  have parsed := congrArg (fun blocks => blocks[index]?) (Block.processAll_parsed produced)
  simpa [isBlock, isProcessed] using parsed

end Fits

theorem fits_of_parse
    {page : String}
    {config : Config}
    (read : Deck.parse page = .ok deck)
    (unnested : deck.Unnested)
    (produced : (Block.processAll config deck.blocks).result = .ok processed) :
    deck.Fits processed := by
  have sound := sound_of_parse read
  have sameLength := congrArg List.length (Block.processAll_parsed produced)
  rw [List.length_map, List.length_map, sound.length_blocks] at sameLength
  exact ⟨sound, detached_of_parse read, unnested, sameLength⟩

/--
What a page shows after its blocks have been processed and applied, when no marked element is
inside of another. A marked element shows the source that is to be shown, but for whitespace at
the ends, exactly when all of its text outside of the target is blank; with any other text there
it shows that text too. An element that takes no plain text shows the text outside of the target
alone.
-/
theorem apply_showsSource
    {page : String}
    {config : Config}
    (read : Deck.parse page = .ok deck)
    (unnested : deck.Unnested)
    (produced : (Block.processAll config deck.blocks).result = .ok processed) :
    ∃ after,
      deck.apply processed = .ok after ∧
        ∀ id block,
          (id, block) ∈ deck.marked.zip processed →
            ∃ tag children content,
              Forest.find? id deck.document = some (tag, children) ∧
                block.parsed = (blockOf tag children).parse config ∧
                Forest.find? id after.document = some (tag, content) ∧
                (takesText tag.name .plain = true →
                  (Text.SameStripped (textOf tag content) block.parsed.displaySource ↔
                    Text.isBlank (outerText tag children) = true)) ∧
                (takesText tag.name .plain = false →
                  textOf tag content = outerText tag children) := by
  have fits := fits_of_parse read unnested produced
  refine ⟨_, fits.apply_eq, fun id block member => ?_⟩
  obtain ⟨tag, children, found⟩ :=
    Forest.exists_find?_of_mem_ids (fits.present id (List.of_mem_zip member).1)
  obtain ⟨content, filledFound, shows, hides⟩ := fits.sameStripped_filled_iff member found
  exact ⟨tag, children, content, found, fits.parsed_eq produced member found, filledFound, shows,
    hides⟩

/-- What is seen of a page before its blocks are applied. -/
structure Survey where
  marked : List Nat
  unnested : Bool
  /-- How many blocks are processed with no overrides given. -/
  processed : Option Nat
  /-- For each marked element, if it takes plain text and has only blanks around its target. -/
  shown : List (Option (Bool × Bool))
deriving DecidableEq

def survey (deck : Deck) : Survey where
  marked := deck.marked
  unnested := decide deck.Unnested
  processed := (Block.processAll .default deck.blocks).result.toOption.map List.length
  shown := deck.marked.map fun id => (Forest.find? id deck.document).map fun found =>
    (takesText found.1.name .plain, Text.isBlank (outerText found.1 found.2))

/-- An element with text before the code in it, and one with only blanks around its code. -/
theorem apply_showsSource_mixed :
    let page := "<pre data-ce>int a;<code>int b;</code></pre>" ++
      "<pre data-ce>\n<code> int c;</code>\n</pre>"
    ∃ deck processed after,
      Deck.parse page = .ok deck ∧
        deck.Unnested ∧
        (Block.processAll .default deck.blocks).result = .ok processed ∧
        deck.apply processed = .ok after ∧
        deck.marked = [0, 2] ∧
        ∀ id block,
          (id, block) ∈ deck.marked.zip processed →
            ∃ tag content,
              Forest.find? id after.document = some (tag, content) ∧
                (Text.SameStripped (textOf tag content) block.parsed.displaySource ↔
                  id = 2) := by
  intro page
  obtain ⟨deck, read, seen⟩ : ∃ deck, Deck.parse page = .ok deck ∧
      survey deck = ⟨[0, 2], true, some 2, [some (true, false), some (true, true)]⟩ :=
    exists_ok_of_map (by decide +kernel)
  simp only [survey, Survey.mk.injEq, decide_eq_true_eq] at seen
  obtain ⟨marked, unnested, counted, looks⟩ := seen
  obtain ⟨processed, produced, -⟩ := exists_ok_of_map counted
  obtain ⟨after, applied, shows⟩ := apply_showsSource read unnested produced
  refine ⟨deck, processed, after, read, unnested, produced, applied, marked, ?_⟩
  intro id block member
  obtain ⟨tag, children, content, found, -, afterFound, whenTaken, -⟩ := shows id block member
  refine ⟨tag, content, afterFound, ?_⟩
  have isMarked := (List.of_mem_zip member).1
  rw [marked] at isMarked looks
  simp only [List.map_cons, List.map_nil, List.cons.injEq] at looks
  obtain ⟨lookFirst, lookSecond, -⟩ := looks
  rcases List.mem_pair.mp isMarked with rfl | rfl
  · rw [found, Option.map_some, Option.some.injEq, Prod.mk.injEq] at lookFirst
    rw [whenTaken lookFirst.1, lookFirst.2]
    decide
  · rw [found, Option.map_some, Option.some.injEq, Prod.mk.injEq] at lookSecond
    rw [whenTaken lookSecond.1, lookSecond.2]
    decide

/-- Not every marked element shows its source alone: there may be text around the target. -/
theorem not_forall_showsSource :
    ¬ ∀ page deck config processed after,
      Deck.parse page = .ok deck →
        deck.Unnested →
        (∀ tag ∈ Forest.tags deck.document, tag.name ∉ ["script", "style", "template"]) →
        (Block.processAll config deck.blocks).result = .ok processed →
        deck.apply processed = .ok after →
        ∀ id block,
          (id, block) ∈ deck.marked.zip processed →
            ∃ tag content,
              Forest.find? id after.document = some (tag, content) ∧
                Text.SameStripped (textOf tag content) block.parsed.displaySource := by
  intro always
  obtain ⟨deck, read, seen⟩ : ∃ deck,
      Deck.parse "<pre data-ce>int a;<code>int b;</code></pre>" = .ok deck ∧
        (survey deck, (Forest.tags deck.document).map Tag.name) =
          (⟨[0], true, some 1, [some (true, false)]⟩, ["pre", "code"]) :=
    exists_ok_of_map (by decide +kernel)
  simp only [survey, Prod.mk.injEq, Survey.mk.injEq, decide_eq_true_eq] at seen
  obtain ⟨⟨marked, unnested, counted, looks⟩, names⟩ := seen
  have noScript :
      ∀ tag ∈ Forest.tags deck.document, tag.name ∉ ["script", "style", "template"] := by
    intro tag member
    have named : tag.name ∈ ["pre", "code"] := names ▸ List.mem_map_of_mem member
    rcases List.mem_pair.mp named with isPre | isCode
    · rw [isPre]
      decide
    · rw [isCode]
      decide
  obtain ⟨processed, produced, length⟩ := exists_ok_of_map counted
  obtain ⟨block, rfl⟩ := List.length_eq_one_iff.mp length
  have fits := fits_of_parse read unnested produced
  have member : (0, block) ∈ deck.marked.zip [block] := by
    rw [marked]
    exact List.mem_cons_self ..
  obtain ⟨tag, content, afterFound, same⟩ :=
    always _ deck _ _ _ read unnested noScript produced fits.apply_eq 0 block member
  obtain ⟨top, children, found⟩ :=
    Forest.exists_find?_of_mem_ids (fits.present 0 (List.of_mem_zip member).1)
  obtain ⟨filled, filledFound, shows, -⟩ := fits.sameStripped_filled_iff member found
  rw [filledFound] at afterFound
  cases afterFound
  simp only [marked, List.map_cons, found, Option.map_some, List.cons.injEq, Option.some.injEq,
    Prod.mk.injEq] at looks
  have blank := (shows looks.1.1).mp same
  rw [looks.1.2] at blank
  contradiction

end Deck

end CodeDeck
