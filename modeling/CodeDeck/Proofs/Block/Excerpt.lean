import CodeDeck.Block.Parsed
import CodeDeck.Proofs.Block.Classified
import CodeDeck.Proofs.Block.Trimmed
import Mathlib.Data.List.NodupEquivFin

namespace CodeDeck

open List

/-!
# The shown source is an excerpt

Whatever a slide shows of a block stands in its full source: the shown lines
are lines of the full source in their order, and all of them lose the same
number of characters, which are whitespace. Both sources are trimmed on their
own, so that the window of the shown lines has to be found again inside the
window of the full ones.
-/

/--
A choice of lines of a full source, in their order, and a number of characters dropped from
each of them, which gives the shown lines. A shorter line becomes empty, and a line that is
not blank loses nothing but whitespace.
-/
structure Excerpt (full shown : List String) where
  dropped : Nat
  position : Fin shown.length → Fin full.length
  increasing : ∀ first second, first < second → position first < position second
  taken : ∀ index : Fin shown.length,
    shown[index] = Text.dropFront dropped full[position index]
  onlySpace : ∀ index : Fin shown.length,
    Text.isBlank full[position index] = false →
      dropped ≤ full[position index].toList.length ∧
        ∀ c ∈ full[position index].toList.take dropped, Text.isSpace c = true

/-- Lines that neither start nor end with a blank one. -/
def EndsFull (lines : List String) : Prop :=
  ∀ line : String, line ∈ lines.head? ∨ line ∈ lines.getLast? → Text.isBlank line = false

/-- A part of a full source whose lines lose at most their margins is an excerpt. -/
theorem Excerpt.exists_of_sublist
    {full part : List String}
    {dropped : Nat}
    (inOrder : part <+ full)
    (withinMargin : ∀ line ∈ part, Text.isBlank line = false → dropped ≤ Text.margin line) :
    ∃ excerpt : Excerpt full (part.map (Text.dropFront dropped)),
      excerpt.dropped = dropped := by
  obtain ⟨choice, same⟩ := List.sublist_iff_exists_fin_orderEmbedding_get_eq.mp inOrder
  have sameLength : (part.map (Text.dropFront dropped)).length = part.length := by simp
  refine ⟨{
    dropped
    position := fun index => choice (index.cast sameLength)
    increasing := fun first second before => choice.strictMono before
    taken := ?_
    onlySpace := ?_ }, rfl⟩
  · intro index
    have sameLine := same (index.cast sameLength)
    simpa using congrArg (Text.dropFront dropped) sameLine
  · intro index notBlank
    have member : full[choice (index.cast sameLength)] ∈ part := by
      have sameLine := same (index.cast sameLength)
      rw [Fin.getElem_fin, ← List.get_eq_getElem, ← sameLine]
      exact List.get_mem part _
    have within := withinMargin _ member notBlank
    exact ⟨within.trans (Text.margin_le_length _),
      fun c dropped => Text.isSpace_of_mem_take within dropped⟩

namespace Trim

theorem endsFull_lines
    (source : List String)
    (undented : Bool) :
    EndsFull (lines source undented) := by
  rintro line (first | last)
  · exact isBlank_head?_lines first
  · exact isBlank_getLast?_lines last

end Trim

namespace Block

theorem isLine_of_mem_full
    {block : Block}
    {config : Config}
    {line : String}
    (member : line ∈ (block.classified config).full) :
    Text.IsLine line := by
  rw [classified, Classified.ofLines, Classified.ofLinesFrom_full] at member
  exact Text.isLine_of_mem_splitLines ((Classified.unmarked_sublist block.lines).subset member)

theorem display_sublist
    (block : Block)
    (config : Config) :
    (block.classified config).display <+ (block.classified config).full :=
  Classified.ofLinesFrom_display_sublist _ _ _

theorem isLine_of_mem_display
    {block : Block}
    {config : Config}
    {line : String}
    (member : line ∈ (block.classified config).display) :
    Text.IsLine line :=
  isLine_of_mem_full ((display_sublist block config).subset member)

theorem linesOf_source
    (block : Block)
    (config : Config) :
    Text.linesOf (block.parse config).source =
      Trim.lines (block.classified config).full false :=
  Trim.linesOf_text (fun _ member => isLine_of_mem_full member) false

theorem linesOf_displaySource
    (block : Block)
    (config : Config) :
    Text.linesOf (block.parse config).displaySource =
      Trim.lines (block.classified config).display config.undent :=
  Trim.linesOf_text (fun _ member => isLine_of_mem_display member) config.undent

/--
What a block shows is an excerpt of its full source, with nothing dropped from the lines
unless they are undented. Neither source starts or ends with a blank line, and when lines are
undented one of those shown starts with a character that is no whitespace.
-/
theorem displaySource_excerpt
    (block : Block)
    (config : Config) :
    let full := Text.linesOf (block.parse config).source
    let shown := Text.linesOf (block.parse config).displaySource
    (∃ excerpt : Excerpt full shown, config.undent = false → excerpt.dropped = 0) ∧
      EndsFull full ∧
      EndsFull shown ∧
      (config.undent = true → shown ≠ [] →
        ∃ line ∈ shown, ∃ c ∈ line.toList.head?, Text.isSpace c = false) := by
  intro full shown
  let source := (block.classified config).full
  let display := (block.classified config).display
  have fullShape : full = Trim.window source := block.linesOf_source config
  have shownShape : shown = Trim.lines display config.undent := block.linesOf_displaySource config
  refine ⟨?_, ?_, ?_, ?_⟩
  · -- The two sources are trimmed on their own, so their windows have to be compared.
    obtain ⟨excerpt, dropped⟩ := Excerpt.exists_of_sublist
      (Trim.window_sublist_window (block.display_sublist config))
      (fun line member notBlank => Trim.removed_le config.undent member notBlank)
    rw [fullShape, shownShape, Trim.lines_eq_map]
    refine ⟨excerpt, fun notUndented => ?_⟩
    rw [dropped, Trim.removed, notUndented]
    rfl
  · exact fullShape ▸ Trim.endsFull_lines source false
  · exact shownShape ▸ Trim.endsFull_lines display config.undent
  · intro undented nonempty
    rw [shownShape, undented] at nonempty ⊢
    exact Trim.exists_unindented nonempty

end Block

end CodeDeck
