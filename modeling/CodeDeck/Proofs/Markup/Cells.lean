import CodeDeck.Proofs.Markup.Attributes
import CodeDeck.Proofs.Markup.Numbers

namespace CodeDeck.Markup

open List

/-!
# Forests as cells

A forest can be read as a store with one cell for each element, which holds the
element's tag and, by number, what stands directly in it. A replacement of
content or an attribute changes one cell and leaves all others alone, whatever
moves with it. Conversely the cells determine every forest that is made of
them, once it is known what stands at its top: `eq_of_cells`.
-/

/-- What stands directly in an element: a text, or an element by its number. -/
inductive Part where
  | text (kind : TextKind) (content : String)
  | element (id : Nat)
  deriving Repr, DecidableEq

/-- An element with what stands directly in it. -/
structure Cell where
  tag : Tag
  content : List Part
  deriving Repr, DecidableEq

namespace Cell

/-- The cell with other content, if it is that of the element with a number. -/
def withContent (id : Nat) (content : List Part) (cell : Cell) : Cell :=
  if cell.tag.id = id then { cell with content } else cell

/-- The cell with an attribute, if it is that of the element with a number. -/
def withAttribute (id : Nat) (name value : String) (cell : Cell) : Cell :=
  if cell.tag.id = id then { cell with tag := cell.tag.put name value } else cell

end Cell

/-- A part of a document by itself. -/
def Node.part : Node → Part
  | .text kind content => .text kind content
  | .element tag _ => .element tag.id

mutual

/-- The cells of a part, in document order. -/
def Node.cells : Node → List Cell
  | .text .. => []
  | .element tag children => ⟨tag, children.map Node.part⟩ :: Forest.cells children

/-- The cells of a forest, in document order. -/
def Forest.cells : List Node → List Cell
  | [] => []
  | node :: nodes => node.cells ++ Forest.cells nodes

end

@[simp] theorem Cell.id_withContent (id : Nat) (content : List Part) (cell : Cell) :
    (cell.withContent id content).tag.id = cell.tag.id := by
  rw [Cell.withContent]
  split <;> rfl

@[simp] theorem Cell.id_withAttribute (id : Nat) (name value : String) (cell : Cell) :
    (cell.withAttribute id name value).tag.id = cell.tag.id := by
  rw [Cell.withAttribute]
  split <;> rfl

namespace Forest

/-- What stands at the top of a forest. -/
def parts (forest : Forest) : List Part :=
  forest.map Node.part

variable {id : Nat} {tag : Tag} {kind : TextKind} {text name value : String}
variable {forest children nodes content : Forest}

@[simp] theorem parts_nil : parts [] = [] :=
  rfl

@[simp] theorem parts_text : parts (.text kind text :: nodes) = .text kind text :: parts nodes :=
  rfl

@[simp] theorem parts_element :
    parts (.element tag children :: nodes) = .element tag.id :: parts nodes :=
  rfl

@[simp] theorem cells_nil : cells [] = [] :=
  rfl

@[simp] theorem cells_text : cells (.text kind text :: nodes) = cells nodes :=
  rfl

@[simp] theorem cells_element :
    cells (.element tag children :: nodes) =
      ⟨tag, parts children⟩ :: (cells children ++ cells nodes) :=
  rfl

@[simp] theorem cells_append (first second : Forest) :
    cells (first ++ second) = cells first ++ cells second := by
  induction first with
  | nil => rfl
  | cons node nodes inductionHypothesis => simp [cells, inductionHypothesis]

theorem map_id_cells : (cells forest).map (fun cell => cell.tag.id) = ids forest := by
  induction forest using Forest.induction with
  | nil => rfl
  | text kind text nodes ofNodes => exact ofNodes
  | element tag children nodes ofChildren ofNodes => simp [ofChildren, ofNodes]

theorem id_mem_ids_of_mem_cells
    {cell : Cell}
    (member : cell ∈ cells forest) :
    cell.tag.id ∈ ids forest := by
  rw [← map_id_cells]
  exact List.mem_map_of_mem member

theorem cell_mem_of_find?
    (found : find? id forest = some (tag, children)) :
    ⟨tag, parts children⟩ ∈ cells forest := by
  induction forest using Forest.induction with
  | nil => contradiction
  | text kind text nodes ofNodes => exact ofNodes found
  | element front inner nodes ofInner ofNodes =>
      rw [cells_element]
      rcases cases_of_find?_element found with ⟨-, rfl, rfl⟩ | ⟨-, inside⟩ | ⟨-, -, behind⟩
      · exact List.mem_cons_self ..
      · exact List.mem_cons_of_mem _ (List.mem_append_left _ (ofInner inside))
      · exact List.mem_cons_of_mem _ (List.mem_append_right _ (ofNodes behind))

theorem cells_subset_of_find?
    (found : find? id forest = some (tag, children)) :
    cells children ⊆ cells forest := by
  induction forest using Forest.induction with
  | nil => contradiction
  | text kind text nodes ofNodes => exact ofNodes found
  | element front inner nodes ofInner ofNodes =>
      rw [cells_element]
      rcases cases_of_find?_element found with ⟨-, -, rfl⟩ | ⟨-, inside⟩ | ⟨-, -, behind⟩
      · exact fun cell member => List.mem_cons_of_mem _ (List.mem_append_left _ member)
      · exact fun cell member =>
          List.mem_cons_of_mem _ (List.mem_append_left _ (ofInner inside member))
      · exact fun cell member =>
          List.mem_cons_of_mem _ (List.mem_append_right _ (ofNodes behind member))

theorem eq_text_of_parts
    (isText : parts forest = [.text kind text]) :
    forest = [.text kind text] := by
  match forest with
  | [.text otherKind otherText] =>
      injection isText with same
      injection same with sameKind sameText
      rw [sameKind, sameText]
  | [.element tag children] =>
      injection isText with same
      contradiction

/-! ## Changes of one cell -/

@[simp] theorem setAttribute_nil : setAttribute id name value [] = [] :=
  rfl

@[simp] theorem setAttribute_text :
    setAttribute id name value (.text kind text :: nodes) =
      .text kind text :: setAttribute id name value nodes :=
  rfl

@[simp] theorem setAttribute_element :
    setAttribute id name value (.element tag children :: nodes) =
      (if tag.id = id then .element (tag.put name value) children
        else .element tag (setAttribute id name value children)) ::
        setAttribute id name value nodes :=
  rfl

@[simp] theorem setAttribute_append (first second : Forest) :
    setAttribute id name value (first ++ second) =
      setAttribute id name value first ++ setAttribute id name value second := by
  induction first with
  | nil => rfl
  | cons node nodes inductionHypothesis => simp [setAttribute, inductionHypothesis]

@[simp] theorem parts_setContent : parts (setContent id content forest) = parts forest := by
  induction forest with
  | nil => rfl
  | cons node nodes inductionHypothesis =>
      cases node with
      | text kind text => simp [inductionHypothesis]
      | element tag children => simp [inductionHypothesis]

@[simp] theorem parts_setAttribute :
    parts (setAttribute id name value forest) = parts forest := by
  induction forest with
  | nil => rfl
  | cons node nodes inductionHypothesis =>
      cases node with
      | text kind text => simp [inductionHypothesis]
      | element tag children =>
          rw [setAttribute_element]
          split
          · simp [inductionHypothesis]
          · simp [inductionHypothesis]

theorem withContent_of_ne
    {replacement : List Part}
    {cell : Cell}
    (different : cell.tag.id ≠ id) :
    cell.withContent id replacement = cell := by
  rw [Cell.withContent, if_neg different]

theorem map_withContent_of_not_mem
    {replacement : List Part}
    (absent : id ∉ ids forest) :
    (cells forest).map (Cell.withContent id replacement) = cells forest := by
  have unchanged : ∀ cell ∈ cells forest, cell.withContent id replacement = cell :=
    fun cell member => withContent_of_ne fun same =>
      absent (same ▸ id_mem_ids_of_mem_cells member)
  exact (List.map_congr_left unchanged).trans (List.map_id' _)

/-- Replacing the content of an element by texts changes its cell, and the others stay. -/
theorem cells_setContent_perm
    (distinct : (ids forest).Nodup)
    (found : find? id forest = some (tag, children))
    (noElements : ids content = []) :
    cells (setContent id content forest) ++ cells children ~
      (cells forest).map (Cell.withContent id (parts content)) := by
  have noCells : cells content = [] := by
    rw [← map_id_cells, List.map_eq_nil_iff] at noElements
    exact noElements
  induction forest using Forest.induction with
  | nil => contradiction
  | text kind text nodes ofNodes => exact ofNodes distinct found
  | element front inner nodes ofInner ofNodes =>
      have apart := frontApart distinct
      rw [setContent_element, cells_element, cells_element, List.map_cons, List.map_append]
      rcases cases_of_find?_element found with
        ⟨rfl, -, rfl⟩ | ⟨different, inside⟩ | ⟨different, absent, behind⟩
      · rw [if_pos rfl, setContent_of_not_mem apart.front_not_mem_nodes, noCells,
          map_withContent_of_not_mem apart.front_not_mem_inner,
          map_withContent_of_not_mem apart.front_not_mem_nodes, Cell.withContent, if_pos rfl]
        exact List.perm_append_comm.cons _
      · have notBehind : id ∉ ids nodes :=
          apart.inner_not_mem_nodes (mem_ids_of_find? inside)
        rw [if_neg different, setContent_of_not_mem notBehind, parts_setContent,
          map_withContent_of_not_mem notBehind, withContent_of_ne different,
          List.cons_append, List.append_assoc]
        have kept := (ofInner apart.inner_nodup inside).append_right (cells nodes)
        refine List.Perm.cons _ (List.Perm.trans ?_ kept)
        rw [List.append_assoc]
        exact List.perm_append_comm.append_left _
      · have notInner := find?_eq_none_iff.mp absent
        rw [if_neg different, setContent_of_not_mem notInner,
          map_withContent_of_not_mem notInner, withContent_of_ne different, List.cons_append,
          List.append_assoc]
        exact ((ofNodes apart.nodes_nodup behind).append_left (cells inner)).cons _

theorem setAttribute_of_not_mem
    (absent : id ∉ ids forest) :
    setAttribute id name value forest = forest := by
  induction forest using Forest.induction with
  | nil => rfl
  | text kind text nodes ofNodes => rw [setAttribute_text, ofNodes absent]
  | element tag children nodes ofChildren ofNodes =>
      simp only [ids_element, List.mem_cons, List.mem_append, not_or] at absent
      obtain ⟨different, notInChildren, notInNodes⟩ := absent
      rw [setAttribute_element, if_neg (Ne.symm different), ofChildren notInChildren,
        ofNodes notInNodes]

theorem map_withAttribute_of_not_mem
    (absent : id ∉ ids forest) :
    (cells forest).map (Cell.withAttribute id name value) = cells forest := by
  have unchanged : ∀ cell ∈ cells forest, cell.withAttribute id name value = cell := by
    intro cell member
    have different : cell.tag.id ≠ id := fun same =>
      absent (same ▸ id_mem_ids_of_mem_cells member)
    rw [Cell.withAttribute, if_neg different]
  exact (List.map_congr_left unchanged).trans (List.map_id' _)

/-- Giving an element an attribute changes its cell, and the others stay. -/
theorem cells_setAttribute
    (distinct : (ids forest).Nodup) :
    cells (setAttribute id name value forest) =
      (cells forest).map (Cell.withAttribute id name value) := by
  induction forest using Forest.induction with
  | nil => rfl
  | text kind text nodes ofNodes => exact ofNodes distinct
  | element front inner nodes ofInner ofNodes =>
      have apart := frontApart distinct
      rw [setAttribute_element, cells_element, List.map_cons, List.map_append,
        Cell.withAttribute]
      by_cases same : front.id = id
      · subst same
        rw [if_pos rfl, if_pos rfl, cells_element,
          setAttribute_of_not_mem apart.front_not_mem_nodes,
          map_withAttribute_of_not_mem apart.front_not_mem_inner,
          map_withAttribute_of_not_mem apart.front_not_mem_nodes]
      · rw [if_neg same, if_neg same, cells_element, parts_setAttribute,
          ofInner apart.inner_nodup, ofNodes apart.nodes_nodup]

/-! ## Forests made of cells -/

/-- Forests of the same cells with the same at their tops are the same. -/
theorem eq_of_cells
    {store : List Cell}
    {first second : Forest}
    (distinct : (store.map fun cell => cell.tag.id).Nodup)
    (firstMade : cells first ⊆ store)
    (secondMade : cells second ⊆ store)
    (sameTop : parts first = parts second) :
    first = second := by
  induction first using Forest.induction generalizing second with
  | nil =>
      cases second with
      | nil => rfl
      | cons node nodes => contradiction
  | text kind text nodes ofNodes =>
      match second with
      | [] => contradiction
      | .element tag children :: others => injection sameTop with sameNode _; contradiction
      | .text otherKind otherText :: others =>
          injection sameTop with sameNode sameNodes
          injection sameNode with sameKind sameText
          have same : nodes = others := ofNodes firstMade secondMade sameNodes
          rw [sameKind, sameText, same]
  | element tag children nodes ofChildren ofNodes =>
      match second with
      | [] => contradiction
      | .text otherKind otherText :: others => injection sameTop with sameNode _; contradiction
      | .element otherTag otherChildren :: others =>
          injection sameTop with sameNode sameNodes
          injection sameNode with sameId
          rw [cells_element, List.cons_subset, List.append_subset] at firstMade secondMade
          obtain ⟨firstCell, firstInside, firstBehind⟩ := firstMade
          obtain ⟨secondCell, secondInside, secondBehind⟩ := secondMade
          have sameCell := List.inj_on_of_nodup_map distinct firstCell secondCell sameId
          injection sameCell with sameTag sameContent
          rw [sameTag, ofChildren firstInside secondInside sameContent,
            ofNodes firstBehind secondBehind sameNodes]

end Forest

end CodeDeck.Markup
