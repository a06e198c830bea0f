import CodeDeck.Proofs.Markup.Numbers

namespace CodeDeck.Markup

/-!
# The shape of a forest

Which elements there are, by number and name, and which stands in which. The
shape is what is left without texts and attributes; it decides what is found
where, and changes of texts and attributes do not show in it.
-/

/-- A tag without its attributes. -/
def Tag.bare (tag : Tag) : Tag :=
  { tag with attributes := [] }

@[simp] theorem Tag.bare_put (tag : Tag) (name value : String) :
    (tag.put name value).bare = tag.bare :=
  rfl

@[simp] theorem Tag.id_bare (tag : Tag) : tag.bare.id = tag.id :=
  rfl

mutual

/-- The shape of a part, which is nothing for a text. -/
def Node.shape : Node → List Node
  | .text .. => []
  | .element tag children => [.element tag.bare (Forest.shape children)]

/-- The shape of a forest. -/
def Forest.shape : List Node → List Node
  | [] => []
  | node :: nodes => node.shape ++ Forest.shape nodes

end

namespace Forest

variable {id : Nat} {tag : Tag} {kind : TextKind} {text name value : String}
variable {forest children nodes content : Forest}

@[simp] theorem shape_nil : shape [] = [] :=
  rfl

@[simp] theorem shape_text : shape (.text kind text :: nodes) = shape nodes :=
  rfl

@[simp] theorem shape_element :
    shape (.element tag children :: nodes) = .element tag.bare (shape children) :: shape nodes :=
  rfl

@[simp] theorem shape_append (first second : Forest) :
    shape (first ++ second) = shape first ++ shape second := by
  induction first with
  | nil => rfl
  | cons node nodes inductionHypothesis => simp [shape, inductionHypothesis]

@[simp] theorem tags_shape : tags (shape forest) = (tags forest).map Tag.bare := by
  induction forest using Forest.induction with
  | nil => rfl
  | text kind text nodes ofNodes => exact ofNodes
  | element tag children nodes ofChildren ofNodes => simp [ofChildren, ofNodes]

@[simp] theorem ids_shape : ids (shape forest) = ids forest := by
  simp [ids, Function.comp_def]

@[simp] theorem topIds_shape : topIds (shape forest) = topIds forest := by
  induction forest using Forest.induction with
  | nil => rfl
  | text kind text nodes ofNodes => exact ofNodes
  | element tag children nodes ofChildren ofNodes => simp [ofNodes]

/-- Without elements there is no shape. -/
theorem find?_shape :
    find? id (shape forest) =
      (find? id forest).map fun found => (found.1.bare, shape found.2) := by
  induction forest using Forest.induction with
  | nil => rfl
  | text kind text nodes ofNodes => exact ofNodes
  | element tag children nodes ofChildren ofNodes =>
      rw [shape_element, find?_element, find?_element, ofChildren, ofNodes, Tag.id_bare]
      split
      · rfl
      · rw [Option.map_or]

theorem parentOf?_shape : parentOf? id (shape forest) = parentOf? id forest := by
  induction forest using Forest.induction with
  | nil => rfl
  | text kind text nodes ofNodes => exact ofNodes
  | element tag children nodes ofChildren ofNodes =>
      rw [shape_element, parentOf?_element, parentOf?_element, topIds_shape, ofChildren, ofNodes,
        Tag.id_bare]

theorem shape_setContent :
    shape (setContent id content forest) = setContent id (shape content) (shape forest) := by
  induction forest using Forest.induction with
  | nil => rfl
  | text kind text nodes ofNodes => exact ofNodes
  | element tag children nodes ofChildren ofNodes =>
      rw [setContent_element, shape_element, shape_element, setContent_element, ofNodes,
        Tag.id_bare]
      split
      · rfl
      · rw [ofChildren]

theorem shape_setAttribute : shape (setAttribute id name value forest) = shape forest := by
  induction forest using Forest.induction with
  | nil => rfl
  | text kind text nodes ofNodes => exact ofNodes
  | element tag children nodes ofChildren ofNodes =>
      rw [setAttribute, Node.setAttribute]
      split
      · rw [shape_element, ofNodes, Tag.bare_put, shape_element]
      · rw [shape_element, ofChildren, ofNodes, shape_element]

end Forest

end CodeDeck.Markup
