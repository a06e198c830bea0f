import CodeDeck.Proofs.Markup.Cells

namespace CodeDeck.Markup

/-!
# Erasing parts of a forest

Two forests are the same up to the content of some elements and an attribute of
others when they are the same with these erased. Changes of what is erased do
not show.
-/

mutual

/-- A part without the content of some elements and an attribute of others. -/
def Node.erase (name : String) (contents attributes : List Nat) : Node → Node
  | .text kind content => .text kind content
  | .element tag children =>
      .element (if tag.id ∈ attributes then tag.without name else tag)
        (if tag.id ∈ contents then [] else Forest.erase name contents attributes children)

/-- A forest without the content of some elements and an attribute of others. -/
def Forest.erase (name : String) (contents attributes : List Nat) : List Node → List Node
  | [] => []
  | node :: nodes =>
      node.erase name contents attributes :: Forest.erase name contents attributes nodes

end

namespace Forest

variable {name value : String} {contents attributes : List Nat} {id : Nat}
variable {tag : Tag} {kind : TextKind} {text : String} {forest children nodes content : Forest}

@[simp] theorem erase_text :
    erase name contents attributes (.text kind text :: nodes) =
      .text kind text :: erase name contents attributes nodes :=
  rfl

@[simp] theorem erase_element :
    erase name contents attributes (.element tag children :: nodes) =
      .element (if tag.id ∈ attributes then tag.without name else tag)
        (if tag.id ∈ contents then [] else erase name contents attributes children) ::
        erase name contents attributes nodes := by
  rw [erase, Node.erase]

theorem erase_setContent
    (erased : id ∈ contents) :
    erase name contents attributes (setContent id content forest) =
      erase name contents attributes forest := by
  induction forest using Forest.induction with
  | nil => rfl
  | text kind text nodes ofNodes => rw [setContent_text, erase_text, erase_text, ofNodes]
  | element front inner nodes ofInner ofNodes =>
      rw [setContent_element, erase_element, erase_element, ofNodes]
      by_cases same : front.id = id
      · simp only [same, erased, if_true]
      · rw [if_neg same, ofInner]

theorem erase_setAttribute
    (erased : id ∈ attributes) :
    erase name contents attributes (setAttribute id name value forest) =
      erase name contents attributes forest := by
  induction forest using Forest.induction with
  | nil => rfl
  | text kind text nodes ofNodes => rw [setAttribute_text, erase_text, erase_text, ofNodes]
  | element front inner nodes ofInner ofNodes =>
      rw [setAttribute_element]
      by_cases same : front.id = id
      · subst same
        rw [if_pos rfl, erase_element, erase_element, ofNodes, Tag.id_put, if_pos erased,
          if_pos erased, Tag.without_put]
      · rw [if_neg same, erase_element, erase_element, ofInner, ofNodes]

end Forest

end CodeDeck.Markup
