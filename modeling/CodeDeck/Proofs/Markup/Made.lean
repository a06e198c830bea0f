import CodeDeck.Proofs.Markup.Cells

namespace CodeDeck.Markup

/-!
# What a forest is made of

Forests whose elements and texts are of some kind, and in which no text follows
directly on another. Replacing content and giving attributes keeps a forest so,
as long as what is put there is of the kind.
-/

/-- Whether a part is a text. -/
def Node.isText : Node → Bool
  | .text .. => true
  | .element .. => false

/-- Whether a forest does not start with a text. -/
def Forest.StartsWithoutText (forest : Forest) : Prop :=
  ∀ first ∈ forest.head?, first.isText = false

mutual

/-- A part that is made of some elements and texts. -/
def Node.Made (ofTag : Tag → Prop) (ofText : TextKind → String → Prop) : Node → Prop
  | .text kind content => ofText kind content
  | .element tag children => ofTag tag ∧ Forest.Made ofTag ofText children

/-- A forest that is made of some elements and texts; no text follows directly on another. -/
def Forest.Made (ofTag : Tag → Prop) (ofText : TextKind → String → Prop) : List Node → Prop
  | [] => True
  | node :: nodes =>
      node.Made ofTag ofText ∧
        (node.isText = true → Forest.StartsWithoutText nodes) ∧
        Forest.Made ofTag ofText nodes

end

theorem Forest.startsWithoutText_nil : Forest.StartsWithoutText [] :=
  fun _ member => nomatch member

instance (forest : Forest) : Decidable forest.StartsWithoutText :=
  match forest with
  | [] => .isTrue Forest.startsWithoutText_nil
  | node :: _ =>
      match isText : node.isText with
      | true => .isFalse fun without => by simpa [isText] using without node rfl
      | false => .isTrue fun _ member => by cases member; exact isText

section

variable (ofTag : Tag → Prop) (ofText : TextKind → String → Prop)
variable [DecidablePred ofTag] [∀ kind content, Decidable (ofText kind content)]

mutual

/-- Whether a part is made of some elements and texts can be told. -/
def Node.decideMade : (node : Node) → Decidable (node.Made ofTag ofText)
  | .text kind content => inferInstanceAs (Decidable (ofText kind content))
  | .element tag children =>
      have := Forest.decideMade children
      inferInstanceAs (Decidable (ofTag tag ∧ Forest.Made ofTag ofText children))

/-- Whether a forest is made of some elements and texts can be told. -/
def Forest.decideMade : (forest : List Node) → Decidable (Forest.Made ofTag ofText forest)
  | [] => .isTrue trivial
  | node :: nodes =>
      have := node.decideMade
      have := Forest.decideMade nodes
      inferInstanceAs (Decidable (node.Made ofTag ofText ∧
        (node.isText = true → Forest.StartsWithoutText nodes) ∧ Forest.Made ofTag ofText nodes))

end

instance (forest : Forest) : Decidable (Forest.Made ofTag ofText forest) :=
  Forest.decideMade ofTag ofText forest

end

namespace Forest

variable {ofTag ofOtherTag : Tag → Prop} {ofText ofOtherText : TextKind → String → Prop}
variable {id : Nat} {name value : String} {tag : Tag} {forest children nodes content : Forest}

theorem Made.element
    (tagMade : ofTag tag)
    (childrenMade : Made ofTag ofText children)
    (nodesMade : Made ofTag ofText nodes) :
    Made ofTag ofText (.element tag children :: nodes) :=
  ⟨⟨tagMade, childrenMade⟩, fun isText => absurd isText Bool.false_ne_true, nodesMade⟩

theorem Made.of_mem_tags
    (made : Made ofTag ofText forest) :
    ∀ tag ∈ tags forest, ofTag tag := by
  induction forest using Forest.induction with
  | nil => exact fun _ member => nomatch member
  | text kind content nodes ofNodes => exact ofNodes made.2.2
  | element front inner nodes ofInner ofNodes =>
      obtain ⟨⟨frontMade, innerMade⟩, -, nodesMade⟩ := made
      intro tag member
      rw [tags_element, List.mem_cons, List.mem_append] at member
      rcases member with rfl | inInner | inNodes
      · exact frontMade
      · exact ofInner innerMade tag inInner
      · exact ofNodes nodesMade tag inNodes

theorem Made.imp
    (made : Made ofTag ofText forest)
    (otherTag : ∀ tag ∈ tags forest, ofTag tag → ofOtherTag tag)
    (otherText : ∀ kind content, ofText kind content → ofOtherText kind content) :
    Made ofOtherTag ofOtherText forest := by
  induction forest using Forest.induction with
  | nil => trivial
  | text kind content nodes ofNodes =>
      exact ⟨otherText kind content made.1, made.2.1, ofNodes made.2.2 otherTag⟩
  | element front inner nodes ofInner ofNodes =>
      obtain ⟨⟨frontMade, innerMade⟩, -, nodesMade⟩ := made
      rw [tags_element, List.forall_mem_cons, List.forall_mem_append] at otherTag
      obtain ⟨onFront, onInner, onNodes⟩ := otherTag
      exact .element (onFront frontMade) (ofInner innerMade onInner) (ofNodes nodesMade onNodes)

theorem StartsWithoutText.setContent
    (withoutText : StartsWithoutText nodes) :
    StartsWithoutText (setContent id content nodes) := by
  match nodes with
  | [] => exact withoutText
  | .text kind text :: others =>
      exact absurd (withoutText (.text kind text) rfl) Bool.false_ne_true.symm
  | .element front inner :: others =>
      rw [setContent_element]
      rintro first ⟨⟩
      rfl

theorem StartsWithoutText.setAttribute
    (withoutText : StartsWithoutText nodes) :
    StartsWithoutText (setAttribute id name value nodes) := by
  match nodes with
  | [] => exact withoutText
  | .text kind text :: others =>
      exact absurd (withoutText (.text kind text) rfl) Bool.false_ne_true.symm
  | .element front inner :: others =>
      rw [setAttribute_element]
      rintro first ⟨⟩
      split <;> rfl

theorem Made.setContent
    (made : Made ofTag ofText forest)
    (contentMade : Made ofTag ofText content) :
    Made ofTag ofText (setContent id content forest) := by
  induction forest using Forest.induction with
  | nil => trivial
  | text kind text nodes ofNodes =>
      exact ⟨made.1, fun isText => (made.2.1 isText).setContent, ofNodes made.2.2⟩
  | element front inner nodes ofInner ofNodes =>
      obtain ⟨⟨frontMade, innerMade⟩, -, nodesMade⟩ := made
      rw [setContent_element]
      refine .element frontMade ?_ (ofNodes nodesMade)
      split
      · exact contentMade
      · exact ofInner innerMade

theorem Made.setAttribute
    (made : Made ofTag ofText forest)
    (putMade : ∀ tag, ofTag tag → ofTag (tag.put name value)) :
    Made ofTag ofText (setAttribute id name value forest) := by
  induction forest using Forest.induction with
  | nil => trivial
  | text kind text nodes ofNodes =>
      exact ⟨made.1, fun isText => (made.2.1 isText).setAttribute, ofNodes made.2.2⟩
  | element front inner nodes ofInner ofNodes =>
      obtain ⟨⟨frontMade, innerMade⟩, -, nodesMade⟩ := made
      rw [setAttribute_element]
      split
      · exact .element (putMade front frontMade) innerMade (ofNodes nodesMade)
      · exact .element frontMade (ofInner innerMade) (ofNodes nodesMade)

end Forest

end CodeDeck.Markup
