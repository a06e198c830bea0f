namespace CodeDeck.Markup

/-!
# Document trees

A document is a forest of elements and texts. Every element has a number of
its own, so that it can be found again after the forest has changed around it.
Texts know where they came from: from the page itself, or from comments,
declarations, scripts and the like.
-/

/-- What a text is. -/
inductive TextKind where
  | plain
  | cdata
  | comment
  | doctype
  | declaration
  | instruction
  | script
  | stylesheet
  | template
  | rubyText
  | rubyParenthesis
  deriving Repr, DecidableEq

/-- A name with a value. -/
structure Attribute where
  name : String
  value : String
  deriving Repr, DecidableEq

/-- An element without its content. -/
structure Tag where
  id : Nat
  name : String
  attributes : List Attribute
  deriving Repr, DecidableEq

namespace Tag

/-- The value of an attribute. -/
def get? (tag : Tag) (name : String) : Option String :=
  (tag.attributes.find? fun entry => entry.name == name).map Attribute.value

/-- Give an attribute a value: in place of its old one, or at the end. -/
def put (tag : Tag) (name value : String) : Tag :=
  let rec go : List Attribute → List Attribute
    | [] => [⟨name, value⟩]
    | entry :: rest => if entry.name = name then ⟨name, value⟩ :: rest else entry :: go rest
  { tag with attributes := go tag.attributes }

end Tag

/-- A part of a document. -/
inductive Node where
  | text (kind : TextKind) (content : String)
  | element (tag : Tag) (children : List Node)
  deriving Repr

/-- Parts of a document side by side. -/
abbrev Forest := List Node

mutual

/-- The elements of a part in document order. -/
def Node.tags : Node → List Tag
  | .text .. => []
  | .element tag children => tag :: Forest.tags children

/-- The elements of a forest in document order. -/
def Forest.tags : List Node → List Tag
  | [] => []
  | node :: nodes => node.tags ++ Forest.tags nodes

end

mutual

/-- The texts of a part that a reader takes, in document order. -/
def Node.texts (takes : TextKind → Bool) : Node → List String
  | .text kind content => if takes kind then [content] else []
  | .element _ children => Forest.texts takes children

/-- The texts of a forest that a reader takes, in document order. -/
def Forest.texts (takes : TextKind → Bool) : List Node → List String
  | [] => []
  | node :: nodes => node.texts takes ++ Forest.texts takes nodes

end

mutual

/-- The element with a number, with its content. -/
def Node.find? (id : Nat) : Node → Option (Tag × List Node)
  | .text .. => none
  | .element tag children =>
      if tag.id = id then some (tag, children) else Forest.find? id children

/-- The element with a number, with its content. -/
def Forest.find? (id : Nat) : List Node → Option (Tag × List Node)
  | [] => none
  | node :: nodes =>
      match node.find? id with
      | some found => some found
      | none => Forest.find? id nodes

end

mutual

/-- A part in which the content of the element with a number is replaced. -/
def Node.setContent (id : Nat) (content : List Node) : Node → Node
  | .text kind text => .text kind text
  | .element tag children =>
      if tag.id = id then
        .element tag content
      else
        .element tag (Forest.setContent id content children)

/-- A forest in which the content of the element with a number is replaced. -/
def Forest.setContent (id : Nat) (content : List Node) : List Node → List Node
  | [] => []
  | node :: nodes => node.setContent id content :: Forest.setContent id content nodes

end

mutual

/-- A part in which the element with a number gets an attribute. -/
def Node.setAttribute (id : Nat) (name value : String) : Node → Node
  | .text kind text => .text kind text
  | .element tag children =>
      if tag.id = id then
        .element (tag.put name value) children
      else
        .element tag (Forest.setAttribute id name value children)

/-- A forest in which the element with a number gets an attribute. -/
def Forest.setAttribute (id : Nat) (name value : String) : List Node → List Node
  | [] => []
  | node :: nodes => node.setAttribute id name value :: Forest.setAttribute id name value nodes

end

/-- Whether a part is the element with a number. -/
def Node.isElement (id : Nat) : Node → Bool
  | .text .. => false
  | .element tag _ => tag.id == id

mutual

/-- The number of the element that directly holds the element with a number. -/
def Node.parentOf? (id : Nat) : Node → Option Nat
  | .text .. => none
  | .element tag children =>
      if children.any (·.isElement id) then some tag.id else Forest.parentOf? id children

/-- The number of the element that directly holds the element with a number. -/
def Forest.parentOf? (id : Nat) : List Node → Option Nat
  | [] => none
  | node :: nodes =>
      match node.parentOf? id with
      | some parent => some parent
      | none => Forest.parentOf? id nodes

end

end CodeDeck.Markup
