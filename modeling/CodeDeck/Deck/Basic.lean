import CodeDeck.Block.Processed
import CodeDeck.Markup.Build
import CodeDeck.Markup.Print

namespace CodeDeck

/-!
# Decks

A deck is a page in which elements with the attribute `data-ce` hold annotated
blocks. Applying processed blocks writes the shown source into each element,
or into the one code element inside it, and the address of the link into the
element around it.

Writing into an element takes its content out of the document. Marked elements
that were in there are kept, each as the root of a tree of its own.
-/

/-- A page with the elements that are marked as blocks. -/
structure Deck where
  document : Markup.Forest
  /-- Parts that have been taken out of the document. -/
  detached : Markup.Forest
  /-- The address that the document as a whole carries; it is not written. -/
  documentUrl : Option String
  /-- The numbers of the marked elements in document order. -/
  marked : List Nat
  deriving Repr

namespace Deck

/-- The attribute that marks an element as a block. -/
def markerAttribute : String := "data-ce"

/-- The attribute for the address of a link. -/
def urlAttribute : String := "data-ce-url"

/-- The elements of a document that are marked, in document order. -/
def markedIn (document : Markup.Forest) : List Nat :=
  ((Markup.Forest.tags document).filter fun tag => (tag.get? markerAttribute).isSome).map
    Markup.Tag.id

/-- A document as a deck. -/
def ofDocument (document : Markup.Forest) : Deck where
  document
  detached := []
  documentUrl := none
  marked := markedIn document

/-- The deck that a page is. -/
def parse (page : String) : Except Markup.Rejection Deck :=
  (Markup.Forest.parse page.toList).map ofDocument

/-- How many blocks a deck has. -/
def size (deck : Deck) : Nat :=
  deck.marked.length

/-- The element with a number, in the document or outside of it. -/
def find? (deck : Deck) (id : Nat) : Option (Markup.Tag × Markup.Forest) :=
  match Markup.Forest.find? id deck.document with
  | some found => some found
  | none => Markup.Forest.find? id deck.detached

/-- The value of an attribute when it is not empty. -/
def givenAttribute (tag : Markup.Tag) (name : String) : Option String :=
  match tag.get? name with
  | some value => if value = "" then none else some value
  | none => none

/-- The text of an element. -/
def textOf (tag : Markup.Tag) (children : Markup.Forest) : String :=
  String.join (Markup.Forest.texts (Markup.takesText tag.name) children)

/-- The block that an element holds. -/
def blockOf (tag : Markup.Tag) (children : Markup.Forest) : Block where
  text := textOf tag children
  language := givenAttribute tag "data-ce-language"
  compiler := givenAttribute tag "data-ce-compiler"
  options := givenAttribute tag "data-ce-options"
  removePattern := givenAttribute tag "data-ce-remove-regex"

/-- The blocks of a deck in document order. -/
def blocks (deck : Deck) : List Block :=
  deck.marked.filterMap fun id => (deck.find? id).map fun found => blockOf found.1 found.2

/-- The page that a deck is. -/
def render (deck : Deck) : String :=
  Markup.Forest.render deck.document

/-- The numbers of the code elements in a forest. -/
def codes (forest : Markup.Forest) : List Nat :=
  ((Markup.Forest.tags forest).filter fun tag => tag.name == "code").map Markup.Tag.id

/--
The element that a source is written into: the only code element inside, or else the
element itself.
-/
def target (id : Nat) (children : Markup.Forest) : Nat :=
  match codes children with
  | [code] => code
  | _ => id

/-- Replace the content of an element by a text; its elements are kept outside of the document. -/
def setText (deck : Deck) (id : Nat) (text : String) : Deck :=
  match deck.find? id with
  | none => deck
  | some (_, children) =>
      let content := [Markup.Node.text .plain text]
      { deck with
        document := Markup.Forest.setContent id content deck.document
        detached := Markup.Forest.setContent id content deck.detached ++ children }

/-- Give an element an attribute. -/
def setAttribute (deck : Deck) (id : Nat) (name value : String) : Deck :=
  { deck with
    document := Markup.Forest.setAttribute id name value deck.document
    detached := Markup.Forest.setAttribute id name value deck.detached }

/-- What the address of a link is written on. -/
inductive Carrier where
  | element (id : Nat)
  | document
  deriving Repr, DecidableEq

/--
What carries the address for an element: the element around it, the document, or with
neither the element.
-/
def carrier (deck : Deck) (id : Nat) : Carrier :=
  if deck.document.any (·.isElement id) then
    .document
  else
    match Markup.Forest.parentOf? id deck.document with
    | some parent => .element parent
    | none => .element ((Markup.Forest.parentOf? id deck.detached).getD id)

/-- Write the address of a link. -/
def setUrl (deck : Deck) (carrier : Carrier) (url : String) : Deck :=
  match carrier with
  | .element id => deck.setAttribute id urlAttribute url
  | .document => { deck with documentUrl := some url }

/-- Write one processed block into a marked element. -/
def applyOne (deck : Deck) (id : Nat) (block : ProcessedBlock) : Deck :=
  match deck.find? id with
  | none => deck
  | some (_, children) =>
      let written := deck.setText (target id children) block.parsed.displaySource
      written.setUrl (written.carrier id) block.url

/-- Write processed blocks into marked elements one after the other. -/
def applyAll (deck : Deck) : List (Nat × ProcessedBlock) → Deck
  | [] => deck
  | (id, block) :: rest => (deck.applyOne id block).applyAll rest

/-- The blocks to be applied are not as many as the deck has. -/
structure CountMismatch where
  expected : Nat
  given : Nat
  deriving Repr, DecidableEq

/-- The message about a wrong number of blocks. -/
def CountMismatch.message (mismatch : CountMismatch) : String :=
  "Expected " ++ toString mismatch.expected ++ " processed blocks, got " ++ toString mismatch.given

/-- Write processed blocks into the marked elements of a deck, one for each. -/
def apply (deck : Deck) (processed : List ProcessedBlock) : Except CountMismatch Deck :=
  if processed.length = deck.size then
    .ok (deck.applyAll (deck.marked.zip processed))
  else
    .error ⟨deck.size, processed.length⟩

/-- The record of blocks that have been applied. -/
def applyRecord (count : Nat) : Log.Record where
  source := .deck
  level := .debug
  message := "Applied " ++ toString count ++ " blocks to deck"

end Deck

end CodeDeck
