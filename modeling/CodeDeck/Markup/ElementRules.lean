import CodeDeck.Markup.Tree
import CodeDeck.Text.Space

namespace CodeDeck.Markup

/-!
# Rules for elements by name

Which elements have no content, which hold text that is not markup, which keep
their blanks, what their texts are, and which attributes are lists.
-/

/-- Elements that end with their start tag. -/
def voidElements : List String :=
  ["area", "base", "br", "col", "embed", "hr", "img", "input", "keygen", "link", "menuitem",
    "meta", "param", "source", "track", "wbr", "basefont", "bgsound", "command", "frame", "image",
    "isindex", "nextid", "spacer"]

/-- Whether an element ends with its start tag. -/
def isVoid (name : String) : Bool :=
  voidElements.contains name

/-- Whether the content of an element is text up to its end tag, and written as it is. -/
def isRaw (name : String) : Bool :=
  name == "script" || name == "style"

/-- Whether an element keeps its blanks. -/
def keepsBlanks (name : String) : Bool :=
  name == "pre" || name == "textarea"

/-- What the texts inside an element are, when they are no plain texts. -/
def textKindIn? (name : String) : Option TextKind :=
  if name = "rt" then some .rubyText
  else if name = "rp" then some .rubyParenthesis
  else if name = "style" then some .stylesheet
  else if name = "script" then some .script
  else if name = "template" then some .template
  else none

/-- Whether a text counts as text of an element. -/
def takesText (name : String) (kind : TextKind) : Bool :=
  match textKindIn? name with
  | some special => kind == special
  | none => kind == .plain || kind == .cdata

/-- Attributes that are lists on every element. -/
def listAttributes : List String := ["class", "accesskey", "dropzone"]

/-- Attributes that are lists on some element. -/
def listAttributesOf : List (String × String) :=
  [("a", "rel"), ("a", "rev"), ("link", "rel"), ("link", "rev"), ("td", "headers"),
    ("th", "headers"), ("form", "accept-charset"), ("object", "archive"), ("area", "rel"),
    ("icon", "sizes"), ("iframe", "sandbox"), ("output", "for")]

/-- Whether the value of an attribute is a list of words. -/
def isListAttribute (element name : String) : Bool :=
  listAttributes.contains name || listAttributesOf.contains (element, name)

/-- The words of a text, those read before given last first. -/
def wordsFrom : List Char → List Char → List (List Char)
  | word, [] => if word.isEmpty then [] else [word.reverse]
  | word, c :: rest =>
      if Text.isSpace c then
        if word.isEmpty then wordsFrom [] rest else word.reverse :: wordsFrom [] rest
      else
        wordsFrom (c :: word) rest

/-- The words of a text. -/
def words (chars : List Char) : List (List Char) :=
  wordsFrom [] chars

/-- A list of words with single spaces between them. -/
def normalizeList (value : String) : String :=
  String.intercalate " " ((words value.toList).map String.ofList)

end CodeDeck.Markup
