import CodeDeck.Markup.Scan

namespace CodeDeck.Markup

/-!
# From tokens to trees

A start tag opens an element and an end tag closes the nearest open one of its
name, and with it all elements inside. No other tag is implied. Neighbouring
texts become one text, and a text of nothing but blanks becomes a single one
unless an open element keeps its blanks.
-/

/-- An element whose end has not been read; its content is given last first. -/
structure OpenElement where
  tag : Tag
  children : List Node
  deriving Repr

namespace OpenElement

/-- The element once it has ended. -/
def node (element : OpenElement) : Node :=
  .element element.tag element.children.reverse

end OpenElement

/-- A document while it is read. -/
structure Builder where
  /-- What stands outside of all open elements, last first. -/
  roots : List Node
  /-- The open elements, innermost first. -/
  stack : List OpenElement
  /-- The text since the last tag. -/
  pending : List Char
  /-- The number of the next element. -/
  nextId : Nat
  deriving Repr

namespace Builder

/-- Before the first token. -/
def initial : Builder := ⟨[], [], [], 0⟩

/-- Put a part at the end of the innermost open element. -/
def append (builder : Builder) (node : Node) : Builder :=
  match builder.stack with
  | [] => { builder with roots := node :: builder.roots }
  | element :: stack =>
      { builder with stack := { element with children := node :: element.children } :: stack }

/-- The blanks that are folded. -/
def isFoldable (c : Char) : Bool :=
  c == ' ' || c == '\n' || c == '\t' || c == '\x0c' || c == '\r'

/-- A text in which nothing but blanks is one blank: a newline when it has one. -/
def foldBlanks (chars : List Char) : List Char :=
  if chars.all isFoldable then
    if chars.contains '\n' then ['\n'] else [' ']
  else
    chars

/-- Put a text at the end of the innermost open element. -/
def appendText (builder : Builder) (kind : TextKind) (chars : List Char) : Builder :=
  let keeps := builder.stack.any fun element => keepsBlanks element.tag.name
  builder.append (.text kind (String.ofList (if keeps then chars else foldBlanks chars)))

/-- What a text of the page is, by the innermost open element that has texts of its own kind. -/
def plainKind (builder : Builder) : TextKind :=
  (builder.stack.findSome? fun element => textKindIn? element.tag.name).getD .plain

/-- Put the text since the last tag into the tree. -/
def flush (builder : Builder) : Builder :=
  if builder.pending.isEmpty then
    builder
  else
    { builder.appendText builder.plainKind builder.pending with pending := [] }

/-- Close the innermost open element. -/
def closeInnermost (builder : Builder) : Builder :=
  match builder.stack with
  | [] => builder
  | element :: stack => { builder with stack }.append element.node

/-- Close a number of open elements. -/
def closeMany (builder : Builder) : Nat → Builder
  | 0 => builder
  | count + 1 => builder.closeInnermost.closeMany count

/-- Close the nearest open element of a name, with all elements inside it. -/
def close (builder : Builder) (name : String) : Builder :=
  match builder.stack.findIdx? fun element => element.tag.name == name with
  | none => builder
  | some depth => builder.closeMany (depth + 1)

/-- Attributes with one value for each name: the last one, in the place of the first. -/
def distinct (attributes : List Attribute) : List Attribute :=
  let bare : Tag := ⟨0, "", []⟩
  (attributes.foldl (fun tag entry => tag.put entry.name entry.value) bare).attributes

/-- The encoding in which a page is written. -/
def encodingName : String := "utf-8"

/-- A content type in which each named encoding is the one that is written. -/
def withEncoding : Nat → Bool → List Char → List Char
  | 0, _, chars => chars
  | _, _, [] => []
  | fuel + 1, lineStart, c :: rest =>
      let key := "charset=".toList
      let skipValue (chars : List Char) : List Char :=
        key ++ encodingName.toList ++
          withEncoding fuel false ((chars.drop key.length).dropWhile (· != ';'))
      if lineStart && key.isPrefixOf (c :: rest) then
        skipValue (c :: rest)
      else if (Text.isSpace c || c == ';') && key.isPrefixOf rest then
        c :: skipValue rest
      else
        c :: withEncoding fuel (c == '\n') rest

/-- The attributes of an element with those that name an encoding brought up to date. -/
def withEncodings (tag : Tag) : Tag :=
  if tag.name = "meta" then
    match tag.get? "charset", tag.get? "content", tag.get? "http-equiv" with
    | some _, _, _ => tag.put "charset" encodingName
    | none, some content, some header =>
        if Scan.lowerName header.toList = "content-type" then
          let chars := content.toList
          tag.put "content" (String.ofList (withEncoding chars.length true chars))
        else
          tag
    | none, _, _ => tag
  else
    tag

/-- An element from the parts of its start tag. -/
def tagOf (id : Nat) (name : String) (attributes : List Attribute) : Tag :=
  let listed := (distinct attributes).map fun entry =>
    if isListAttribute name entry.name then { entry with value := normalizeList entry.value }
    else entry
  withEncodings ⟨id, name, listed⟩

/-- Read one token. -/
def step (builder : Builder) : Token → Builder
  | .text chars => { builder with pending := builder.pending ++ chars }
  | .special kind chars => builder.flush.appendText kind chars
  | .endTag name => builder.flush.close name
  | .startTag name attributes closed =>
      let builder := builder.flush
      let element : OpenElement := ⟨tagOf builder.nextId name attributes, []⟩
      let builder := { builder with nextId := builder.nextId + 1 }
      if closed || isVoid name then
        builder.append element.node
      else
        { builder with stack := element :: builder.stack }

/-- The document that has been read; elements that are still open end here. -/
def finish (builder : Builder) : Forest :=
  let builder := builder.flush
  (builder.closeMany builder.stack.length).roots.reverse

end Builder

/-- The document that tokens make up. -/
def Forest.ofTokens (tokens : List Token) : Forest :=
  (tokens.foldl Builder.step Builder.initial).finish

/-- The document that a page is. -/
def Forest.parse (page : List Char) : Except Rejection Forest :=
  (Scan.tokens page).map Forest.ofTokens

end CodeDeck.Markup
