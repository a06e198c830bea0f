import CodeDeck.Markup.ElementRules

namespace CodeDeck.Markup

/-!
# Writing documents

A document as a page. Texts and attribute values escape the three characters
of markup; attributes are sorted by name and stand in double quotes, or in
single ones when the value holds double quotes only.
-/

/-- One character of a text. -/
def escapeChar (c : Char) : List Char :=
  if c = '&' then ['&', 'a', 'm', 'p', ';']
  else if c = '<' then ['&', 'l', 't', ';']
  else if c = '>' then ['&', 'g', 't', ';']
  else [c]

/-- A text with the characters of markup escaped. -/
def escape (chars : List Char) : List Char :=
  chars.flatMap escapeChar

/-- One character of a value in double quotes. -/
def escapeQuote (c : Char) : List Char :=
  if c = '"' then ['&', 'q', 'u', 'o', 't', ';'] else [c]

/-- An attribute value in quotes. -/
def quoteValue (value : List Char) : List Char :=
  let escaped := escape value
  if value.contains '"' then
    if value.contains '\'' then
      '"' :: escaped.flatMap escapeQuote ++ ['"']
    else
      '\'' :: escaped ++ ['\'']
  else
    '"' :: escaped ++ ['"']

/-- An attribute with a blank before it. -/
def Attribute.write (entry : Attribute) : List Char :=
  ' ' :: entry.name.toList ++ '=' :: quoteValue entry.value.toList

/-- Attributes by name. -/
def sortAttributes (attributes : List Attribute) : List Attribute :=
  attributes.mergeSort fun first second => decide (first.name ≤ second.name)

/-- The name of an element and its attributes. -/
def Tag.write (tag : Tag) : List Char :=
  tag.name.toList ++ (sortAttributes tag.attributes).flatMap Attribute.write

/-- A special text with its marks; a plain one is escaped unless it is raw. -/
def writeText (raw : Bool) (kind : TextKind) (content : List Char) : List Char :=
  match kind with
  | .comment => "<!--".toList ++ content ++ "-->".toList
  | .doctype => "<!DOCTYPE ".toList ++ content ++ ">\n".toList
  | .declaration => "<?".toList ++ content ++ "?>".toList
  | .instruction => "<?".toList ++ content ++ ">".toList
  | .cdata => "<![CDATA[".toList ++ content ++ "]]>".toList
  | .plain | .script | .stylesheet | .template | .rubyText | .rubyParenthesis =>
      if raw then content else escape content

mutual

/-- A part of a document; `raw` when it stands in an element with raw text. -/
def Node.write (raw : Bool) : Node → List Char
  | .text kind content => writeText raw kind content.toList
  | .element tag children =>
      if children.isEmpty && isVoid tag.name then
        '<' :: tag.write ++ ['/', '>']
      else
        '<' :: tag.write ++ '>' :: Forest.write (isRaw tag.name) children ++
          '<' :: '/' :: tag.name.toList ++ ['>']

/-- Parts of a document one after the other. -/
def Forest.write (raw : Bool) : List Node → List Char
  | [] => []
  | node :: nodes => node.write raw ++ Forest.write raw nodes

end

/-- A document as a page. -/
def Forest.render (forest : Forest) : String :=
  String.ofList (Forest.write false forest)

end CodeDeck.Markup
