import CodeDeck.Markup.ElementRules
import CodeDeck.Markup.Reference
import CodeDeck.Text.Case
import CodeDeck.Text.Quoted

namespace CodeDeck.Markup

/-!
# Markup as tokens

A page is read from left to right as texts, tags and special texts. Where a
construct has no end the page is read once more from there as a page that is
complete: what cannot end then is text up to the next tag.
-/

/-- A piece of a page. -/
inductive Token where
  | text (chars : List Char)
  | startTag (name : String) (attributes : List Attribute) (closed : Bool)
  | endTag (name : String)
  | special (kind : TextKind) (chars : List Char)
  deriving Repr, DecidableEq

/-- A declaration that ends the reading of a page. -/
inductive Rejection where
  | unknownSection (keyword : List Char)
  | missingName (near : List Char)
  deriving Repr, DecidableEq

/-- The message of a rejection. -/
def Rejection.message (rejection : Rejection) : String :=
  let cause :=
    match rejection with
    | .unknownSection keyword =>
        "unknown status keyword " ++ String.ofList (Text.Quoted.encode keyword) ++
          " in marked section"
    | .missingName near => "expected name token at " ++ String.ofList (Text.Quoted.encode near)
  "The markup you provided was rejected by the parser. Trying a different parser or a different " ++
    "encoding may help.\n\nOriginal error(s) from parser:\n  AssertionError: " ++ cause

namespace Scan

/-- A name in lower case. -/
def lowerName (chars : List Char) : String :=
  String.ofList (chars.map fun c => Char.ofNat (Text.lower c.toNat))

/-- The characters before a character, and those behind it. -/
def upTo? (stop : Char) (chars : List Char) : Option (List Char × List Char) :=
  match chars.dropWhile (· != stop) with
  | [] => none
  | _ :: behind => some (chars.takeWhile (· != stop), behind)

/-! ## Tags -/

/-- A character of the name of a tag. -/
def isTagChar (c : Char) : Bool :=
  !(c == '\t' || c == '\n' || c == '\r' || c == '\x0c' || c == ' ' || c == '/' || c == '>' ||
    c == '\x00')

/-- A character of the name of an attribute behind its first. -/
def isAttributeChar (c : Char) : Bool :=
  !(Text.isSpace c || c == '/' || c == '=' || c == '>')

/-- Whether an attribute may start behind a character. -/
def isApart (c : Char) : Bool :=
  c == '\'' || c == '"' || c == '/' || Text.isSpace c

/-- Skip blanks and slashes, but not the slash that closes a tag. -/
def skipGap : List Char → List Char
  | [] => []
  | c :: rest =>
      if Text.isSpace c then skipGap rest
      else if c = '/' ∧ rest.head? ≠ some '>' then skipGap rest
      else c :: rest

/-- A value without quotes. -/
def bareValue (chars : List Char) : List Char × List Char :=
  let isValueChar (c : Char) : Bool := !(c == '>' || Text.isSpace c)
  (chars.takeWhile isValueChar, chars.dropWhile isValueChar)

/--
The value behind the name of an attribute, the rest, and whether the value was quoted.

A quote that is never closed starts no value. Then the blanks before it belong
to an empty value; without blanks the last of several equals signs starts the
value; and a single equals sign is not taken at all.
-/
def readValue (chars : List Char) : Option (List Char) × List Char × Bool :=
  match chars.dropWhile Text.isSpace with
  | '=' :: behind =>
      let more := behind.takeWhile (· == '=')
      let afterSigns := behind.dropWhile (· == '=')
      let blanks := afterSigns.takeWhile Text.isSpace
      let start := afterSigns.dropWhile Text.isSpace
      match start with
      | [] => (some [], [], false)
      | quote :: inner =>
          if quote = '\'' ∨ quote = '"' then
            match upTo? quote inner with
            | some (value, rest) => (some value, rest, true)
            | none =>
                if !blanks.isEmpty then
                  (some [], afterSigns, false)
                else if !more.isEmpty then
                  let (value, rest) := bareValue start
                  (some ('=' :: value), rest, false)
                else
                  (none, chars, false)
          else
            let (value, rest) := bareValue start
            (some value, rest, false)
  | _ => (none, chars, false)

/--
Attributes up to what is none, at most `fuel` of them; `before` is the character before
the rest.
-/
def readAttributes : Nat → Char → List Char → List Attribute × List Char
  | 0, _, chars => ([], chars)
  | fuel + 1, before, chars =>
      match chars with
      | [] => ([], [])
      | c :: behind =>
          if !isApart before || c == '>' || c == '/' || Text.isSpace c then
            ([], chars)
          else
            let name := c :: behind.takeWhile isAttributeChar
            let (value?, rest, quoted) := readValue (behind.dropWhile isAttributeChar)
            let afterGap := skipGap rest
            let last :=
              if afterGap.length < rest.length then ' '
              else if quoted then '"'
              else if value?.isSome then '='
              else name.getLastD c
            let entry : Attribute :=
              ⟨lowerName name, String.ofList (Reference.decodeValue (value?.getD []))⟩
            let (attributes, rest) := readAttributes fuel last afterGap
            (entry :: attributes, rest)

/-- What stands where a start tag may stand. -/
inductive StartTag where
  | tag (name : List Char) (attributes : List Attribute) (closed : Bool) (rest : List Char)
  | incomplete
  | broken (name rest : List Char)

/-- The start tag whose name starts here. -/
def startTag (chars : List Char) : StartTag :=
  let name := chars.takeWhile isTagChar
  let behind := chars.dropWhile isTagChar
  let afterGap := skipGap behind
  let last := if afterGap.length < behind.length then ' ' else name.getLastD 'a'
  let (attributes, rest) := readAttributes chars.length last afterGap
  match rest with
  | '>' :: rest => .tag name attributes false rest
  | '/' :: '>' :: rest => .tag name attributes true rest
  | [] => .incomplete
  | '=' :: _ => .incomplete
  | rest => .broken name rest

/-- A character of the name of an end tag. -/
def isEndTagChar (c : Char) : Bool :=
  c.isAlphanum || c == '-' || c == '.' || c == ':' || c == '_'

/-- The end tag with nothing but blanks around its name, behind `</`. -/
def plainEndTag? (chars : List Char) : Option (List Char × List Char) :=
  let start := chars.dropWhile Text.isSpace
  match start with
  | [] => none
  | c :: _ =>
      if c.isAlpha then
        match (start.dropWhile isEndTagChar).dropWhile Text.isSpace with
        | '>' :: rest => some (start.takeWhile isEndTagChar, rest)
        | _ => none
      else
        none

/-! ## Special texts -/

/--
The characters before a mark and those behind it; in the mark blanks may stand where it
says so.
-/
def upToMark? (mark : List Char → Option (List Char)) : List Char → Option (List Char × List Char)
  | [] => none
  | c :: rest =>
      match mark (c :: rest) with
      | some behind => some ([], behind)
      | none => (upToMark? mark rest).map fun found => (c :: found.1, found.2)

/-- The end of a comment: two dashes and a bracket with blanks between them. -/
def commentEnd (chars : List Char) : Option (List Char) :=
  match chars with
  | '-' :: '-' :: rest =>
      match rest.dropWhile Text.isSpace with
      | '>' :: behind => some behind
      | _ => none
  | _ => none

/-- The end of a conditional section: a square bracket and an angle one with blanks between them. -/
def conditionalEnd (chars : List Char) : Option (List Char) :=
  match chars with
  | ']' :: rest =>
      match rest.dropWhile Text.isSpace with
      | '>' :: behind => some behind
      | _ => none
  | _ => none

/-- The end of a marked section: two square brackets and an angle one with blanks between them. -/
def sectionEnd (chars : List Char) : Option (List Char) :=
  match chars with
  | ']' :: rest => conditionalEnd (rest.dropWhile Text.isSpace)
  | _ => none

/-- What one step of reading finds. -/
inductive Move where
  /-- Tokens, and the rest, which is raw text when an element is named. -/
  | go (tokens : List Token) (rest : List Char) (raw : Option (List Char))
  /-- Tokens, and a rest that cannot be read before the page is complete. -/
  | stop (tokens : List Token) (rest : List Char)
  /-- A construct that has no end. -/
  | stalled
  | rejected (rejection : Rejection)

/-- A character of the name of a section behind its first. -/
def isSectionChar (c : Char) : Bool :=
  c.isAlphanum || c == '-' || c == '_' || c == '.'

/-- A section that may be ended by either mark, by its keyword. -/
def sectionMark? (keyword : List Char) : Option (List Char → Option (List Char)) :=
  let keyword := String.ofList (Text.lowerAscii keyword)
  if ["temp", "cdata", "ignore", "include", "rcdata"].contains keyword then some sectionEnd
  else if ["if", "else", "endif"].contains keyword then some conditionalEnd
  else none

/-- The special text that a section is. -/
def sectionToken (content : List Char) : Token :=
  let start := ['c', 'd', 'a', 't', 'a', '[']
  if Text.lowerAscii (content.take start.length) = start then
    .special .cdata (content.drop start.length)
  else
    .special .declaration content

/-- How many characters a rejection shows. -/
def shownLength : Nat := 20

/-- A section behind `<![`. -/
def markedSection (chars : List Char) : Move :=
  match chars with
  | [] => .stalled
  | c :: _ =>
      if c.isAlpha then
        let keyword := chars.takeWhile isSectionChar
        let behind := chars.dropWhile isSectionChar
        if (behind.dropWhile Text.isSpace).isEmpty then
          .stalled
        else
          match sectionMark? keyword with
          | none => .rejected (.unknownSection (keyword ++ behind.takeWhile Text.isSpace))
          | some mark =>
              match upToMark? mark chars with
              | some (content, rest) => .go [sectionToken content] rest none
              | none => .stalled
      else
        .rejected (.missingName (('<' :: '!' :: '[' :: chars).take shownLength))

/-- A special text up to a bracket. -/
def upToBracket (kind : TextKind) (skipped : Nat) (chars : List Char) : Move :=
  match upTo? '>' chars with
  | some (content, rest) => .go [.special kind (content.drop skipped)] rest none
  | none => .stalled

/-- The word that starts a document type. -/
def doctypeWord : List Char := ['d', 'o', 'c', 't', 'y', 'p', 'e']

/-- What stands behind `<!` and is no comment. -/
def declaration (chars : List Char) : Move :=
  match chars with
  | '[' :: rest => markedSection rest
  | _ =>
      if Text.lowerAscii (chars.take doctypeWord.length) = doctypeWord then
        upToBracket .doctype (doctypeWord.length + 1) chars
      else
        upToBracket .comment 0 chars

/-- What stands behind `</`. -/
def endTag (chars : List Char) : Move :=
  match upTo? '>' chars with
  | none => .stalled
  | some (content, rest) =>
      match plainEndTag? chars with
      | some (name, rest) => .go [.endTag (lowerName name)] rest none
      | none =>
          match chars with
          | '>' :: rest => .go [] rest none
          | c :: _ =>
              if c.isAlpha then
                .go [.endTag (lowerName (chars.takeWhile isTagChar))] rest none
              else
                .go [.special .comment content] rest none
          | [] => .stalled

/-- What stands behind `<`. -/
def angle (chars : List Char) : Move :=
  match chars with
  | [] => .stop [] ['<']
  | '/' :: rest => endTag rest
  | '!' :: '-' :: '-' :: rest =>
      match upToMark? commentEnd rest with
      | some (content, rest) => .go [.special .comment content] rest none
      | none => .stalled
  | '?' :: rest => upToBracket .instruction 0 rest
  | '!' :: rest => declaration rest
  | c :: _ =>
      if c.isAlpha then
        match startTag chars with
        | .tag name attributes closed rest =>
            let tagName := lowerName name
            .go [.startTag tagName attributes closed] rest
              (if isRaw tagName && !closed then some tagName.toList else none)
        | .incomplete => .stalled
        | .broken name rest => .go [.text ('<' :: name)] rest none
      else
        .go [.text ['<']] chars none

/-! ## References -/

/-- A character of the name of a reference. -/
def isReferenceChar (c : Char) : Bool :=
  c.isAlphanum || c == '-' || c == '.'

/-- A name and its rest; at the end of the page its last mark ends the name. -/
def referenceName? (chars : List Char) : Option (List Char × List Char) :=
  let name := chars.takeWhile isReferenceChar
  let rest := chars.dropWhile isReferenceChar
  if rest.isEmpty then
    match name.reverse.dropWhile Char.isAlphanum with
    | [] => none
    | mark :: before =>
        if before.isEmpty then
          none
        else
          some (before.reverse, mark :: (name.reverse.takeWhile Char.isAlphanum).reverse)
  else
    some (name, rest)

/-- The text that a named reference stands for; an unknown name stands for itself. -/
def namedText (name : List Char) : List Char :=
  match EntityName.characters? name with
  | some chars => chars
  | none => '&' :: name

/-- What stands behind `&`. -/
def ampersand (ending : Bool) (chars : List Char) : Move :=
  match chars with
  | [] => .stop [] ['&']
  | '#' :: rest =>
      match Reference.number? rest with
      | some (number, behind@(c :: _)) =>
          if Digits.isHex c then
            if rest.contains ';' then .stop [.text ['&', '#']] rest else .stop [] ('&' :: chars)
          else
            .go [.text [Reference.inText number]] (Reference.skipSemicolon behind).2 none
      | _ => if rest.contains ';' then .stop [.text ['&', '#']] rest else .stop [] ('&' :: chars)
  | c :: rest =>
      if c.isAlpha then
        match referenceName? chars with
        | some (name, behind) =>
            .go [.text (namedText name)] (Reference.skipSemicolon behind).2 none
        | none => if ending ∧ rest.isEmpty then .stop [] chars else .stop [] ('&' :: chars)
      else
        .go [.text ['&']] chars none

/-! ## Pages -/

/-- Whether the end tag of a raw element starts here; if so, what follows it. -/
def rawEnd (name : List Char) (chars : List Char) : Option (List Char) :=
  match chars with
  | '<' :: '/' :: rest =>
      match plainEndTag? rest with
      | some (found, behind) => if (lowerName found).toList = name then some behind else none
      | none => none
  | _ => none

/--
A construct that never ends, as text: up to its bracket, or else up to the next one that
opens.
-/
def stalledText (chars : List Char) : List Char × List Char :=
  match chars with
  | [] => ([], [])
  | first :: rest =>
      match upTo? '>' rest with
      | some (content, behind) => (first :: content ++ ['>'], behind)
      | none =>
          if rest.contains '<' then
            (first :: rest.takeWhile (· != '<'), rest.dropWhile (· != '<'))
          else
            ([first], rest)

/-- A text as a token, when it is not empty. -/
def textToken (chars : List Char) : List Token :=
  if chars.isEmpty then [] else [.text chars]

/-- The tokens of a page from here on; `ending` when the page is known to be complete. -/
def tokensFrom : Nat → Bool → Option (List Char) → List Char → Except Rejection (List Token)
  | 0, _, _, _ => .ok []
  | fuel + 1, ending, some name, chars =>
      match upToMark? (rawEnd name) chars with
      | none => .ok []
      | some (content, rest) => do
          let tokens ← tokensFrom fuel ending none rest
          return textToken content ++ .endTag (String.ofList name) :: tokens
  | fuel + 1, ending, none, chars =>
      let isText (c : Char) : Bool := !(c == '<' || c == '&')
      let before := textToken (chars.takeWhile isText)
      match chars.dropWhile isText with
      | [] => .ok before
      | opener :: rest => do
          match if opener = '<' then angle rest else ampersand ending rest with
          | .go tokens rest raw =>
              let more ← tokensFrom fuel ending raw rest
              return before ++ tokens ++ more
          | .stop tokens rest =>
              if ending then
                return before ++ tokens ++ textToken rest
              else
                let more ← tokensFrom fuel true none rest
                return before ++ tokens ++ more
          | .stalled =>
              if ending then
                let (text, rest) := stalledText (opener :: rest)
                let more ← tokensFrom fuel ending none rest
                return before ++ textToken text ++ more
              else
                let more ← tokensFrom fuel true none (opener :: rest)
                return before ++ more
          | .rejected rejection => .error rejection

/-- The tokens of a page. -/
def tokens (page : List Char) : Except Rejection (List Token) :=
  tokensFrom (2 * page.length + 2) false none page

end Scan

end CodeDeck.Markup
