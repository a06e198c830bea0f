import CodeDeck.Config
import CodeDeck.Json.Writer
import CodeDeck.Redaction
import CodeDeck.Text.Percent
import CodeDeck.Text.Utf8

namespace CodeDeck.Link

/-!
# Links to the compiler service

A link carries the layout of two panes, an editor with the source and a
compiler that reads it, as JSON behind the `#` of an address. Everything that
is no letter, digit or one of a few marks is percent-coded there. On a machine
with limits there is no link when the stack is too small for the pattern or a
font scale is too long to be written.
-/

/-- What a link is made of. -/
structure Request where
  source : String
  options : Option Setting
  language : Json
  compiler : Json
  removePattern : Json
  deriving Repr, BEq

/-- Why a link cannot be made. -/
inductive Failure where
  | redaction (cause : Redaction.Failure)
  | language (cause : Setting.UnusableKey)
  deriving Repr, DecidableEq

/-- The message of a failure. -/
def Failure.message : Failure → String
  | .redaction cause => cause.message
  | .language cause => cause.message

/-- The values that are given, as texts with single spaces between them. -/
def joinOptions (values : List Json) : String :=
  String.intercalate " " ((values.filter Json.isGiven).map Json.display)

/-- The options of a block and the additional ones, for a language. -/
def optionsFor
    (config : Config)
    (options : Option Setting)
    (language : Json) : Except Setting.UnusableKey String := do
  let own ← Setting.resolveFor options language (.string "")
  let additional ← Setting.resolveFor config.additionalOptions language (.string "")
  return joinOptions [own, additional]

/-- The pane with the source. -/
def editorPane (config : Config) (source : String) (language : Json) : Json :=
  .object [
    ("type", .string "component"),
    ("componentName", .string "codeEditor"),
    ("componentState", .object [
      ("id", .int 1),
      ("source", .string source),
      ("options", .object [("compileOnChange", .bool true), ("colouriseAsm", .bool true)]),
      ("fontScale", config.editorFontScale.toLink),
      ("lang", language)])]

/-- The pane with the compiler. -/
def compilerPane (config : Config) (options : String) (compiler : Json) : Json :=
  .object [
    ("type", .string "component"),
    ("componentName", .string "compiler"),
    ("componentState", .object [
      ("source", .int 1),
      ("filters", .object [
        ("commentOnly", .bool true),
        ("directives", .bool true),
        ("intel", .bool config.intelSyntax),
        ("labels", .bool true),
        ("trim", .bool config.trimAssembly)]),
      ("options", .string options),
      ("compiler", compiler),
      ("fontScale", config.compilerFontScale.toLink)])]

/-- A layout of two panes side by side. -/
def layout (editor compiler : Json) : Json :=
  .object [
    ("version", .int 4),
    ("content", .array [
      .object [("type", .string "row"), ("content", .array [editor, compiler])]])]

/-- The layout that a link carries; it holds the redacted source. -/
def payload (config : Config) (request : Request) : Outcome Failure Json :=
  let redacted := Redaction.redact request.source request.removePattern
  let result := do
    let source ← redacted.result.mapError Failure.redaction
    let options ← (optionsFor config request.options request.language).mapError Failure.language
    return layout (editorPane config source request.language)
      (compilerPane config options request.compiler)
  ⟨redacted.reports, result⟩

/-- A value as the part of an address behind its `#`. -/
def encode (payload : Json) : String :=
  String.ofList (Text.Percent.encode (Text.Utf8.encode payload.write))

/-- The part of the address behind its `#`. -/
def fragment (config : Config) (request : Request) : Outcome Failure String :=
  let payload := payload config request
  ⟨payload.reports, payload.result.map encode⟩

/-- The part of the address behind its `#`, on a machine with a stack. -/
def fragmentWithin
    (stack : Stack '(')
    (config : Config)
    (request : Request) : Outcome (Halt Failure) String :=
  if Redaction.overflows stack request.removePattern then
    ⟨[], .error .stackOverflow⟩
  else
    let payload := payload config request
    let result := do
      let payload ← payload.result.mapError .failed
      if payload.hasShortNumerals then
        return encode payload
      else
        throw .longNumeral
    ⟨payload.reports, result⟩

/-- The address with a part behind its `#`. -/
def address (config : Config) (fragment : String) : String :=
  config.baseUrl ++ "#" ++ fragment

end CodeDeck.Link
