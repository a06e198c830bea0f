import CodeDeck.Block.Annotation
import CodeDeck.Block.Trim
import CodeDeck.Config

namespace CodeDeck

/-!
# Parsed blocks

A block of a deck is its annotated text and its own settings. Parsing finds
the full source for the compiler and the shown source for the slide, and fills
settings that the block leaves open from the configuration.
-/

/-- An annotated block with its own settings. -/
structure Block where
  text : String
  language : Option String
  compiler : Option String
  options : Option String
  removePattern : Option String
  deriving Repr, DecidableEq

/-- A block with its sources and settings. -/
structure ParsedBlock where
  language : String
  compiler : Json
  options : Json
  source : String
  displaySource : String
  removePattern : Json
  deriving Repr, BEq

namespace Block

/-- A setting of a block when it is not empty, otherwise another value. -/
def ownOr (own : Option String) (other : Json) : Json :=
  match own with
  | some value => if value = "" then other else .string value
  | none => other

/-- The language of a block. -/
def languageIn (block : Block) (config : Config) : String :=
  match block.language with
  | some language => if language = "" then config.defaultLanguage else language
  | none => config.defaultLanguage

/-- The compiler options of a block for which nothing is set. -/
def fallbackOptions : Json := .string "-O1"

/-- The lines of a block. -/
def lines (block : Block) : List String :=
  Text.splitLines block.text

/-- The lines of a block by where they belong. -/
def classified (block : Block) (config : Config) : Classified :=
  Classified.ofLines config.maxLineLength block.lines

/-- A block with its sources and settings. -/
def parse (block : Block) (config : Config) : ParsedBlock :=
  let classified := block.classified config
  let language := block.languageIn config
  let default (setting : Option Setting) (fallback : Json) : Json :=
    Setting.resolve setting language fallback
  { language
    compiler := ownOr block.compiler (default config.defaultCompiler (.string ""))
    options := ownOr block.options (default config.defaultOptions fallbackOptions)
    source := Trim.text classified.full false
    displaySource := Trim.text classified.display config.undent
    removePattern :=
      (ownOr block.removePattern (default config.defaultRemovePattern (.string ""))).orElse .null }

/-- The reports about a block. -/
def reports (block : Block) (config : Config) : List Report :=
  (block.classified config).reports

end Block

end CodeDeck
