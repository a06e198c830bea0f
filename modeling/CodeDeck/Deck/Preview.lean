import CodeDeck.Block.Processed
import CodeDeck.Link.Navigation

namespace CodeDeck

/-!
# Preview

The blocks of a deck on one screen: a heading, a status line, and for each
block its settings and its shown source. A click that follows a link changes
the status.
-/

/-- The blocks that are shown, and the status. -/
structure Preview where
  config : Config
  blocks : List ProcessedBlock
  deckName : String
  status : String
  deriving Repr

namespace Preview

/-- The preview before any click. -/
def start (config : Config) (blocks : List ProcessedBlock) (deckName : String) : Preview where
  config
  blocks
  deckName
  status := "ctrl+click a block to open it"

/-- The settings of a block in one line. -/
def settingsLine (number : Nat) (parsed : ParsedBlock) : String :=
  "#" ++ toString number ++ "  " ++ parsed.language ++ " | " ++ parsed.compiler.display ++ " | " ++
    parsed.options.display

/-- The lines about blocks that are numbered from a number on. -/
def settingsLines (number : Nat) : List ProcessedBlock → List String
  | [] => []
  | block :: blocks => settingsLine number block.parsed :: settingsLines (number + 1) blocks

/-- The texts of the screen in order. -/
def texts (preview : Preview) : List String :=
  ["DECKSCOPE > Preview",
    "deck: " ++ (if preview.deckName = "" then "-" else preview.deckName),
    "blocks: " ++ toString preview.blocks.length,
    preview.status] ++ settingsLines 1 preview.blocks

/-- The shown sources in order. -/
def sources (preview : Preview) : List String :=
  preview.blocks.map fun block => block.parsed.displaySource

/-- What a click does: the preview after it, the address it opens, and its records. -/
structure Clicked where
  preview : Preview
  opened : Option String
  records : List Log.Record
  deriving Repr

/-- A click on the block with a number. -/
def click (preview : Preview) (number : Nat) (click : Link.Click) : Clicked :=
  match preview.blocks[number - 1]? with
  | none => ⟨preview, none, []⟩
  | some block =>
      let status :=
        if click.follows then "opened block #" ++ toString number else preview.status
      { preview := { preview with status }
        opened := Link.opened? preview.config block.fragment click
        records := Link.clickRecords preview.config click }

end Preview

end CodeDeck
