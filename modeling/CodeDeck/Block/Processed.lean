import CodeDeck.Block.Parsed
import CodeDeck.Link.Payload

namespace CodeDeck

/-!
# Processed blocks

A block is parsed, its source redacted and its link built. Blocks are
processed one by one in order; the first one that fails ends the pass, but
what was reported until then stays reported. What a machine with limits does is
told apart: there a block may fail in further ways, and a pass ends at the
first block that does.
-/

/-- A parsed block with its link. -/
structure ProcessedBlock where
  parsed : ParsedBlock
  fragment : String
  url : String
  deriving Repr, BEq

namespace ParsedBlock

/-- What the link of a parsed block is made of. -/
def request (parsed : ParsedBlock) : Link.Request where
  source := parsed.source
  options := Setting.ofJson? parsed.options
  language := .string parsed.language
  compiler := parsed.compiler
  removePattern := parsed.removePattern

/-- A parsed block with the link that a fragment makes. -/
def withFragment (parsed : ParsedBlock) (config : Config) (fragment : String) : ProcessedBlock where
  parsed
  fragment
  url := Link.address config fragment

/-- A parsed block with its link. -/
def link (parsed : ParsedBlock) (config : Config) : Outcome Link.Failure ProcessedBlock :=
  let fragment := Link.fragment config parsed.request
  ⟨fragment.reports, fragment.result.map (parsed.withFragment config)⟩

/-- A parsed block with its link, on a machine with a stack. -/
def linkWithin
    (stack : Stack '(')
    (parsed : ParsedBlock)
    (config : Config) : Outcome (Halt Link.Failure) ProcessedBlock :=
  let fragment := Link.fragmentWithin stack config parsed.request
  ⟨fragment.reports, fragment.result.map (parsed.withFragment config)⟩

end ParsedBlock

namespace Block

/-- A block with its sources, settings and link. -/
def process (block : Block) (config : Config) : Outcome Link.Failure ProcessedBlock :=
  let linked := (block.parse config).link config
  ⟨block.reports config ++ linked.reports, linked.result⟩

/-- A block with its sources, settings and link, on a machine with a stack. -/
def processWithin
    (stack : Stack '(')
    (block : Block)
    (config : Config) : Outcome (Halt Link.Failure) ProcessedBlock :=
  let linked := (block.parse config).linkWithin stack config
  ⟨block.reports config ++ linked.reports, linked.result⟩

/-- Blocks that go through a step in order, up to the first that fails there. -/
def pass
    {ε : Type}
    (step : Block → Outcome ε ProcessedBlock) : List Block → Outcome ε (List ProcessedBlock)
  | [] => ⟨[], .ok []⟩
  | block :: blocks =>
      let first := step block
      match first.result with
      | .error failure => ⟨first.reports, .error failure⟩
      | .ok processed =>
          let others := pass step blocks
          ⟨first.reports ++ others.reports, others.result.map (processed :: ·)⟩

/-- Blocks processed in order up to the first that fails. -/
def processAll
    (config : Config)
    (blocks : List Block) : Outcome Link.Failure (List ProcessedBlock) :=
  pass (fun block => block.process config) blocks

/-- Blocks processed in order up to the first that fails, on a machine with a stack. -/
def processAllWithin
    (stack : Stack '(')
    (config : Config)
    (blocks : List Block) : Outcome (Halt Link.Failure) (List ProcessedBlock) :=
  pass (fun block => block.processWithin stack config) blocks

/-- The doubtful parts of the pattern of a block. -/
def doubts (block : Block) (config : Config) : List Pattern.Doubt :=
  Redaction.doubts (block.parse config).removePattern

/--
What comes up about a block, in order: the reports on its lines, the doubtful parts of its
pattern, and the report on the pattern.
-/
def remarks (block : Block) (config : Config) : List Remark :=
  (block.reports config).map .report ++
    (block.doubts config).map .doubt ++
    ((block.parse config).link config).reports.map .report

/-- What comes up about blocks, up to the first that fails. -/
def passRemarks (config : Config) : List Block → List Remark
  | [] => []
  | block :: blocks =>
      match (block.process config).result with
      | .error _ => block.remarks config
      | .ok _ => block.remarks config ++ passRemarks config blocks

/-- The record of a pass that has ended. -/
def passRecord (count : Nat) : Log.Record where
  source := .processor
  level := .info
  message := "Processed " ++ toString count ++ " code blocks"

/-- The records of a pass whose reports go to the log. -/
def passRecords (outcome : Outcome Link.Failure (List ProcessedBlock)) : List Log.Record :=
  let reported := outcome.reports.map Report.record
  match outcome.result with
  | .ok processed => reported ++ [passRecord processed.length]
  | .error _ => reported

end Block

end CodeDeck
