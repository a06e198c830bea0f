import CodeDeck.Command.Banner
import CodeDeck.Command.Help
import CodeDeck.Command.Session
import CodeDeck.Deck.Basic
import CodeDeck.Link.Qr
import CodeDeck.Log.Arrangement
import CodeDeck.SettingsFile

namespace CodeDeck.Command

/-!
# Runs

A run reads its arguments, loads the settings, arranges the log, reads the
deck and processes its blocks, and only then does what the verb asks for. So
nothing is written as long as something can still fail, and the only file
that a verb writes is the last thing that it writes. The limits of a machine
are left out here; what they do to settings and to blocks is told in
`Settings.loadWithin` and `Block.processAllWithin`.
-/

/-- Why a run fails. -/
inductive Failure where
  | settings (cause : Settings.Failure)
  | logging (cause : Log.Failure)
  | deckFile (path : String) (fault : File.Fault)
  | deckNotText (cause : Text.Utf8.DecodeError)
  | deckMarkup (cause : Markup.Rejection)
  | block (cause : Link.Failure)
  | blockCount (cause : Deck.CountMismatch)
  | output (path : String) (fault : File.Fault)
  deriving Repr

namespace Failure

/-- The message about a failure. -/
def message : Failure → String
  | .settings cause => cause.message
  | .logging cause => cause.message
  | .deckFile path fault =>
      match fault with
      | .nulCharacter => fault.words
      | fault => "Cannot read deck " ++ path ++ ": " ++ fault.words
  | .deckNotText cause => cause.message
  | .deckMarkup cause => cause.message
  | .block cause => cause.message
  | .blockCount cause => cause.message
  | .output path fault => fault.message path

/-- Whether a failure is one that the user is told about; the others end the run at once. -/
def isForeseen : Failure → Bool
  | .settings (.unusable _ _) => true
  | .deckFile _ fault => fault ≠ .nulCharacter
  | _ => false

end Failure

/--
How a run ends: with a code after its work or after reading its arguments, or at a
failure that was not foreseen.
-/
inductive Ending where
  | done (code : Nat)
  | stopped (code : Nat)
  | failed (cause : Failure)
  deriving Repr

/-- The code of a run that has done its work. -/
def successCode : Nat := 0

/-- The code of a run that is refused. -/
def refusedCode : Nat := 2

/-- What a verb starts from. -/
structure Prepared where
  settings : Settings
  deck : Deck
  processed : List ProcessedBlock
  deriving Repr

/-- The record of settings that have been loaded. -/
def loadedRecord (path : File.Path) : Log.Record where
  source := .app
  level := .info
  message := "Loaded settings from " ++ path.text

/-- The record of blocks that have been written. -/
def wroteRecord (count : Nat) (path : String) : Log.Record where
  source := .app
  level := .info
  message := "Wrote " ++ toString count ++ " blocks to " ++ path

/-- The record of a link for which no code can be drawn. -/
def longLinkRecord (index : Nat) : Log.Record where
  source := .app
  level := .warning
  message := "Block " ++ toString index ++ " link is too long for a QR code"

/-- The deck in a file. -/
def readDeck
    (store : File.Store)
    (directory : File.Location)
    (path : String) : Except Failure Deck :=
  match store.read directory (File.Path.ofText path).text with
  | .error fault => .error (.deckFile path fault)
  | .ok content =>
      match File.textOf content with
      | .error cause => .error (.deckNotText cause)
      | .ok page =>
          match Deck.parse (String.ofList page) with
          | .error cause => .error (.deckMarkup cause)
          | .ok deck => .ok deck

/-- Read a deck and process its blocks with loaded settings. -/
def processDeck
    (surroundings : Surroundings)
    (session : Session)
    (settings : Settings)
    (path : String) : Session × Except Failure Prepared :=
  match readDeck session.files surroundings.directory path with
  | .error failure => (session, .error failure)
  | .ok deck =>
      let remarks := Remark.fresh [] (Block.passRemarks settings.config deck.blocks)
      let session := session.tellAll surroundings remarks
      match (Block.processAll settings.config deck.blocks).result with
      | .error cause => (session, .error (.block cause))
      | .ok processed =>
          (session.note surroundings.time (Block.passRecord processed.length),
            .ok { settings, deck, processed })

/-- Load the settings, arrange the log, and process the blocks of the deck. -/
def prepare
    (surroundings : Surroundings)
    (session : Session)
    (config : Option String)
    (path : String) : Session × Except Failure Prepared :=
  let loaded :=
    Settings.load session.files surroundings.directory config
      (surroundings.value? Settings.variableName)
  let session :=
    session.noteAll surroundings.time (loaded.warnings.map Config.Warning.record)
  match loaded.result with
  | .error cause => (session, .error (.settings cause))
  | .ok settings =>
      match Log.arrange session.files surroundings.directory settings.logging with
      | (files, .error cause) => ({ session with files }, .error (.logging cause))
      | (files, .ok sinks) =>
          let session := { session with files, sinks }
          let session :=
            match settings.path with
            | some path => session.note surroundings.time (loadedRecord path)
            | none => session
          processDeck surroundings session settings path

/-- Write a page to a file, or print it when no file is named. -/
def deliver
    (surroundings : Surroundings)
    (session : Session)
    (output : Option String)
    (count : Nat)
    (page : String) : Session × Except Failure Unit :=
  match Settings.given? output with
  | none => (session.print page, .ok ())
  | some path =>
      let written := (File.Path.ofText path).text
      match session.files.write surroundings.directory written (Text.Utf8.encode page.toList) with
      | .error fault => (session, .error (.output written fault))
      | .ok files =>
          (({ session with files } : Session).note surroundings.time (wroteRecord count path),
            .ok ())

/-- Write the shown sources and the links into the deck. -/
def render
    (surroundings : Surroundings)
    (session : Session)
    (output : Option String)
    (prepared : Prepared) : Session × Except Failure Unit :=
  match prepared.deck.apply prepared.processed with
  | .error cause => (session, .error (.blockCount cause))
  | .ok deck =>
      let count := prepared.processed.length
      let session := session.note surroundings.time (Deck.applyRecord count)
      deliver surroundings session output count deck.render

/-- The line of a block in a listing. -/
def listingLine (index : Nat) (block : ProcessedBlock) : String :=
  toString index ++ ". " ++ block.parsed.language ++ " | " ++ block.parsed.compiler.display ++
    " | " ++ block.url ++ "\n"

/-- The drawing of the code of a link, for which its size stands, and an empty line. -/
def drawing (size : Link.Qr.Size) : String :=
  "<qr " ++ toString size.rows ++ "x" ++ toString size.columns ++ ">\n\n"

/-- Print one block of a listing, with the code of its link if codes are asked for. -/
def list
    (surroundings : Surroundings)
    (codes : Bool)
    (session : Session)
    (index : Nat)
    (block : ProcessedBlock) : Session :=
  let session := session.print (listingLine index block)
  if codes then
    match Link.Qr.size? block.url with
    | some size => session.print (drawing size)
    | none => session.note surroundings.time (longLinkRecord index)
  else
    session

/-- Print blocks as a listing, the first of them with a given number. -/
def listFrom
    (surroundings : Surroundings)
    (codes : Bool)
    (session : Session)
    (index : Nat) : List ProcessedBlock → Session
  | [] => session
  | block :: blocks =>
      listFrom surroundings codes (list surroundings codes session index block) (index + 1) blocks

/-- Do what a verb asks for with a deck whose blocks are processed. -/
def perform
    (surroundings : Surroundings)
    (session : Session)
    (invocation : Invocation)
    (prepared : Prepared) : Session × Except Failure Unit :=
  match invocation.verb with
  | .render => render surroundings session invocation.options.output prepared
  | .links =>
      (listFrom surroundings invocation.options.codes session 1 prepared.processed, .ok ())
  | .preview => (session, .ok ())

/-- Do what has been asked for. -/
def execute
    (surroundings : Surroundings)
    (session : Session)
    (invocation : Invocation) : Session × Except Failure Unit :=
  let session := if invocation.verb = .preview then session.print banner else session
  match prepare surroundings session invocation.options.config invocation.deck with
  | (session, .error failure) => (session, .error failure)
  | (session, .ok prepared) => perform surroundings session invocation prepared

/-- The end of a run that has or has not failed; the user is told of a failure that was foreseen. -/
def conclude (session : Session) (result : Except Failure Unit) : Session × Ending :=
  match result with
  | .ok () => (session, .done successCode)
  | .error failure =>
      if failure.isForeseen then
        (session.complain (Scope.programName ++ ": " ++ failure.message ++ "\n"),
          .done refusedCode)
      else
        (session, .failed failure)

/-- A whole run. -/
def run
    (surroundings : Surroundings)
    (files : File.Store)
    (arguments : List String) : Session × Ending :=
  let session := Session.start files
  match Invocation.read arguments with
  | .error (.help scope) => (session.print scope.help, .stopped successCode)
  | .error (.refused scope problem) =>
      (session.complain (refusal scope problem), .stopped refusedCode)
  | .ok invocation =>
      let (session, result) := execute surroundings session invocation
      conclude session result

end CodeDeck.Command
