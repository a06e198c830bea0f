import CodeDeck.Command.Run
import CodeDeck.Proofs.Command.Reading
import CodeDeck.Proofs.File.Written

namespace CodeDeck

/-!
# The output of a rendering

A rendering writes one file, and that last, unless records are kept in a file.
So a run that fails leaves all files as they were and prints nothing, and a
run that succeeds writes the very page into its output that it would print
without one: `run_render`.
-/

namespace Log

variable {files : File.Store} {directory : File.Location} {entries : Json.Entries}

/-- The file that keeps records. -/
def Sinks.file? : Sinks → Option LogFile
  | .unarranged => none
  | .arranged _ _ file => file

/-- Whether a logging section asks for a file that keeps records. -/
def asksFile (entries : Json.Entries) : Bool :=
  isOn entries "enabled" false &&
    match fileSection entries with
    | .ok file => isOn file "enabled" false
    | .error _ => false

/-- A record is kept in no file when there is none for it. -/
theorem Sinks.keep_of_noFile
    {sinks : Sinks}
    (noFile : sinks.file? = none)
    (time : String)
    (record : Record)
    (files : File.Store) :
    sinks.keep time record files = files := by
  cases sinks with
  | unarranged => rfl
  | arranged threshold console file =>
      cases noFile
      rfl

/-- Arranging a log without a file leaves the files as they are. -/
theorem arrange_of_noFile
    (noFile : asksFile entries = false) :
    (arrange files directory entries).1 = files ∧
      ∀ sinks, (arrange files directory entries).2 = .ok sinks → sinks.file? = none := by
  rw [arrange]
  cases enabled : isOn entries "enabled" false with
  | false => simp [Sinks.console, Sinks.file?]
  | true =>
      rw [asksFile, enabled, Bool.true_and] at noFile
      simp only [Bool.not_true, Bool.false_eq_true, if_false]
      split
      · simp
      · simp
      · rename_i file isSection _
        rw [isSection] at noFile
        simp only [noFile, Bool.not_false, if_true]
        split
        · simp [Sinks.file?]
        · simp [Sinks.file?]

end Log

namespace Command

variable {files : File.Store} {session : Session} {surroundings : Surroundings}
variable {config : Option String} {deck output : String} {invocation : Invocation}

/-- The settings that are loaded ask for no file that keeps records. -/
def KeepsNoLog
    (surroundings : Surroundings)
    (files : File.Store)
    (config : Option String) : Prop :=
  ∀ settings,
    (Settings.load files surroundings.directory config
        (surroundings.value? Settings.variableName)).result = .ok settings →
      Log.asksFile settings.logging = false

/-- A session that has changed no file, has printed nothing and keeps no record in a file. -/
structure Untouched (files : File.Store) (session : Session) : Prop where
  sameFiles : session.files = files
  noOutput : session.output = ""
  noFile : session.sinks.file? = none

theorem Untouched.start (files : File.Store) : Untouched files (Session.start files) :=
  ⟨rfl, rfl, rfl⟩

namespace Untouched

theorem note
    (untouched : Untouched files session)
    (time : String)
    (record : Log.Record) :
    Untouched files (session.note time record) where
  sameFiles := (Log.Sinks.keep_of_noFile untouched.noFile ..).trans untouched.sameFiles
  noOutput := untouched.noOutput
  noFile := untouched.noFile

theorem noteAll
    (untouched : Untouched files session)
    (time : String)
    (records : List Log.Record) :
    Untouched files (session.noteAll time records) := by
  rw [Session.noteAll]
  induction records generalizing session with
  | nil => exact untouched
  | cons record records inductionHypothesis =>
      exact inductionHypothesis (untouched.note time record)

/-- Reports and shown remarks touch no file and print nothing either. -/
theorem tellAll
    (untouched : Untouched files session)
    (remarks : List Remark) :
    Untouched files (session.tellAll surroundings remarks) := by
  rw [Session.tellAll]
  induction remarks generalizing session with
  | nil => exact untouched
  | cons remark remarks inductionHypothesis =>
      cases remark with
      | report found => exact inductionHypothesis (untouched.note surroundings.time found.record)
      | doubt found =>
          exact inductionHypothesis
            ⟨untouched.sameFiles, untouched.noOutput, untouched.noFile⟩

theorem arranged
    {store : File.Store}
    {sinks : Log.Sinks}
    (untouched : Untouched files session)
    (sameFiles : store = files)
    (noFile : sinks.file? = none) :
    Untouched files { session with files := store, sinks } :=
  ⟨sameFiles, untouched.noOutput, noFile⟩

theorem processDeck
    (untouched : Untouched files session)
    (settings : Settings)
    (path : String) :
    Untouched files (Command.processDeck surroundings session settings path).1 := by
  unfold Command.processDeck
  cases readDeck session.files surroundings.directory path with
  | error failure => exact untouched
  | ok deck =>
      have told := @tellAll _ _ surroundings untouched
        (Remark.fresh [] (Block.passRemarks settings.config deck.blocks))
      dsimp only
      split
      · exact told
      · exact told.note ..

theorem prepare
    (untouched : Untouched files session)
    (keepsNoLog : KeepsNoLog surroundings files config) :
    Untouched files (Command.prepare surroundings session config deck).1 := by
  rw [Command.prepare, untouched.sameFiles]
  dsimp only
  cases loaded : (Settings.load files surroundings.directory config
      (surroundings.value? Settings.variableName)).result with
  | error cause => exact untouched.noteAll ..
  | ok settings =>
      have noted := untouched.noteAll surroundings.time
        ((Settings.load files surroundings.directory config
          (surroundings.value? Settings.variableName)).warnings.map Config.Warning.record)
      rw [noted.sameFiles]
      dsimp only
      obtain ⟨sameFiles, noFile⟩ :=
        @Log.arrange_of_noFile files surroundings.directory _ (keepsNoLog settings loaded)
      split
      · rename_i arranged cause isError
        rw [isError] at sameFiles
        exact ⟨sameFiles, noted.noOutput, noted.noFile⟩
      · rename_i arranged sinks isOk
        rw [isOk] at sameFiles noFile
        have arranged := noted.arranged sameFiles (noFile sinks rfl)
        split
        · exact (arranged.note ..).processDeck ..
        · exact arranged.processDeck ..

/-- A rendering that fails has written nothing, whichever step has failed. -/
theorem render_of_error
    {output : Option String}
    {prepared : Prepared}
    {failure : Failure}
    (untouched : Untouched files session)
    (failed : (Command.render surroundings session output prepared).2 = .error failure) :
    Untouched files (Command.render surroundings session output prepared).1 := by
  rw [Command.render] at failed ⊢
  cases applied : prepared.deck.apply prepared.processed with
  | error cause => exact untouched
  | ok after =>
      rw [applied] at failed
      have noted := untouched.note surroundings.time
        (Deck.applyRecord prepared.processed.length)
      dsimp only [deliver] at failed ⊢
      cases given : Settings.given? output with
      | none =>
          rw [given] at failed
          contradiction
      | some path =>
          rw [given] at failed
          dsimp only at failed ⊢
          split
          · exact noted
          · rename_i isWritten
            rw [isWritten] at failed
            contradiction

/-- A rendering without an output prints the page. -/
theorem render_print
    {prepared : Prepared}
    {after : Deck}
    (untouched : Untouched files session)
    (applied : prepared.deck.apply prepared.processed = .ok after) :
    (Command.render surroundings session none prepared).1.output = after.render := by
  have noted := untouched.note surroundings.time (Deck.applyRecord prepared.processed.length)
  rw [Command.render, applied]
  dsimp only [deliver, Settings.given?, Session.print]
  rw [noted.noOutput, String.empty_append]

/-- A rendering with an output writes the page into it. -/
theorem render_write
    {prepared : Prepared}
    {after : Deck}
    {location : File.Location}
    (untouched : Untouched files session)
    (applied : prepared.deck.apply prepared.processed = .ok after)
    (named : output ≠ "")
    (located : files.locate surroundings.directory (File.Path.ofText output).text = .ok location)
    (noDirectory : files.get? location ≠ some .directory) :
    ∃ last,
      Command.render surroundings session (some output) prepared = (last, .ok ()) ∧
        Untouched (files.put location (.file (Text.Utf8.encode after.render.toList))) last := by
  have noted := untouched.note surroundings.time (Deck.applyRecord prepared.processed.length)
  have written : files.write surroundings.directory (File.Path.ofText output).text
      (Text.Utf8.encode after.render.toList) = .ok _ :=
    File.Store.write_eq_ok_iff.mpr ⟨location, located, noDirectory, rfl⟩
  rw [Command.render, applied]
  simp only [deliver, Settings.given?, if_neg named, noted.sameFiles, written]
  refine ⟨_, rfl, Untouched.note ?_ ..⟩
  exact ⟨rfl, noted.noOutput, noted.noFile⟩

end Untouched

/-! ## Runs -/

theorem execute_render
    (surroundings : Surroundings)
    (session : Session)
    (deck : String)
    (options : Options) :
    execute surroundings session ⟨.render, deck, options⟩ =
      match prepare surroundings session options.config deck with
      | (session, .error failure) => (session, .error failure)
      | (session, .ok prepared) => render surroundings session options.output prepared :=
  rfl

/-- A rendering that fails, in whichever step, has changed no file and printed nothing. -/
theorem Untouched.execute_of_error
    {options : Options}
    {failure : Failure}
    (untouched : Untouched files session)
    (keepsNoLog : KeepsNoLog surroundings files options.config)
    (failed : (execute surroundings session ⟨.render, deck, options⟩).2 = .error failure) :
    Untouched files (execute surroundings session ⟨.render, deck, options⟩).1 := by
  have prepared := @Untouched.prepare _ _ _ _ deck untouched keepsNoLog
  rw [execute_render] at failed ⊢
  split
  · rename_i isPrepared
    rw [isPrepared] at prepared
    exact prepared
  · rename_i isPrepared
    rw [isPrepared] at prepared failed
    exact prepared.render_of_error failed

/-- A rendering that succeeds has got so far that it can succeed with any output. -/
theorem exists_prepared_of_execute
    {options : Options}
    (succeeds : (execute surroundings session ⟨.render, deck, options⟩).2 = .ok ()) :
    ∃ ready prepared after,
      prepare surroundings session options.config deck = (ready, .ok prepared) ∧
        prepared.deck.apply prepared.processed = .ok after := by
  rw [execute_render] at succeeds
  cases isPrepared : prepare surroundings session options.config deck with
  | mk ready result =>
      rw [isPrepared] at succeeds
      cases result with
      | error failure => contradiction
      | ok prepared =>
          cases applied : prepared.deck.apply prepared.processed with
          | error cause =>
              dsimp only at succeeds
              rw [render, applied] at succeeds
              contradiction
          | ok after => exact ⟨ready, prepared, after, rfl, applied⟩

/-- How a run ends says whether it has failed. -/
theorem conclude_done_iff (session : Session) (result : Except Failure Unit) :
    (conclude session result).2 = .done successCode ↔ result = .ok () := by
  cases result with
  | ok => simp [conclude]
  | error failure =>
      rw [conclude]
      split <;> simp [successCode, refusedCode]

theorem Untouched.conclude
    (untouched : Untouched files session)
    (result : Except Failure Unit) :
    Untouched files (Command.conclude session result).1 := by
  cases result with
  | ok => exact untouched
  | error failure =>
      rw [Command.conclude]
      split
      · exact ⟨untouched.sameFiles, untouched.noOutput, untouched.noFile⟩
      · exact untouched

/-- A run that is not stopped has read its arguments. -/
theorem exists_read_of_run
    {arguments : List String}
    (notStopped : ∀ code, (run surroundings files arguments).2 ≠ .stopped code) :
    ∃ invocation,
      Invocation.read arguments = .ok invocation ∧
        run surroundings files arguments =
          conclude (execute surroundings (.start files) invocation).1
            (execute surroundings (.start files) invocation).2 := by
  cases read : Invocation.read arguments with
  | error stop =>
      rw [run, read] at notStopped
      cases stop with
      | help | refused => exact absurd rfl (notStopped _)
  | ok invocation => exact ⟨invocation, rfl, by rw [run, read]⟩

/-- A rendering that prints a page writes that page when it has an output. -/
theorem run_render_output
    {location : File.Location}
    (keepsNoLog : KeepsNoLog surroundings files config)
    (named : output ≠ "")
    (noDash : output.toList.head? ≠ some '-')
    (located : files.locate surroundings.directory (File.Path.ofText output).text = .ok location)
    (noDirectory : files.get? location ≠ some .directory)
    (succeeds :
      (run surroundings files (renderArguments config [deck])).2 = .done successCode) :
    ∃ page last,
      (run surroundings files (renderArguments config [deck])).1.output = page ∧
        run surroundings files (renderArguments config [deck, "-o", output]) =
          (last, .done successCode) ∧
        Untouched (files.put location (.file (Text.Utf8.encode page.toList))) last := by
  obtain ⟨invocation, read, isRun⟩ :=
    exists_read_of_run fun code stopped => by
      rw [succeeds] at stopped
      contradiction
  obtain ⟨rfl, readOutput⟩ := read_render read noDash
  rw [isRun, conclude_done_iff] at succeeds
  -- The two runs differ in the output alone, so both come to the same prepared deck.
  obtain ⟨ready, prepared, after, isPrepared, applied⟩ := exists_prepared_of_execute succeeds
  have untouched : Untouched files ready := by
    have atReady := @Untouched.prepare _ _ surroundings _ deck (.start files) keepsNoLog
    rwa [isPrepared] at atReady
  obtain ⟨last, isWritten, written⟩ := untouched.render_write applied named located noDirectory
  refine ⟨after.render, last, ?_, ?_, written⟩
  · rw [isRun, succeeds]
    rw [execute_render, isPrepared]
    exact untouched.render_print applied
  · rw [run, readOutput]
    dsimp only
    rw [execute_render, isPrepared]
    dsimp only
    rw [isWritten]
    rfl

/-- A rendering with an output that is refused or fails has done nothing. -/
theorem run_render_of_fail
    (keepsNoLog : KeepsNoLog surroundings files config)
    (noDash : output.toList.head? ≠ some '-')
    (fails :
      (run surroundings files (renderArguments config [deck, "-o", output])).2 =
          .done refusedCode ∨
        ∃ cause, (run surroundings files (renderArguments config [deck, "-o", output])).2 =
          .failed cause) :
    Untouched files (run surroundings files (renderArguments config [deck, "-o", output])).1 := by
  obtain ⟨invocation, read, isRun⟩ :=
    exists_read_of_run fun code stopped => by
      rcases fails with refused | ⟨cause, failed⟩
      · rw [refused] at stopped
        contradiction
      · rw [failed] at stopped
        contradiction
  obtain rfl := read_render_output read noDash
  rw [isRun] at fails ⊢
  refine Untouched.conclude ?_ _
  cases result : (execute surroundings (.start files)
      ⟨.render, deck, ⟨config, some output, false, []⟩⟩).2 with
  | ok =>
      rw [result, (conclude_done_iff _ _).mpr rfl] at fails
      simp [successCode, refusedCode] at fails
  | error failure => exact (Untouched.start files).execute_of_error keepsNoLog result

/--
A rendering is all or nothing, and its two outputs agree, when no records are kept in a file. If
it succeeds without an output and prints a page, it succeeds with one, prints nothing and leaves
the bytes of that page there, and every other place as it was. If it is refused or fails with an
output, all files are as they were and nothing is printed.
-/
theorem run_render
    {location : File.Location}
    (keepsNoLog : KeepsNoLog surroundings files config)
    (named : output ≠ "")
    (noDash : output.toList.head? ≠ some '-')
    (located : files.locate surroundings.directory (File.Path.ofText output).text = .ok location)
    (noDirectory : files.get? location ≠ some .directory) :
    let printing := run surroundings files (renderArguments config [deck])
    let writing := run surroundings files (renderArguments config [deck, "-o", output])
    (printing.2 = .done successCode →
        writing.2 = .done successCode ∧
          writing.1.output = "" ∧
          writing.1.files.get? location =
            some (.file (Text.Utf8.encode printing.1.output.toList)) ∧
          ∀ other ≠ location, writing.1.files.get? other = files.get? other) ∧
      ((writing.2 = .done refusedCode ∨ ∃ cause, writing.2 = .failed cause) →
        writing.1.files = files ∧ writing.1.output = "") := by
  intro printing writing
  have below : location ≠ [] := by
    rintro rfl
    exact noDirectory rfl
  refine ⟨fun succeeds => ?_, fun fails => ?_⟩
  · obtain ⟨page, last, printed, isWriting, written⟩ :=
      run_render_output keepsNoLog named noDash located noDirectory succeeds
    rw [show writing = _ from isWriting, show printing.1.output = _ from printed]
    refine ⟨rfl, written.noOutput, ?_, fun other different => ?_⟩
    · rw [written.sameFiles, File.Store.get?_put _ _ _ below]
    · rw [written.sameFiles, File.Store.get?_put_ne _ _ different]
  · have untouched := run_render_of_fail keepsNoLog noDash fails
    exact ⟨untouched.sameFiles, untouched.noOutput⟩

/-- The code that a run returns, if it returns. -/
def Ending.code? : Ending → Option Nat
  | .done code => some code
  | .stopped _ | .failed _ => none

theorem Ending.eq_done_of_code?
    {ending : Ending}
    {code : Nat}
    (returns : ending.code? = some code) :
    ending = .done code := by
  cases ending with
  | done other => exact congrArg Ending.done (Option.some.inj returns)
  | stopped | failed => contradiction

/-- A page that is rendered both ways, and a deck that is missing. -/
theorem run_render_page :
    let surroundings : Surroundings := ⟨[], [], "", fun _ => ""⟩
    let page := Text.Utf8.encode "<pre><code data-ce>a</code></pre>".toList
    let files : File.Store := ⟨[(["deck.html"], .file page)]⟩
    let printing := run surroundings files ["render", "deck.html"]
    let writing := run surroundings files ["render", "deck.html", "-o", "out.html"]
    let failing := run surroundings files ["render", "none.html", "-o", "out.html"]
    printing.2 = .done successCode ∧
      writing.2 = .done successCode ∧
      writing.1.files.get? ["out.html"] =
        some (.file (Text.Utf8.encode printing.1.output.toList)) ∧
      failing.2 = .done refusedCode ∧
      failing.1.files = files := by
  intro surroundings page files printing writing failing
  have keepsNoLog : KeepsNoLog surroundings files none := by
    intro settings loaded
    have isDefault : (Settings.load files [] none none).result = .ok .default := by rfl
    cases isDefault.symm.trans loaded
    rfl
  have outcome (deck : String) :=
    @run_render files surroundings none deck "out.html" ["out.html"] keepsNoLog (by decide)
      (by decide) rfl (by decide)
  have succeeds : printing.2 = .done successCode :=
    Ending.eq_done_of_code? (by decide +kernel)
  have refused : failing.2 = .done refusedCode :=
    Ending.eq_done_of_code? (by decide +kernel)
  obtain ⟨written, -, atPlace, -⟩ := (outcome "deck.html").1 succeeds
  exact ⟨succeeds, written, atPlace, refused, ((outcome "none.html").2 (.inl refused)).1⟩

end Command

end CodeDeck
