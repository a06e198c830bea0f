import CodeDeck.Proofs.Block.Passes
import CodeDeck.Proofs.Command.Errors
import CodeDeck.Proofs.Deck.Runs

namespace CodeDeck.Command

/-!
# Listings with codes

Whether a link fits into a code is found out block by block, and a link that
does not is told beside the output. So a listing with codes is the listing
without them, with drawings put in, and nothing but its warnings is added to
what is shown: `run_links_codes`.
-/

variable {files : File.Store} {session ready : Session} {surroundings : Surroundings}
variable {config : Option String} {deck : String} {settings : Settings} {prepared : Prepared}

/-- A block of a listing with its number. -/
abbrev Entry := ProcessedBlock × Nat

/-- Blocks numbered in order from one on. -/
def numbered (blocks : List ProcessedBlock) : List Entry :=
  blocks.zipIdx 1

namespace Entry

/-- Whether a code can hold the link of a block. -/
def fits (entry : Entry) : Bool :=
  (Link.Qr.size? entry.1.url).isSome

/-- The line of a block. -/
def line (entry : Entry) : String :=
  listingLine entry.2 entry.1

/-- What stands below the line of a block: the drawing of its link when it fits, else nothing. -/
def code (entry : Entry) : String :=
  (Link.Qr.size? entry.1.url).elim "" drawing

/-- The warning about a block whose link does not fit. -/
def warning (time : String) (entry : Entry) : String :=
  time ++ " WARNING app: Block " ++ toString entry.2 ++ " link is too long for a QR code\n"

/-- What a listing prints about a block. -/
def printed (codes : Bool) (entry : Entry) : String :=
  entry.line ++ if codes then entry.code else ""

/-- What a listing shows about a block beside the output. -/
def shown (codes : Bool) (time : String) (entry : Entry) : String :=
  if codes && !entry.fits then entry.warning time else ""

end Entry

/-! ## One listing -/

/-- A session that has printed and shown more, and has done nothing else. -/
def Session.extended (session : Session) (printed shown : String) : Session :=
  { session with output := session.output ++ printed, errors := session.errors ++ shown }

theorem Session.extended_empty (session : Session) : session.extended "" "" = session := by
  simp [extended]

theorem Session.extended_extended
    (session : Session)
    (printed shown printedNext shownNext : String) :
    (session.extended printed shown).extended printedNext shownNext =
      session.extended (printed ++ printedNext) (shown ++ shownNext) := by
  simp [extended, String.append_assoc]

theorem console_shown_longLinkRecord (time : String) (entry : Entry) :
    Log.Sinks.console.shown time (longLinkRecord entry.2) = entry.warning time := by
  have shown : Log.Sinks.console.shown time (longLinkRecord entry.2) =
      (longLinkRecord entry.2).line time ++ "\n" := rfl
  have front : " " ++ Log.Level.warning.name ++ " " ++ Log.Source.app.name ++ ": " ++ "Block " =
      " WARNING app: Block " := rfl
  have behind : " link is too long for a QR code" ++ "\n" =
      " link is too long for a QR code\n" := rfl
  rw [shown, Log.Record.line, Entry.warning, ← front, ← behind]
  simp only [longLinkRecord, String.append_assoc]

/-- One block of a listing whose warnings are shown as lines. -/
theorem list_eq
    (codes : Bool)
    (index : Nat)
    (block : ProcessedBlock)
    (console : session.sinks = .console) :
    list surroundings codes session index block =
      session.extended (Entry.printed codes (block, index))
        (Entry.shown codes surroundings.time (block, index)) := by
  rw [list]
  cases codes with
  | false => simp [Session.extended, Session.print, Entry.printed, Entry.shown, Entry.line]
  | true =>
      cases size : Link.Qr.size? block.url with
      | some found =>
          simp [Session.extended, Session.print, Entry.printed, Entry.shown, Entry.line, Entry.code,
            Entry.fits, size, String.append_assoc]
      | none =>
          have warned := console_shown_longLinkRecord surroundings.time (block, index)
          simp [Session.extended, Session.print, Session.note, Entry.printed, Entry.shown,
            Entry.line, Entry.code, Entry.fits, size, console, warned]
          rfl

/-- A listing prints and shows what there is about its blocks, one after the other. -/
theorem listFrom_eq
    (codes : Bool)
    (index : Nat)
    (blocks : List ProcessedBlock)
    (console : session.sinks = .console) :
    listFrom surroundings codes session index blocks =
      session.extended
        (String.join ((blocks.zipIdx index).map (Entry.printed codes)))
        (String.join ((blocks.zipIdx index).map (Entry.shown codes surroundings.time))) := by
  induction blocks generalizing session index with
  | nil => exact session.extended_empty.symm
  | cons block blocks inductionHypothesis =>
      have consoleStays : (list surroundings codes session index block).sinks = .console := by
        rw [list_eq codes index block console]
        exact console
      rw [listFrom, inductionHypothesis (index + 1) consoleStays,
        list_eq codes index block console, Session.extended_extended]
      simp only [List.zipIdx_cons, List.map_cons, String.join_cons]

/-- The warnings of a listing with codes are those about the links that do not fit. -/
theorem join_shown
    (time : String)
    (entries : List Entry) :
    String.join (entries.map (Entry.shown true time)) =
      String.join ((entries.filter fun entry => !entry.fits).map (Entry.warning time)) := by
  induction entries with
  | nil => rw [List.map_nil, List.filter_nil, List.map_nil]
  | cons entry entries inductionHypothesis =>
      rw [List.map_cons, String.join_cons, inductionHypothesis, Entry.shown, Bool.true_and]
      cases fits : entry.fits with
      | true => simp [fits]
      | false => simp [fits]

theorem join_shown_of_noCodes
    (time : String)
    (entries : List Entry) :
    String.join (entries.map (Entry.shown false time)) = "" := by
  induction entries with
  | nil => rfl
  | cons entry entries inductionHypothesis =>
      rw [List.map_cons, String.join_cons, inductionHypothesis]
      rfl

/-! ## What a listing starts from -/

/-- The settings that are loaded do not switch the log on. -/
def LeavesLogOff
    (surroundings : Surroundings)
    (files : File.Store)
    (config : Option String) : Prop :=
  ∀ settings,
    (Settings.load files surroundings.directory config
        (surroundings.value? Settings.variableName)).result = .ok settings →
      Log.isOn settings.logging "enabled" false = false

/-- Records change neither the output nor where further records go. -/
theorem Session.noteAll_frame
    (session : Session)
    (time : String)
    (records : List Log.Record) :
    (session.noteAll time records).sinks = session.sinks ∧
      (session.noteAll time records).output = session.output := by
  rw [noteAll]
  induction records generalizing session with
  | nil => exact ⟨rfl, rfl⟩
  | cons record records inductionHypothesis => exact inductionHypothesis (session.note time record)

/-- Nor does telling what has come up. -/
theorem Session.tellAll_frame
    (session : Session)
    (remarks : List Remark) :
    (session.tellAll surroundings remarks).sinks = session.sinks ∧
      (session.tellAll surroundings remarks).output = session.output := by
  rw [tellAll]
  induction remarks generalizing session with
  | nil => exact ⟨rfl, rfl⟩
  | cons remark remarks inductionHypothesis =>
      cases remark with
      | report found | doubt found => exact inductionHypothesis (session.tell surroundings _)

/-- Preparations that succeed with the log left off: what they have read, and what is shown next. -/
theorem of_prepare
    (logOff : LeavesLogOff surroundings files config)
    (isDone : prepare surroundings (.start files) config deck = (ready, .ok prepared)) :
    ∃ settings,
      (Settings.load files surroundings.directory config
          (surroundings.value? Settings.variableName)).result = .ok settings ∧
        readDeck files surroundings.directory deck = .ok prepared.deck ∧
        List.Forall₂ (fun block done => (block.process settings.config).result = .ok done)
          prepared.deck.blocks prepared.processed ∧
        ready.sinks = .console ∧
        ready.output = "" := by
  unfold prepare at isDone
  rw [show (Session.start files).files = files from rfl] at isDone
  cases loaded : (Settings.load files surroundings.directory config
      (surroundings.value? Settings.variableName)).result with
  | error cause =>
      simp only [loaded] at isDone
      cases isDone
  | ok settings =>
      refine ⟨settings, rfl, ?_⟩
      simp only [loaded] at isDone
      generalize (Settings.load files surroundings.directory config
        (surroundings.value? Settings.variableName)).warnings.map Config.Warning.record =
          warnings at isDone
      have warned := (HasShown.start files).noteAll rfl surroundings.time warnings
      have frame := (Session.start files).noteAll_frame surroundings.time warnings
      rw [warned.sameFiles, Log.arrange_of_off files _ (logOff settings loaded)] at isDone
      obtain ⟨isRead, produced, rfl⟩ := of_processDeck isDone
      have processed := Block.pass_eq_ok_iff.mp produced
      -- The record of the settings file, if there is one, changes nothing of this either.
      cases named : settings.path with
      | none | some path =>
          rw [named] at isRead
          obtain ⟨sinks, output⟩ := Session.tellAll_frame _ _
          exact ⟨isRead, processed, sinks, output.trans frame.2⟩

/-- A deck in a file has as many blocks as marked elements. -/
theorem length_blocks_of_readDeck
    {page : Deck}
    (isRead : readDeck files surroundings.directory deck = .ok page) :
    page.blocks.length = page.size := by
  unfold readDeck at isRead
  split at isRead
  · contradiction
  · split at isRead
    · contradiction
    · split at isRead
      · contradiction
      · rename_i parsed
        cases isRead
        exact (Deck.sound_of_parse parsed).length_blocks

/-! ## Runs -/

theorem execute_links
    (surroundings : Surroundings)
    (session : Session)
    (deck : String)
    (options : Options) :
    execute surroundings session ⟨.links, deck, options⟩ =
      match prepare surroundings session options.config deck with
      | (session, .error failure) => (session, .error failure)
      | (session, .ok prepared) =>
          (listFrom surroundings options.codes session 1 prepared.processed, .ok ()) :=
  rfl

/-- A listing that succeeds has got as far as a prepared deck. -/
theorem exists_prepare_of_links
    (succeeds :
      (run surroundings files (verbArguments .links config [deck])).2 = .done successCode) :
    ∃ ready prepared,
      prepare surroundings (.start files) config deck = (ready, .ok prepared) ∧
        Invocation.read (verbArguments .links config [deck, "--qr"]) =
          .ok ⟨.links, deck, ⟨config, none, true, []⟩⟩ ∧
        Invocation.read (verbArguments .links config [deck]) =
          .ok ⟨.links, deck, ⟨config, none, false, []⟩⟩ := by
  obtain ⟨invocation, read, isRun⟩ :=
    exists_read_of_run fun code stopped => by
      rw [succeeds] at stopped
      contradiction
  obtain ⟨rfl, readCodes⟩ := read_links read
  rw [isRun, conclude_done_iff, execute_links] at succeeds
  cases isPrepared : prepare surroundings (.start files) config deck with
  | mk ready result =>
      rw [isPrepared] at succeeds
      cases result with
      | error failure => contradiction
      | ok prepared => exact ⟨ready, prepared, rfl, readCodes, read⟩

/-- A listing prints and shows what there is about the blocks of the prepared deck. -/
theorem run_links_eq
    {arguments : List String}
    {codes : Bool}
    (read : Invocation.read arguments = .ok ⟨.links, deck, ⟨config, none, codes, []⟩⟩)
    (isPrepared : prepare surroundings (.start files) config deck = (ready, .ok prepared))
    (console : ready.sinks = .console) :
    run surroundings files arguments =
      (ready.extended
        (String.join ((numbered prepared.processed).map (Entry.printed codes)))
        (String.join ((numbered prepared.processed).map (Entry.shown codes surroundings.time))),
        .done successCode) := by
  rw [run, read]
  dsimp only
  rw [execute_links, isPrepared]
  dsimp only
  rw [listFrom_eq codes 1 prepared.processed console]
  rfl

/-- A rendering that is read and comes to the same prepared deck applies its processed blocks. -/
theorem run_render_eq
    {after : Deck}
    {invocation : Invocation}
    (read : Invocation.read (verbArguments .render config [deck]) = .ok invocation)
    (isPrepared : prepare surroundings (.start files) config deck = (ready, .ok prepared))
    (noOutput : ready.output = "")
    (applied : prepared.deck.apply prepared.processed = .ok after) :
    (run surroundings files (verbArguments .render config [deck])).2 = .done successCode ∧
      (run surroundings files (verbArguments .render config [deck])).1.output = after.render := by
  obtain ⟨rfl, -, -⟩ := read_verb read
  rw [run, read]
  dsimp only
  rw [execute_render, isPrepared]
  dsimp only
  rw [render, applied]
  refine ⟨rfl, ?_⟩
  simp only [deliver, Settings.given?, conclude, Session.print, Session.note, noOutput,
    String.empty_append]

/--
A link that does not fit into a code does not disturb the listing. If a listing succeeds with the
log left off, so does the one with codes. Its output is that of the listing with the drawing of
each link that fits below the line of its block, and beside the output it shows what the listing
shows and then one warning for each link that does not, in order. The lines are numbered from one
on and are about the blocks of the deck as it stands in the file, processed in order; and a
rendering of the same deck, if it can be asked for at all, prints the page with these blocks
applied.
-/
theorem run_links_codes
    (logOff : LeavesLogOff surroundings files config)
    (succeeds :
      (run surroundings files (verbArguments .links config [deck])).2 = .done successCode) :
    let listing := run surroundings files (verbArguments .links config [deck])
    let coded := run surroundings files (verbArguments .links config [deck, "--qr"])
    let rendering := run surroundings files (verbArguments .render config [deck])
    ∃ settings page processed,
      (Settings.load files surroundings.directory config
          (surroundings.value? Settings.variableName)).result = .ok settings ∧
        readDeck files surroundings.directory deck = .ok page ∧
        List.Forall₂ (fun block done => (block.process settings.config).result = .ok done)
          page.blocks processed ∧
        listing.1.output = String.join ((numbered processed).map Entry.line) ∧
        coded.2 = .done successCode ∧
        coded.1.output =
          String.join ((numbered processed).map fun entry => entry.line ++ entry.code) ∧
        coded.1.errors =
          listing.1.errors ++
            String.join (((numbered processed).filter fun entry => !entry.fits).map
              (Entry.warning surroundings.time)) ∧
        ((∃ stop,
            Invocation.read (verbArguments .render config [deck]) = .error stop) ∨
          ∃ after,
            page.apply processed = .ok after ∧
              rendering.2 = .done successCode ∧
              rendering.1.output = after.render) := by
  intro listing coded rendering
  obtain ⟨ready, prepared, isPrepared, readCodes, readPlain⟩ := exists_prepare_of_links succeeds
  obtain ⟨settings, loaded, isRead, processed, console, noOutput⟩ := of_prepare logOff isPrepared
  have isListing : listing = _ := run_links_eq readPlain isPrepared console
  have isCoded : coded = _ := run_links_eq readCodes isPrepared console
  refine ⟨settings, prepared.deck, prepared.processed, loaded, isRead, processed,
    ?_, ?_, ?_, ?_, ?_⟩
  · have onlyLines : Entry.printed false = Entry.line :=
      funext fun entry => String.append_empty
    rw [isListing, onlyLines]
    simp only [Session.extended, noOutput, String.empty_append]
  · rw [isCoded]
  · rw [isCoded]
    simp only [Session.extended, noOutput, String.empty_append]
    rfl
  · rw [isCoded, isListing]
    simp only [Session.extended, join_shown, join_shown_of_noCodes, String.append_empty]
  · cases readRender : Invocation.read (verbArguments .render config [deck]) with
    | error stop => exact .inl ⟨stop, rfl⟩
    | ok invocation =>
        have sameCount : prepared.processed.length = prepared.deck.size :=
          processed.length_eq.symm.trans (length_blocks_of_readDeck isRead)
        exact .inr ⟨_, if_pos sameCount,
          run_render_eq readRender isPrepared noOutput (if_pos sameCount)⟩

/-- The bytes of the address with a payload behind its `#`. -/
def addressBytes (config : Config) (payload : Json) : List UInt8 :=
  Text.Utf8.encode
    (config.baseUrl.toList ++ '#' :: Text.Percent.encode (Text.Utf8.encode payload.write))

/-- Whether the link of a processed block fits is found out on the bytes of its address. -/
theorem Entry.fits_of_process
    {config : Config}
    {block : Block}
    {done : ProcessedBlock}
    (returned : (block.process config).result = .ok done)
    (index : Nat) :
    (Link.payload config (block.parse config).request).result.toOption.map
        (fun payload => (Link.Qr.holding? (addressBytes config payload)).isSome) =
      some (Entry.fits (done, index)) := by
  obtain ⟨payload, made, rfl⟩ := Block.process_eq_ok returned
  rw [made]
  simp [Except.toOption, addressBytes, Entry.fits, Link.Qr.size?, Link.Qr.version?, Link.address,
    Link.encode]

/--
A deck of two blocks without a settings file. Each of the control characters in the first block
takes eight characters of its link, which is too long for a code.
-/
theorem run_links_codes_two :
    let surroundings : Surroundings := ⟨[], [], "now", fun _ => ""⟩
    let long := List.replicate 200 '\x01'
    let content := "<p data-ce>".toList ++ long ++ "</p><p data-ce>b</p>".toList
    let files : File.Store := ⟨[(["deck.html"], .file (Text.Utf8.encode content))]⟩
    let listing := run surroundings files ["links", "deck.html"]
    let coded := run surroundings files ["links", "deck.html", "--qr"]
    let rendering := run surroundings files ["render", "deck.html"]
    LeavesLogOff surroundings files none ∧
      listing.2 = .done successCode ∧
      coded.2 = .done successCode ∧
      ∃ page processed after,
        readDeck files [] "deck.html" = .ok page ∧
          page.blocks.length = processed.length ∧
          (numbered processed).map Entry.fits = [false, true] ∧
          coded.1.output =
            String.join ((numbered processed).map fun entry => entry.line ++ entry.code) ∧
          coded.1.errors =
            listing.1.errors ++ "now WARNING app: Block 1 link is too long for a QR code\n" ∧
          page.apply processed = .ok after ∧
          rendering.1.output = after.render := by
  intro surroundings long content files listing coded rendering
  have isDefault : (Settings.load files [] none none).result = .ok .default := by rfl
  have logOff : LeavesLogOff surroundings files none := by
    intro settings loaded
    cases isDefault.symm.trans loaded
    rfl
  have succeeds : listing.2 = .done successCode :=
    Ending.eq_done_of_code? (by decide +kernel)
  obtain ⟨settings, page, processed, loaded, isRead, inOrder, -, codedSucceeds, codedOutput,
      codedErrors, rendered⟩ :=
    @run_links_codes files surroundings none "deck.html" logOff succeeds
  cases isDefault.symm.trans loaded
  have blocks : page.blocks =
      [⟨String.ofList long, none, none, none, none⟩, ⟨"b", none, none, none, none⟩] := by
    have found : (readDeck files [] "deck.html").toOption.map Deck.blocks =
        some [⟨String.ofList long, none, none, none, none⟩, ⟨"b", none, none, none, none⟩] := by
      decide +kernel
    rw [isRead] at found
    exact Option.some.inj found
  rw [blocks, List.forall₂_cons_left_iff] at inOrder
  obtain ⟨first, others, firstDone, othersDone, rfl⟩ := inOrder
  rw [List.forall₂_cons_left_iff] at othersDone
  obtain ⟨second, _, secondDone, nothingDone, rfl⟩ := othersDone
  rw [List.forall₂_nil_left_iff] at nothingDone
  subst nothingDone
  -- Both are evaluated on the bytes of the addresses; the addresses as texts are too long for it.
  have firstLong : Entry.fits (first, 1) = false :=
    Option.some.inj ((Entry.fits_of_process firstDone 1).symm.trans (by decide +kernel))
  have secondFits : Entry.fits (second, 2) = true :=
    Option.some.inj ((Entry.fits_of_process secondDone 2).symm.trans (by decide +kernel))
  have warned : ((numbered [first, second]).filter fun entry => !entry.fits) = [(first, 1)] := by
    simp [numbered, firstLong, secondFits]
  have warning : Entry.warning "now" (first, 1) =
      "now WARNING app: Block 1 link is too long for a QR code\n" := by
    change "now" ++ " WARNING app: Block " ++ toString 1 ++ _ = _
    decide +kernel
  rw [warned, List.map_singleton, warning, String.join_cons, String.join_nil,
    String.append_empty] at codedErrors
  rcases rendered with ⟨stop, stopped⟩ | ⟨after, applied, -, rendered⟩
  · cases stopped
  · refine ⟨logOff, succeeds, codedSucceeds, page, _, after, isRead, by rw [blocks]; rfl, ?_,
      codedOutput, codedErrors, applied, rendered⟩
    simp [numbered, firstLong, secondFits]

end CodeDeck.Command
