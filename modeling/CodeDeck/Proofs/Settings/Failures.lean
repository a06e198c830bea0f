import CodeDeck.Proofs.Json.Mappings
import CodeDeck.Proofs.Text.Decoded
import CodeDeck.SettingsFile

namespace CodeDeck.Settings

/-!
# How loading settings can fail

A settings file that cannot be used is reported with its path. Five things end
the loading in another way: a path that is too long for the system, bytes that
are no text, a text for which the stack of the machine is too small, a numeral
that is too long to be read and a logging section that is no mapping. On a
machine with room for few nested calls only, too, these five are all that does:
`load_outcome`.
-/

variable {stack : Stack '['} {files : File.Store} {directory : File.Location} {path : File.Path}
variable {content : List UInt8} {entries : Json.Entries} {failure : Failure}

/-- Settings, or a failure that the user is told about with the path of the file. -/
def Foreseen (path : File.Path) (result : Except Failure Settings) : Prop :=
  (∃ settings, result = .ok settings) ∨
    ∃ problem, result = .error (.unusable path problem) ∧
      path.text.toList <:+: (Failure.unusable path problem).message.toList

/-- There are no overrides, or they are null or an object. -/
def OverridesUsable (entries : Json.Entries) : Prop :=
  ∀ value ∈ entries.get? "ce", value.kind = .null ∨ value.kind = .object

/-- What a file says about the log; a value that does not count as given says nothing. -/
def loggingValue (entries : Json.Entries) : Json :=
  ((entries.get? "logging").getD .null).orElse (.object [])

/-- The contents of files for which a machine with a stack foresees no message. -/
inductive UnforeseenContent (stack : Stack '[') (content : List UInt8) : Prop where
  | notText (noText : ∀ chars, content ≠ Text.Utf8.encode chars)
  | nested
      {text : List Char}
      (isText : File.textOf content = .ok text)
      (overflows : stack.overflows text = true)
  | longNumeral
      {text : List Char}
      {digits : Nat}
      (isText : File.textOf content = .ok text)
      (refused : Json.read text = .error (.longNumeral digits))
  | logging
      {text : List Char}
      {entries : Json.Entries}
      (isText : File.textOf content = .ok text)
      (isObject : Json.read text = .ok (.object entries))
      (usable : OverridesUsable entries)
      (noMapping : ¬ (loggingValue entries).IsMapping)

/-- What ends the loading of a settings file in a failure that is not foreseen. -/
def Unforeseen
    (stack : Stack '[')
    (files : File.Store)
    (directory : File.Location)
    (path : File.Path) : Prop :=
  match files.lookUp directory path.text with
  | .error fault => fault = .nameTooLong
  | .ok .directory => False
  | .ok (.file content) => UnforeseenContent stack content

/-- Nothing is at the path, which the system can be asked about. -/
def IsAbsent (files : File.Store) (directory : File.Location) (path : File.Path) : Prop :=
  ∃ fault, files.lookUp directory path.text = .error fault ∧ fault ≠ .nameTooLong

/-- The message about a problem names the file. -/
theorem Problem.path_infix_message (problem : Problem) (path : File.Path) :
    path.text.toList <:+: (problem.message path).toList := by
  unfold message
  cases problem with
  | notFound =>
      simp only [String.toList_append]
      exact (List.suffix_append _ _).isInfix
  | unreadable | malformed | noObject | overridesNoObject =>
      simp only [String.toList_append, List.append_assoc]
      exact (List.prefix_append _ _).isInfix

theorem foreseen_ok (path : File.Path) (settings : Settings) : Foreseen path (.ok settings) :=
  .inl ⟨settings, rfl⟩

theorem foreseen_unusable (path : File.Path) (problem : Problem) :
    Foreseen path (.error (.unusable path problem)) :=
  .inr ⟨problem, rfl, problem.path_infix_message path⟩

theorem not_foreseen_error
    (other : ∀ problem, failure ≠ .unusable path problem) :
    ¬ Foreseen path (.error failure) := by
  rintro (⟨settings, isOk⟩ | ⟨problem, same, -⟩)
  · contradiction
  · exact other problem (Except.error.inj same)

theorem overridesIn_cases (path : File.Path) (entries : Json.Entries) :
    (OverridesUsable entries ∧ ∃ overrides, overridesIn path entries = .ok overrides) ∨
      (¬ OverridesUsable entries ∧
        overridesIn path entries = .error (.unusable path .overridesNoObject)) := by
  rw [OverridesUsable, overridesIn]
  cases entries.get? "ce" with
  | none => simp
  | some value => cases value <;> simp [Json.kind]

theorem loggingIn_cases (entries : Json.Entries) :
    ((loggingValue entries).IsMapping ∧ ∃ logging, loggingIn entries = .ok logging) ∨
      (¬ (loggingValue entries).IsMapping ∧
        ∃ cause, loggingIn entries = .error (.logging cause)) := by
  rw [← Json.exists_toEntries_iff, loggingIn, ← loggingValue]
  cases (loggingValue entries).toEntries with
  | ok logging => simp
  | error cause => simp

theorem ofEntries_foreseen_iff (path : File.Path) (entries : Json.Entries) :
    Foreseen path (ofEntries path entries).result ↔
      (OverridesUsable entries → (loggingValue entries).IsMapping) := by
  rcases overridesIn_cases path entries with
    ⟨usable, overrides, overridesRead⟩ | ⟨unusable, refused⟩
  · rw [ofEntries, overridesRead]
    rcases loggingIn_cases entries with
      ⟨mapping, logging, loggingRead⟩ | ⟨noMapping, cause, refused⟩
    · rw [loggingRead]
      exact iff_of_true (foreseen_ok ..) fun _ => mapping
    · rw [refused]
      refine iff_of_false (not_foreseen_error ?_) fun mapping => noMapping (mapping usable)
      simp
  · rw [ofEntries, refused]
    exact iff_of_true (foreseen_unusable ..) fun usable => absurd usable unusable

/-- Bytes are refused as a text when they are the bytes of no text. -/
theorem textOf_refuses_iff :
    (∃ error, File.textOf content = .error error) ↔
      ∀ chars, content ≠ Text.Utf8.encode chars := by
  rw [File.textOf]
  cases read : Text.Utf8.decode content with
  | error error =>
      refine iff_of_true ⟨error, rfl⟩ ?_
      rintro chars rfl
      rw [Text.Utf8.decode_encode] at read
      contradiction
  | ok chars =>
      refine iff_of_false ?_ fun noText => noText chars (Text.Utf8.decode_eq_ok_iff.mp read)
      rintro ⟨error, refused⟩
      contradiction

theorem unforeseenContent_iff
    {text : List Char}
    (isText : File.textOf content = .ok text) :
    UnforeseenContent stack content ↔
      stack.overflows text = true ∨
        (∃ digits, Json.read text = .error (.longNumeral digits)) ∨
          ∃ entries, Json.read text = .ok (.object entries) ∧ OverridesUsable entries ∧
            ¬ (loggingValue entries).IsMapping := by
  constructor
  · rintro (noText | ⟨sameText, overflows⟩ | ⟨sameText, refused⟩ |
      ⟨sameText, isObject, usable, noMapping⟩)
    · obtain ⟨error, refused⟩ := textOf_refuses_iff.mpr noText
      rw [isText] at refused
      contradiction
    · cases isText.symm.trans sameText
      exact .inl overflows
    · cases isText.symm.trans sameText
      exact .inr (.inl ⟨_, refused⟩)
    · cases isText.symm.trans sameText
      exact .inr (.inr ⟨_, isObject, usable, noMapping⟩)
  · rintro (overflows | ⟨digits, refused⟩ | ⟨entries, isObject, usable, noMapping⟩)
    · exact .nested isText overflows
    · exact .longNumeral isText refused
    · exact .logging isText isObject usable noMapping

/-- When the stack is large enough for the text of a file, the other faults are all there are. -/
theorem ofFile_foreseen_iff
    (path : File.Path)
    (fits : ∀ text, File.textOf content = .ok text → stack.overflows text = false) :
    Foreseen path (ofFile path (.file content)).result ↔ ¬ UnforeseenContent stack content := by
  cases isText : File.textOf content with
  | error error =>
      simp only [ofFile, entriesOf, isText]
      have noText := textOf_refuses_iff.mp ⟨error, isText⟩
      exact iff_of_false (not_foreseen_error (by simp)) (not_not_intro (.notText noText))
  | ok text =>
      simp only [ofFile, entriesOf, isText, unforeseenContent_iff isText, fits text isText,
        Bool.false_eq_true, false_or]
      cases Json.read text with
      | error refusal =>
          cases refusal with
          | malformed fault rest => exact iff_of_true (foreseen_unusable ..) (by simp)
          | longNumeral digits => exact iff_of_false (not_foreseen_error (by simp)) (by simp)
      | ok value =>
          cases value with
          | object entries => simp [ofEntries_foreseen_iff]
          | null | bool | int | float | string | array =>
              exact iff_of_true (foreseen_unusable ..) (by simp)

/-! ## Loading -/

theorem textAt?_eq_some_iff
    {text : List Char} :
    textAt? files directory path = some text ↔
      ∃ content, files.lookUp directory path.text = .ok (.file content) ∧
        File.textOf content = .ok text := by
  rw [textAt?]
  cases files.lookUp directory path.text with
  | error fault => simp
  | ok entry =>
      cases entry with
      | directory => simp
      | file content =>
          dsimp only
          cases isText : File.textOf content with
          | error error => simp [Except.toOption, isText]
          | ok read => simp [Except.toOption, isText]

/-- Whether a stack is large enough for the text at a path, if there is one. -/
def Fits
    (stack : Stack '[')
    (files : File.Store)
    (directory : File.Location)
    (path : File.Path) : Prop :=
  ∀ text, textAt? files directory path = some text → stack.overflows text = false

/-- With a large enough stack, loading comes to what it comes to without limits. -/
theorem loadWithin_of_fits
    {explicit environment : Option String}
    (fits : Fits stack files directory (choosePath directory explicit environment)) :
    loadWithin stack files directory explicit environment =
      some (load files directory explicit environment) := by
  rw [loadWithin]
  cases isText : textAt? files directory (choosePath directory explicit environment) with
  | none => rfl
  | some text =>
      refine if_neg ?_
      simp [fits text isText]

/-- With a stack that is too small, nothing comes of loading, and that is not foreseen. -/
theorem loadWithin_of_not_fits
    {explicit environment : Option String}
    (tooSmall : ¬ Fits stack files directory (choosePath directory explicit environment)) :
    loadWithin stack files directory explicit environment = none ∧
      Unforeseen stack files directory (choosePath directory explicit environment) := by
  simp only [Fits, Classical.not_forall, Bool.not_eq_false] at tooSmall
  obtain ⟨text, isText, overflows⟩ := tooSmall
  refine ⟨?_, ?_⟩
  · rw [loadWithin, isText]
    exact if_pos overflows
  · obtain ⟨content, isFile, isText⟩ := textAt?_eq_some_iff.mp isText
    rw [Unforeseen, isFile]
    exact .nested isText overflows

theorem load_foreseen_iff
    {explicit environment : Option String}
    (fits : Fits stack files directory (choosePath directory explicit environment)) :
    Foreseen (choosePath directory explicit environment)
        (load files directory explicit environment).result ↔
      ¬ Unforeseen stack files directory (choosePath directory explicit environment) := by
  let path := choosePath directory explicit environment
  rw [load, Unforeseen]
  cases looked : files.lookUp directory path.text with
  | error fault =>
      cases fault with
      | nameTooLong => exact iff_of_false (not_foreseen_error (by simp)) (by simp)
      | _ =>
          refine iff_of_true ?_ (by simp)
          cases given? explicit with
          | none => exact foreseen_ok ..
          | some text => exact foreseen_unusable ..
  | ok entry =>
      cases entry with
      | directory => exact iff_of_true (foreseen_unusable ..) not_false
      | file content =>
          exact ofFile_foreseen_iff path fun text isText =>
            fits text (textAt?_eq_some_iff.mpr ⟨content, looked, isText⟩)

theorem path_of_ofEntries
    {settings : Settings}
    (made : (ofEntries path entries).result = .ok settings) :
    settings.path = some path := by
  rcases overridesIn_cases path entries with ⟨-, overrides, overridesRead⟩ | ⟨-, refused⟩
  · rw [ofEntries, overridesRead] at made
    cases logged : loggingIn entries with
    | error cause =>
        rw [logged] at made
        contradiction
    | ok logging =>
        rw [logged] at made
        cases made
        rfl
  · rw [ofEntries, refused] at made
    contradiction

theorem path_of_ofFile
    {entry : File.Entry}
    {settings : Settings}
    (made : (ofFile path entry).result = .ok settings) :
    settings.path = some path := by
  cases entry with
  | directory => contradiction
  | file content =>
      rw [ofFile] at made
      cases read : entriesOf path content with
      | error failure =>
          rw [read] at made
          contradiction
      | ok entries =>
          rw [read] at made
          exact path_of_ofEntries made

theorem load_of_absent
    {explicit environment : Option String}
    (unasked : given? explicit = none)
    (absent : IsAbsent files directory (choosePath directory explicit environment)) :
    load files directory explicit environment = ⟨[], .ok default⟩ := by
  obtain ⟨fault, refused, notTooLong⟩ := absent
  rw [load, refused]
  cases fault with
  | nameTooLong => contradiction
  | _ => simp only [unasked]

theorem path_of_load
    {explicit environment : Option String}
    {settings : Settings}
    (loaded : (load files directory explicit environment).result = .ok settings)
    (expected : ¬ (given? explicit = none ∧
      IsAbsent files directory (choosePath directory explicit environment))) :
    settings.path = some (choosePath directory explicit environment) := by
  rw [load] at loaded
  cases looked : files.lookUp directory (choosePath directory explicit environment).text with
  | ok entry =>
      rw [looked] at loaded
      exact path_of_ofFile loaded
  | error fault =>
      rw [looked] at loaded
      by_cases tooLong : fault = .nameTooLong
      · rw [tooLong] at loaded
        contradiction
      · cases asked : given? explicit with
        | none => exact absurd ⟨asked, fault, looked, tooLong⟩ expected
        | some text =>
            rw [asked] at loaded
            cases fault <;> contradiction

/-- Settings name no file exactly when there is none and nobody asked for one. -/
theorem path_eq_none_iff
    {explicit environment : Option String}
    {settings : Settings}
    (loaded : (load files directory explicit environment).result = .ok settings) :
    settings.path = none ↔ given? explicit = none ∧
      IsAbsent files directory (choosePath directory explicit environment) := by
  constructor
  · intro noPath
    refine Classical.byContradiction fun expected => ?_
    rw [path_of_load loaded expected] at noPath
    contradiction
  · rintro ⟨unasked, absent⟩
    rw [load_of_absent unasked absent] at loaded
    cases loaded
    rfl

theorem fits_of_absent (absent : IsAbsent files directory path) :
    Fits stack files directory path := by
  intro text isText
  obtain ⟨fault, refused, -⟩ := absent
  obtain ⟨content, isFile, -⟩ := textAt?_eq_some_iff.mp isText
  rw [isFile] at refused
  contradiction

/--
What loading settings comes to on a machine with limits. The result is settings, or a failure that
is reported with the path of the file, exactly when none of the five faults is there that nothing
is foreseen for. The settings are the defaults, and name no file, exactly when there is no file at
the path and nobody asked for it.
-/
theorem load_outcome
    (stack : Stack '[')
    (files : File.Store)
    (directory : File.Location)
    (explicit environment : Option String) :
    let path := choosePath directory explicit environment
    let loaded := loadWithin stack files directory explicit environment
    ((∃ settled ∈ loaded, Foreseen path settled.result) ↔
        ¬ Unforeseen stack files directory path) ∧
      (given? explicit = none → IsAbsent files directory path → loaded = some ⟨[], .ok default⟩) ∧
      (∀ settled ∈ loaded, ∀ settings, settled.result = .ok settings →
        (settings.path = none ↔ given? explicit = none ∧ IsAbsent files directory path)) := by
  intro path loaded
  by_cases fits : Fits stack files directory path
  · rw [show loaded = some (load files directory explicit environment) from
      loadWithin_of_fits fits]
    refine ⟨by simpa using load_foreseen_iff fits, fun unasked absent => ?_, ?_⟩
    · rw [load_of_absent unasked absent]
    · rintro _ ⟨⟩ settings isLoaded
      exact path_eq_none_iff isLoaded
  · obtain ⟨nothing, unforeseen⟩ := loadWithin_of_not_fits fits
    rw [show loaded = none from nothing]
    refine ⟨by simpa using unforeseen, fun _ absent => ?_, by simp⟩
    exact absurd (fits_of_absent absent) fits

/-- Not every settings file that cannot be used is reported: its bytes may be no text. -/
theorem not_forall_foreseen :
    ¬ ∀ files directory explicit environment,
      Foreseen (choosePath directory explicit environment)
        (load files directory explicit environment).result := by
  intro always
  let files : File.Store := ⟨[(["d.json"], .file [0xFF])]⟩
  have looked : files.lookUp [] (choosePath [] (some "d.json") none).text =
      .ok (.file [0xFF]) := by
    rfl
  have refused : File.textOf [0xFF] = .error ⟨0xFF, 0, 1, .invalidStart⟩ := by
    rw [File.textOf, Text.Utf8.decode, Text.Utf8.decodeFrom]
    rfl
  have loaded : (load files [] (some "d.json") none).result =
      .error (.notText ⟨0xFF, 0, 1, .invalidStart⟩) := by
    rw [load, looked]
    simp only [ofFile, entriesOf, refused]
  have foreseen := always files [] (some "d.json") none
  rw [loaded] at foreseen
  exact not_foreseen_error (by simp) foreseen

end CodeDeck.Settings
