import CodeDeck.Proofs.File.Written
import CodeDeck.Proofs.Json.Stored
import CodeDeck.SettingsFile

namespace CodeDeck.Settings

/-!
# Settings that have been written

Overrides and a logging section that are written to the settings file are the
ones that are loaded: the configuration and the warnings are those of the
overrides, and the logging section keeps the order of its keys. This is
`load_written`.
-/

variable {files : File.Store} {directory : File.Location} {explicit environment : Option String}
variable {overrides logging : Json.Entries} {old : List UInt8}

/-- The document of a settings file with overrides and a logging section. -/
def document (overrides logging : Json.Entries) : Json :=
  .object [("ce", .object overrides), ("logging", .object logging)]

theorem isPlain_document
    (overridesPlain : (Json.object overrides).isPlain = true)
    (loggingPlain : (Json.object logging).isPlain = true) :
    (document overrides logging).isPlain = true := by
  refine Json.isPlain_object.mpr ⟨by simp, ?_⟩
  exact Json.areEntriesPlain_cons.mpr
    ⟨overridesPlain, Json.areEntriesPlain_cons.mpr ⟨loggingPlain, rfl⟩⟩

/-- A section that is an object says what it holds, also when it holds nothing. -/
theorem loggingIn_of_object
    {entries : Json.Entries}
    (stored : entries.get? "logging" = some (.object logging)) :
    loggingIn entries = .ok logging := by
  rw [loggingIn, stored]
  cases logging with
  | nil => rfl
  | cons entry others => rfl

/-- What is read of a file with overrides and a logging section. -/
theorem entriesOf_document
    (path : File.Path)
    (overridesPlain : (Json.object overrides).isPlain = true)
    (loggingPlain : (Json.object logging).isPlain = true) :
    entriesOf path (Text.Utf8.encode (document overrides logging).write) =
      .ok [("ce", .object overrides), ("logging", .object logging)] := by
  have plain := isPlain_document overridesPlain loggingPlain
  rw [entriesOf, Json.textOf_encode_write plain]
  simp only [Json.read_write plain]
  rfl

/-- The settings of a file with overrides and a logging section. -/
theorem ofFile_document
    (path : File.Path)
    (overridesPlain : (Json.object overrides).isPlain = true)
    (loggingPlain : (Json.object logging).isPlain = true) :
    ofFile path (.file (Text.Utf8.encode (document overrides logging).write)) =
      ⟨(Config.ofEntries overrides).2,
        .ok { config := (Config.ofEntries overrides).1, logging, path := some path }⟩ := by
  have logged : loggingIn [("ce", .object overrides), ("logging", .object logging)] =
      .ok logging :=
    loggingIn_of_object rfl
  rw [ofFile, entriesOf_document path overridesPlain loggingPlain]
  simp only [ofEntries, overridesIn, logged]
  rfl

/--
Overrides and a logging section that are written to the settings file, however it is chosen, are
loaded from it as they are.
-/
theorem load_written
    (overridesPlain : (Json.object overrides).isPlain = true)
    (loggingPlain : (Json.object logging).isPlain = true)
    (isFile :
      files.lookUp directory (choosePath directory explicit environment).text =
        .ok (.file old)) :
    let path := choosePath directory explicit environment
    ∃ after,
      files.write directory path.text (Text.Utf8.encode (document overrides logging).write) =
          .ok after ∧
        load after directory explicit environment =
          ⟨(Config.ofEntries overrides).2,
            .ok { config := (Config.ofEntries overrides).1, logging, path := some path }⟩ := by
  intro path
  obtain ⟨after, written⟩ := File.Store.exists_write_of_lookUp isFile
    (Text.Utf8.encode (document overrides logging).write)
  refine ⟨after, written, ?_⟩
  rw [load, File.Store.lookUp_write written]
  exact ofFile_document path overridesPlain loggingPlain

/-- A file with an override that is taken and one that is ignored, and a section for the log. -/
theorem load_written_ignored :
    let files : File.Store := ⟨[(["d.json"], .file [0xFF])]⟩
    let overrides : Json.Entries := [("undent", .bool false), ("size", .array [.int 5, .null])]
    let logging : Json.Entries := [("level", .string "\r\n"), ("enabled", .bool true)]
    let path := choosePath [] (some "./d.json") none
    ∃ after,
      files.write [] path.text (Text.Utf8.encode (document overrides logging).write) =
          .ok after ∧
        load after [] (some "./d.json") none =
          ⟨(Config.ofEntries overrides).2,
            .ok { config := { Config.default with undent := false }, logging,
                  path := some ⟨.working, ["d.json"]⟩ }⟩ ∧
        (Config.ofEntries overrides).2.length = 1 := by
  intro files overrides logging path
  obtain ⟨after, written, loaded⟩ :=
    @load_written files [] (some "./d.json") none overrides logging [0xFF] (by decide) (by decide)
      (by rfl)
  exact ⟨after, written, loaded, rfl⟩

end CodeDeck.Settings
