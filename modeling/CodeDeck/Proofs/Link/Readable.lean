import CodeDeck.Proofs.Block.StrayEntries
import CodeDeck.Proofs.Json.Valid
import CodeDeck.Proofs.Link.Meaning

namespace CodeDeck

/-!
# Which links can be read

A fragment is read as the service reads it: percent coding and UTF-8 are
undone, and what is left has to be a JSON text. It is one exactly when all
numbers of the layout are finite, and a layout has other numbers only from its
two scales and its compiler.
-/

namespace Link

/-- The text that a fragment carries. -/
def carriedText? (fragment : String) : Option (List Char) := do
  let bytes ← Text.Percent.decode fragment.toList
  (Text.Utf8.decode bytes).toOption

/-- Whether a fragment carries a JSON text. -/
def IsReadable (fragment : String) : Prop :=
  ∃ text, carriedText? fragment = some text ∧ Json.IsJsonText text

theorem carriedText?_encode (payload : Json) :
    carriedText? (encode payload) = some payload.write := by
  simp [carriedText?, encode, Text.Percent.decode_encode, Text.Utf8.decode_encode,
    Except.toOption]

/-- A fragment is readable exactly when the value that it is made of has finite numbers only. -/
theorem isReadable_encode_iff (payload : Json) :
    IsReadable (encode payload) ↔ payload.isFinite = true := by
  rw [IsReadable, carriedText?_encode]
  simp [Json.isJsonText_write_iff]

end Link

namespace Scale

/-- Whether a scale is finite. -/
def isFinite : Scale → Bool
  | .whole _ => true
  | .real value => value.isFinite

/-- A scale in a link is the number that it was, integral or not. -/
theorem isFinite_toLink (scale : Scale) : scale.toLink.isFinite = scale.isFinite := by
  cases scale with
  | whole value => rfl
  | real value =>
      rw [toLink]
      cases integral : value.toInt? with
      | none => rfl
      | some integer =>
          cases value with
          | finite negative significand exponent => rfl
          | nan | infinite negative => cases integral

end Scale

namespace Link

/-- A layout has the numbers of its scales, its language and its compiler, and small integers. -/
theorem isFinite_layout
    (config : Config)
    (source options : String)
    (language compiler : Json) :
    (layout (editorPane config source language) (compilerPane config options compiler)).isFinite =
      (config.editorFontScale.isFinite && language.isFinite && compiler.isFinite &&
        config.compilerFontScale.isFinite) := by
  simp [layout, editorPane, compilerPane, Json.isFinite, Json.areFinite, Json.areEntriesFinite,
    Scale.isFinite_toLink, Bool.and_assoc]

end Link

namespace Config

/-- An override of a scale by a number that is not finite. -/
def InfiniteScale (entries : Json.Entries) (field : Field) : Prop :=
  ∃ value,
    Json.Entries.get? entries field.key = some (.float value) ∧ value.isFinite = false

/-- An override by language whose entry for a language is given and has numbers not finite. -/
def InfiniteEntry : Json.Entries → Field → String → Prop :=
  FailingEntry Json.isFinite

/-- A scale that is finite by default stays so unless an override gives it another number. -/
theorem isFinite_scale_iff
    {entries : Json.Entries}
    {field : Field}
    {initial scale : Scale}
    (takesScales : ∀ value, Field.Value.ofJson? field value = (Scale.ofJson? value).map .scale)
    (initially : default.get field = .scale initial)
    (finite : initial.isFinite = true)
    (distinct : (entries.map Prod.fst).Nodup)
    (held : (ofEntries entries).1.get field = .scale scale) :
    scale.isFinite = true ↔ ¬ InfiniteScale entries field := by
  have merged := held.symm.trans (get_merge default field distinct)
  rw [initially] at merged
  rw [InfiniteScale]
  cases found : Json.Entries.get? entries field.key with
  | none =>
      rw [found] at merged
      cases merged
      simp [finite]
  | some value =>
      rw [found, Option.bind_some, takesScales] at merged
      cases value with
      | float value =>
          cases merged
          simp [Scale.isFinite]
      | int value =>
          cases merged
          simp [Scale.isFinite]
      | null | bool _ | string _ | array _ | object _ =>
          cases merged
          simp [finite]

end Config

namespace Block

/-- A link is readable exactly when its scales and the compiler of its block are finite. -/
theorem isReadable_fragment_iff
    {block : Block}
    {config : Config}
    {processed : ProcessedBlock}
    (returned : (block.process config).result = .ok processed) :
    Link.IsReadable processed.fragment ↔
      config.editorFontScale.isFinite = true ∧
        config.compilerFontScale.isFinite = true ∧
        (block.parse config).compiler.isFinite = true := by
  obtain ⟨payload, made, rfl⟩ := process_eq_ok returned
  obtain ⟨source, options, -, -, rfl⟩ := Link.payload_eq_ok made
  rw [Link.isReadable_encode_iff, Link.isFinite_layout]
  simp only [ParsedBlock.request, Json.isFinite, Bool.and_true, Bool.and_eq_true, and_assoc]
  exact and_congr_right fun _ => and_comm

/--
Which links can be read. The fragment of a processed block always carries a text, and that is
a JSON text exactly when the overrides give neither scale a number that is not finite, and the
block has its own compiler or the overrides have no compiler for its language that is given
and has such a number.
-/
theorem process_readable_iff
    (entries : Json.Entries)
    (block : Block)
    (processed : ProcessedBlock)
    (distinct : (entries.map Prod.fst).Nodup)
    (returned : (block.process (Config.ofEntries entries).1).result = .ok processed) :
    (Link.carriedText? processed.fragment).isSome = true ∧
      (Link.IsReadable processed.fragment ↔
        ¬ Config.InfiniteScale entries .editorFontScale ∧
          ¬ Config.InfiniteScale entries .compilerFontScale ∧
          (leavesOpen block.compiler = true →
            ¬ Config.InfiniteEntry entries .defaultCompiler processed.parsed.language)) := by
  let config := (Config.ofEntries entries).1
  constructor
  · obtain ⟨payload, -, rfl⟩ := process_eq_ok returned
    rw [Link.carriedText?_encode]
    rfl
  have editor : config.editorFontScale.isFinite = true ↔
      ¬ Config.InfiniteScale entries .editorFontScale :=
    Config.isFinite_scale_iff (fun _ => rfl) rfl rfl distinct rfl
  have compilerScale : config.compilerFontScale.isFinite = true ↔
      ¬ Config.InfiniteScale entries .compilerFontScale :=
    Config.isFinite_scale_iff (fun _ => rfl) rfl rfl distinct rfl
  have shared (given) (member : given ∈ config.defaultCompiler) : given.sharesText = true :=
    Config.sharesTexts_iff.mp (Config.sharesTexts_ofEntries entries) given
      (Config.mem_settings.mpr (.inl member))
  have compiler : (block.parse config).compiler.isFinite = true ↔
      (leavesOpen block.compiler = true →
        ¬ Config.InfiniteEntry entries .defaultCompiler (block.parse config).language) :=
    (passes_ownOr_iff _ _ fun _ => rfl).trans (imp_congr_right fun _ =>
      Config.passes_resolve_iff .defaultCompiler _ (fun _ => rfl) distinct rfl shared rfl)
  rw [isReadable_fragment_iff returned, editor, compilerScale, compiler, process_parsed returned]

/--
A compiler by language that holds no number for one language and one that is infinite for
another, with a scale that is not integral: the first link is readable, the second is not.
-/
theorem process_readable_iff_mixed :
    let entries : Json.Entries := [
      ("editorFontScale", .float (.finite false (5 * 2 ^ 50) (-51))),
      ("defaultCompiler", .object [
        ("c++", .array [.string "clang", .int 17]),
        ("rust", .array [.float (.infinite true)])])]
    let block : Block := ⟨"int a;", none, none, none, none⟩
    let other : Block := { block with language := some "rust" }
    (entries.map Prod.fst).Nodup ∧
      ∃ processed otherProcessed,
        (block.process (Config.ofEntries entries).1).result = .ok processed ∧
          (other.process (Config.ofEntries entries).1).result = .ok otherProcessed ∧
          Link.IsReadable processed.fragment ∧
          ¬ Link.IsReadable otherProcessed.fragment := by
  intro entries block other
  have distinct : (entries.map Prod.fst).Nodup := by decide
  have returned : ∃ processed, (block.process (Config.ofEntries entries).1).result =
      .ok processed := ⟨_, rfl⟩
  have otherReturned : ∃ processed, (other.process (Config.ofEntries entries).1).result =
      .ok processed := ⟨_, rfl⟩
  obtain ⟨processed, returned⟩ := returned
  obtain ⟨otherProcessed, otherReturned⟩ := otherReturned
  refine ⟨distinct, processed, otherProcessed, returned, otherReturned, ?_, fun readable => ?_⟩
  · refine (process_readable_iff entries block processed distinct returned).2.mpr
      ⟨?_, ?_, fun _ => ?_⟩
    · rintro ⟨value, found, infinite⟩
      cases found
      contradiction
    · rintro ⟨value, found, -⟩
      cases found
    · rw [process_parsed returned]
      rintro ⟨mapping, value, found, given, infinite⟩
      cases found
      cases given
      contradiction
  · have allFinite :=
      (process_readable_iff entries other otherProcessed distinct otherReturned).2.mp readable
    rw [process_parsed otherReturned] at allFinite
    exact allFinite.2.2 rfl ⟨_, .array [.float (.infinite true)], rfl, rfl, rfl⟩

/-- Not every link can be read: a scale may be infinite, and is written so. -/
theorem not_forall_isReadable :
    ¬ ∀ (entries : Json.Entries) (block : Block) (processed : ProcessedBlock),
      (entries.map Prod.fst).Nodup →
        (block.process (Config.ofEntries entries).1).result = .ok processed →
        Link.IsReadable processed.fragment := by
  intro always
  let entries : Json.Entries := [("editorFontScale", .float (.infinite false))]
  let block : Block := ⟨"a", none, none, none, none⟩
  have returned : ∃ processed, (block.process (Config.ofEntries entries).1).result =
      .ok processed := ⟨_, rfl⟩
  obtain ⟨processed, returned⟩ := returned
  have finite := (isReadable_fragment_iff returned).mp
    (always entries block processed (by decide) returned)
  exact absurd finite.1 (by decide)

end Block

end CodeDeck
