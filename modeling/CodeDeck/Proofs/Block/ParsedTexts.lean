import CodeDeck.Block.Parsed
import CodeDeck.Proofs.Config.Texts

namespace CodeDeck.Block

/-!
# The settings of a parsed block are texts

When a configuration holds nothing but texts, so does every block that is
parsed with it, and its removal pattern is a text that is not empty, or none.
-/

theorem isText_ownOr
    {other : Json}
    (own : Option String)
    (textOther : other.isText = true) :
    (ownOr own other).isText = true := by
  cases own with
  | none => exact textOther
  | some value =>
      rw [ownOr]
      split
      · exact textOther
      · rfl

variable {config : Config}

/-- The default of a setting is a text for every language. -/
theorem isText_default
    {setting : Option Setting}
    {default : Json}
    (language : String)
    (sharesTexts : config.sharesTexts = true)
    (textEntries : config.hasTextEntries = true)
    (listed : ∀ given ∈ setting, given ∈ config.settings)
    (textDefault : default.isText = true) :
    (Setting.resolve setting language default).isText = true :=
  Setting.isText_resolve language
    (fun given member => List.all_eq_true.mp sharesTexts given (listed given member))
    (fun given member => List.all_eq_true.mp textEntries given (listed given member))
    textDefault

theorem isText_compiler
    (block : Block)
    (sharesTexts : config.sharesTexts = true)
    (textEntries : config.hasTextEntries = true) :
    (block.parse config).compiler.isText = true :=
  isText_ownOr block.compiler
    (isText_default _ sharesTexts textEntries
      (fun _ member => Config.mem_settings.mpr (.inl member)) rfl)

theorem isText_options
    (block : Block)
    (sharesTexts : config.sharesTexts = true)
    (textEntries : config.hasTextEntries = true) :
    (block.parse config).options.isText = true :=
  isText_ownOr block.options
    (isText_default _ sharesTexts textEntries
      (fun _ member => Config.mem_settings.mpr (.inr (.inl member))) rfl)

/-- The options that are added to those of a block are a text for every language. -/
theorem isText_additionalOptions
    (language : String)
    (sharesTexts : config.sharesTexts = true)
    (textEntries : config.hasTextEntries = true) :
    (Setting.resolve config.additionalOptions language (.string "")).isText = true :=
  isText_default language sharesTexts textEntries
    (fun _ member => Config.mem_settings.mpr (.inr (.inr (.inl member)))) rfl

end CodeDeck.Block
