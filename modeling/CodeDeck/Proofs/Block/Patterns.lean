import CodeDeck.Proofs.Block.StrayEntries
import CodeDeck.Proofs.Link.Meaning
import CodeDeck.Proofs.Pattern.Parsing

namespace CodeDeck

/-!
# What removal patterns do to a block

A pattern that is refused is reported and takes nothing out. A pattern that
asks for too much has no program and is not reported, so its block is not
processed. With settings that are texts and no limits of a machine in the way,
every other block is: `exists_process_iff`.
-/

namespace Redaction

/-- A pattern that has no program, for another reason than that it is refused. -/
def Unusable (pattern : String) (cause : Pattern.Failure) : Prop :=
  Pattern.Program.compile pattern.toList = .error cause ∧ ∀ refusal, cause ≠ .refused refusal

/-- An unusable pattern asks for too much. -/
theorem Unusable.excess
    {pattern : String}
    {cause : Pattern.Failure}
    (unusable : Unusable pattern cause) :
    Pattern.Excess pattern.toList cause :=
  (Pattern.Program.explained_of_compile unusable.1).resolve_left
    fun ⟨refusal, refused⟩ => unusable.2 refusal refused

/-- A text as pattern is used, refused and reported, or unusable. -/
theorem redact_cases (source pattern : String) :
    (∃ program text,
      Pattern.Program.compile pattern.toList = .ok program ∧
        redact source (.string pattern) = ⟨[], .ok text⟩) ∨
      (∃ refusal,
        Pattern.Program.compile pattern.toList = .error (.refused refusal) ∧
          redact source (.string pattern) = ⟨[.badPattern pattern refusal], .ok source⟩) ∨
      (∃ cause,
        Unusable pattern cause ∧
          redact source (.string pattern) = ⟨[], .error (.unusable pattern cause)⟩) := by
  by_cases empty : pattern = ""
  · subst empty
    exact .inl ⟨.empty, source, by decide +kernel, rfl⟩
  have given : redact source (.string pattern) = withPattern source pattern := by
    simp [redact, Json.isGiven, empty]
  rw [given, withPattern]
  cases compiled : Pattern.Program.compile pattern.toList with
  | ok program => exact .inl ⟨program, _, rfl, rfl⟩
  | error cause =>
      by_cases refused : ∃ refusal, cause = .refused refusal
      · obtain ⟨refusal, rfl⟩ := refused
        exact .inr (.inl ⟨refusal, rfl, rfl⟩)
      · have notRefused : ∀ refusal, cause ≠ .refused refusal := not_exists.mp refused
        refine .inr (.inr ⟨cause, ⟨compiled, notRefused⟩, ?_⟩)
        cases cause with
        | refused refusal => exact absurd rfl (notRefused refusal)
        | hugeRepeat | hugeCodePoint | longNumeral _ | asciiAndUnicode => rfl

/-- A redaction returns unless its pattern is unusable. -/
theorem exists_redact_iff
    {source : String}
    {pattern : Json}
    (isPattern : pattern.isPattern = true) :
    (∃ text, (redact source pattern).result = .ok text) ↔
      ∀ text cause, pattern = .string text → ¬ Unusable text cause := by
  cases pattern with
  | null => exact iff_of_true ⟨source, rfl⟩ fun _ _ isText => by cases isText
  | string pattern =>
      rcases redact_cases source pattern with
        ⟨program, text, compiled, redacted⟩ | ⟨refusal, compiled, redacted⟩ |
          ⟨cause, unusable, redacted⟩
      · refine iff_of_true ⟨text, by rw [redacted]⟩ ?_
        rintro _ cause ⟨⟩ unusable
        rw [unusable.1] at compiled
        cases compiled
      · refine iff_of_true ⟨source, by rw [redacted]⟩ ?_
        rintro _ cause ⟨⟩ unusable
        rw [unusable.1] at compiled
        cases compiled
        exact unusable.2 refusal rfl
      · refine iff_of_false ?_ fun usable => usable pattern cause rfl unusable
        rintro ⟨text, returned⟩
        rw [redacted] at returned
        cases returned
  | bool _ | int _ | float _ | array _ | object _ => cases isPattern

end Redaction

namespace Block

variable {config : Config}

/-- With settings that are texts, the removal pattern of a block is one, or there is none. -/
theorem isPattern_removePattern
    (block : Block)
    (sharesTexts : config.sharesTexts = true)
    (textEntries : config.hasTextEntries = true) :
    (block.parse config).removePattern.isPattern = true := by
  have isText := isText_ownOr block.removePattern
    (isText_default (block.languageIn config) sharesTexts textEntries
      (fun _ member => Config.mem_settings.mpr (.inr (.inr (.inr member))))
      (show (Json.string "").isText = true from rfl))
  refine (Json.isPattern_orElse_null_iff ?_).mpr isText
  rw [isText]
  simp

/-- With settings that are texts, only the pattern of a block can keep it from being processed. -/
theorem exists_process_iff
    (block : Block)
    (sharesTexts : config.sharesTexts = true)
    (textEntries : config.hasTextEntries = true) :
    (∃ processed, (block.process config).result = .ok processed) ↔
      ∀ pattern cause,
        (block.parse config).removePattern = .string pattern →
          ¬ Redaction.Unusable pattern cause := by
  rw [← Redaction.exists_redact_iff (isPattern_removePattern block sharesTexts textEntries)]
  constructor
  · rintro ⟨processed, returned⟩
    obtain ⟨payload, made, -⟩ := process_eq_ok returned
    obtain ⟨source, -, redacted, -⟩ := Link.payload_eq_ok made
    exact ⟨source, redacted⟩
  · rintro ⟨source, redacted⟩
    obtain ⟨own, ownText⟩ := Json.isText_iff.mp (isText_options block sharesTexts textEntries)
    obtain ⟨additional, additionalText⟩ := Json.isText_iff.mp
      (isText_additionalOptions (block.parse config).language sharesTexts textEntries)
    have joined := optionsFor_texts ownText additionalText
    have redactedRequest : (Redaction.redact (block.parse config).request.source
        (block.parse config).request.removePattern).result = .ok source := redacted
    have made : ∃ payload,
        (Link.payload config (block.parse config).request).result = .ok payload := by
      simp only [Link.payload]
      rw [redactedRequest, joined]
      exact ⟨_, rfl⟩
    obtain ⟨payload, made⟩ := made
    simp only [process, ParsedBlock.link, Link.fragment]
    rw [made]
    exact ⟨_, rfl⟩

/-- A count of repetitions that is too large by one. -/
theorem unusable_count : Redaction.Unusable "a\x7b4294967295\x7d" .hugeRepeat :=
  ⟨by decide +kernel, fun _ same => by cases same⟩

end Block

end CodeDeck
