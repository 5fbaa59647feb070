import SpectroRemote.Logging
import SpectroRemote.Proofs.Decimal.ReadBack
import SpectroRemote.Proofs.Lowercase
import SpectroRemote.Proofs.Settings.Precedence

/-!
# Levels of settings that can be used

A level is named in settings by its word, with each letter small or capital
(`LogLevel.IsSpelledBy`). The rule for settings and the reader of levels tell this in two ways: the
rule takes the text in lower case as Unicode has it, the reader leaves out blanks at the ends and
makes only the letters from A to Z small. The two agree on levels, since no level has a k in its
word (`Text.lowercase_eq_iff`). So logging always has a level and a form under settings that can be
used (`logging_of_validate`).
-/

namespace SpectroRemote

/-! ### Spelling a level -/

namespace LogLevel

/-- A text is the word of a level, with each letter small or capital. -/
def IsSpelledBy (level : LogLevel) (text : String) : Prop :=
  List.Forall₂ (fun c d => c = d ∨ c = d.toUpper) text.toList level.word.toList

lemma isLower_word (level : LogLevel) : ∀ d ∈ level.word.toList, d.isLower = true ∧ d ≠ 'k' := by
  cases level <;> simp [word]

lemma isSpelledBy_iff {level : LogLevel} {text : String} :
    level.IsSpelledBy text ↔ text.toList.map Char.toLower = level.word.toList := by
  rw [IsSpelledBy]
  apply Text.forall₂_eq_or_eq_toUpper_iff
  intro d hd
  exact (level.isLower_word d hd).1

instance (level : LogLevel) (text : String) : Decidable (level.IsSpelledBy text) :=
  decidable_of_iff' _ isSpelledBy_iff

lemma mem_all (level : LogLevel) : level ∈ all := by cases level <;> decide

/-- The rule for settings accepts exactly the spellings of levels. -/
lemma namesLogLevel_iff {text : String} :
    namesLogLevel text = true ↔ ∃ level : LogLevel, level.IsSpelledBy text := by
  rw [namesLogLevel, List.any_eq_true]
  constructor
  · rintro ⟨level, -, h⟩
    have hlower := (Text.lowercase_eq_iff level.isLower_word).mp (of_decide_eq_true h).symm
    exact ⟨level, isSpelledBy_iff.mpr hlower⟩
  · rintro ⟨level, h⟩
    have hlower := (Text.lowercase_eq_iff level.isLower_word).mpr (isSpelledBy_iff.mp h)
    exact ⟨level, level.mem_all, decide_eq_true hlower.symm⟩

/-- The reader of levels leaves a spelling as it is, since it has no blanks. -/
lemma IsSpelledBy.trim {level : LogLevel} {text : String} (h : level.IsSpelledBy text) :
    Text.trim text.toList = text.toList := by
  apply Text.trim_of_solid
  intro c hc
  have hsmall : c.toLower.isLower = true := by
    apply (level.isLower_word _ _).1
    rw [← isSpelledBy_iff.mp h]
    exact List.mem_map_of_mem hc
  rw [Char.isLower_toLower_eq_isAlpha] at hsmall
  have hrange := Text.toNat_of_isAlpha hsmall
  apply Text.isBlank_of_visible
  · omega
  · omega

/-- The reader of levels reads a level from each of its spellings. -/
lemma IsSpelledBy.parse {level : LogLevel} {text : String} (h : level.IsSpelledBy text) :
    LogLevel.parse text = .ok level := by
  have hfind : (all.find? fun l => l.word.toList = level.word.toList) = some level := by
    cases level <;> decide
  rw [LogLevel.parse, h.trim, read?, isSpelledBy_iff.mp h, hfind]

/-- A text spells one level at most. -/
lemma IsSpelledBy.unique {level other : LogLevel} {text : String} (h : level.IsSpelledBy text)
    (hother : other.IsSpelledBy text) : other = level := by
  have hparse := hother.parse
  rw [h.parse] at hparse
  exact (Except.ok.inj hparse).symm

end LogLevel

/-! ### Validation and logging -/

namespace Settings

variable {settings : Settings}

lemma logging_of_isSpelledBy {level : LogLevel}
    (h : level.IsSpelledBy settings.application.logLevel) :
    settings.logging = .ok ⟨level, settings.application.logFormat⟩ := by
  rw [logging, h.parse]
  rfl

/-- The rule of the level is broken only by a text that spells none. -/
lemma brokenRule?_eq_logLevel_iff :
    settings.brokenRule? = some (.logLevel settings.application.logLevel)
      ↔ namesLogLevel settings.application.logLevel = false := by
  rw [brokenRule?]
  cases namesLogLevel settings.application.logLevel with
  | false => simp
  | true =>
    constructor
    · intro hrule
      rw [Bool.not_true, if_neg Bool.false_ne_true] at hrule
      -- all other rules are reported under names of their own
      repeat' split at hrule
      all_goals cases hrule
    · nofun

lemma validate_eq_error_iff {rule : BrokenRule} :
    settings.validate = .error rule ↔ settings.brokenRule? = some rule := by
  rw [validate]
  cases settings.brokenRule? with
  | none => simp
  | some other => simp

/-- Settings are refused for their level if and only if it is no spelling of a level. Settings that
can be used, and so all that are loaded, spell one level, and logging takes it from them together
with the form of the lines. -/
theorem logging_of_validate (settings : Settings) :
    (settings.validate = .error (.logLevel settings.application.logLevel)
        ↔ ∀ level : LogLevel, ¬ level.IsSpelledBy settings.application.logLevel)
      ∧ (settings.validate = .ok () →
          ∃ level : LogLevel,
            (∀ l : LogLevel, l.IsSpelledBy settings.application.logLevel ↔ l = level)
              ∧ LogLevel.parse settings.application.logLevel = .ok level
              ∧ settings.logging = .ok ⟨level, settings.application.logFormat⟩)
      ∧ ∀ file environment, load file environment = .ok settings →
          ∃ level : LogLevel, level.IsSpelledBy settings.application.logLevel
            ∧ settings.logging = .ok ⟨level, settings.application.logFormat⟩ := by
  have hrefused : settings.validate = .error (.logLevel settings.application.logLevel)
      ↔ ∀ level : LogLevel, ¬ level.IsSpelledBy settings.application.logLevel := by
    rw [validate_eq_error_iff, brokenRule?_eq_logLevel_iff, ← Bool.not_eq_true,
      LogLevel.namesLogLevel_iff, not_exists]
  have hspelled (h : settings.validate = .ok ()) :
      ∃ level : LogLevel, level.IsSpelledBy settings.application.logLevel := by
    by_contra hnone
    rw [hrefused.mpr (not_exists.mp hnone)] at h
    cases h
  refine ⟨hrefused, ?_, ?_⟩
  · intro h
    obtain ⟨level, hlevel⟩ := hspelled h
    refine ⟨level, fun l => ⟨hlevel.unique, ?_⟩, hlevel.parse, logging_of_isSpelledBy hlevel⟩
    rintro rfl
    exact hlevel
  · intro file environment h
    obtain ⟨-, -, -, -, -, hvalid⟩ := exists_layers_of_load h
    obtain ⟨level, hlevel⟩ := hspelled hvalid
    exact ⟨level, hlevel, logging_of_isSpelledBy hlevel⟩

/-- A level in mixed letters from the environment and a form of the lines from a file. -/
theorem logging_of_validate_mixed :
    ∃ settings, load (some ⟨"rcs.toml", "[application]\nlog_format = \"json\"\n"⟩)
        [("RUST_RCS_APPLICATION__LOG_LEVEL", "wARn")] = .ok settings
      ∧ settings.validate = .ok ()
      ∧ settings.logging = .ok ⟨.warn, .json⟩ := by
  obtain ⟨settings, hload, hgiven⟩ := exists_ok_of_any
    (x := load (some ⟨"rcs.toml", "[application]\nlog_format = \"json\"\n"⟩)
      [("RUST_RCS_APPLICATION__LOG_LEVEL", "wARn")])
    (p := fun s => s.application.logLevel = "wARn" ∧ s.application.logFormat = .json)
    (by decide +kernel)
  obtain ⟨hlevel, hformat⟩ := of_decide_eq_true hgiven
  obtain ⟨-, -, -, -, -, hvalid⟩ := exists_layers_of_load hload
  obtain ⟨-, hvalidated, hloaded⟩ := logging_of_validate settings
  obtain ⟨level, hspelled, hlogging⟩ := hloaded _ _ hload
  obtain ⟨only, honly, -, -⟩ := hvalidated hvalid
  have hwarn : LogLevel.warn.IsSpelledBy settings.application.logLevel := by
    rw [hlevel]
    decide +kernel
  obtain rfl : level = .warn := ((honly level).mp hspelled).trans ((honly .warn).mp hwarn).symm
  rw [hformat] at hlogging
  exact ⟨settings, hload, hvalid, hlogging⟩

end Settings

end SpectroRemote
