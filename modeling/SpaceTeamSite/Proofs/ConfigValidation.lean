import SpaceTeamSite.Config.Load

/-!
# What loading the configuration accepts

Loading reads the file at the configured path, when there is one, as a configuration
and then validates it; a missing file gives the defaults (`load_eq_ok_iff`). Validation
checks the display offset first and the feed URLs after (`validate_eq_ok_iff`,
`validate_eq_error_iff`): the offset must be less than a day either way, the range a
fixed offset can hold, and neither URL may be empty; a refused offset is named in the
error. The bound is a day and nothing tighter, so a file that sets an offset of 20 hours
reads as a configuration that passes (`twenty_hour_offset_passes`).

Every configuration that loads therefore shows launch times in the offset it configures,
never in the UTC fallback of `FeedsConfig.displayOffset` (`displayOffset_of_load`).
-/

namespace SpaceTeamSite

open Calendar

/-! ## Validation -/

/-- A number of minutes is an offset exactly when it is less than a day either way. -/
theorem ofMinutes?_isNone_iff (m : Int) : (Offset.ofMinutes? m).isNone = true ↔ ¬(-1440 < m ∧ m < 1440) := by
  unfold Offset.ofMinutes?
  split <;> simp_all

/-- Validation passes exactly when the offset is less than a day either way and both feed
URLs are set. -/
theorem validate_eq_ok_iff (c : Config) :
    c.validate = .ok () ↔
      (-1440 < c.feeds.displayUtcOffsetMinutes ∧ c.feeds.displayUtcOffsetMinutes < 1440) ∧
        c.feeds.launchesUrl ≠ "" ∧ c.feeds.apodUrl ≠ "" := by
  unfold Config.validate
  by_cases hoff : (Offset.ofMinutes? c.feeds.displayUtcOffsetMinutes).isNone = true
  · -- the offset is refused before the URLs are looked at
    have hout := (ofMinutes?_isNone_iff _).mp hoff
    simp [hoff, hout]
  · have hin : -1440 < c.feeds.displayUtcOffsetMinutes ∧ c.feeds.displayUtcOffsetMinutes < 1440 :=
      Classical.not_not.mp (mt (ofMinutes?_isNone_iff _).mpr hoff)
    by_cases hurl : (c.feeds.launchesUrl.isEmpty || c.feeds.apodUrl.isEmpty) = true
    · simp only [Bool.or_eq_true, String.isEmpty_iff] at hurl
      simp only [hoff, Bool.false_eq_true, if_false, Bool.or_eq_true, String.isEmpty_iff, hurl,
        if_true, reduceCtorEq, false_iff, not_and, ne_eq]
      rcases hurl with h | h <;> simp [h]
    · simp only [Bool.or_eq_true, String.isEmpty_iff, not_or] at hurl
      simp [hoff, hin, hurl]

/-- Validation fails on an offset of a day or more either way, naming it, and otherwise
on an empty feed URL. -/
theorem validate_eq_error_iff (c : Config) (e : ConfigError) :
    c.validate = .error e ↔
      ¬(-1440 < c.feeds.displayUtcOffsetMinutes ∧ c.feeds.displayUtcOffsetMinutes < 1440) ∧
          e = .offsetOutOfRange c.feeds.displayUtcOffsetMinutes ∨
        (-1440 < c.feeds.displayUtcOffsetMinutes ∧ c.feeds.displayUtcOffsetMinutes < 1440) ∧
          (c.feeds.launchesUrl = "" ∨ c.feeds.apodUrl = "") ∧ e = .emptyFeedUrl := by
  unfold Config.validate
  by_cases hoff : (Offset.ofMinutes? c.feeds.displayUtcOffsetMinutes).isNone = true
  · have hout := (ofMinutes?_isNone_iff _).mp hoff
    simp only [hoff, if_true, Except.error.injEq]
    constructor
    · rintro rfl; exact .inl ⟨hout, rfl⟩
    · rintro (⟨-, rfl⟩ | ⟨hin, -⟩)
      · rfl
      · exact absurd hin hout
  · have hin : -1440 < c.feeds.displayUtcOffsetMinutes ∧ c.feeds.displayUtcOffsetMinutes < 1440 :=
      Classical.not_not.mp (mt (ofMinutes?_isNone_iff _).mpr hoff)
    simp only [hoff, Bool.false_eq_true, if_false, Bool.or_eq_true, String.isEmpty_iff, hin,
      not_true_eq_false, false_and, true_and, false_or]
    split
    · next hurl =>
      simp only [Except.error.injEq, hurl, true_and]
      exact eq_comm
    · next hurl => simp [hurl]

/-! ## Loading -/

/-- The configuration at a path: the defaults when nothing is there, and otherwise the
file's text read as a configuration that passes validation. -/
theorem load_eq_ok_iff (fs : Files) (path : String) (c : Config) :
    Config.load fs path = .ok c ↔
      fs.present path = false ∧ c = {} ∨
        fs.present path = true ∧ ∃ text, fs.read path = .ok text ∧ Config.ofToml text = .ok c ∧
          c.validate = .ok () := by
  unfold Config.load Config.loadWith
  cases hp : fs.present path with
  | false => simp [eq_comm]
  | true =>
    cases hr : fs.read path with
    | error e => simp
    | ok text =>
      simp only [Bool.not_true, Bool.false_eq_true, if_false, Config.ofToml, Except.ok.injEq,
        exists_eq_left', true_and, reduceCtorEq, false_and, false_or]
      -- the text is read, then the configuration, then it is validated
      cases hd : Toml.parseDocument text with
      | none => simp [bind, Except.bind]
      | some doc =>
        cases ho : Config.ofDocument doc with
        | error e => simp [bind, Except.bind, pure, Except.pure, ho]
        | ok c' =>
          cases hv : c'.validate with
          | error e =>
            simp only [bind, Except.bind, pure, Except.pure, ho, hv, Except.ok.injEq, reduceCtorEq,
              false_iff, not_and]
            rintro rfl
            simp [hv]
          | ok u =>
            simp only [bind, Except.bind, pure, Except.pure, ho, hv, Except.ok.injEq]
            constructor
            · rintro rfl
              exact ⟨rfl, hv⟩
            · rintro ⟨rfl, -⟩
              rfl

/-- A configuration that loads passes validation, the defaults of a missing file
included. -/
theorem validate_of_load {fs : Files} {path : String} {c : Config} (h : Config.load fs path = .ok c) :
    c.validate = .ok () := by
  rcases (load_eq_ok_iff fs path c).mp h with ⟨-, rfl⟩ | ⟨-, text, -, -, hv⟩
  · exact validate_default
  · exact hv

/-- A configuration that loads shows times in the offset it configures, which is less
than a day either way: never in the UTC fallback. -/
theorem displayOffset_of_load {fs : Files} {path : String} {c : Config}
    (h : Config.load fs path = .ok c) :
    c.feeds.displayOffset.minutes = c.feeds.displayUtcOffsetMinutes ∧
      -1440 < c.feeds.displayUtcOffsetMinutes ∧ c.feeds.displayUtcOffsetMinutes < 1440 := by
  have hv := validate_of_load h
  exact ⟨displayOffset_of_validate c hv, ((validate_eq_ok_iff c).mp hv).1⟩

/-- **Loading bounds the offset by a day.** A configuration loads exactly when the path
names nothing and it is the defaults, or when the file there reads as it and its feed
URLs are set and its offset is less than a day either way; and a configuration that
loads shows times in that offset. -/
theorem config_load_bounds_offset_by_a_day (fs : Files) (path : String) (c : Config) :
    (Config.load fs path = .ok c ↔
      fs.present path = false ∧ c = {} ∨
        fs.present path = true ∧ ∃ text, fs.read path = .ok text ∧ Config.ofToml text = .ok c ∧
          c.feeds.launchesUrl ≠ "" ∧ c.feeds.apodUrl ≠ "" ∧
          -1440 < c.feeds.displayUtcOffsetMinutes ∧ c.feeds.displayUtcOffsetMinutes < 1440) ∧
    (Config.load fs path = .ok c →
      c.feeds.displayOffset.minutes = c.feeds.displayUtcOffsetMinutes) := by
  refine ⟨?_, fun h => (displayOffset_of_load h).1⟩
  rw [load_eq_ok_iff]
  -- validation is the URLs and the offset's bound
  have hv := validate_eq_ok_iff c
  constructor
  · rintro (hmissing | ⟨hp, text, hr, ho, hok⟩)
    · exact .inl hmissing
    · obtain ⟨hoff, hl, ha⟩ := hv.mp hok
      exact .inr ⟨hp, text, hr, ho, hl, ha, hoff⟩
  · rintro (hmissing | ⟨hp, text, hr, ho, hl, ha, hoff⟩)
    · exact .inl hmissing
    · exact .inr ⟨hp, text, hr, ho, hv.mpr ⟨hoff, hl, ha⟩⟩

/-- The file `[feeds]` / `display_utc_offset_minutes = 1200` reads as a configuration that
passes validation and shows times 20 hours east of UTC. -/
theorem twenty_hour_offset_passes :
    ∃ c, Config.ofToml "[feeds]\ndisplay_utc_offset_minutes = 1200\n" = .ok c ∧
      c.validate = .ok () ∧ c.feeds.displayOffset.minutes = 1200 := by
  -- the reader runs in the kernel, and its result is seen through a decidable projection
  have hread : ((Config.ofToml "[feeds]\ndisplay_utc_offset_minutes = 1200\n").toOption.map
      fun c => (c.validate.toOption.isSome, c.feeds.displayOffset.minutes)) = some (true, 1200) := by
    decide +kernel
  cases hc : Config.ofToml "[feeds]\ndisplay_utc_offset_minutes = 1200\n" with
  | error e =>
    rw [hc] at hread
    simp only [Except.toOption, Option.map_none, reduceCtorEq] at hread
  | ok c =>
    rw [hc] at hread
    simp only [Except.toOption, Option.map_some, Option.some.injEq, Prod.mk.injEq] at hread
    obtain ⟨hvalid, hoff⟩ := hread
    refine ⟨c, rfl, ?_, hoff⟩
    cases hv : c.validate with
    | error e =>
      rw [hv] at hvalid
      simp only [Option.isSome_none, Bool.false_eq_true] at hvalid
    | ok u => rfl

end SpaceTeamSite
