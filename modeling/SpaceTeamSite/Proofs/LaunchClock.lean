import SpaceTeamSite.Proofs.TimestampGrammar
import SpaceTeamSite.Proofs.DayNumber
import SpaceTeamSite.Format.Dates

/-!
# Launch times show the instant

A clock reading, a valid date with an hour and a minute, names a minute on its own clock,
counted from midnight at the start of 1 January 1970 (`civilMinute`); every minute has
a reading, and only one (`civilMinute_surjective`, `civilMinute_inj`). A timestamp stands
for an instant: the minute it was written in, less its offset (`Timestamp.utcMinute`). A
leap second stays in its minute.

The display clock at offset `o` reads the instant's minute moved on by `o`
(`Timestamp.wallClock_reading`). So a launch time written in RFC 3339 is shown as the
text of that reading (`clockText`), whatever offset it was written in, and two texts for
the same minute show the same; across the end of a day, a month, a year or a leap day
the reading rolls over as the calendar's own day count does. Any other text is shown as
it came, blanks included.
-/

namespace SpaceTeamSite.Calendar

/-- The minute a clock reading names, counted on the same clock from midnight at the
start of 1 January 1970. -/
def civilMinute (d : Date) (hour minute : Nat) : Int :=
  d.dayNumber * 1440 + (hour * 60 + minute : Nat)

/-- The minute of the instant a timestamp stands for, on the clock of UTC. -/
def Timestamp.utcMinute (t : Timestamp) : Int := civilMinute t.date t.hour t.minute - t.offset

/-- `total` minutes on from midnight at the start of a valid date, counted in whole days
and the minutes of the last one. -/
theorem civilMinute_shift {d : Date} (h : d.Valid) (total : Int) :
    civilMinute (d.addDays (total / 1440)) ((total % 1440).toNat / 60) ((total % 1440).toNat % 60) =
      d.dayNumber * 1440 + total := by
  rw [civilMinute, Date.dayNumber_addDays h]
  omega

/-- The first of January 1970 is day 0. -/
theorem epoch_valid : (⟨1970, 1, 1⟩ : Date).Valid ∧ (⟨1970, 1, 1⟩ : Date).dayNumber = 0 := by
  decide

/-- Every minute has a clock reading. -/
theorem civilMinute_surjective (m : Int) :
    ∃ d hour minute, d.Valid ∧ hour < 24 ∧ minute < 60 ∧ civilMinute d hour minute = m := by
  obtain ⟨hvalid, hzero⟩ := epoch_valid
  refine ⟨_, (m % 1440).toNat / 60, (m % 1440).toNat % 60, Date.addDays_valid hvalid (m / 1440),
    by omega, by omega, ?_⟩
  rw [civilMinute_shift hvalid, hzero]
  omega

/-- No two clock readings name the same minute. -/
theorem civilMinute_inj {d e : Date} {hour minute hour' minute' : Nat} (hd : d.Valid) (he : e.Valid)
    (hh : hour < 24) (hm : minute < 60) (hh' : hour' < 24) (hm' : minute' < 60)
    (h : civilMinute d hour minute = civilMinute e hour' minute') :
    d = e ∧ hour = hour' ∧ minute = minute' := by
  simp only [civilMinute] at h
  -- the minutes of the day are below 1440, so the days agree, and then the times
  have hday : d.dayNumber = e.dayNumber := by omega
  exact ⟨Date.dayNumber_inj hd he hday, by omega, by omega⟩

namespace Timestamp

/-- The clock at offset `o` reads the instant's minute moved on by `o`. -/
theorem wallClock_reading {t : Timestamp} (h : t.date.Valid) (o : Offset) :
    (t.wallClock o).1.Valid ∧ (t.wallClock o).2.1 < 24 ∧ (t.wallClock o).2.2 < 60 ∧
      civilMinute (t.wallClock o).1 (t.wallClock o).2.1 (t.wallClock o).2.2 =
        t.utcMinute + o.minutes := by
  refine ⟨Date.addDays_valid h _, wallClock_hour_lt t o, wallClock_minute_lt t o, ?_⟩
  simp only [wallClock]
  rw [civilMinute_shift h, utcMinute, civilMinute]
  omega

end Timestamp

end SpaceTeamSite.Calendar

namespace SpaceTeamSite.Format

open Calendar

/-- A number below 100 in two digits, the first a zero below ten. -/
def padded (n : Nat) : String := String.ofList [Nat.digitChar (n / 10), Nat.digitChar (n % 10)]

/-- A clock reading as a launch time is written: `D Mon Y, HH:MM` in English and
`D Mon Y HH:MM` in Turkish, the month short, the day and the year as plain integers. -/
def clockText (lang : Language) (d : Date) (hour minute : Nat) : String :=
  toString d.day ++ " " ++ monthName lang d.month true ++ " " ++ toString d.year ++
    (match lang with
      | .english => ", "
      | .turkish => " ") ++
    padded hour ++ ":" ++ padded minute

/-- Hours and minutes are written in two digits, the first a zero below ten. -/
theorem twoDigits_eq_padded {n : Nat} (h : n < 100) : Offset.twoDigits n = padded n := by
  rw [← String.toList_inj, padded, String.toList_ofList]
  unfold Offset.twoDigits
  split
  · next hn =>
    have hdiv : n / 10 = 0 := by omega
    have hmod : n % 10 = n := by omega
    simp [hdiv, hmod, Nat.toDigits_of_lt_base hn, Nat.digitChar]
  · next hn =>
    -- the tens and the units
    have hsplit : Nat.toDigits 10 n = Nat.toDigits 10 (n / 10) ++ Nat.toDigits 10 (n % 10) := by
      rw [Nat.toDigits_append_toDigits (by decide) (by omega) (by omega)]
      congr 1
      omega
    rw [Nat.toString_eq_ofList_toDigits, String.toList_ofList, hsplit,
      Nat.toDigits_of_lt_base (by omega : n / 10 < 10), Nat.toDigits_of_lt_base (by omega : n % 10 < 10)]
    rfl

/-- A launch time the reader accepts is shown as the display clock reads it. -/
theorem launchTime_of_parse? {raw : String} {t : Timestamp}
    (h : Timestamp.parse? (Text.trimList raw.toList) = some t) (lang : Language) (o : Offset) :
    launchTime raw lang o =
      clockText lang (t.wallClock o).1 (t.wallClock o).2.1 (t.wallClock o).2.2 := by
  have hh := twoDigits_eq_padded (Nat.lt_trans (Timestamp.wallClock_hour_lt t o) (by decide))
  have hm := twoDigits_eq_padded (Nat.lt_trans (Timestamp.wallClock_minute_lt t o) (by decide))
  cases lang <;> simp [launchTime, h, clockText, String.append_assoc, hh, hm]

/-- A launch time the reader rejects is shown as it came. -/
theorem launchTime_of_parse?_none {raw : String} (h : Timestamp.parse? (Text.trimList raw.toList) = none)
    (lang : Language) (o : Offset) : launchTime raw lang o = raw := by
  simp [launchTime, h]

/-- A launch time written in RFC 3339 is shown as the reading of its instant on the
display clock, whichever reading of that minute is named. -/
theorem launchTime_eq_clockText {raw : String} {t : Timestamp}
    (ht : Rfc3339 (Text.trimList raw.toList) t) (lang : Language) (o : Offset) {d : Date}
    {hour minute : Nat} (hd : d.Valid) (hh : hour < 24) (hm : minute < 60)
    (hmin : civilMinute d hour minute = t.utcMinute + o.minutes) :
    launchTime raw lang o = clockText lang d hour minute := by
  obtain ⟨hv, hh', hm', hw⟩ := t.wallClock_reading ht.date_valid o
  obtain ⟨rfl, rfl, rfl⟩ := civilMinute_inj hv hd hh' hm' hh hm (hw.trans hmin.symm)
  exact launchTime_of_parse? (Timestamp.parse?_of_rfc3339 ht) lang o

/-- **A launch time shows its instant on the display clock.** When the trimmed text is
an RFC 3339 timestamp, the text shown is the date, hour and minute of its instant moved
on by the display offset, a reading that always exists; when it is not, the text is
shown as it came. So two timestamps of the same minute show the same, whatever offsets
they were written in. -/
theorem launch_time_shows_instant (raw : String) (lang : Language) (o : Offset) :
    (∀ t, Rfc3339 (Text.trimList raw.toList) t →
      (∃ d hour minute, d.Valid ∧ hour < 24 ∧ minute < 60 ∧
        civilMinute d hour minute = t.utcMinute + o.minutes) ∧
      ∀ d hour minute, d.Valid → hour < 24 → minute < 60 →
        civilMinute d hour minute = t.utcMinute + o.minutes →
        launchTime raw lang o = clockText lang d hour minute) ∧
    ((∀ t, ¬ Rfc3339 (Text.trimList raw.toList) t) → launchTime raw lang o = raw) ∧
    ∀ raw' t t', Rfc3339 (Text.trimList raw.toList) t → Rfc3339 (Text.trimList raw'.toList) t' →
      t.utcMinute = t'.utcMinute → launchTime raw lang o = launchTime raw' lang o := by
  refine ⟨fun t ht => ⟨civilMinute_surjective _, fun d hour minute hd hh hm hmin =>
      launchTime_eq_clockText ht lang o hd hh hm hmin⟩,
    fun hno => launchTime_of_parse?_none (Timestamp.parse?_eq_none_iff.mpr hno) lang o,
    fun raw' t t' ht ht' hsame => ?_⟩
  -- both show the reading of the first one's minute
  obtain ⟨hv, hh, hm, hw⟩ := t.wallClock_reading ht.date_valid o
  rw [launchTime_eq_clockText ht lang o hv hh hm hw,
    launchTime_eq_clockText ht' lang o hv hh hm (hsame ▸ hw)]

/-- Half past eleven at night, an hour west of UTC, is a timestamp of the grammar, shown on
the UTC clock as half past midnight of the leap day. -/
theorem leap_day_on_utc_clock :
    Rfc3339 (Text.trimList "2024-02-28t23:30:00.5-01:00".toList) ⟨⟨2024, 2, 28⟩, 23, 30, 0, -60⟩ ∧
      launchTime "2024-02-28t23:30:00.5-01:00" .english Offset.utc = "29 Feb 2024, 00:30" := by
  -- the reader takes the text with every field as written
  have ht : Rfc3339 (Text.trimList "2024-02-28t23:30:00.5-01:00".toList)
      ⟨⟨2024, 2, 28⟩, 23, 30, 0, -60⟩ :=
    Timestamp.parse?_eq_some_iff.mp (by decide)
  -- 00:30 on 29 February on the UTC clock names the instant's minute
  have hshown := ((launch_time_shows_instant "2024-02-28t23:30:00.5-01:00" .english Offset.utc).1
    _ ht).2 ⟨2024, 2, 29⟩ 0 30 (by decide) (by decide) (by decide) (by decide)
  exact ⟨ht, hshown.trans (by decide)⟩

end SpaceTeamSite.Format
