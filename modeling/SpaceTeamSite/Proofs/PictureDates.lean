import SpaceTeamSite.Proofs.TimestampGrammar
import SpaceTeamSite.Proofs.LinkParams
import SpaceTeamSite.Format.Dates

/-!
# Picture dates as long dates

A picture's date comes as `YYYY-MM-DD`. Written so, with four digits for the year and
two each for the month and the day, and with any blanks around it, the date is shown
as a long date (`longDate`: `October 16, 2026` or `16 Ekim 2026`) exactly when it names
a day of the proleptic Gregorian calendar: a month from 1 to 12 and a day within that
month, February having 29 days in the leap years only. Any other such text (month 0 or
13, day 0, the 31st of a 30-day month, the 29th of February of a common year) is shown
as it came, blanks included (`picture_date_long_iff_valid`).

The proof follows the reader: trimming drops exactly the blanks around the digits
(`trimList_around`), each scanner reads its digits whatever follows them, and the year,
being below 10000, is within the range a date can hold (`digitsValue_lt`).
-/

namespace SpaceTeamSite.Text

/-- A blank-free text keeps what follows it when its leading blanks are dropped. -/
theorem dropWhile_isBlank_append {body rest : List Char} (hbody : ∀ c ∈ body, isBlank c = false)
    (hne : body ≠ []) : (body ++ rest).dropWhile isBlank = body ++ rest := by
  obtain ⟨c, cs, rfl⟩ := List.exists_cons_of_ne_nil hne
  exact List.dropWhile_cons_of_neg (by simp [hbody c List.mem_cons_self])

/-- Trimming drops exactly the blanks around a text that has none of its own. -/
theorem trimList_around {pre body post : List Char} (hpre : ∀ c ∈ pre, isBlank c = true)
    (hpost : ∀ c ∈ post, isBlank c = true) (hbody : ∀ c ∈ body, isBlank c = false)
    (hne : body ≠ []) : trimList (pre ++ body ++ post) = body := by
  have hrev : ∀ c ∈ body.reverse, isBlank c = false := fun c hc => hbody c (List.mem_reverse.mp hc)
  have hpost' : ∀ c ∈ post.reverse, isBlank c = true := fun c hc => hpost c (List.mem_reverse.mp hc)
  -- the blanks in front go first, then those behind, read from the back
  rw [trimList, trimLeft, List.append_assoc, List.dropWhile_append_of_pos hpre,
    dropWhile_isBlank_append hbody hne, List.reverse_append, List.dropWhile_append_of_pos hpost',
    Site.dropWhile_isBlank_of_forall hrev, List.reverse_reverse]

/-- Digits are below ten, so `n` of them are worth less than `10 ^ n`: the fold that
reads them, started at `acc`, stays below `(acc + 1) * 10 ^ n`. -/
theorem foldl_digits_lt {ds : List Char} (h : ∀ c ∈ ds, c.isDigit = true) (acc : Nat) :
    ds.foldl (fun acc c => acc * 10 + (c.toNat - '0'.toNat)) acc < (acc + 1) * Nat.pow 10 ds.length := by
  induction ds generalizing acc with
  | nil => simp
  | cons c cs ih =>
    have hc : c.toNat - '0'.toNat ≤ 9 := by
      have hdig := h c List.mem_cons_self
      simp only [Char.isDigit, Bool.and_eq_true, decide_eq_true_eq] at hdig
      have hrange : 48 ≤ c.toNat ∧ c.toNat ≤ 57 := ⟨hdig.1, hdig.2⟩
      have h0 : '0'.toNat = 48 := rfl
      omega
    have hrest := ih (fun d hd => h d (List.mem_cons_of_mem c hd)) (acc * 10 + (c.toNat - '0'.toNat))
    calc cs.foldl (fun acc c => acc * 10 + (c.toNat - '0'.toNat)) (acc * 10 + (c.toNat - '0'.toNat))
        < (acc * 10 + (c.toNat - '0'.toNat) + 1) * Nat.pow 10 cs.length := hrest
      _ ≤ ((acc + 1) * 10) * Nat.pow 10 cs.length := Nat.mul_le_mul_right _ (by omega)
      _ = (acc + 1) * (Nat.pow 10 cs.length * 10) := by rw [Nat.mul_assoc, Nat.mul_comm 10]
      _ = (acc + 1) * Nat.pow 10 (c :: cs).length := rfl

theorem digitsValue_lt {ds : List Char} (h : ∀ c ∈ ds, c.isDigit = true) :
    digitsValue ds < Nat.pow 10 ds.length := by
  simpa [digitsValue] using foldl_digits_lt h 0

end SpaceTeamSite.Text

namespace SpaceTeamSite.Calendar

open Text

/-! ## Reading the date -/

/-- Four digits read as the year, whatever follows them. -/
theorem readYear_digits {ys : List Char} (hy : IsDigits 4 ys) (rest : List Char) :
    readYear (ys ++ rest) = some ((digitsValue ys : Int), rest) := by
  obtain ⟨y, ys', rfl⟩ := List.exists_cons_of_ne_nil (List.ne_nil_of_length_eq_add_one hy.1)
  have hdig : y.isDigit = true := hy.2 y List.mem_cons_self
  have htrim : trimLeft (y :: ys' ++ rest) = y :: ys' ++ rest :=
    dropWhile_isBlank_append (fun c hc => Site.isBlank_of_isDigit (hy.2 c hc)) (List.cons_ne_nil y ys')
  -- a digit is no sign, so the year is read as plain digits
  have hminus : y ≠ '-' := by rintro rfl; exact absurd hdig (by decide)
  have hplus : y ≠ '+' := by rintro rfl; exact absurd hdig (by decide)
  unfold readYear
  rw [htrim]
  split
  · next r heq => exact absurd (List.cons.inj heq).1 hminus
  · next r heq => exact absurd (List.cons.inj heq).1 hplus
  · simp only [readDigits_append_of_le hy (by decide : 1 ≤ 4), Option.map_some]

/-- Two digits read as a month or a day, whatever follows them. -/
theorem readSmall_digits {ds : List Char} (hd : IsDigits 2 ds) (rest : List Char) :
    readSmall (ds ++ rest) = some (digitsValue ds, rest) := by
  have hne : ds ≠ [] := List.ne_nil_of_length_eq_add_one hd.1
  rw [readSmall, trimLeft, dropWhile_isBlank_append (fun c hc => Site.isBlank_of_isDigit (hd.2 c hc)) hne]
  exact readDigits_append_of_le hd (by decide) rest

/-- A date written with four, two and two digits reads as the calendar day it names, if
there is one. -/
theorem parseYmd?_digits {ys ms ds : List Char} (hy : IsDigits 4 ys) (hm : IsDigits 2 ms)
    (hd : IsDigits 2 ds) :
    Date.parseYmd? (ys ++ '-' :: ms ++ '-' :: ds) =
      Date.ofYmd? (digitsValue ys) (digitsValue ms) (digitsValue ds) := by
  have hyear : digitsValue ys < 10000 := by
    have := digitsValue_lt hy.2
    rw [hy.1] at this
    exact this
  have hrange : ¬ ((digitsValue ys : Int) < minYear ∨ maxYear < (digitsValue ys : Int)) := by
    simp only [minYear, maxYear]
    omega
  have hday := readSmall_digits hd []
  rw [List.append_nil] at hday
  simp only [Date.parseYmd?, List.append_assoc, List.cons_append, readYear_digits hy, expect,
    readSmall_digits hm, hday, Option.bind_eq_bind, Option.bind_some, if_true, List.isEmpty_nil,
    Bool.not_true, Bool.false_eq_true, if_false, hrange]

end SpaceTeamSite.Calendar

namespace SpaceTeamSite.Format

open Calendar Text

/-- A day as a long date: `Month d, y` in English and `d Month y` in Turkish, the month's
full name, the day and the year as plain integers. -/
def longDate (lang : Language) (d : Date) : String :=
  match lang with
  | .english => monthName lang d.month false ++ " " ++ toString d.day ++ ", " ++ toString d.year
  | .turkish => toString d.day ++ " " ++ monthName lang d.month false ++ " " ++ toString d.year

/-- A picture date whose trimmed text reads as a day is shown as its long date. -/
theorem pictureDate_of_parse {raw : String} {d : Date}
    (h : Date.parseYmd? (trimList raw.toList) = some d) (lang : Language) :
    pictureDate raw lang = longDate lang d := by
  cases lang <;> simp [pictureDate, h, longDate]

/-- A picture date whose trimmed text reads as no day is shown as it came. -/
theorem pictureDate_of_parse_none {raw : String} (h : Date.parseYmd? (trimList raw.toList) = none)
    (lang : Language) : pictureDate raw lang = raw := by
  simp [pictureDate, h]

/-- **A picture date is shown long exactly when it names a day.** A date written with
four digits for the year and two each for the month and the day, with any blanks
around it, is shown as its long date when its month is one of the twelve and its day
one of that month's, February having a 29th in leap years only, and as it came,
blanks included, otherwise. -/
theorem picture_date_long_iff_valid {pre post ys ms ds : List Char}
    (hpre : ∀ c ∈ pre, isBlank c = true) (hpost : ∀ c ∈ post, isBlank c = true)
    (hy : IsDigits 4 ys) (hm : IsDigits 2 ms) (hd : IsDigits 2 ds) (lang : Language) :
    let raw := String.ofList (pre ++ (ys ++ '-' :: ms ++ '-' :: ds) ++ post)
    let date : Date := ⟨digitsValue ys, digitsValue ms, digitsValue ds⟩
    pictureDate raw lang = if date.Valid then longDate lang date else raw := by
  intro raw date
  -- the text is the digits and the two hyphens, none of them blank
  have hbody : ∀ c ∈ ys ++ '-' :: ms ++ '-' :: ds, isBlank c = false := by
    intro c hc
    simp only [List.mem_append, List.mem_cons, or_assoc] at hc
    rcases hc with hc | rfl | hc | rfl | hc
    · exact Site.isBlank_of_isDigit (hy.2 c hc)
    · rfl
    · exact Site.isBlank_of_isDigit (hm.2 c hc)
    · rfl
    · exact Site.isBlank_of_isDigit (hd.2 c hc)
  have htrim : trimList raw.toList = ys ++ '-' :: ms ++ '-' :: ds := by
    rw [String.toList_ofList]
    exact trimList_around hpre hpost hbody (by simp)
  have hread := parseYmd?_digits hy hm hd
  rw [← htrim] at hread
  by_cases hvalid : date.Valid
  · rw [if_pos hvalid]
    exact pictureDate_of_parse (hread.trans (Date.ofYmd?_eq_some.mpr ⟨hvalid, rfl⟩)) lang
  · rw [if_neg hvalid]
    refine pictureDate_of_parse_none (hread.trans ?_) lang
    simp only [Date.ofYmd?]
    exact if_neg hvalid

/-- The last day of February is the 29th in 2000, a century divisible by 400, and a
day that does not exist in 1900, a century that is not. -/
theorem century_leap_days :
    pictureDate " 2000-02-29\n" .english = "February 29, 2000" ∧
      pictureDate " 1900-02-29\n" .turkish = " 1900-02-29\n" := by
  -- the blanks and the digits checked through `List.all`, which decides by evaluation
  have hpre : ∀ c ∈ [' '], isBlank c = true := List.all_eq_true.mp (by decide)
  have hpost : ∀ c ∈ ['\n'], isBlank c = true := List.all_eq_true.mp (by decide)
  have hdigits (s : String) (h : s.toList.all Char.isDigit = true) :
      IsDigits s.toList.length s.toList := ⟨rfl, List.all_eq_true.mp h⟩
  have h2000 := @picture_date_long_iff_valid [' '] ['\n'] "2000".toList "02".toList "29".toList
    hpre hpost (hdigits "2000" (by decide)) (hdigits "02" (by decide)) (hdigits "29" (by decide))
    .english
  have h1900 := @picture_date_long_iff_valid [' '] ['\n'] "1900".toList "02".toList "29".toList
    hpre hpost (hdigits "1900" (by decide)) (hdigits "02" (by decide)) (hdigits "29" (by decide))
    .turkish
  exact ⟨h2000.trans (by decide), h1900.trans (by decide)⟩

end SpaceTeamSite.Format
