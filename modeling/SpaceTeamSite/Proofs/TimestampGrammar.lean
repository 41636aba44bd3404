import SpaceTeamSite.Calendar.Timestamp

/-!
# The timestamps the reader accepts

The grammar of RFC 3339 timestamps as the lenient reader takes them, written as an
inductive relation: `Rfc3339 cs t` says that the text `cs` writes the timestamp `t`. A
date of four, two and two ASCII digits that names a day of the proleptic Gregorian
calendar; the separator `T`, `t` or a space; hours up to 23, minutes up to 59 and
seconds up to 60, two digits each; an optional fraction, a point and any positive
number of digits; and the offset, `Z`, `z`, or a sign and `HH:MM` up to 23:59, where
the minus may also be the minus sign U+2212.

The reader accepts exactly this grammar and keeps every field as written
(`parse?_eq_some_iff`). Each scanner, run on its piece of the grammar and anything
after it, consumes that piece (`readDigits_append`, `skipFraction_append`,
`readOffset_append`); and a scanner that succeeds has consumed such a piece
(`readDigits_eq_some`, `skipFraction_eq_some`, `readOffset_eq_some`).
-/

namespace SpaceTeamSite.Text

/-- `ds` is exactly `n` ASCII digits. -/
def IsDigits (n : Nat) (ds : List Char) : Prop := ds.length = n ∧ ∀ c ∈ ds, c.isDigit = true

/-- A scan of digits that succeeds has read a run of at least `lo` and at most `hi` of
them, and returns its value and what follows. -/
theorem readDigits_eq_some {lo hi v : Nat} {cs rest : List Char}
    (h : readDigits lo hi cs = some (v, rest)) :
    ∃ ds, lo ≤ ds.length ∧ ds.length ≤ hi ∧ (∀ c ∈ ds, c.isDigit = true) ∧
      cs = ds ++ rest ∧ v = digitsValue ds := by
  unfold readDigits at h
  -- the run read: a prefix of the input, digits only, at most `hi` long
  have hpre : (cs.take hi).takeWhile Char.isDigit <+: cs :=
    (List.takeWhile_prefix _).trans (List.take_prefix _ _)
  have hle : ((cs.take hi).takeWhile Char.isDigit).length ≤ hi :=
    Nat.le_trans (List.takeWhile_prefix _).length_le (List.length_take_le _ _)
  have hdig : ∀ c ∈ (cs.take hi).takeWhile Char.isDigit, c.isDigit = true :=
    List.all_eq_true.mp List.all_takeWhile
  generalize (cs.take hi).takeWhile Char.isDigit = ds at h hpre hle hdig
  obtain ⟨tail, rfl⟩ := hpre
  dsimp only at h
  split at h
  · contradiction
  · next hlo =>
    simp only [Option.some.injEq, Prod.mk.injEq, List.drop_left] at h
    obtain ⟨rfl, rfl⟩ := h
    exact ⟨ds, by omega, hle, hdig, rfl, rfl⟩

/-- A scan of exactly `n` digits that succeeds has read `n` digits. -/
theorem readDigits_exact_eq_some {n v : Nat} {cs rest : List Char}
    (h : readDigits n n cs = some (v, rest)) :
    ∃ ds, IsDigits n ds ∧ cs = ds ++ rest ∧ v = digitsValue ds := by
  obtain ⟨ds, hlo, hhi, hdig, hcs, hv⟩ := readDigits_eq_some h
  exact ⟨ds, ⟨by omega, hdig⟩, hcs, hv⟩

/-- A run of `n` digits is read by any scan of at least `lo ≤ n` and at most `n` digits,
whatever follows it. -/
theorem readDigits_append_of_le {lo n : Nat} {ds : List Char} (h : IsDigits n ds) (hlo : lo ≤ n)
    (rest : List Char) : readDigits lo n (ds ++ rest) = some (digitsValue ds, rest) := by
  obtain ⟨hlen, hdig⟩ := h
  have hrun : ((ds ++ rest).take n).takeWhile Char.isDigit = ds := by
    have hall : (ds ++ []).takeWhile Char.isDigit = ds ++ [].takeWhile Char.isDigit :=
      List.takeWhile_append_of_pos hdig
    simpa [List.take_left' hlen] using hall
  unfold readDigits
  simp only [hrun, hlen, List.drop_left' hlen]
  rw [if_neg (Nat.not_lt.mpr hlo)]

/-- A scan of exactly `n` digits reads `n` digits, whatever follows them. -/
theorem readDigits_append {n : Nat} {ds : List Char} (h : IsDigits n ds) (rest : List Char) :
    readDigits n n (ds ++ rest) = some (digitsValue ds, rest) :=
  readDigits_append_of_le h (Nat.le_refl n) rest

theorem expect_eq_some {c : Char} {cs rest : List Char} : expect c cs = some rest ↔ cs = c :: rest := by
  cases cs with
  | nil => simp [expect]
  | cons d r => by_cases hd : d = c <;> simp [expect, hd]

/-! A reader is a chain of scanners, each followed by the rest of the reading. The
lemmas named `..._bind_eq_some` take one scanner off the front of a reading that
succeeded. -/

section Sequencing

variable {β : Type} {b : β}

theorem readDigits_bind_eq_some {n : Nat} {cs : List Char} {K : Nat × List Char → Option β}
    (h : readDigits n n cs >>= K = some b) :
    ∃ ds rest, IsDigits n ds ∧ cs = ds ++ rest ∧ K (digitsValue ds, rest) = some b := by
  obtain ⟨⟨v, rest⟩, hread, hk⟩ := Option.bind_eq_some_iff.mp h
  obtain ⟨ds, hds, rfl, rfl⟩ := readDigits_exact_eq_some hread
  exact ⟨ds, rest, hds, rfl, hk⟩

theorem expect_bind_eq_some {c : Char} {cs : List Char} {K : List Char → Option β}
    (h : expect c cs >>= K = some b) : ∃ rest, cs = c :: rest ∧ K rest = some b := by
  obtain ⟨rest, hread, hk⟩ := Option.bind_eq_some_iff.mp h
  exact ⟨rest, expect_eq_some.mp hread, hk⟩

end Sequencing

end SpaceTeamSite.Text

namespace SpaceTeamSite.Calendar

open SpaceTeamSite.Text

/-! ## The grammar -/

/-- An offset as written, with its value in minutes east of UTC. -/
inductive OffsetText : List Char → Int → Prop
  /-- UTC, `Z` or `z`. -/
  | utc {z : Char} : (z = 'Z' ∨ z = 'z') → OffsetText [z] 0
  /-- `+HH:MM`, east of UTC. -/
  | east {hs ms : List Char} : IsDigits 2 hs → IsDigits 2 ms → digitsValue hs ≤ 23 →
      digitsValue ms ≤ 59 →
      OffsetText ('+' :: hs ++ ':' :: ms) ((digitsValue hs * 60 + digitsValue ms : Nat) : Int)
  /-- `-HH:MM`, west of UTC, the minus also written U+2212. -/
  | west {sign : Char} {hs ms : List Char} : (sign = '-' ∨ sign = '−') → IsDigits 2 hs →
      IsDigits 2 ms → digitsValue hs ≤ 23 → digitsValue ms ≤ 59 →
      OffsetText (sign :: hs ++ ':' :: ms) (-((digitsValue hs * 60 + digitsValue ms : Nat) : Int))

/-- A fraction of a second as written: nothing, or a point and one or more digits. -/
inductive FractionText : List Char → Prop
  | none : FractionText []
  | digits {ds : List Char} : ds ≠ [] → (∀ c ∈ ds, c.isDigit = true) → FractionText ('.' :: ds)

/-- `cs` writes the timestamp `t` in RFC 3339: a valid date, a time of day with a leap
second allowed, a fraction that is skipped, and the offset. -/
inductive Rfc3339 : List Char → Timestamp → Prop
  | mk {ys mos ds hs mis ss frac off : List Char} {sep : Char} {offset : Int} :
      IsDigits 4 ys → IsDigits 2 mos → IsDigits 2 ds → (sep = 'T' ∨ sep = 't' ∨ sep = ' ') →
      IsDigits 2 hs → IsDigits 2 mis → IsDigits 2 ss → FractionText frac → OffsetText off offset →
      Date.Valid ⟨digitsValue ys, digitsValue mos, digitsValue ds⟩ →
      digitsValue hs ≤ 23 → digitsValue mis ≤ 59 → digitsValue ss ≤ 60 →
      Rfc3339 (ys ++ '-' :: mos ++ '-' :: ds ++ sep :: hs ++ ':' :: mis ++ ':' :: ss ++ frac ++ off)
        ⟨⟨digitsValue ys, digitsValue mos, digitsValue ds⟩, digitsValue hs, digitsValue mis,
          digitsValue ss, offset⟩

/-- An offset starts with a letter or a sign: no digit and no point. -/
theorem OffsetText.head {off : List Char} {m : Int} (h : OffsetText off m) :
    ∃ c rest, off = c :: rest ∧ c ≠ '.' ∧ c.isDigit = false := by
  cases h with
  | utc hz => rcases hz with rfl | rfl <;> exact ⟨_, [], rfl, by decide, by decide⟩
  | east => exact ⟨'+', _, rfl, by decide, by decide⟩
  | west hsign => rcases hsign with rfl | rfl <;> exact ⟨_, _, rfl, by decide, by decide⟩

/-- The date `y-m-d` exists exactly when it is valid. -/
theorem Date.ofYmd?_eq_some {y : Int} {m d : Nat} {date : Date} :
    Date.ofYmd? y m d = some date ↔ (⟨y, m, d⟩ : Date).Valid ∧ date = ⟨y, m, d⟩ := by
  unfold Date.ofYmd?
  dsimp only
  split <;> simp_all [eq_comm]

theorem Rfc3339.date_valid {cs : List Char} {t : Timestamp} (h : Rfc3339 cs t) : t.date.Valid := by
  cases h with
  | mk _ _ _ _ _ _ _ _ _ hvalid => exact hvalid

namespace Timestamp

/-! ## Each scanner consumes its piece -/

theorem readSeparator_eq_some {cs rest : List Char} :
    readSeparator cs = some rest ↔ ∃ sep, (sep = 'T' ∨ sep = 't' ∨ sep = ' ') ∧ cs = sep :: rest := by
  cases cs with
  | nil => simp [readSeparator]
  | cons d r => grind [readSeparator]

theorem skipFraction_append {frac rest : List Char} {c : Char} (hf : FractionText frac)
    (hc : c ≠ '.') (hd : c.isDigit = false) :
    skipFraction (frac ++ c :: rest) = some (c :: rest) := by
  cases hf with
  | none =>
    rw [List.nil_append, skipFraction.eq_def]
    split
    · next r heq => exact absurd (List.cons.inj heq).1 hc
    · rfl
  | @digits ds hne hdig =>
    -- at most nine digits are read, and the rest of the run is skipped
    have hrun : ((ds ++ c :: rest).take 9).takeWhile Char.isDigit = ds.take 9 := by
      rw [← List.take_takeWhile, List.takeWhile_append_of_pos hdig,
        List.takeWhile_cons_of_neg (by simp [hd]), List.append_nil]
    have hlen : 1 ≤ (ds.take 9).length := by
      cases ds with
      | nil => contradiction
      | cons d ds => simp
    have hread : readDigits 1 9 (ds ++ c :: rest) =
        some (digitsValue (ds.take 9), ds.drop (ds.take 9).length ++ c :: rest) := by
      unfold readDigits
      simp only [hrun]
      rw [if_neg (Nat.not_lt.mpr hlen), List.drop_append_of_le_length (List.length_take_le' 9 ds)]
    have hskip : (ds.drop (ds.take 9).length ++ c :: rest).dropWhile Char.isDigit = c :: rest := by
      rw [List.dropWhile_append_of_pos fun d hd' => hdig d (List.mem_of_mem_drop hd'),
        List.dropWhile_cons_of_neg (by simp [hd])]
    rw [List.cons_append, skipFraction, hread]
    exact congrArg some hskip

/-- A fraction that is skipped was a fraction as written. -/
theorem skipFraction_eq_some {cs rest : List Char} (h : skipFraction cs = some rest) :
    ∃ frac, FractionText frac ∧ cs = frac ++ rest := by
  rw [skipFraction.eq_def] at h
  split at h
  · next r =>
    split at h
    · next more hread =>
      obtain ⟨ds, hlo, -, hdig, rfl, -⟩ := readDigits_eq_some hread
      simp only [Option.some.injEq] at h
      subst h
      -- the digits read, then the digits skipped
      refine ⟨'.' :: (ds ++ more.takeWhile Char.isDigit), .digits ?_ ?_, ?_⟩
      · exact List.ne_nil_of_length_pos (by simp only [List.length_append]; omega)
      · intro c hc
        rcases List.mem_append.mp hc with hc | hc
        · exact hdig c hc
        · exact List.all_eq_true.mp List.all_takeWhile c hc
      · simp [List.takeWhile_append_dropWhile]
    · contradiction
  · exact ⟨[], .none, by simp_all⟩

/-- An offset as written is read whatever follows it. -/
theorem readOffset_append {off : List Char} {m : Int} (h : OffsetText off m) (rest : List Char) :
    readOffset (off ++ rest) = some (m, rest) := by
  cases h with
  | utc hz => rcases hz with rfl | rfl <;> rfl
  | east hh hm h23 h59 =>
    simp [readOffset, readDigits_append hh, readDigits_append hm, expect, maxOffset]
    omega
  | west hsign hh hm h23 h59 =>
    rcases hsign with rfl | rfl <;>
      simp [readOffset, readDigits_append hh, readDigits_append hm, expect, maxOffset] <;>
      omega

/-- An offset's sign: `+` for east, `-` or `−` for west. -/
theorem sign_bind_eq_some {α : Type} {c : Char} {K : Bool → Option α} {a : α}
    (h : (if c = '+' then some false >>= K else if c = '-' ∨ c = '−' then some true >>= K
      else none >>= K) = some a) :
    ∃ west, (west = false ∧ c = '+' ∨ west = true ∧ (c = '-' ∨ c = '−')) ∧ K west = some a := by
  split at h
  · exact ⟨false, .inl ⟨rfl, by assumption⟩, h⟩
  · split at h
    · exact ⟨true, .inr ⟨rfl, by assumption⟩, h⟩
    · contradiction

theorem readOffset_eq_some {cs rest : List Char} {m : Int} (h : readOffset cs = some (m, rest)) :
    ∃ off, OffsetText off m ∧ cs = off ++ rest := by
  rw [readOffset.eq_def] at h
  split at h
  · simp only [Option.some.injEq, Prod.mk.injEq] at h
    obtain ⟨rfl, rfl⟩ := h
    exact ⟨['Z'], .utc (.inl rfl), rfl⟩
  · simp only [Option.some.injEq, Prod.mk.injEq] at h
    obtain ⟨rfl, rfl⟩ := h
    exact ⟨['z'], .utc (.inr rfl), rfl⟩
  · next c r hZ hz =>
    dsimp only at h
    obtain ⟨west, hwest, h⟩ := sign_bind_eq_some h
    obtain ⟨hs, r1, hhs, rfl, h1⟩ := readDigits_bind_eq_some h
    obtain ⟨r2, rfl, h2⟩ := expect_bind_eq_some h1
    obtain ⟨ms, r3, hms, rfl, h3⟩ := readDigits_bind_eq_some h2
    dsimp only at h3
    -- both bounds hold, so the hours are at most 23
    split at h3
    · contradiction
    split at h3
    · contradiction
    next h60 hmax =>
    simp only [Option.some.injEq, Prod.mk.injEq] at h3
    obtain ⟨rfl, rfl⟩ := h3
    have h23 : digitsValue hs ≤ 23 := by simp only [maxOffset] at hmax; omega
    rcases hwest with ⟨rfl, rfl⟩ | ⟨rfl, hsign⟩
    · exact ⟨'+' :: hs ++ ':' :: ms, .east hhs hms h23 (by omega), by simp⟩
    · exact ⟨c :: hs ++ ':' :: ms, .west hsign hhs hms h23 (by omega), by simp⟩
  · contradiction

/-! ## Reading on after a piece -/

section Sequencing

variable {β : Type} {b : β}

theorem readSeparator_bind_eq_some {cs : List Char} {K : List Char → Option β}
    (h : readSeparator cs >>= K = some b) :
    ∃ sep rest, (sep = 'T' ∨ sep = 't' ∨ sep = ' ') ∧ cs = sep :: rest ∧ K rest = some b := by
  obtain ⟨rest, hread, hk⟩ := Option.bind_eq_some_iff.mp h
  obtain ⟨sep, hsep, rfl⟩ := readSeparator_eq_some.mp hread
  exact ⟨sep, rest, hsep, rfl, hk⟩

theorem skipFraction_bind_eq_some {cs : List Char} {K : List Char → Option β}
    (h : skipFraction cs >>= K = some b) :
    ∃ frac rest, FractionText frac ∧ cs = frac ++ rest ∧ K rest = some b := by
  obtain ⟨rest, hread, hk⟩ := Option.bind_eq_some_iff.mp h
  obtain ⟨frac, hfrac, rfl⟩ := skipFraction_eq_some hread
  exact ⟨frac, rest, hfrac, rfl, hk⟩

theorem readOffset_bind_eq_some {cs : List Char} {K : Int × List Char → Option β}
    (h : readOffset cs >>= K = some b) :
    ∃ off m rest, OffsetText off m ∧ cs = off ++ rest ∧ K (m, rest) = some b := by
  obtain ⟨⟨m, rest⟩, hread, hk⟩ := Option.bind_eq_some_iff.mp h
  obtain ⟨off, hoff, rfl⟩ := readOffset_eq_some hread
  exact ⟨off, m, rest, hoff, rfl, hk⟩

end Sequencing

/-! ## The whole timestamp -/

/-- A timestamp as written is read, with every field as written. -/
theorem parse?_of_rfc3339 {cs : List Char} {t : Timestamp} (h : Rfc3339 cs t) :
    parse? cs = some t := by
  cases h with
  | @mk ys mos ds hs mis ss frac off sep offset hy hmo hd hsep hh hmi hsec hf ho hvalid h23 h59 h60 =>
    have hoff := readOffset_append ho []
    obtain ⟨c, rest, rfl, hc, hdig⟩ := ho.head
    rw [List.append_nil] at hoff
    simp only [List.append_assoc, List.cons_append]
    unfold parse?
    -- each piece of the text read in turn
    refine Option.bind_eq_some_iff.mpr ⟨_, readDigits_append hy _, ?_⟩
    refine Option.bind_eq_some_iff.mpr ⟨_, expect_eq_some.mpr rfl, ?_⟩
    refine Option.bind_eq_some_iff.mpr ⟨_, readDigits_append hmo _, ?_⟩
    refine Option.bind_eq_some_iff.mpr ⟨_, expect_eq_some.mpr rfl, ?_⟩
    refine Option.bind_eq_some_iff.mpr ⟨_, readDigits_append hd _, ?_⟩
    refine Option.bind_eq_some_iff.mpr ⟨_, readSeparator_eq_some.mpr ⟨sep, hsep, rfl⟩, ?_⟩
    refine Option.bind_eq_some_iff.mpr ⟨_, readDigits_append hh _, ?_⟩
    refine Option.bind_eq_some_iff.mpr ⟨_, expect_eq_some.mpr rfl, ?_⟩
    refine Option.bind_eq_some_iff.mpr ⟨_, readDigits_append hmi _, ?_⟩
    refine Option.bind_eq_some_iff.mpr ⟨_, expect_eq_some.mpr rfl, ?_⟩
    refine Option.bind_eq_some_iff.mpr ⟨_, readDigits_append hsec _, ?_⟩
    refine Option.bind_eq_some_iff.mpr ⟨_, skipFraction_append hf hc hdig, ?_⟩
    refine Option.bind_eq_some_iff.mpr ⟨_, hoff, ?_⟩
    -- nothing is left, the fields are in range, and the date exists
    dsimp only
    rw [if_neg (by simp), if_neg (by omega)]
    exact Option.bind_eq_some_iff.mpr ⟨_, Date.ofYmd?_eq_some.mpr ⟨hvalid, rfl⟩, rfl⟩

/-- A timestamp that is read was written as the grammar says. -/
theorem rfc3339_of_parse? {cs : List Char} {t : Timestamp} (h : parse? cs = some t) :
    Rfc3339 cs t := by
  unfold parse? at h
  -- each piece in turn, each fixing the next part of the input
  obtain ⟨ys, r1, hys, rfl, h1⟩ := readDigits_bind_eq_some h
  obtain ⟨r2, rfl, h2⟩ := expect_bind_eq_some h1
  obtain ⟨mos, r3, hmos, rfl, h3⟩ := readDigits_bind_eq_some h2
  obtain ⟨r4, rfl, h4⟩ := expect_bind_eq_some h3
  obtain ⟨ds, r5, hds, rfl, h5⟩ := readDigits_bind_eq_some h4
  obtain ⟨sep, r6, hsep, rfl, h6⟩ := readSeparator_bind_eq_some h5
  obtain ⟨hs, r7, hhs, rfl, h7⟩ := readDigits_bind_eq_some h6
  obtain ⟨r8, rfl, h8⟩ := expect_bind_eq_some h7
  obtain ⟨mis, r9, hmis, rfl, h9⟩ := readDigits_bind_eq_some h8
  obtain ⟨r10, rfl, h10⟩ := expect_bind_eq_some h9
  obtain ⟨ss, r11, hss, rfl, h11⟩ := readDigits_bind_eq_some h10
  obtain ⟨frac, r12, hfrac, rfl, h12⟩ := skipFraction_bind_eq_some h11
  obtain ⟨off, offset, r13, hoff, rfl, h13⟩ := readOffset_bind_eq_some h12
  -- nothing follows, the fields are in range, and the date exists
  dsimp only at h13
  split at h13
  · contradiction
  next hempty =>
  split at h13
  · contradiction
  next hbounds =>
  obtain ⟨date, hdate, h⟩ := Option.bind_eq_some_iff.mp h13
  obtain rfl : r13 = [] := by simpa using hempty
  obtain ⟨hvalid, rfl⟩ := Date.ofYmd?_eq_some.mp hdate
  simp only [Option.some.injEq] at h
  subst h
  have hgrammar := Rfc3339.mk hys hmos hds hsep hhs hmis hss hfrac hoff hvalid
    (by omega) (by omega) (by omega)
  simpa only [List.append_assoc, List.cons_append, List.append_nil] using hgrammar

/-- **The reader accepts exactly the grammar**, and keeps every field as written. -/
theorem parse?_eq_some_iff {cs : List Char} {t : Timestamp} : parse? cs = some t ↔ Rfc3339 cs t :=
  ⟨rfc3339_of_parse?, parse?_of_rfc3339⟩

/-- The reader rejects exactly the texts the grammar does not derive. -/
theorem parse?_eq_none_iff {cs : List Char} : parse? cs = none ↔ ∀ t, ¬ Rfc3339 cs t := by
  rw [Option.eq_none_iff_forall_ne_some]
  exact forall_congr' fun t => not_congr parse?_eq_some_iff

end Timestamp

end SpaceTeamSite.Calendar
