import SpaceTeamSite.Text.Escape

/-!
# Finding a tag in a page

A page is fixed markup with escaped text spliced in. Escaped text holds no `<`, so an
opener, a piece of markup that starts with `<` such as `<article class="card"`, can
only begin in the fixed markup. Counting the openers of a page comes down to counting
them in its fixed pieces, as long as no piece ends in a cut-off opener that the next
piece could complete.

`occurrences w s` counts the places where `w` begins in `s`, and `endsOpen w s` says
that `s` ends in a proper beginning of `w`. An opener's count adds up across a cut after
text that does not end open. `Holds ws f s` says that `s` holds `f w` of each opener `w`
of `ws` and ends in the beginning of none, so that the counts of pieces add up; text is
`Quiet` when it holds none of them. Escaped text is quiet.
-/

namespace SpaceTeamSite.Text

/-- The number of places where `w` begins in `s`. -/
def occurrences (w : List Char) : List Char → Nat
  | [] => 0
  | c :: cs => (if w.isPrefixOf (c :: cs) then 1 else 0) + occurrences w cs

/-- Whether `s` ends in a proper, non-empty beginning of `w`: an occurrence of `w` could
then start in `s` and end after it. -/
def endsOpen (w : List Char) : List Char → Bool
  | [] => false
  | c :: cs => ((c :: cs).isPrefixOf w && (c :: cs).length < w.length) || endsOpen w cs

variable {w : List Char}

theorem endsOpen_cons_eq_false {c : Char} {cs : List Char} :
    endsOpen w (c :: cs) = false ↔
      ¬ (c :: cs <+: w ∧ (c :: cs).length < w.length) ∧ endsOpen w cs = false := by
  simp [endsOpen]

/-- An occurrence that starts inside text ending closed lies inside it. -/
theorem prefix_append_iff_of_closed {c : Char} {cs b : List Char}
    (h : ¬ (c :: cs <+: w ∧ (c :: cs).length < w.length)) :
    w <+: c :: cs ++ b ↔ w <+: c :: cs := by
  constructor
  · intro hw
    rcases List.prefix_or_prefix_of_prefix hw (List.prefix_append (c :: cs) b) with hp | hp
    · exact hp
    · -- `c :: cs` is a beginning of `w`; being closed, it is all of `w`
      have hlen : w.length ≤ (c :: cs).length := Nat.le_of_not_lt fun hl => h ⟨hp, hl⟩
      simp [hp.eq_of_length_le hlen]
  · exact fun hp => hp.trans (List.prefix_append _ _)

/-- **Counts add up across a cut after text that does not end open.** -/
theorem occurrences_append {a : List Char} (b : List Char) (ha : endsOpen w a = false) :
    occurrences w (a ++ b) = occurrences w a + occurrences w b := by
  induction a with
  | nil => simp [occurrences]
  | cons c cs ih =>
    obtain ⟨hclosed, hcs⟩ := endsOpen_cons_eq_false.mp ha
    -- an occurrence at the head cannot reach past the closed `c :: cs` into `b`
    have hhead : w.isPrefixOf (c :: cs ++ b) = w.isPrefixOf (c :: cs) := by
      rw [Bool.eq_iff_iff, List.isPrefixOf_iff_prefix, List.isPrefixOf_iff_prefix]
      exact prefix_append_iff_of_closed hclosed
    simp only [List.cons_append, occurrences] at hhead ⊢
    rw [hhead, ih hcs, Nat.add_assoc]

/-- Text ending closed followed by text ending closed ends closed. -/
theorem endsOpen_append {a b : List Char} (ha : endsOpen w a = false)
    (hb : endsOpen w b = false) : endsOpen w (a ++ b) = false := by
  induction a with
  | nil => exact hb
  | cons c cs ih =>
    obtain ⟨hclosed, hcs⟩ := endsOpen_cons_eq_false.mp ha
    rw [List.cons_append, endsOpen_cons_eq_false]
    refine ⟨fun ⟨hp, hl⟩ => hclosed ⟨(List.prefix_append (c :: cs) b).trans hp, ?_⟩,
      ih hcs⟩
    have := (List.prefix_append (c :: cs) b).length_le
    simp only [List.length_cons, List.length_append, List.cons_append] at hl this ⊢
    omega

/-- Text that ends open still does after anything is put in front of it. -/
theorem endsOpen_append_right (a : List Char) {b : List Char} (hb : endsOpen w b = true) :
    endsOpen w (a ++ b) = true := by
  induction a with
  | nil => exact hb
  | cons c cs ih => simp [endsOpen, ih]

/-! ## Text without `<` -/

section Opener

variable {o : List Char}

/-- An opener neither begins in nor is cut off by text without `<`. -/
theorem occurrences_eq_zero_of_not_mem {s : List Char} (hs : '<' ∉ s) :
    occurrences ('<' :: o) s = 0 ∧ endsOpen ('<' :: o) s = false := by
  induction s with
  | nil => exact ⟨rfl, rfl⟩
  | cons c cs ih =>
    have hc : c ≠ '<' := fun h => hs (h ▸ List.mem_cons_self)
    obtain ⟨h1, h2⟩ := ih fun h => hs (List.mem_cons_of_mem c h)
    simp [occurrences, endsOpen, List.isPrefixOf, hc, h1, h2, Ne.symm hc]

end Opener

/-- A character reference holds no `<`. -/
theorem lt_not_mem_reference {c : Char} {r : String} (h : reference? c = some r) :
    '<' ∉ r.toList := by
  unfold reference? at h
  split at h
  all_goals cases h
  all_goals decide

/-- Escaped text holds no `<`. -/
theorem lt_not_mem_escapeList (l : List Char) : '<' ∉ escapeList l := by
  induction l with
  | nil => simp [escapeList]
  | cons c cs ih =>
    simp only [escapeList]
    cases hr : reference? c with
    | some r => simpa using ⟨lt_not_mem_reference hr, ih⟩
    | none =>
      have hc : c ≠ '<' := by rintro rfl; simp [reference?] at hr
      simpa [Ne.symm hc] using ih

/-! ## Counting across pieces -/

/-- Text that holds `f w` occurrences of each opener `w` of `ws` and ends in the
beginning of none. -/
def Holds (ws : List (List Char)) (f : List Char → Nat) (s : String) : Prop :=
  ∀ w ∈ ws, occurrences w s.toList = f w ∧ endsOpen w s.toList = false

instance (ws : List (List Char)) (f : List Char → Nat) (s : String) : Decidable (Holds ws f s) :=
  inferInstanceAs (Decidable (∀ w ∈ ws, _))

variable {ws : List (List Char)} {f g : List Char → Nat}

/-- Counts add up across pieces. -/
theorem Holds.append {a b : String} (ha : Holds ws f a) (hb : Holds ws g b) :
    Holds ws (fun w => f w + g w) (a ++ b) := by
  intro w hw
  obtain ⟨ha1, ha2⟩ := ha w hw
  obtain ⟨hb1, hb2⟩ := hb w hw
  rw [String.toList_append, occurrences_append _ ha2, ha1, hb1]
  exact ⟨rfl, endsOpen_append ha2 hb2⟩

/-- The characters of text given as a list of characters; with `rfl` for `h`, a literal's
characters without decoding it. -/
theorem toList_of_eq_ofList {s : String} {l : List Char} (h : s = String.ofList l) :
    s.toList = l := by
  rw [h, String.toList_ofList]

/-- Fixed text holds the counts its characters show. -/
theorem Holds.of_chars {s : String} {l : List Char} (h : s = String.ofList l)
    (hl : ∀ w ∈ ws, occurrences w l = f w ∧ endsOpen w l = false) : Holds ws f s := by
  subst h
  simpa only [Holds, String.toList_ofList] using hl

/-! ## Quiet text -/

/-- Text that holds none of the openers `ws` and ends in the beginning of none. -/
def Quiet (ws : List (List Char)) (s : String) : Prop :=
  ∀ w ∈ ws, occurrences w s.toList = 0 ∧ endsOpen w s.toList = false

instance (ws : List (List Char)) (s : String) : Decidable (Quiet ws s) :=
  inferInstanceAs (Decidable (∀ w ∈ ws, _))

theorem Quiet.holds {s : String} (h : Quiet ws s) : Holds ws (fun _ => 0) s := h

theorem Quiet.append {a b : String} (ha : Quiet ws a) (hb : Quiet ws b) : Quiet ws (a ++ b) :=
  ha.holds.append hb.holds

theorem quiet_empty : Quiet ws "" := fun _ _ => ⟨rfl, rfl⟩

theorem Quiet.join {xs : List String} (h : ∀ x ∈ xs, Quiet ws x) :
    Quiet ws (String.join xs) := by
  induction xs with
  | nil => exact quiet_empty
  | cons x rest ih =>
    rw [String.join_cons]
    exact (h x List.mem_cons_self).append (ih fun y hy => h y (List.mem_cons_of_mem x hy))

/-- Escaped text is quiet for openers that start with `<`. -/
theorem quiet_escape (hws : ∀ w ∈ ws, ∃ o, w = '<' :: o) (s : String) :
    Quiet ws (escape s) := by
  intro w hw
  obtain ⟨o, rfl⟩ := hws w hw
  simpa [escape] using occurrences_eq_zero_of_not_mem (o := o) (lt_not_mem_escapeList s.toList)

/-- After quiet text, the rest is quiet exactly when the whole is. -/
theorem quiet_append_iff {a : String} (ha : Quiet ws a) (b : String) :
    Quiet ws (a ++ b) ↔ Quiet ws b := by
  refine ⟨fun hab w hw => ⟨?_, ?_⟩, ha.append⟩
  · have := (hab w hw).1
    rwa [String.toList_append, occurrences_append _ (ha w hw).2, (ha w hw).1, Nat.zero_add] at this
  · -- an opener cut off at the end of `b` stays cut off with `a` in front
    cases hb : endsOpen w b.toList with
    | false => rfl
    | true =>
      have := (hab w hw).2
      rw [String.toList_append, endsOpen_append_right _ hb] at this
      exact this

/-- The check of `Quiet` on a list of characters, for text given by its characters. -/
def quietChars (ws : List (List Char)) (l : List Char) : Bool :=
  ws.all fun w => occurrences w l == 0 && !endsOpen w l

/-- Fixed text is quiet when its characters pass the check. The characters come from
the literal by `rfl`, so that the check runs on a list and never decodes the text. -/
theorem Quiet.of_chars {s : String} {l : List Char} (h : s = String.ofList l)
    (hl : quietChars ws l = true) : Quiet ws s := by
  refine Holds.of_chars h fun w hw => ?_
  simp only [quietChars, List.all_eq_true, Bool.and_eq_true, beq_iff_eq, Bool.not_eq_eq_eq_not,
    Bool.not_true] at hl
  exact hl w hw

theorem Holds.quiet_append {a b : String} (ha : Quiet ws a) (hb : Holds ws f b) :
    Holds ws f (a ++ b) := by
  simpa using ha.holds.append hb

theorem Holds.append_quiet {a b : String} (ha : Holds ws f a) (hb : Quiet ws b) :
    Holds ws f (a ++ b) := by
  simpa using ha.append hb.holds

/-- Pieces that each hold the same counts. -/
theorem Holds.join {xs : List String} (h : ∀ x ∈ xs, Holds ws f x) :
    Holds ws (fun w => xs.length * f w) (String.join xs) := by
  induction xs with
  | nil => exact fun _ _ => ⟨by simp [occurrences], rfl⟩
  | cons x rest ih =>
    rw [String.join_cons]
    have hall := (h x List.mem_cons_self).append (ih fun y hy => h y (List.mem_cons_of_mem x hy))
    refine fun w hw => ⟨?_, (hall w hw).2⟩
    rw [(hall w hw).1, List.length_cons]
    show f w + rest.length * f w = (rest.length + 1) * f w
    rw [Nat.succ_mul, Nat.add_comm]

end SpaceTeamSite.Text
