import SpaceTeamSite.Text.Escape

/-!
# Escaped text decodes back

Escaping writes `&`, `<`, `>` and `"` as the references `&amp;`, `&lt;`, `&gt;` and
`&quot;` and keeps every other character. What it writes holds no angle bracket and no
double quote, and every ampersand in it starts one of the four references. So one
left-to-right pass that decodes the references gives the text back (`unescape_escape`):
escaping loses nothing, and two texts never escape alike.

Escaping is written as four whole-text replacements, the ampersand first. That order is
what makes it the per-character map: the first replacement's `&amp;` holds none of the
three later characters, while the later references bring ampersands of their own, which a
replacement of `&` run after them would write a second time (`&amp;lt;`).
-/

namespace SpaceTeamSite.Text

/-! ## One character at a time -/

/-- What escaping writes for one character. -/
def escapeOne (c : Char) : List Char :=
  match reference? c with
  | some r => r.toList
  | none => [c]

theorem escapeList_eq_flatMap (l : List Char) : escapeList l = l.flatMap escapeOne := by
  induction l with
  | nil => rfl
  | cons c cs ih =>
    rw [List.flatMap_cons, ← ih, escapeList, escapeOne]
    cases reference? c <;> rfl

theorem escape_toList (s : String) : (escape s).toList = s.toList.flatMap escapeOne := by
  rw [escape, String.toList_ofList, escapeList_eq_flatMap]

/-- The four characters that have a reference, and all the others, which stand for
themselves. -/
theorem escapeOne_cases (c : Char) :
    c = '&' ∧ escapeOne c = ['&', 'a', 'm', 'p', ';'] ∨
      c = '<' ∧ escapeOne c = ['&', 'l', 't', ';'] ∨ c = '>' ∧ escapeOne c = ['&', 'g', 't', ';'] ∨
      c = '"' ∧ escapeOne c = ['&', 'q', 'u', 'o', 't', ';'] ∨
      c ≠ '&' ∧ c ≠ '<' ∧ c ≠ '>' ∧ c ≠ '"' ∧ escapeOne c = [c] := by
  by_cases h1 : c = '&'
  · subst h1; exact .inl ⟨rfl, rfl⟩
  by_cases h2 : c = '<'
  · subst h2; exact .inr (.inl ⟨rfl, rfl⟩)
  by_cases h3 : c = '>'
  · subst h3; exact .inr (.inr (.inl ⟨rfl, rfl⟩))
  by_cases h4 : c = '"'
  · subst h4; exact .inr (.inr (.inr (.inl ⟨rfl, rfl⟩)))
  refine .inr (.inr (.inr (.inr ⟨h1, h2, h3, h4, ?_⟩)))
  simp [escapeOne, reference?]

/-- The per-character map, written out. -/
theorem escapeOne_eq (c : Char) :
    escapeOne c = if c = '&' then "&amp;".toList else if c = '<' then "&lt;".toList
      else if c = '>' then "&gt;".toList else if c = '"' then "&quot;".toList else [c] := by
  rcases escapeOne_cases c with ⟨rfl, h⟩ | ⟨rfl, h⟩ | ⟨rfl, h⟩ | ⟨rfl, h⟩ | ⟨h1, h2, h3, h4, h⟩
  all_goals simp_all

/-! ## What escaped text holds -/

/-- No angle bracket and no double quote is written for any character. -/
theorem markup_not_mem_escapeOne (c : Char) :
    '<' ∉ escapeOne c ∧ '>' ∉ escapeOne c ∧ '"' ∉ escapeOne c := by
  rcases escapeOne_cases c with ⟨-, h⟩ | ⟨-, h⟩ | ⟨-, h⟩ | ⟨-, h⟩ | ⟨-, h2, h3, h4, h⟩
  all_goals rw [h]
  all_goals first | decide | simp [Ne.symm h2, Ne.symm h3, Ne.symm h4]

theorem markup_not_mem_escape (s : String) :
    '<' ∉ (escape s).toList ∧ '>' ∉ (escape s).toList ∧ '"' ∉ (escape s).toList := by
  simp only [escape_toList, List.mem_flatMap, not_exists, not_and]
  exact ⟨fun c _ => (markup_not_mem_escapeOne c).1, fun c _ => (markup_not_mem_escapeOne c).2.1,
    fun c _ => (markup_not_mem_escapeOne c).2.2⟩

/-- The names that follow the ampersand of the four references. -/
def referenceNames : List (List Char) :=
  [['a', 'm', 'p', ';'], ['l', 't', ';'], ['g', 't', ';'], ['q', 'u', 'o', 't', ';']]

/-- An ampersand written for one character is the first character it writes, and a
reference's name follows it. -/
theorem escapeOne_eq_amp {c : Char} {pre rest : List Char}
    (h : escapeOne c = pre ++ '&' :: rest) : pre = [] ∧ rest ∈ referenceNames := by
  -- the name of a reference holds no second ampersand, so the one found is the first
  have first : ∀ name ∈ referenceNames, '&' :: name = pre ++ '&' :: rest →
      pre = [] ∧ rest ∈ referenceNames := by
    intro name hname heq
    cases pre with
    | nil => simp only [List.nil_append, List.cons.injEq, true_and] at heq; exact ⟨rfl, heq ▸ hname⟩
    | cons x pre =>
      simp only [List.cons_append, List.cons.injEq] at heq
      have hmem : '&' ∈ name := heq.2 ▸ List.mem_append_right pre List.mem_cons_self
      simp only [referenceNames, List.mem_cons, List.not_mem_nil, or_false] at hname
      rcases hname with rfl | rfl | rfl | rfl <;> exact absurd hmem (by decide)
  rcases escapeOne_cases c with ⟨-, he⟩ | ⟨-, he⟩ | ⟨-, he⟩ | ⟨-, he⟩ | ⟨h1, -, -, -, he⟩
  · exact first _ (by simp [referenceNames]) (he ▸ h)
  · exact first _ (by simp [referenceNames]) (he ▸ h)
  · exact first _ (by simp [referenceNames]) (he ▸ h)
  · exact first _ (by simp [referenceNames]) (he ▸ h)
  · rw [he] at h
    cases pre with
    | nil => exact absurd (List.cons.inj h).1 h1
    | cons x pre => simp at h

/-- Every ampersand of an escaped text starts a reference. -/
theorem amp_starts_reference (l : List Char) :
    ∀ pre post, escapeList l = pre ++ '&' :: post → ∃ name ∈ referenceNames, name <+: post := by
  rw [escapeList_eq_flatMap]
  induction l with
  | nil => intro pre post h; simp at h
  | cons c cs ih =>
    intro pre post h
    rw [List.flatMap_cons] at h
    -- the ampersand lies in what `c` wrote, or further on
    rcases List.append_eq_append_iff.mp h with ⟨mid, -, hrest⟩ | ⟨mid, hc, hpost⟩
    · exact ih mid post hrest
    · cases mid with
      | nil => exact ih [] post (by simpa using hpost.symm)
      | cons x name =>
        simp only [List.cons_append, List.cons.injEq] at hpost
        obtain ⟨rfl, rfl⟩ := hpost
        exact ⟨name, (escapeOne_eq_amp hc).2, List.prefix_append name _⟩

/-! ## Decoding -/

/-- Decodes the four references in one left-to-right pass; every other character, a
lone ampersand included, is kept. -/
def unescapeList : List Char → List Char
  | '&' :: 'a' :: 'm' :: 'p' :: ';' :: rest => '&' :: unescapeList rest
  | '&' :: 'l' :: 't' :: ';' :: rest => '<' :: unescapeList rest
  | '&' :: 'g' :: 't' :: ';' :: rest => '>' :: unescapeList rest
  | '&' :: 'q' :: 'u' :: 'o' :: 't' :: ';' :: rest => '"' :: unescapeList rest
  | c :: rest => c :: unescapeList rest
  | [] => []

/-- Decodes the character references of an escaped text. -/
def unescape (s : String) : String := String.ofList (unescapeList s.toList)

theorem unescapeList_cons_of_ne {c : Char} (h : c ≠ '&') (rest : List Char) :
    unescapeList (c :: rest) = c :: unescapeList rest := by
  rw [unescapeList.eq_def]
  split <;> simp_all

theorem unescapeList_escapeOne (c : Char) (rest : List Char) :
    unescapeList (escapeOne c ++ rest) = c :: unescapeList rest := by
  rcases escapeOne_cases c with ⟨rfl, h⟩ | ⟨rfl, h⟩ | ⟨rfl, h⟩ | ⟨rfl, h⟩ | ⟨h1, -, -, -, h⟩
  all_goals rw [h]
  any_goals rfl
  exact unescapeList_cons_of_ne h1 rest

theorem unescapeList_escapeList (l : List Char) : unescapeList (escapeList l) = l := by
  rw [escapeList_eq_flatMap]
  induction l with
  | nil => rfl
  | cons c cs ih => rw [List.flatMap_cons, unescapeList_escapeOne, ih]

/-- Decoding gives the escaped text back. -/
theorem unescape_escape (s : String) : unescape (escape s) = s := by
  rw [unescape, escape, String.toList_ofList, unescapeList_escapeList, String.ofList_toList]

theorem escape_injective : Function.Injective escape := fun s t h => by
  rw [← unescape_escape s, h, unescape_escape]

/-! ## Escaping as four replacements -/

/-- Every `c` replaced by `r` and every other character kept, as a whole-text
replacement of a character does. -/
def replaceChar (c : Char) (r l : List Char) : List Char :=
  l.flatMap fun d => if d = c then r else [d]

/-- A text with every `c` replaced by `r`. -/
def replaceAll (s : String) (c : Char) (r : String) : String :=
  String.ofList (replaceChar c r.toList s.toList)

theorem replaceChar_append (c : Char) (r a b : List Char) :
    replaceChar c r (a ++ b) = replaceChar c r a ++ replaceChar c r b := by
  simp only [replaceChar, List.flatMap_append]

/-- The four replacements, ampersand first, on one character. -/
theorem replacements_one (c : Char) :
    replaceChar '"' "&quot;".toList (replaceChar '>' "&gt;".toList
      (replaceChar '<' "&lt;".toList (replaceChar '&' "&amp;".toList [c]))) = escapeOne c := by
  -- the references as characters, so that the four cases below are decided on short lists
  have hamp : "&amp;".toList = ['&', 'a', 'm', 'p', ';'] := by simp
  have hlt : "&lt;".toList = ['&', 'l', 't', ';'] := by simp
  have hgt : "&gt;".toList = ['&', 'g', 't', ';'] := by simp
  have hquot : "&quot;".toList = ['&', 'q', 'u', 'o', 't', ';'] := by simp
  rw [hamp, hlt, hgt, hquot]
  rcases escapeOne_cases c with ⟨rfl, h⟩ | ⟨rfl, h⟩ | ⟨rfl, h⟩ | ⟨rfl, h⟩ | ⟨h1, h2, h3, h4, h⟩
  all_goals rw [h]
  any_goals decide
  simp [replaceChar, h1, h2, h3, h4]

theorem replacements_eq_flatMap (l : List Char) :
    replaceChar '"' "&quot;".toList (replaceChar '>' "&gt;".toList
      (replaceChar '<' "&lt;".toList (replaceChar '&' "&amp;".toList l))) = l.flatMap escapeOne := by
  induction l with
  | nil => rfl
  | cons c cs ih =>
    rw [← List.singleton_append, replaceChar_append, replaceChar_append, replaceChar_append,
      replaceChar_append, replacements_one, ih, List.singleton_append, List.flatMap_cons]

/-- The four whole-text replacements, ampersand first, are the per-character map. -/
theorem escape_eq_replacements (s : String) :
    escape s = replaceAll (replaceAll (replaceAll (replaceAll s '&' "&amp;") '<' "&lt;") '>' "&gt;")
      '"' "&quot;" := by
  simp only [replaceAll, String.toList_ofList]
  rw [escape, escapeList_eq_flatMap, replacements_eq_flatMap]

/-- **Escaped text is unambiguous.** It holds no angle bracket and no double quote, every
ampersand in it starts one of the four references, and one decoding pass gives the text
back, so no two texts escape alike. Escaping is the per-character map, which the four
whole-text replacements, ampersand first, compute. -/
theorem escape_decodes_back :
    Function.Injective escape ∧ ∀ s : String,
      ('<' ∉ (escape s).toList ∧ '>' ∉ (escape s).toList ∧ '"' ∉ (escape s).toList) ∧
      (∀ pre post, (escape s).toList = pre ++ '&' :: post →
        ∃ name ∈ referenceNames, name <+: post) ∧
      unescape (escape s) = s ∧
      (escape s).toList = s.toList.flatMap (fun c =>
        if c = '&' then "&amp;".toList else if c = '<' then "&lt;".toList
        else if c = '>' then "&gt;".toList else if c = '"' then "&quot;".toList else [c]) ∧
      escape s = replaceAll (replaceAll (replaceAll (replaceAll s '&' "&amp;") '<' "&lt;") '>'
        "&gt;") '"' "&quot;" := by
  refine ⟨escape_injective, fun s => ⟨markup_not_mem_escape s, ?_, unescape_escape s, ?_,
    escape_eq_replacements s⟩⟩
  · rw [escape, String.toList_ofList]
    exact amp_starts_reference s.toList
  · rw [escape_toList]
    exact congrArg s.toList.flatMap (funext escapeOne_eq)

end SpaceTeamSite.Text
