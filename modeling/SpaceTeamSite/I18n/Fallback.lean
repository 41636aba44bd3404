/-!
# The first present value

A displayed value often has several optional sources, tried in order. A source
counts only when it is there and not empty; the caller supplies the placeholder
for the case that none counts.
-/

namespace SpaceTeamSite

/-- The first candidate that is present and not empty. -/
def firstPresent : List (Option String) → Option String
  | [] => none
  | none :: rest => firstPresent rest
  | some s :: rest => if s.isEmpty then firstPresent rest else some s

@[simp] theorem firstPresent_nil : firstPresent [] = none := rfl

@[simp] theorem firstPresent_none (rest : List (Option String)) :
    firstPresent (none :: rest) = firstPresent rest := rfl

theorem firstPresent_some_empty (rest : List (Option String)) :
    firstPresent (some "" :: rest) = firstPresent rest := rfl

theorem firstPresent_some_of_ne {s : String} (h : s ≠ "") (rest : List (Option String)) :
    firstPresent (some s :: rest) = some s := by
  simp [firstPresent, String.isEmpty_iff, h]

/-- A single candidate is shown exactly when it is there and not empty. -/
theorem firstPresent_singleton_eq_some {o : Option String} {t : String} :
    firstPresent [o] = some t ↔ o = some t ∧ t ≠ "" := by
  cases o with
  | none => simp
  | some u =>
    by_cases he : u = ""
    · subst he
      simp only [firstPresent_some_empty, firstPresent_nil, reduceCtorEq, false_iff,
        Option.some.injEq, not_and, ne_eq, Decidable.not_not]
      exact fun h => h.symm
    · rw [firstPresent_some_of_ne he, Option.some.injEq]
      constructor
      · rintro rfl; exact ⟨rfl, he⟩
      · exact And.left

/-- What `firstPresent` returns is one of the candidates, and not empty. -/
theorem firstPresent_eq_some {cs : List (Option String)} {s : String}
    (h : firstPresent cs = some s) : some s ∈ cs ∧ s ≠ "" := by
  induction cs with
  | nil => simp at h
  | cons c rest ih =>
    cases c with
    | none =>
      obtain ⟨hm, hne⟩ := ih h
      exact ⟨List.mem_cons_of_mem _ hm, hne⟩
    | some t =>
      by_cases ht : t = ""
      · subst ht
        obtain ⟨hm, hne⟩ := ih h
        exact ⟨List.mem_cons_of_mem _ hm, hne⟩
      · rw [firstPresent_some_of_ne ht] at h
        cases h
        exact ⟨List.mem_cons_self, ht⟩

end SpaceTeamSite
