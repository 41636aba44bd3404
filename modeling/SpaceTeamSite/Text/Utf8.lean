/-!
# Decoding UTF-8 with replacement

Bytes that are not valid UTF-8 decode to U+FFFD: one replacement character for each
maximal part of a sequence that a valid sequence could start with, and one for each
byte that cannot start a sequence at all. Valid sequences are the shortest encodings of
Unicode scalar values, so overlong forms, surrogates and values past U+10FFFF are all
invalid.
-/

namespace SpaceTeamSite.Text

/-- The ranges the continuation bytes after a lead byte must lie in, or `none` for a
byte that starts no sequence. -/
def continuationRanges (b : UInt8) : Option (List (UInt8 × UInt8)) :=
  let any : UInt8 × UInt8 := (0x80, 0xBF)
  if b < 0x80 then some []
  else if 0xC2 ≤ b ∧ b ≤ 0xDF then some [any]
  else if b = 0xE0 then some [(0xA0, 0xBF), any]
  else if (0xE1 ≤ b ∧ b ≤ 0xEC) ∨ b = 0xEE ∨ b = 0xEF then some [any, any]
  else if b = 0xED then some [(0x80, 0x9F), any]
  else if b = 0xF0 then some [(0x90, 0xBF), any, any]
  else if 0xF1 ≤ b ∧ b ≤ 0xF3 then some [any, any, any]
  else if b = 0xF4 then some [(0x80, 0x8F), any, any]
  else none

/-- Takes continuation bytes while each lies in its range: the bytes taken, whether
every range was met, and the rest. -/
def takeContinuations : List (UInt8 × UInt8) → List UInt8 → List UInt8 × Bool × List UInt8
  | [], bs => ([], true, bs)
  | (lo, hi) :: rs, b :: bs =>
    if lo ≤ b ∧ b ≤ hi then
      let r := takeContinuations rs bs
      (b :: r.1, r.2.1, r.2.2)
    else ([], false, b :: bs)
  | _ :: _, [] => ([], false, [])

theorem takeContinuations_rest_length (rs : List (UInt8 × UInt8)) (bs : List UInt8) :
    (takeContinuations rs bs).2.2.length ≤ bs.length := by
  induction rs generalizing bs with
  | nil => simp [takeContinuations]
  | cons r rs ih =>
    cases bs with
    | nil => simp [takeContinuations]
    | cons b bs =>
      obtain ⟨lo, hi⟩ := r
      simp only [takeContinuations]
      split
      · have := ih bs; simp only [List.length_cons]; omega
      · exact Nat.le_refl _

/-- The scalar value of a lead byte and its continuation bytes. -/
def scalarOf (lead : UInt8) (cont : List UInt8) : Nat :=
  let first :=
    match cont.length with
    | 0 => lead.toNat
    | 1 => lead.toNat % 0x20
    | 2 => lead.toNat % 0x10
    | _ => lead.toNat % 0x08
  cont.foldl (fun acc c => acc * 64 + c.toNat % 0x40) first

/-- Decodes bytes as UTF-8, replacing invalid parts with U+FFFD. -/
def decodeLossy (bs : List UInt8) : List Char :=
  match bs with
  | [] => []
  | b :: rest =>
    match continuationRanges b with
    | none => '�' :: decodeLossy rest
    | some rs =>
      let r := takeContinuations rs rest
      have := takeContinuations_rest_length rs rest
      if r.2.1 then Char.ofNat (scalarOf b r.1) :: decodeLossy r.2.2
      else '�' :: decodeLossy r.2.2
termination_by bs.length
decreasing_by all_goals simp only [List.length_cons]; omega

end SpaceTeamSite.Text
