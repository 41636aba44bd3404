import SpaceTeamSite.Site.Params
import SpaceTeamSite.Proofs.EscapeDecoding

/-!
# Page links carry their parameters

A link to the page writes the page's parameters into its query, `?lang=L&width=W`, then
`&more=true` when the list is expanded, then the anchor after `#`, and escapes the whole
for an attribute value. Read back the way a browser reads it (references decoded, the
leading `?` and the fragment dropped, the query split at `&` into `name=value` pairs),
the link gives a page load exactly the parameters it was written from, whatever the
site's defaults (`ofLink_href`). The language comes back from its code, the width from
its digits, which the 32-bit reader takes back for every width it can hold, and the
expansion from the presence of `more=true`.

So the header's language links change the language and nothing else, and the list's
show-more and show-less links change only the expansion.
-/

namespace SpaceTeamSite.Site

open Text

/-! ## Reading a link back -/

/-- A `name=value` pair, split at its first `=`. -/
def splitPair (pair : List Char) : String × String :=
  (String.ofList (pair.takeWhile (· != '=')), String.ofList ((pair.dropWhile (· != '=')).drop 1))

/-- The query of a link as name and value pairs: references decoded, the leading `?` and
the fragment dropped, and the rest split at `&`. -/
def queryPairs (href : String) : List (String × String) :=
  let query := match unescapeList href.toList with
    | '?' :: rest => rest
    | rest => rest
  ((query.takeWhile (· != '#')).splitOn '&').map splitPair

/-- The parameters a page load reads from a link, under the site's defaults. -/
def ParamDefaults.ofLink (d : ParamDefaults) (href : String) : PageParams :=
  let pairs := queryPairs href
  d.params (pairs.lookup "lang") (pairs.lookup "width") (pairs.lookup "more")

/-! ## What a link writes -/

namespace PageParams

/-- The pairs a link's query holds, in order. -/
def pairs (p : PageParams) : List (String × String) :=
  [("lang", p.lang.code), ("width", toString p.width)] ++
    if p.expanded then [("more", "true")] else []

/-- The fragment a link ends with: none for an empty anchor. -/
def fragment (anchor : String) : List Char :=
  if anchor.isEmpty then [] else '#' :: anchor.toList

/-- A pair as a query writes it. -/
def pairText (pair : String × String) : List Char := pair.1.toList ++ '=' :: pair.2.toList

/-- Decoding the references of a link gives the query as written: the pairs joined by
`&` after a `?`, then the fragment. -/
theorem unescape_href (p : PageParams) (anchor : String) :
    unescapeList (p.href anchor).toList =
      '?' :: (['&'].intercalate (p.pairs.map pairText) ++ fragment anchor) := by
  rw [href, escape, String.toList_ofList, unescapeList_escapeList]
  cases he : p.expanded <;> by_cases ha : anchor.isEmpty <;>
    simp [he, ha, pairs, pairText, fragment, String.toList_append]

end PageParams

/-! ## Reading each piece -/

theorem splitPair_pairText {pair : String × String} (h : '=' ∉ pair.1.toList) :
    splitPair (PageParams.pairText pair) = pair := by
  have hname : ∀ c ∈ pair.1.toList, (c != '=') = true := by
    intro c hc
    simp only [bne_iff_ne, ne_eq]
    rintro rfl
    exact h hc
  simp [splitPair, PageParams.pairText, List.takeWhile_append_of_pos hname,
    List.dropWhile_append_of_pos hname]

/-- Digits are not blank. -/
theorem isBlank_of_isDigit {c : Char} (h : c.isDigit = true) : isBlank c = false := by
  have hc : 48 ≤ c.toNat ∧ c.toNat ≤ 57 := by
    simp only [Char.isDigit, Bool.and_eq_true, decide_eq_true_eq] at h
    exact ⟨h.1, h.2⟩
  simp only [isBlank, Bool.or_eq_false_iff, Bool.and_eq_false_iff, decide_eq_false_iff_not,
    Nat.not_le, beq_eq_false_iff_ne, ne_eq]
  omega

theorem dropWhile_isBlank_of_forall {cs : List Char} (h : ∀ c ∈ cs, isBlank c = false) :
    cs.dropWhile isBlank = cs := by
  cases cs with
  | nil => rfl
  | cons c rest => exact List.dropWhile_cons_of_neg (by simp [h c List.mem_cons_self])

/-- Trimming keeps a text with no blank in it. -/
theorem trimList_of_forall {cs : List Char} (h : ∀ c ∈ cs, isBlank c = false) : trimList cs = cs := by
  have hrev : ∀ c ∈ cs.reverse, isBlank c = false := fun c hc => h c (List.mem_reverse.mp hc)
  rw [trimList, trimLeft, dropWhile_isBlank_of_forall h, dropWhile_isBlank_of_forall hrev,
    List.reverse_reverse]

theorem digitsValue_eq_ofDigitChars (ds : List Char) : digitsValue ds = Nat.ofDigitChars 10 ds 0 := by
  simp only [digitsValue, Nat.ofDigitChars, Nat.mul_comm]

/-- The width reader takes back the decimal digits of every width it can hold. -/
theorem parseU32?_trim_toString {n : Nat} (hn : n ≤ u32Max) :
    parseU32? (trim (toString n)) = some n := by
  have hdigit : ∀ c ∈ Nat.toDigits 10 n, c.isDigit = true :=
    fun c hc => Nat.isDigit_of_mem_toDigits (by decide) (by decide) hc
  have htrim : trim (toString n) = String.ofList (Nat.toDigits 10 n) := by
    rw [trim, Nat.toString_eq_ofList_toDigits, String.toList_ofList,
      trimList_of_forall fun c hc => isBlank_of_isDigit (hdigit c hc)]
  have hread : parseU32?.u32Digits? (Nat.toDigits 10 n) = some n := by
    have hvalue : digitsValue (Nat.toDigits 10 n) = n := by
      rw [digitsValue_eq_ofDigitChars, Nat.ofDigitChars_ten_toDigits]
    simp [parseU32?.u32Digits?, List.all_eq_true.mpr hdigit, Nat.toDigits_ne_nil, hvalue, hn]
  rw [htrim, parseU32?, String.toList_ofList]
  split
  · -- the first digit is no sign
    next rest hsign => exact absurd (hdigit '+' (hsign ▸ List.mem_cons_self)) (by decide)
  · exact hread

/-! ## The round trip -/

/-- A link's query holds exactly the pairs it was written with. -/
theorem queryPairs_href (p : PageParams) (anchor : String) :
    queryPairs (p.href anchor) = p.pairs := by
  have hdigits : ∀ c ∈ Nat.toDigits 10 p.width, c.isDigit = true :=
    fun c hc => Nat.isDigit_of_mem_toDigits (by decide) (by decide) hc
  have hamp : '&' ∉ Nat.toDigits 10 p.width := fun h => absurd (hdigits '&' h) (by decide)
  have hhash : '#' ∉ Nat.toDigits 10 p.width := fun h => absurd (hdigits '#' h) (by decide)
  -- no name holds `=`, and no pair `&` or `#`
  have hpairs : ∀ pair ∈ p.pairs, '=' ∉ pair.1.toList ∧ '&' ∉ PageParams.pairText pair := by
    cases hl : p.lang <;> cases he : p.expanded <;>
      simp [PageParams.pairs, PageParams.pairText, Language.code, hl, he, hamp]
  have hquery : ∀ c ∈ ['&'].intercalate (p.pairs.map PageParams.pairText), (c != '#') = true := by
    have hnot : '#' ∉ ['&'].intercalate (p.pairs.map PageParams.pairText) := by
      cases hl : p.lang <;> cases he : p.expanded <;>
        simp [PageParams.pairs, PageParams.pairText, Language.code, hl, he, hhash]
    intro c hc
    simp only [bne_iff_ne, ne_eq]
    rintro rfl
    exact hnot hc
  have htake : (['&'].intercalate (p.pairs.map PageParams.pairText) ++
      PageParams.fragment anchor).takeWhile (· != '#') =
      ['&'].intercalate (p.pairs.map PageParams.pairText) := by
    rw [List.takeWhile_append_of_pos hquery]
    unfold PageParams.fragment
    split <;> simp
  have hsplit : (['&'].intercalate (p.pairs.map PageParams.pairText)).splitOn '&' =
      p.pairs.map PageParams.pairText :=
    List.splitOn_intercalate '&' (fun l hl => by
      obtain ⟨pair, hp, rfl⟩ := List.mem_map.mp hl
      exact (hpairs pair hp).2) (by simp [PageParams.pairs])
  simp only [queryPairs, PageParams.unescape_href, htake, hsplit, List.map_map]
  calc p.pairs.map (splitPair ∘ PageParams.pairText)
      = p.pairs.map id := List.map_congr_left fun pair hp => splitPair_pairText (hpairs pair hp).1
    _ = p.pairs := List.map_id _

/-- The values a link's query gives the three names the page reads. -/
theorem lookup_pairs (p : PageParams) :
    p.pairs.lookup "lang" = some p.lang.code ∧ p.pairs.lookup "width" = some (toString p.width) ∧
      p.pairs.lookup "more" = if p.expanded then some "true" else none := by
  have hwl : ("width" == "lang") = false := by decide
  have hml : ("more" == "lang") = false := by decide
  have hmw : ("more" == "width") = false := by decide
  cases he : p.expanded <;> simp [PageParams.pairs, List.lookup_cons, he, hwl, hml, hmw]

/-- A link read under any defaults gives the parameters it was written from. -/
theorem ofLink_href (d : ParamDefaults) {p : PageParams} (hw : p.width ≤ u32Max)
    (anchor : String) : d.ofLink (p.href anchor) = p := by
  obtain ⟨hlang, hwidth, hmore⟩ := lookup_pairs p
  simp only [ParamDefaults.ofLink, queryPairs_href, hlang, hwidth, hmore, ParamDefaults.params,
    Option.bind_some, Language.parse_code, Except.toOption, parseU32?_trim_toString hw,
    Option.getD_some]
  cases p with
  | mk lang width expanded => cases expanded <;> rfl

/-- **Page links read back.** Under any defaults, a link to the page gives back the
parameters it was written from, whatever its anchor. So a language link of the header
gives the page's parameters with only the language changed, and the list's show-more or
show-less link gives them with only the expansion changed. -/
theorem page_links_read_back (d : ParamDefaults) (p : PageParams) (hw : p.width ≤ u32Max) :
    (∀ anchor, d.ofLink (p.href anchor) = p) ∧
      (∀ l, d.ofLink ((p.withLang l).href "") = { p with lang := l }) ∧
      ∀ b, d.ofLink ((p.withExpanded b).href "launches") = { p with expanded := b } :=
  ⟨ofLink_href d hw, fun l => ofLink_href d (p := p.withLang l) hw "",
    fun b => ofLink_href d (p := p.withExpanded b) hw "launches"⟩

/-- The widest page, expanded and in English, read under Turkish defaults. -/
theorem widest_english_links_read_back :
    (4294967295 : Nat) ≤ u32Max ∧
      (∀ anchor, ParamDefaults.ofLink ⟨.turkish, 1280⟩ (PageParams.href ⟨.english, 4294967295, true⟩ anchor) =
        ⟨.english, 4294967295, true⟩) ∧
      (∀ l, ParamDefaults.ofLink ⟨.turkish, 1280⟩
        ((PageParams.withLang ⟨.english, 4294967295, true⟩ l).href "") = ⟨l, 4294967295, true⟩) ∧
      ∀ b, ParamDefaults.ofLink ⟨.turkish, 1280⟩
        ((PageParams.withExpanded ⟨.english, 4294967295, true⟩ b).href "launches") =
          ⟨.english, 4294967295, b⟩ :=
  ⟨by decide, page_links_read_back ⟨.turkish, 1280⟩ ⟨.english, 4294967295, true⟩ (by decide)⟩

end SpaceTeamSite.Site
