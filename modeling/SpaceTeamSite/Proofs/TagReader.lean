import SpaceTeamSite.Text.Escape

/-!
# Reading the tags of a page

A reader of HTML sees a page as a sequence of tokens: start tags, end tags, and the
values of `id` attributes, in the order they stand. `Scan` is where the reader stands
in the markup, and `Scan.step` reads one character; `scan` reads a list of them. The
reader follows the shape of HTML's tokenizer for what a page can hold: character data,
start tags with attributes whose values are double-quoted, single-quoted or bare, end
tags, and declarations such as the doctype, which give no token.

`tagsOf` keeps the tags and drops the void elements `meta` and `img`, which have no end
tag; `idsOf` keeps the `id` values. Tags are `WellNested` when matching each end tag
against the innermost element still open (`closeAll`) closes every element.

The page is fixed markup with texts spliced in, so it is read piece by piece (`readOn`,
with `readOn_append`). Escaped text, and any text without `<` and `"`, is `Plain`: read in
character data or inside a double-quoted value it changes nothing (`readOn_plain`).
`Fragment before after ids x` says that `x` is read from character data back to
character data, takes the elements open before it to those open after it, and holds
the `id` values `ids`. Fragments join end to end (`Fragment.append`), and a fragment
can stand inside more open elements (`Fragment.lift`).
-/

namespace SpaceTeamSite.Text

/-- A tag as the reader sees it, by its name. -/
inductive Tag where
  | start (name : List Char)
  | stop (name : List Char)
  deriving DecidableEq, Repr

/-- What the reader takes from a page. -/
inductive Token where
  | tag (t : Tag)
  /-- The value of an `id` attribute. -/
  | id (value : List Char)
  deriving DecidableEq, Repr

/-- The blanks that separate a tag's parts: the ASCII space, tab, line feed, carriage
return and form feed. -/
def isAsciiBlank (c : Char) : Bool :=
  c == ' ' || c == '\t' || c == '\n' || c == '\r' || c == '\x0c'

/-- The attribute whose values are read. -/
def idName : List Char := ['i', 'd']

/-- Where the reader stands. An attribute's value is kept only for `id`; any other value
is skipped, so reading it leaves the state as it is. -/
inductive Scan where
  /-- In character data. -/
  | text
  /-- Just after a `<`. -/
  | tagOpen
  /-- In the name of a start tag, read so far. -/
  | startName (name : List Char)
  /-- In the name of an end tag, read so far. -/
  | endName (name : List Char)
  /-- After the name of an end tag, up to its `>`. -/
  | endRest
  /-- In a start tag, before an attribute. -/
  | attrs
  /-- In the name of an attribute, read so far. -/
  | attrName (name : List Char)
  /-- After the name of an attribute, before its `=` or the next attribute. -/
  | afterName (name : List Char)
  /-- After an attribute's `=`, before its value. -/
  | beforeValue (isId : Bool)
  /-- In a value quoted by `q`. -/
  | quoted (q : Char) (isId : Bool) (value : List Char)
  /-- In a value without quotes. -/
  | bare (isId : Bool) (value : List Char)
  /-- In a declaration or a comment, up to its `>`. -/
  | declaration
  deriving DecidableEq, Repr

namespace Scan

/-- A value read on by one character, kept only for an `id`. -/
def keep (isId : Bool) (value : List Char) (c : Char) : List Char :=
  if isId then value ++ [c] else value

/-- The token of a finished value: the value itself for an `id`. -/
def valueToken (isId : Bool) (value : List Char) : Option Token :=
  if isId then some (.id value) else none

/-- Reads one character: the next state, and the token it completes, if any. -/
def step : Scan → Char → Scan × Option Token
  | .text, c => (if c = '<' then .tagOpen else .text, none)
  | .tagOpen, c =>
    if c = '!' then (.declaration, none)
    else if c = '/' then (.endName [], none)
    else if c.isAlpha then (.startName [c], none)
    else if c = '<' then (.tagOpen, none)
    else (.text, none)
  | .startName n, c =>
    if c = '>' then (.text, some (.tag (.start n)))
    else if isAsciiBlank c || c == '/' then (.attrs, some (.tag (.start n)))
    else (.startName (n ++ [c]), none)
  | .endName n, c =>
    if c = '>' then (.text, some (.tag (.stop n)))
    else if isAsciiBlank c then (.endRest, some (.tag (.stop n)))
    else (.endName (n ++ [c]), none)
  | .endRest, c => (if c = '>' then .text else .endRest, none)
  | .attrs, c =>
    if c = '>' then (.text, none)
    else if isAsciiBlank c || c == '/' then (.attrs, none)
    else (.attrName [c], none)
  | .attrName n, c =>
    if c = '>' then (.text, none)
    else if c = '=' then (.beforeValue (n == idName), none)
    else if isAsciiBlank c then (.afterName n, none)
    else if c = '/' then (.attrs, none)
    else (.attrName (n ++ [c]), none)
  | .afterName n, c =>
    if c = '>' then (.text, none)
    else if c = '=' then (.beforeValue (n == idName), none)
    else if isAsciiBlank c then (.afterName n, none)
    else if c = '/' then (.attrs, none)
    else (.attrName [c], none)
  | .beforeValue isId, c =>
    if c = '"' || c = '\'' then (.quoted c isId [], none)
    else if isAsciiBlank c then (.beforeValue isId, none)
    else if c = '>' then (.text, none)
    else (.bare isId (keep isId [] c), none)
  | .quoted q isId v, c =>
    if c = q then (.attrs, valueToken isId v)
    else (.quoted q isId (keep isId v c), none)
  | .bare isId v, c =>
    if c = '>' then (.text, valueToken isId v)
    else if isAsciiBlank c then (.attrs, valueToken isId v)
    else (.bare isId (keep isId v c), none)
  | .declaration, c => (if c = '>' then .text else .declaration, none)

/-- The states in which text without `<` and `"` is read without effect: character data,
and the inside of a double-quoted value that is not an `id`. -/
def inert : Scan → Bool
  | .text => true
  | .quoted q isId v => q == '"' && !isId && v.isEmpty
  | _ => false

end Scan

/-- Reads a list of characters: where the reader ends, and the tokens in order. -/
def scan : Scan → List Char → Scan × List Token
  | s, [] => (s, [])
  | s, c :: cs =>
    let (s₁, t) := s.step c
    let (s₂, ts) := scan s₁ cs
    (s₂, t.toList ++ ts)

/-- Reads characters on from where the reader stands, the tokens read so far in hand. -/
def readOn (r : Scan × List Token) (l : List Char) : Scan × List Token :=
  let (s, ts) := scan r.1 l
  (s, r.2 ++ ts)

/-- The tokens of a page, read from its start. -/
def tokens (x : String) : List Token := (readOn (.text, []) x.toList).2

/-- The void elements that stand in a page: they have no end tag. -/
def voidElements : List (List Char) := [['m', 'e', 't', 'a'], ['i', 'm', 'g']]

/-- The tag of a token, but for the start of a void element. -/
def Token.tag? : Token → Option Tag
  | .tag (.start n) => if n ∈ voidElements then none else some (.start n)
  | .tag (.stop n) => some (.stop n)
  | .id _ => none

/-- The value of an `id` token. -/
def Token.id? : Token → Option (List Char)
  | .id v => some v
  | .tag _ => none

/-- The tags among tokens, void elements dropped. -/
def tagsOf (ts : List Token) : List Tag := ts.filterMap Token.tag?

/-- The `id` values among tokens. -/
def idsOf (ts : List Token) : List (List Char) := ts.filterMap Token.id?

/-- The doctype gives no token, nor does the `img` element among the tags; an `id` is read
whichever way its value is quoted. -/
example : tagsOf (tokens "<!DOCTYPE html><p id=\"a\">x<img src='i'><b id=c>y</b></p>") =
      [.start ['p'], .start ['b'], .stop ['b'], .stop ['p']] ∧
    idsOf (tokens "<!DOCTYPE html><p id=\"a\">x<img src='i'><b id=c>y</b></p>") =
      [['a'], ['c']] := by
  decide

/-- Matches tags against the elements left open, innermost first: a start tag opens an
element, an end tag must close the innermost open one. The elements open at the end, or
nothing at an end tag that closes another element or none. -/
def closeAll : List (List Char) → List Tag → Option (List (List Char))
  | opened, [] => some opened
  | opened, .start n :: ts => closeAll (n :: opened) ts
  | [], .stop _ :: _ => none
  | n' :: opened, .stop n :: ts => if n = n' then closeAll opened ts else none

/-- Tags in which every start tag is closed by its own end tag, the last opened first. -/
def WellNested (ts : List Tag) : Prop := closeAll [] ts = some []

instance (ts : List Tag) : Decidable (WellNested ts) :=
  inferInstanceAs (Decidable (_ = _))

/-- The tags of an element: its start tag, what it holds, and its end tag. -/
def element (name : List Char) (inner : List Tag) : List Tag :=
  .start name :: inner ++ [.stop name]

/-! ## Reading piece by piece -/

theorem scan_append (s : Scan) (a b : List Char) :
    scan s (a ++ b) = ((scan (scan s a).1 b).1, (scan s a).2 ++ (scan (scan s a).1 b).2) := by
  induction a generalizing s with
  | nil => rfl
  | cons c cs ih => simp [scan, ih]

@[simp] theorem readOn_append (r : Scan × List Token) (a b : List Char) :
    readOn r (a ++ b) = readOn (readOn r a) b := by
  simp [readOn, scan_append]

@[simp] theorem readOn_nil (r : Scan × List Token) : readOn r [] = r := by
  simp [readOn, scan]

/-- Reading on from tokens in hand adds the tokens of the text read alone. -/
theorem readOn_eq (r : Scan × List Token) (l : List Char) :
    readOn r l = ((readOn (r.1, []) l).1, r.2 ++ (readOn (r.1, []) l).2) := by
  simp [readOn]

@[simp] theorem tagsOf_append (a b : List Token) : tagsOf (a ++ b) = tagsOf a ++ tagsOf b :=
  List.filterMap_append

@[simp] theorem idsOf_append (a b : List Token) : idsOf (a ++ b) = idsOf a ++ idsOf b :=
  List.filterMap_append

theorem closeAll_append (opened : List (List Char)) (a b : List Tag) :
    closeAll opened (a ++ b) = (closeAll opened a).bind fun o => closeAll o b := by
  induction a generalizing opened with
  | nil => rfl
  | cons t ts ih =>
    cases t with
    | start n => simp [closeAll, ih]
    | stop n =>
      cases opened with
      | nil => rfl
      | cons n' opened =>
        simp only [List.cons_append, closeAll]
        split <;> simp [ih]

/-- Tags matched against some open elements match the same way with more open below. -/
theorem closeAll_lift {opened after : List (List Char)} {ts : List Tag}
    (h : closeAll opened ts = some after) (more : List (List Char)) :
    closeAll (opened ++ more) ts = some (after ++ more) := by
  induction ts generalizing opened with
  | nil => cases h; rfl
  | cons t ts ih =>
    cases t with
    | start n => exact ih h
    | stop n =>
      cases opened with
      | nil => cases h
      | cons n' opened =>
        simp only [closeAll] at h
        split at h
        · subst_vars
          simp [closeAll, ih h]
        · cases h

/-- Well-nested tags leave the open elements as they found them. -/
theorem WellNested.closeAll_append_eq {ts : List Tag} (h : WellNested ts)
    (opened : List (List Char)) (rest : List Tag) :
    closeAll opened (ts ++ rest) = closeAll opened rest := by
  have hlift := closeAll_lift h opened
  rw [List.nil_append] at hlift
  rw [closeAll_append, hlift, Option.bind_some]

theorem WellNested.append {a b : List Tag} (ha : WellNested a) (hb : WellNested b) :
    WellNested (a ++ b) := by
  rw [WellNested, ha.closeAll_append_eq]
  exact hb

theorem WellNested.element {inner : List Tag} (h : WellNested inner) (name : List Char) :
    WellNested (element name inner) := by
  simp [WellNested, Text.element, closeAll, h.closeAll_append_eq]

/-! ## Plain text -/

/-- Text without `<` and `"`: it opens no tag and ends no double-quoted value. -/
def Plain (x : String) : Prop := ∀ c ∈ x.toList, c ≠ '<' ∧ c ≠ '"'

/-- A character that neither opens a tag nor ends a double-quoted value. -/
def isPlainChar (c : Char) : Bool := c != '<' && c != '"'

/-- Decided character by character, never over all characters. -/
instance (x : String) : Decidable (Plain x) :=
  decidable_of_iff (x.toList.all isPlainChar = true) (by simp [Plain, isPlainChar])

theorem Scan.step_of_inert {s : Scan} (hs : s.inert = true) {c : Char}
    (hc : c ≠ '<' ∧ c ≠ '"') : s.step c = (s, none) := by
  cases s with
  | text => simp [step, hc.1]
  | quoted q isId v =>
    simp only [inert, Bool.and_eq_true, beq_iff_eq, Bool.not_eq_eq_eq_not, Bool.not_true,
      List.isEmpty_iff] at hs
    obtain ⟨⟨rfl, rfl⟩, rfl⟩ := hs
    simp [step, hc.2, keep]
  | _ => cases hs

/-- Plain text read in character data or in a double-quoted value changes nothing. -/
theorem readOn_plain {r : Scan × List Token} (hr : r.1.inert = true) {l : List Char}
    (hl : ∀ c ∈ l, c ≠ '<' ∧ c ≠ '"') : readOn r l = r := by
  suffices h : scan r.1 l = (r.1, []) by simp [readOn, h]
  induction l with
  | nil => rfl
  | cons c cs ih =>
    have hcs := ih fun d hd => hl d (List.mem_cons_of_mem c hd)
    simp [scan, Scan.step_of_inert hr (hl c List.mem_cons_self), hcs]

/-- A character reference holds no `<` and no `"`. -/
theorem plain_reference {c : Char} {ref : String} (h : reference? c = some ref) : Plain ref := by
  unfold reference? at h
  split at h
  all_goals cases h
  all_goals decide

theorem plain_escapeList (l : List Char) : ∀ c ∈ escapeList l, c ≠ '<' ∧ c ≠ '"' := by
  induction l with
  | nil => simp [escapeList]
  | cons c cs ih =>
    simp only [escapeList]
    cases hr : reference? c with
    | some ref =>
      intro d hd
      rcases List.mem_append.mp hd with hd | hd
      · exact plain_reference hr d hd
      · exact ih d hd
    | none =>
      -- a character without a reference is neither `<` nor `"`
      have hc : c ≠ '<' ∧ c ≠ '"' := by
        constructor <;> rintro rfl <;> simp [reference?] at hr
      intro d hd
      rcases List.mem_cons.mp hd with rfl | hd
      · exact hc
      · exact ih d hd

/-- Escaped text is plain. -/
theorem plain_escape (s : String) : Plain (escape s) := by
  simpa [Plain, escape] using plain_escapeList s.toList

theorem readOn_plain_toList {x : String} (hx : Plain x) {r : Scan × List Token}
    (hr : r.1.inert = true) : readOn r x.toList = r :=
  readOn_plain hr hx

@[simp] theorem readOn_escape {r : Scan × List Token} (hr : r.1.inert = true) (s : String) :
    readOn r (escape s).toList = r :=
  readOn_plain_toList (plain_escape s) hr

/-! ## Fragments -/

/-- A reading back in character data that takes the elements open in `before` to those
in `after` and holds the `id` values `ids`. -/
def Reads (before after ids : List (List Char)) (r : Scan × List Token) : Prop :=
  r.1 = .text ∧ closeAll before (tagsOf r.2) = some after ∧ idsOf r.2 = ids

instance (before after ids : List (List Char)) (r : Scan × List Token) :
    Decidable (Reads before after ids r) :=
  inferInstanceAs (Decidable (_ ∧ _ ∧ _))

/-- Markup read from character data back to character data, taking the elements open in
`before` (innermost first) to those in `after`, and holding the `id` values `ids`. -/
def Fragment (before after ids : List (List Char)) (x : String) : Prop :=
  Reads before after ids (readOn (.text, []) x.toList)

variable {before mid after ids ids' : List (List Char)} {a b x : String}

/-- Text read on from character data adds its tokens to those of what came before. -/
theorem readOn_append_of_text {x : String} (hx : (readOn (.text, []) x.toList).1 = .text)
    (y : String) :
    readOn (.text, []) (x ++ y).toList =
      ((readOn (.text, []) y.toList).1, tokens x ++ tokens y) := by
  rw [String.toList_append, readOn_append, readOn_eq, hx]
  rfl

theorem readOn_append_fst {x : String} (hx : (readOn (.text, []) x.toList).1 = .text)
    (y : String) :
    (readOn (.text, []) (x ++ y).toList).1 = (readOn (.text, []) y.toList).1 := by
  rw [readOn_append_of_text hx]

theorem tokens_append {x : String} (hx : (readOn (.text, []) x.toList).1 = .text) (y : String) :
    tokens (x ++ y) = tokens x ++ tokens y := by
  rw [tokens, readOn_append_of_text hx]

theorem Fragment.ends_text (h : Fragment before after ids x) :
    (readOn (.text, []) x.toList).1 = .text :=
  h.1

theorem Fragment.closeAll_tags (h : Fragment before after ids x) :
    closeAll before (tagsOf (tokens x)) = some after :=
  h.2.1

theorem Fragment.idsOf_tokens (h : Fragment before after ids x) : idsOf (tokens x) = ids :=
  h.2.2

theorem Fragment.append (ha : Fragment before mid ids a) (hb : Fragment mid after ids' b) :
    Fragment before after (ids ++ ids') (a ++ b) := by
  -- `b` is read on from where `a` left the reader, in character data
  refine ⟨(readOn_append_fst ha.ends_text b).trans hb.ends_text, ?_, ?_⟩
  · show closeAll before (tagsOf (tokens (a ++ b))) = some after
    rw [tokens_append ha.ends_text, tagsOf_append, closeAll_append, ha.closeAll_tags]
    exact hb.closeAll_tags
  · show idsOf (tokens (a ++ b)) = ids ++ ids'
    rw [tokens_append ha.ends_text, idsOf_append, ha.idsOf_tokens, hb.idsOf_tokens]

/-- Fixed text is a fragment when its characters read as one; with `rfl` for `h`, a
literal's characters come without decoding it. -/
theorem Fragment.of_chars {l : List Char} (h : x = String.ofList l)
    (hl : Reads before after ids (readOn (.text, []) l)) : Fragment before after ids x := by
  subst h
  simpa only [Fragment, String.toList_ofList] using hl

theorem Fragment.lift (h : Fragment before after ids x) (more : List (List Char)) :
    Fragment (before ++ more) (after ++ more) ids x :=
  ⟨h.1, closeAll_lift h.2.1 more, h.2.2⟩

theorem fragment_empty : Fragment before before [] "" := ⟨rfl, rfl, rfl⟩

/-- Balanced fragments without `id` values, one after another. -/
theorem Fragment.join {xs : List String} (h : ∀ x ∈ xs, Fragment [] [] [] x) :
    Fragment [] [] [] (String.join xs) := by
  induction xs with
  | nil => exact fragment_empty
  | cons x rest ih =>
    rw [String.join_cons]
    exact (h x List.mem_cons_self).append (ih fun y hy => h y (List.mem_cons_of_mem x hy))

/-- A fragment balanced in itself stands inside any open elements. -/
theorem Fragment.inside {ids : List (List Char)} {x : String} (h : Fragment [] [] ids x)
    (opened : List (List Char)) : Fragment opened opened ids x :=
  h.lift opened

/-- A piece that leaves `mid` open, a balanced fragment, and a piece that closes `mid`
down to `after`. -/
theorem Fragment.around (mid : List (List Char)) {before after ids : List (List Char)}
    {a x b : String} (ha : Fragment before mid ids a) (hx : Fragment [] [] [] x)
    (hb : Fragment mid after [] b) : Fragment before after ids (a ++ x ++ b) := by
  simpa using (ha.append (hx.inside mid)).append hb

end SpaceTeamSite.Text
