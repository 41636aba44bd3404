import SpaceTeamSite.Cli.Reports
import SpaceTeamSite.Proofs.ListOpeners

/-!
# The picture card after its load

The picture widget loads once and then stands in a final state: `success` with a record
that is an image and has an address, `noImage` with any other record, or `error`. The
view of such a state carries either the image's address or a message, never both and
never neither: on success the record's address, otherwise the text that explains the
missing image or the failure. So the card draws exactly one of an image and a message,
and the `apod` command prints exactly one of the address and the message.

The record's title, date and explanation show exactly when the state has a record and
the field is not empty, the date in the reader's long form; a failed load has no record
and shows none of them.

The card is read by two openers, `<img` and `<p class="apod-message"`, counted as in
`Text.Holds`: everything around the media holds neither, so the card's counts are those
of its media.
-/

namespace SpaceTeamSite.Widget

/-! ## The states a load leaves -/

namespace PictureState

/-- A state a load can leave: final, and a success only with an image to show. -/
def Settled (s : PictureState) : Prop :=
  s ≠ .loading ∧ ∀ r, s = .success r → r.isImage = true ∧ r.imageUrl.isSome = true

/-- **A load settles the widget**, whatever the feed answers. -/
theorem settled_load (fetch : Except FeedError PictureRecord) : Settled (loading.load fetch) :=
  ⟨ofFetch_ne_loading fetch, fun r h => ofFetch_success fetch r h⟩

end PictureState

end SpaceTeamSite.Widget

namespace SpaceTeamSite.Site

open Text Widget

-- a fixed piece is checked on its characters, which the elaborator reads one by one
set_option maxRecDepth 10000

/-! ## Optional fields -/

/-- A field of the state's record, shown when it is there and not empty. -/
theorem record_field_eq_some {s : PictureState} {f : PictureRecord → Option String}
    {t : String} :
    (s.record?.bind fun r => firstPresent [f r]) = some t ↔
      ∃ r, s.record? = some r ∧ f r = some t ∧ t ≠ "" := by
  simp only [Option.bind_eq_some_iff, firstPresent_singleton_eq_some]

/-! ## The view of a settled state -/

section View

variable {s : PictureState} (text : Localizer)

/-- The address shows exactly on success, and it is the record's `url`. -/
theorem resolve_imageUrl (hs : s.Settled) :
    ((PictureView.resolve s text).imageUrl.isSome = true ↔ ∃ r, s = .success r) ∧
      ∀ r, s = .success r → (PictureView.resolve s text).imageUrl = r.url := by
  refine ⟨⟨fun h => ?_, fun ⟨r, hr⟩ => ?_⟩, fun r hr => ?_⟩
  · cases s with
    | success r => exact ⟨r, rfl⟩
    | _ => simp [PictureView.resolve] at h
  · subst hr; exact (hs.2 r rfl).2
  · subst hr; exact PictureRecord.imageUrl_eq_url (hs.2 r rfl).2

/-- A message shows exactly when there is no image: the state's own. -/
theorem resolve_message (hs : s.Settled) :
    ((PictureView.resolve s text).message.isSome = true ↔ ¬ ∃ r, s = .success r) ∧
      (∀ r, s = .noImage r → (PictureView.resolve s text).message = some (text.text .apodNoImage)) ∧
      (s = .error → (PictureView.resolve s text).message = some (text.text .apodError)) := by
  refine ⟨?_, fun r hr => by subst hr; rfl, fun hr => by subst hr; rfl⟩
  cases s with
  | loading => exact absurd rfl hs.1
  | success r => simp [PictureView.resolve]
  | noImage r => simp [PictureView.resolve]
  | error => simp [PictureView.resolve]

/-- **Exactly one of the address and the message.** -/
theorem resolve_media (hs : s.Settled) :
    (∃ u, (PictureView.resolve s text).imageUrl = some u ∧
        (PictureView.resolve s text).message = none ∧ (∃ r, s = .success r)) ∨
      (∃ m, (PictureView.resolve s text).imageUrl = none ∧
        (PictureView.resolve s text).message = some m ∧ ¬ ∃ r, s = .success r) := by
  have himage := resolve_imageUrl text hs
  have hmessage := (resolve_message text hs).1
  by_cases hsucc : ∃ r, s = .success r
  · left
    obtain ⟨u, hu⟩ := Option.isSome_iff_exists.mp (himage.1.mpr hsucc)
    have hnone : (PictureView.resolve s text).message = none :=
      Option.not_isSome_iff_eq_none.mp fun h => hmessage.mp h hsucc
    exact ⟨u, hu, hnone, hsucc⟩
  · right
    obtain ⟨m, hm⟩ := Option.isSome_iff_exists.mp (hmessage.mpr hsucc)
    have hnone : (PictureView.resolve s text).imageUrl = none :=
      Option.not_isSome_iff_eq_none.mp fun h => hsucc (himage.1.mp h)
    exact ⟨m, hnone, hm, hsucc⟩

/-- The title shows when the record has one that is not empty. -/
theorem resolve_title (t : String) :
    (PictureView.resolve s text).title = some t ↔
      ∃ r, s.record? = some r ∧ r.title = some t ∧ t ≠ "" :=
  record_field_eq_some

/-- The explanation shows when the record's is not empty. -/
theorem resolve_explanation (e : String) :
    (PictureView.resolve s text).explanation = some e ↔
      ∃ r, s.record? = some r ∧ r.explanation ≠ "" ∧ e = r.explanation := by
  simp only [PictureView.resolve, record_field_eq_some]
  constructor
  · rintro ⟨r, hr, he, hne⟩
    cases he
    exact ⟨r, hr, hne, rfl⟩
  · rintro ⟨r, hr, hne, rfl⟩
    exact ⟨r, hr, rfl, hne⟩

/-- The date shows when the record's is not empty, in the reader's long form. -/
theorem resolve_date (d : String) :
    (PictureView.resolve s text).date = some d ↔
      ∃ r, s.record? = some r ∧ r.date ≠ "" ∧ d = Format.pictureDate r.date text.lang := by
  simp only [PictureView.resolve, Option.map_eq_some_iff, record_field_eq_some]
  constructor
  · rintro ⟨raw, ⟨r, hr, hraw, hne⟩, rfl⟩
    cases hraw
    exact ⟨r, hr, hne, rfl⟩
  · rintro ⟨r, hr, hne, rfl⟩
    exact ⟨r.date, ⟨r, hr, rfl, hne⟩, rfl⟩

/-- A failed load has no record, so no title, date or explanation. -/
theorem resolve_error_fields :
    (PictureView.resolve .error text).title = none ∧
      (PictureView.resolve .error text).date = none ∧
      (PictureView.resolve .error text).explanation = none :=
  ⟨rfl, rfl, rfl⟩

end View

/-! ## The card -/

/-- The opener of an image, `<img`. -/
def imageOpener : List Char := ['<', 'i', 'm', 'g']

/-- The opener of the picture's message, `<p class="apod-message"`. -/
def pictureMessageOpener : List Char :=
  ['<', 'p', ' ', 'c', 'l', 'a', 's', 's', '=', '"', 'a', 'p', 'o', 'd', '-', 'm', 'e', 's', 's',
    'a', 'g', 'e', '"']

/-- The openers the card's media is read by. -/
def mediaOpeners : List (List Char) := [imageOpener, pictureMessageOpener]

theorem mediaOpeners_lt : ∀ w ∈ mediaOpeners, ∃ o, w = '<' :: o := by
  simp only [mediaOpeners, List.mem_cons, List.mem_nil_iff, or_false]
  rintro w (rfl | rfl) <;> exact ⟨_, rfl⟩

/-- Quiet for the media's openers. -/
abbrev MediaQuiet (s : String) : Prop := Quiet mediaOpeners s

theorem media_quiet_escape_append (s r : String) : MediaQuiet (escape s ++ r) ↔ MediaQuiet r :=
  quiet_append_iff (quiet_escape mediaOpeners_lt s) r

/-- The card of a loaded view, up to its media: the state and the card's head. -/
def pictureCardHead (page : PageContext) (view : PictureView) : String :=
  "<div class=\"apod-card\" data-state=\"" ++ view.state ++
  "\"><div class=\"apod-card__head\"><span class=\"tag\">" ++ page.t .apodTitle ++
  "</span><span class=\"source\">" ++ page.t .apodSource ++ "</span></div><div class=\"apod-card__media\">"

/-- The media of a loaded view: the image, else the message, else nothing. -/
def pictureMedia (view : PictureView) : String :=
  match view.imageUrl, view.message with
  | some url, _ => "<img src=\"" ++ escape url ++ "\" alt=\"" ++ escape (view.title.getD "") ++ "\">"
  | none, some m => "<p class=\"apod-message\">" ++ escape m ++ "</p>"
  | none, none => ""

/-- The card after its media: the date line and the explanation. -/
def pictureCardTail (page : PageContext) (view : PictureView) : String :=
  "</div>" ++
  (match view.date with
    | some d => "<p class=\"apod-date\">" ++ page.t .apodDateLabel ++ ": " ++ escape d ++ "</p>"
    | none => "") ++
  "<div class=\"apod-card__body\"><p>" ++ escape (view.explanation.getD "") ++ "</p></div></div>"

/-- Once loaded, the card is its head, its media and its tail. -/
theorem pictureCardHtml_of_loaded (page : PageContext) (view : PictureView)
    (h : view.state ≠ "loading") :
    pictureCardHtml page view = pictureCardHead page view ++ pictureMedia view ++
      pictureCardTail page view := by
  have hne : (view.state == "loading") = false := by simpa using h
  unfold pictureCardHtml pictureCardHead pictureMedia pictureCardTail
  rw [hne]
  -- one goal per way the media and the date are drawn, where the card's matches and
  -- those of `pictureMedia` and `pictureCardTail` reduce alike
  cases view.imageUrl <;> cases view.message <;> cases view.date <;>
    simp only [Bool.false_eq_true, if_false, String.append_assoc, String.empty_append]

theorem media_quiet_pictureCardHead (page : PageContext) (view : PictureView)
    (hstate : MediaQuiet view.state) : MediaQuiet (pictureCardHead page view) := by
  unfold pictureCardHead
  simp (disch := (refine Quiet.of_chars rfl ?_; decide)) only [String.append_assoc,
    PageContext.t, quiet_append_iff hstate, media_quiet_escape_append, quiet_append_iff]
  exact Quiet.of_chars rfl (by decide)

theorem media_quiet_pictureCardTail (page : PageContext) (view : PictureView) :
    MediaQuiet (pictureCardTail page view) := by
  unfold pictureCardTail
  -- the date line is there or not
  split
  all_goals
    simp (disch := (refine Quiet.of_chars rfl ?_; decide)) only [String.append_assoc,
      PageContext.t, media_quiet_escape_append, quiet_append_iff]
    exact Quiet.of_chars rfl (by decide)

/-- The media holds one image opener when the view has an address, else one message
opener when it has a message. -/
theorem holds_pictureMedia (view : PictureView) :
    Holds mediaOpeners
      (fun w => match view.imageUrl, view.message with
        | some _, _ => onlyOpener imageOpener w
        | none, some _ => onlyOpener pictureMessageOpener w
        | none, none => 0)
      (pictureMedia view) := by
  unfold pictureMedia
  split
  · -- the first literal holds the image opener; the rest is quiet
    simp only [String.append_assoc]
    refine Holds.append_quiet (Holds.of_chars rfl (by decide)) ?_
    simp (disch := (refine Quiet.of_chars rfl ?_; decide)) only [media_quiet_escape_append,
      quiet_append_iff]
    exact Quiet.of_chars rfl (by decide)
  · simp only [String.append_assoc]
    refine Holds.append_quiet (Holds.of_chars rfl (by decide)) ?_
    simp only [media_quiet_escape_append]
    exact Quiet.of_chars rfl (by decide)
  · exact quiet_empty.holds

/-- The state names of a loaded widget hold no opener. -/
theorem media_quiet_tag {s : PictureState} (hs : s ≠ .loading) : MediaQuiet s.tag := by
  cases s with
  | loading => exact absurd rfl hs
  | _ => exact Quiet.of_chars rfl (by decide)

/-- **The card draws exactly one of an image and a message**, the image exactly on
success. -/
theorem pictureCard_media (page : PageContext) {s : PictureState} (text : Localizer)
    (hs : s.Settled) :
    let card := (pictureCardHtml page (PictureView.resolve s text)).toList
    occurrences imageOpener card + occurrences pictureMessageOpener card = 1 ∧
      (occurrences imageOpener card = 1 ↔ ∃ r, s = .success r) := by
  intro card
  have hstate : (PictureView.resolve s text).state ≠ "loading" := by
    cases s with
    | loading => exact absurd rfl hs.1
    | _ => simp [PictureView.resolve, PictureState.tag]
  have hcard := (((holds_pictureMedia (PictureView.resolve s text)).quiet_append
      (media_quiet_pictureCardHead page (PictureView.resolve s text) (media_quiet_tag hs.1))).append_quiet
      (media_quiet_pictureCardTail page (PictureView.resolve s text)))
  rw [← pictureCardHtml_of_loaded page _ hstate] at hcard
  have himage := (hcard imageOpener (by simp [mediaOpeners])).1
  have hmessage := (hcard pictureMessageOpener (by simp [mediaOpeners])).1
  -- the media is the image or the message, and the openers differ
  rcases resolve_media text hs with ⟨u, hu, hm, hsucc⟩ | ⟨m, hu, hm, hsucc⟩
  · simp only [hu, hm] at himage hmessage
    simp [card, himage, hmessage, onlyOpener, hsucc, show pictureMessageOpener ≠ imageOpener by decide]
  · simp only [hu, hm] at himage hmessage
    simp [card, himage, hmessage, onlyOpener, hsucc, show imageOpener ≠ pictureMessageOpener by decide]

/-! ## The command -/

/-- **The command prints exactly one of the address and the message.** -/
theorem pictureMediaLine_settled {s : PictureState} (text : Localizer) (hs : s.Settled) :
    (∃ u, (PictureView.resolve s text).imageUrl = some u ∧
        Cli.pictureMediaLine (PictureView.resolve s text) = u ++ "\n") ∨
      (∃ m, (PictureView.resolve s text).message = some m ∧
        Cli.pictureMediaLine (PictureView.resolve s text) = m ++ "\n") := by
  rcases resolve_media text hs with ⟨u, hu, _, _⟩ | ⟨m, hu, hm, _⟩
  · exact Or.inl ⟨u, hu, by simp [Cli.pictureMediaLine, hu]⟩
  · exact Or.inr ⟨m, hm, by simp [Cli.pictureMediaLine, hu, hm]⟩

/-! ## After a load -/

/-- **The picture after its load.** Whatever the feed answers, in any table and
language: the view has the record's address exactly on success and the state's message
exactly otherwise, so the card draws one of an image and a message and the command
prints one of the address and the message; the title, date and explanation show
exactly when the record has them, the date in the reader's long form, and a failed
load shows none of them. -/
theorem picture_view_after_load (s : Setup) (lang : Language) (page : PageContext) :
    let st := s.loadPicture
    let text := s.localizer lang
    let v := PictureView.resolve st text
    ((v.imageUrl.isSome = true ↔ ∃ r, st = .success r) ∧
      ∀ r, st = .success r → v.imageUrl = r.url) ∧
    ((v.message.isSome = true ↔ ¬ ∃ r, st = .success r) ∧
      (∀ r, st = .noImage r → v.message = some (text.text .apodNoImage)) ∧
      (st = .error → v.message = some (text.text .apodError))) ∧
    (occurrences imageOpener (pictureCardHtml page v).toList +
        occurrences pictureMessageOpener (pictureCardHtml page v).toList = 1 ∧
      (occurrences imageOpener (pictureCardHtml page v).toList = 1 ↔ ∃ r, st = .success r)) ∧
    ((∃ u, v.imageUrl = some u ∧ Cli.pictureMediaLine v = u ++ "\n") ∨
      (∃ m, v.message = some m ∧ Cli.pictureMediaLine v = m ++ "\n")) ∧
    (∀ t, v.title = some t ↔ ∃ r, st.record? = some r ∧ r.title = some t ∧ t ≠ "") ∧
    (∀ d, v.date = some d ↔
      ∃ r, st.record? = some r ∧ r.date ≠ "" ∧ d = Format.pictureDate r.date lang) ∧
    (∀ e, v.explanation = some e ↔
      ∃ r, st.record? = some r ∧ r.explanation ≠ "" ∧ e = r.explanation) ∧
    (st = .error → v.title = none ∧ v.date = none ∧ v.explanation = none) := by
  intro st text v
  have hs : st.Settled := PictureState.settled_load s.feeds.picture
  refine ⟨resolve_imageUrl text hs, resolve_message text hs, pictureCard_media page text hs,
    pictureMediaLine_settled text hs, resolve_title text, resolve_date text,
    resolve_explanation text, fun herr => ?_⟩
  simp only [v, herr]
  exact resolve_error_fields text

end SpaceTeamSite.Site
