import SpaceTeamSite.Site.Views
import SpaceTeamSite.Proofs.TextLookup

/-!
# What a launch card shows

A launch record may lack any of its texts, at any depth, or carry them empty. The card
counts a text only when it is there and not empty (`present`), and then takes, field by
field:

* the launch's name, its provider's name, and the pad's name or else the name of the
  pad's location, each falling back to its localized "unknown" text;
* the window start, the no-earlier-than time or the last update, whichever is first
  present, shown on the site's clock, or else the "no date" text;
* the mission's name, with no fallback;
* the status's name, after its abbreviation and a dash when that is present too, and
  no status at all without a name, whatever the abbreviation;
* the launch's image, or else its rocket configuration's image.

`resolve_eq_policy` says the card is exactly this policy. Since the policy reads each
text only through `present`, an empty text is as good as a missing one: two records
that agree once every empty text is dropped (`Launch.dropEmpty`) have the same card.
-/

namespace SpaceTeamSite

/-- A text kept only when it is there and not empty. -/
def present (o : Option String) : Option String := o.filter fun s => !s.isEmpty

@[simp] theorem present_none : present none = none := rfl

/-! ## Dropping empty texts -/

/-- A named thing with an empty name made nameless. -/
def Named.dropEmpty (n : Named) : Named := ⟨present n.name⟩

/-- A pad with its empty texts dropped. -/
def Pad.dropEmpty (p : Pad) : Pad := ⟨present p.name, p.location.map Named.dropEmpty⟩

/-- A status with its empty texts dropped. -/
def LaunchStatus.dropEmpty (s : LaunchStatus) : LaunchStatus :=
  ⟨present s.name, present s.abbreviation⟩

/-- A rocket configuration with an empty image dropped. -/
def RocketConfiguration.dropEmpty (c : RocketConfiguration) : RocketConfiguration :=
  ⟨present c.imageUrl⟩

/-- A rocket with its configuration's empty image dropped. -/
def Rocket.dropEmpty (r : Rocket) : Rocket := ⟨r.configuration.map RocketConfiguration.dropEmpty⟩

/-- A launch with every empty optional text, at every depth, made absent. -/
def Launch.dropEmpty (l : Launch) : Launch where
  id := l.id
  name := present l.name
  windowStart := present l.windowStart
  net := present l.net
  lastUpdated := present l.lastUpdated
  provider := l.provider.map Named.dropEmpty
  pad := l.pad.map Pad.dropEmpty
  mission := l.mission.map Named.dropEmpty
  status := l.status.map LaunchStatus.dropEmpty
  image := present l.image
  rocket := l.rocket.map Rocket.dropEmpty

end SpaceTeamSite

namespace SpaceTeamSite.Site

/-! ## The policy -/

/-- The card a launch should have, read in `text`'s language, times on the clock at
`offset`. -/
def LaunchCard.policy (r : Launch) (text : Localizer) (offset : Calendar.Offset) : LaunchCard where
  id := r.id
  name := (present r.name).getD (text.text .launchesUnknownName)
  provider := (present (r.provider.bind (·.name))).getD (text.text .launchesUnknownOperator)
  location := ((present (r.pad.bind (·.name))).or
    (present (r.pad.bind fun p => p.location.bind (·.name)))).getD (text.text .launchesUnknownLocation)
  time := ((present r.windowStart).or ((present r.net).or (present r.lastUpdated))).elim
    (text.text .launchesNoDate) fun raw => Format.launchTime raw text.lang offset
  mission := present (r.mission.bind (·.name))
  status := (present (r.status.bind (·.name))).map fun name =>
    (present (r.status.bind (·.abbreviation))).elim name fun abbreviation =>
      abbreviation ++ " — " ++ name
  imageUrl := (present r.image).or (present ((r.rocket.bind (·.configuration)).bind (·.imageUrl)))

/-! ## Candidates and fallbacks -/

theorem firstPresent_cons_present (o : Option String) (rest : List (Option String)) :
    firstPresent (o :: rest) = (present o).or (firstPresent rest) :=
  firstPresent_cons o rest

theorem firstPresent_singleton_present (o : Option String) : firstPresent [o] = present o :=
  firstPresent_singleton o

theorem present_present (o : Option String) : present (present o) = present o := by
  cases o with
  | none => rfl
  | some s => by_cases h : s.isEmpty <;> simp [present, Option.filter, h]

theorem present_or (a b : Option String) :
    present ((present a).or (present b)) = (present a).or (present b) := by
  cases ha : present a with
  | none => exact present_present b
  | some s =>
    show present (some s) = some s
    rw [← ha, present_present]

/-- A value that is already present falls back to the localized text, and to nothing
only when that text is empty too. -/
theorem orText_present (text : Localizer) (v : Option String) (key : TextKey) :
    orText text (present v) key = (present v).getD (text.text key) := by
  rw [orText, firstPresent_cons_present, firstPresent_singleton_present, present_present]
  cases present v with
  | some s => rfl
  | none => exact getD_filter_nonempty (some (text.text key))

theorem nameOf_eq (o : Option Named) : Launch.nameOf o = o.bind (·.name) := by
  cases o <;> rfl

/-- **The card of a launch is the policy.** -/
theorem resolve_eq_policy (r : Launch) (text : Localizer) (offset : Calendar.Offset) :
    LaunchCard.resolve r text offset = LaunchCard.policy r text offset := by
  simp only [LaunchCard.resolve, LaunchCard.policy, Launch.displayName, Launch.providerName,
    Launch.locationName, Launch.timestamp, Launch.missionName, Launch.statusName,
    Launch.statusAbbrev, Launch.imageUrl, nameOf_eq, firstPresent_cons_present,
    firstPresent_nil, Option.or_none, orText_present]
  -- the location's two candidates are already present, so its fallback reads as one
  rw [← present_or, orText_present, present_or]
  -- the model matches on the two options the policy eliminates: split on each
  cases (present r.windowStart).or ((present r.net).or (present r.lastUpdated)) <;>
    cases present (r.status.bind (·.abbreviation)) <;> rfl

/-- Reading a text through a part that was dropped to its present texts. -/
theorem present_bind_map {α : Type} (o : Option α) (drop : α → α) (f : α → Option String)
    (h : ∀ a, f (drop a) = present (f a)) : present ((o.map drop).bind f) = present (o.bind f) := by
  cases o with
  | none => rfl
  | some a => simp [h, present_present]

/-- The policy reads a record only through its present texts. -/
theorem policy_dropEmpty (r : Launch) (text : Localizer) (offset : Calendar.Offset) :
    LaunchCard.policy r.dropEmpty text offset = LaunchCard.policy r text offset := by
  have hnamed : ∀ o : Option Named, present ((o.map Named.dropEmpty).bind (·.name)) =
      present (o.bind (·.name)) := fun o => present_bind_map o _ _ fun _ => rfl
  have hpadName : present ((r.pad.map Pad.dropEmpty).bind (·.name)) = present (r.pad.bind (·.name)) :=
    present_bind_map r.pad _ _ fun _ => rfl
  have hpadPlace : present ((r.pad.map Pad.dropEmpty).bind fun p => p.location.bind (·.name)) =
      present (r.pad.bind fun p => p.location.bind (·.name)) :=
    present_bind_map r.pad _ _ fun ⟨name, location⟩ => by
      cases location <;> simp [Pad.dropEmpty, Named.dropEmpty]
  have hstatusName : present ((r.status.map LaunchStatus.dropEmpty).bind (·.name)) =
      present (r.status.bind (·.name)) := present_bind_map r.status _ _ fun _ => rfl
  have hstatusAbbrev : present ((r.status.map LaunchStatus.dropEmpty).bind (·.abbreviation)) =
      present (r.status.bind (·.abbreviation)) := present_bind_map r.status _ _ fun _ => rfl
  have hconfig : present (((r.rocket.map Rocket.dropEmpty).bind (·.configuration)).bind (·.imageUrl)) =
      present ((r.rocket.bind (·.configuration)).bind (·.imageUrl)) := by
    cases r.rocket with
    | none => rfl
    | some rocket =>
      cases hc : rocket.configuration <;>
        simp [Rocket.dropEmpty, RocketConfiguration.dropEmpty, hc, present_present]
  simp only [LaunchCard.policy, Launch.dropEmpty, present_present, hnamed, hpadName, hpadPlace,
    hstatusName, hstatusAbbrev, hconfig]

/-- **A launch card follows the policy, and empty texts count as missing.** The card
takes each field from the first present source or its localized fallback, as
`LaunchCard.policy` lists them; so two records that differ only in texts that are empty
in one and absent in the other, at any depth, have the same card. -/
theorem launch_card_policy (r : Launch) (text : Localizer) (offset : Calendar.Offset) :
    LaunchCard.resolve r text offset = LaunchCard.policy r text offset ∧
      ∀ r' : Launch, r'.dropEmpty = r.dropEmpty →
        LaunchCard.resolve r' text offset = LaunchCard.resolve r text offset := by
  refine ⟨resolve_eq_policy r text offset, fun r' h => ?_⟩
  rw [resolve_eq_policy, resolve_eq_policy, ← policy_dropEmpty r', h, policy_dropEmpty]

end SpaceTeamSite.Site
