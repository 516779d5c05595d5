import Switchboard.Hub.Gallery
import Switchboard.Proofs.Hub.Directory
import Switchboard.Proofs.Hub.Dispatch

/-!
How the operations of a hub come out, whatever the tags and types of the values they are given. The
panel registered last under the tag decides: what it answers comes back with nothing added but the
tags on its messages, and where an update comes to nothing, one warning says why.
-/

namespace Switchboard

variable {U : Universe}

/-! ### Payloads of a type -/

namespace Payload

variable {payload : Payload U} {code : U.Code}

/-- A payload gives nothing exactly if it has another type. -/
theorem as?_eq_none_iff : payload.as? code = none ↔ payload.code ≠ code := by
  simp [as?]

/-- A payload is a value of its type. -/
theorem exists_eq_mk (same : payload.code = code) : ∃ value, payload = ⟨code, value⟩ := by
  -- With the types the same, the payload is made of its own value.
  subst same
  exact ⟨payload.value, rfl⟩

end Payload

/-- A message of a panel under a tag, which need not be the panel's name. -/
def Panel.sentUnder (panel : Panel U) (tag : Name) (message : U.El panel.messageCode) : Tagged U :=
  ⟨tag, panel.messageCode, message⟩

/-! ### Updates -/

/-- How an update comes out by the panel registered under each name. The tags are compared before
the panel is looked up, and the panel is looked up before the payloads are checked. -/
inductive Updates (registered : Directory U) (message model : Tagged U) :
    Warned (Option (Tagged U × Effect (Tagged U))) → Prop where
  /-- The message and the model have different tags, registered or not. -/
  | mismatched (apart : message.tag ≠ model.tag) :
      Updates registered message model
        { value := none, notes := [.tagMismatch message.tag model.tag] }
  /-- No panel is registered under their tag. -/
  | unregistered (same : message.tag = model.tag) (missing : registered model.tag = none) :
      Updates registered message model { value := none, notes := [.unregistered model.tag] }
  /-- One of the payloads does not have the panel's type. -/
  | misfit {panel : Panel U} (same : message.tag = model.tag)
      (found : registered model.tag = some panel)
      (misfit : message.payload.code ≠ panel.messageCode ∨ model.payload.code ≠ panel.modelCode) :
      Updates registered message model { value := none, notes := [.payloadMismatch model.tag] }
  /-- The panel's update is applied to the payloads, and what it gives goes under their tag. -/
  | applied {panel : Panel U} (same : message.tag = model.tag)
      (found : registered model.tag = some panel) {own : U.El panel.messageCode}
      {current : U.El panel.modelCode} (sent : message.payload = ⟨panel.messageCode, own⟩)
      (kept : model.payload = ⟨panel.modelCode, current⟩) :
      Updates registered message model
        { value := some (⟨model.tag, panel.modelCode, (panel.update own current).1⟩,
            ⟨(panel.update own current).2.messages.map (panel.sentUnder model.tag)⟩) }

namespace Updates

variable {registered : Directory U} {message model : Tagged U}

/-- An update comes out in one of these ways. -/
theorem total (registered : Directory U) (message model : Tagged U) :
    ∃ outcome, Updates registered message model outcome := by
  -- Each condition is looked at in the order in which the hub does, and the first to fail decides.
  by_cases same : message.tag = model.tag
  · cases found : registered model.tag with
    | none => exact ⟨_, .unregistered same found⟩
    | some panel =>
      by_cases sent : message.payload.code = panel.messageCode
      · by_cases kept : model.payload.code = panel.modelCode
        · -- Both payloads are values of the panel's types.
          obtain ⟨own, sent⟩ := Payload.exists_eq_mk sent
          obtain ⟨current, kept⟩ := Payload.exists_eq_mk kept
          exact ⟨_, .applied same found sent kept⟩
        · exact ⟨_, .misfit same found (.inr kept)⟩
      · exact ⟨_, .misfit same found (.inl sent)⟩
  · exact ⟨_, .mismatched same⟩

/-- An update has a result exactly if the tags agree and the panel registered under them has both
types. -/
theorem isSome_value_iff {outcome : Warned (Option (Tagged U × Effect (Tagged U)))}
    (updates : Updates registered message model outcome) :
    outcome.value.isSome = true ↔
      message.tag = model.tag ∧ ∃ panel, registered model.tag = some panel ∧
        message.payload.code = panel.messageCode ∧ model.payload.code = panel.modelCode := by
  -- The first three ways each miss a condition of their own, and the last one meets them all.
  cases updates with
  | mismatched apart => simp [apart]
  | unregistered same missing => simp [missing]
  -- A misfit in one payload rules out that both fit.
  | misfit same found misfit => simpa [found, same, or_iff_not_imp_left] using misfit
  | applied same found sent kept => simp [same, found, sent, kept]

end Updates

namespace Panel

variable {panel : Panel U}

/-- A panel has no update for payloads of which one has another type. -/
theorem taggedUpdate?_of_misfit {message model : Payload U}
    (misfit : message.code ≠ panel.messageCode ∨ model.code ≠ panel.modelCode) :
    panel.taggedUpdate? message model = none := by
  -- Either payload is enough for the match to fail.
  unfold taggedUpdate?
  rcases misfit with other | other <;> rw [Payload.as?_eq_none_iff.mpr other]
  cases message.as? panel.messageCode <;> rfl

end Panel

namespace Hub

variable {hub : Hub U}

/-- The panel found under a name has that name. -/
theorem name_of_panel? {tag : Name} {panel : Panel U} (found : hub.panel? tag = some panel) :
    panel.name = tag := by
  -- The search compares names, so what it returns compares as equal.
  have named := List.find?_some found
  exact eq_of_beq named

/-- A hub in order updates as its panels say. -/
theorem Sorted.update_of_updates (sorted : hub.Sorted) {message model : Tagged U}
    {outcome : Warned (Option (Tagged U × Effect (Tagged U)))}
    (updates : Updates hub.panel? message model outcome) : hub.update message model = outcome := by
  -- What one way assumes is what the hub checks to get past the ways before it.
  cases updates with
  | mismatched apart => exact if_neg apart
  | unregistered same missing => simp [update, same, sorted.lookup_eq, missing]
  | @misfit panel same found misfit =>
    simp [update, same, sorted.lookup_eq, found, Panel.taggedUpdate?_of_misfit misfit]
  | @applied panel same found own current sent kept =>
    -- With the panel's name for the tag, message and model are the panel's own.
    obtain ⟨tag, payload⟩ := message
    obtain ⟨tag', payload'⟩ := model
    cases same
    cases sent
    cases kept
    obtain rfl := name_of_panel? found
    exact sorted.update_own ((sorted.mem_panels_iff panel).mpr found) own current

/-- However often panels replaced each other, an update goes by the tags first, then by the panel
registered last under them, and then by its types. It has a result exactly if all three agree. -/
theorem update_goes_by_tags_panel_and_types (panels : List (Panel U)) (message model : Tagged U) :
    (∀ outcome, (ofPanels panels).update message model = outcome ↔
      Updates (latest panels) message model outcome) ∧
    (((ofPanels panels).update message model).value.isSome = true ↔
      message.tag = model.tag ∧ ∃ panel, latest panels model.tag = some panel ∧
        message.payload.code = panel.messageCode ∧ model.payload.code = panel.modelCode) := by
  have sorted := sorted_ofPanels panels
  -- What was registered last under a name is what the hub finds there.
  have registered : latest panels = (ofPanels panels).panel? :=
    funext fun tag => (panel?_ofPanels panels tag).symm
  rw [registered]
  -- Some way for the update to come out applies, and the hub follows it.
  obtain ⟨outcome, updates⟩ := Updates.total (ofPanels panels).panel? message model
  have updated := sorted.update_of_updates updates
  refine ⟨fun other => ⟨fun same => ?_, sorted.update_of_updates⟩, ?_⟩
  · -- An outcome that the hub came to is the one that was found.
    exact same ▸ updated ▸ updates
  · rw [updated]
    exact updates.isSome_value_iff

/-- A counter's message is still about when a tally has taken its name. It meets the models of both,
but it is not for the tally; and it does not meet a model of a panel that never was registered. -/
theorem update_goes_by_tags_panel_and_types_replaced :
    let first := Gallery.counter ⟨"B"⟩ "first"
    let second := Gallery.tally ⟨"B"⟩ "second"
    let other := Gallery.text ⟨"A"⟩ "other"
    let hub := ofPanels [first, second]
    hub.update (first.ofMessage (1 : Int)) (first.ofModel (0 : Int)) =
        { value := none, notes := [.payloadMismatch ⟨"B"⟩] } ∧
      hub.update (second.ofMessage "no") (first.ofModel (0 : Int)) =
        { value := some (second.ofModel (2 : Int),
            ⟨[second.ofMessage "n", second.ofMessage "o"]⟩) } ∧
      hub.update (first.ofMessage (1 : Int)) (other.ofModel "text") =
        { value := none, notes := [.tagMismatch ⟨"B"⟩ ⟨"A"⟩] } := by
  intro first second other hub
  have comes (message model : Tagged galleryUniverse) :=
    (update_goes_by_tags_panel_and_types [first, second] message model).1
  have found : latest [first, second] (first.ofModel (0 : Int)).tag = some second := rfl
  refine ⟨(comes _ _ _).mpr (.misfit rfl found (.inl (by decide))), (comes _ _ _).mpr ?_,
    (comes _ _ _).mpr (.mismatched (by decide))⟩
  -- Both count with integers, so the model of the one is a model of the other.
  have same : (second.ofMessage "no").tag = (first.ofModel (0 : Int)).tag := rfl
  have sent : (second.ofMessage "no").payload = ⟨second.messageCode, "no"⟩ := rfl
  have kept : (first.ofModel (0 : Int)).payload = ⟨second.modelCode, (0 : Int)⟩ := rfl
  exact Updates.applied same found sent kept

/-! ### Queries -/

/-- What it is for a hub to show of a model what a panel has to show, with its messages under the
model's tag and nothing else changed. -/
structure Shows (hub : Hub U) (panel : Panel U) (model : Tagged U) : Prop where
  /-- The menu is the panel's, whatever the payload is. -/
  menuOptions : hub.menuOptions model =
    { value := some (panel.menuOptions.map fun option =>
        ⟨option.label, panel.sentUnder model.tag option.message⟩) }
  /-- Of a payload of another type than that of the panel's models nothing else is shown. -/
  noInside : ∀ position radius,
    hub.viewInside position radius model = { value := none } ↔
      model.payload.code ≠ panel.modelCode
  noOutside : ∀ position radius,
    hub.viewOutside position radius model = { value := none } ↔
      model.payload.code ≠ panel.modelCode
  noSubscriptions :
    hub.subscriptions model = { value := none } ↔ model.payload.code ≠ panel.modelCode
  /-- Of one of the panel's models everything is. -/
  viewInside : ∀ position radius own, model.payload = ⟨panel.modelCode, own⟩ →
    hub.viewInside position radius model =
      { value := some
          { markup := (panel.viewInside position radius own).markup
            handlers := (panel.viewInside position radius own).handlers.map fun handler =>
              (handler.1, panel.sentUnder model.tag handler.2) } }
  viewOutside : ∀ position radius own, model.payload = ⟨panel.modelCode, own⟩ →
    hub.viewOutside position radius model =
      { value := some
          { markup := (panel.viewOutside position radius own).markup
            handlers := (panel.viewOutside position radius own).handlers.map fun handler =>
              (handler.1, panel.sentUnder model.tag handler.2) } }
  subscriptions : ∀ own, model.payload = ⟨panel.modelCode, own⟩ →
    hub.subscriptions model =
      { value := some
          { sources := (panel.subscriptions own).sources.map fun source =>
              (source.1, panel.sentUnder model.tag source.2) } }

/-- A name without a panel has no answer to anything, and is warned about. -/
theorem Sorted.ask_of_missing {α : Type} (sorted : hub.Sorted) {tag : Name}
    (missing : hub.panel? tag = none) (answer : Panel U → Option α) :
    hub.ask tag answer = { value := none, notes := [.unregistered tag] } := by
  -- The lookup fails before anything is asked.
  rw [ask, sorted.lookup_eq, missing]
  rfl

/-- A hub in order shows of a model what the panel of its tag has to show. -/
theorem Sorted.shows (sorted : hub.Sorted) {panel : Panel U} {model : Tagged U}
    (found : hub.panel? model.tag = some panel) : hub.Shows panel model := by
  -- With the panel's name for the tag, the panel tags its messages as the model is tagged.
  obtain ⟨tag, payload⟩ := model
  obtain rfl := name_of_panel? found
  -- From here on each query is one about the panel's own name.
  have registered := (sorted.mem_panels_iff panel).mpr found
  have asked {α : Type} (answer : Panel U → Option α) :
      hub.ask panel.name answer = { value := answer panel } := sorted.ask_name registered answer
  -- An answer under a map is nothing only where the answer is.
  have nothing {α β : Type} (f : α → β) (value : Option α) :
      ({ value := value.map f } : Warned (Option β)) = { value := none } ↔ value = none := by
    simp
  exact {
    menuOptions := asked _
    noInside := fun position radius => by
      rw [Hub.viewInside, asked, Panel.taggedInside?, nothing, Payload.as?_eq_none_iff]
    noOutside := fun position radius => by
      rw [Hub.viewOutside, asked, Panel.taggedOutside?, nothing, Payload.as?_eq_none_iff]
    noSubscriptions := by
      rw [Hub.subscriptions, asked, Panel.taggedSubscriptions?, nothing, Payload.as?_eq_none_iff]
    viewInside := by
      rintro position radius own rfl
      exact sorted.viewInside_own registered position radius own
    viewOutside := by
      rintro position radius own rfl
      exact sorted.viewOutside_own registered position radius own
    subscriptions := by
      rintro own rfl
      exact sorted.subscriptions_own registered own }

/-- Whatever panels were registered, about a model of a name without a panel every query is warned
about and comes to nothing. About any other model a hub shows what the panel registered last under
its name has to show, and hands over the panel's messages as they are. -/
theorem queries_show_what_the_panel_has (panels : List (Panel U)) (model : Tagged U) :
    let hub := ofPanels panels
    (latest panels model.tag = none →
      hub.menuOptions model = { value := none, notes := [.unregistered model.tag] } ∧
      (∀ position radius,
        hub.viewInside position radius model =
          { value := none, notes := [.unregistered model.tag] } ∧
        hub.viewOutside position radius model =
          { value := none, notes := [.unregistered model.tag] }) ∧
      hub.subscriptions model = { value := none, notes := [.unregistered model.tag] }) ∧
    ∀ panel, latest panels model.tag = some panel →
      hub.Shows panel model ∧
      ∀ message, (panel.sentUnder model.tag message).tag = model.tag ∧
        (panel.sentUnder model.tag message).payload.as? panel.messageCode = some message := by
  intro hub
  have sorted : hub.Sorted := sorted_ofPanels panels
  rw [← panel?_ofPanels]
  refine ⟨fun missing => ?_, fun panel found => ⟨sorted.shows found, fun message => ?_⟩⟩
  · -- Without a panel all four are the same lookup that finds nothing.
    exact ⟨sorted.ask_of_missing missing _, fun position radius =>
      ⟨sorted.ask_of_missing missing _, sorted.ask_of_missing missing _⟩,
      sorted.ask_of_missing missing _⟩
  · -- What is sent under a tag keeps its payload, so the panel can take it back.
    exact ⟨rfl, Payload.as?_mk _ message⟩

/-- A model that was kept while a tally took its panel's name has the tally's menu, but nothing else
of the tally's. -/
theorem queries_show_what_the_panel_has_replaced :
    let first := Gallery.text ⟨"A"⟩ "first"
    let second := Gallery.tally ⟨"A"⟩ "second"
    let hub := ofPanels [first, second]
    hub.menuOptions (first.ofModel "kept") =
        { value := some [⟨"second", second.ofMessage "second!"⟩] } ∧
      hub.subscriptions (first.ofModel "kept") = { value := none } ∧
      hub.subscriptions (second.ofModel (2 : Int)) =
        { value := some ⟨[("every", second.ofMessage "second")]⟩ } ∧
      hub.subscriptions ((Gallery.text ⟨"B"⟩ "other").ofModel "kept") =
        { value := none, notes := [.unregistered ⟨"B"⟩] } := by
  intro first second hub
  obtain ⟨-, kept⟩ := queries_show_what_the_panel_has [first, second] (first.ofModel "kept")
  obtain ⟨-, own⟩ := queries_show_what_the_panel_has [first, second] (second.ofModel (2 : Int))
  obtain ⟨missing, -⟩ := queries_show_what_the_panel_has [first, second]
    ((Gallery.text ⟨"B"⟩ "other").ofModel "kept")
  have stale := (kept second rfl).1
  exact ⟨stale.menuOptions, stale.noSubscriptions.mpr (by decide),
    (own second rfl).1.subscriptions (2 : Int) rfl, (missing rfl).2.2⟩

end Hub

end Switchboard
