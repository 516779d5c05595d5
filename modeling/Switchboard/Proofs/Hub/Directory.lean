import Switchboard.Hub.Gallery
import Switchboard.Proofs.Hub.Registration

/-!
A hub in use answers like a map from names to panels. Such a map is changed by a registration at one
name only, so registrations of other names cannot be told from the answers about a name.
-/

namespace Switchboard

variable {U : Universe}

namespace Hub

/-- Something a hub is asked to do. -/
inductive Call (U : Universe) where
  | register (panel : Panel U)
  | menuOptions (model : Tagged U)
  | update (message model : Tagged U)
  | viewInside (position : Position) (radius : Float) (model : Tagged U)
  | viewOutside (position : Position) (radius : Float) (model : Tagged U)
  | subscriptions (model : Tagged U)

/-- What a hub gives back for a call. -/
inductive Reply (U : Universe) where
  | registered
  | menu (options : Option (List (MenuOption (Tagged U))))
  | updated (result : Option (Tagged U × Effect (Tagged U)))
  | view (view : Option (View (Tagged U)))
  | subscription (subscription : Option (Subscription (Tagged U)))

namespace Call

/-- The panel a call registers. -/
def registers? : Call U → Option (Panel U)
  | register panel => some panel
  | _ => none

/-- The name a call makes the hub look up. -/
def lookup? : Call U → Option Name
  -- An update between two panels is turned down before any lookup.
  | register _ => none
  | update message model => if message.tag = model.tag then some message.tag else none
  | menuOptions model | viewInside _ _ model | viewOutside _ _ model | subscriptions model =>
    some model.tag

/-- Whether a call has to do with a name. -/
def isAbout (tag : Name) : Call U → Bool
  | register panel => panel.name == tag
  | update message model => message.tag == tag || model.tag == tag
  | menuOptions model | viewInside _ _ model | viewOutside _ _ model | subscriptions model =>
    model.tag == tag

/-- Whether a call is not the registration of another name. -/
def isKept (tag : Name) : Call U → Bool
  | register panel => panel.name == tag
  | _ => true

/-- The reply to a call that comes to nothing. -/
def nothing : Call U → Reply U
  | register _ => .registered
  | menuOptions _ => .menu none
  | update .. => .updated none
  | viewInside .. | viewOutside .. => .view none
  | subscriptions _ => .subscription none

end Call

/-- The reply of a hub to a call, with the warnings. -/
def answer (hub : Hub U) : Call U → Warned (Reply U)
  | .register panel => (hub.insert panel).map fun _ => .registered
  | .menuOptions model => (hub.menuOptions model).map .menu
  | .update message model => (hub.update message model).map .updated
  | .viewInside position radius model => (hub.viewInside position radius model).map .view
  | .viewOutside position radius model => (hub.viewOutside position radius model).map .view
  | .subscriptions model => (hub.subscriptions model).map .subscription

/-- The hub after a call. -/
def after (hub : Hub U) : Call U → Hub U
  -- Only a registration changes a hub.
  | .register panel => (hub.insert panel).value
  | _ => hub

/-- The replies of a hub to some calls in order, each beside its call. -/
def run (hub : Hub U) : List (Call U) → List (Call U × Warned (Reply U))
  | [] => []
  | call :: rest => (call, hub.answer call) :: (hub.after call).run rest

end Hub

open Hub (Call Reply)

/-- The reply of one panel to a call about its name. -/
def Panel.reply (panel : Panel U) (call : Call U) : Warned (Reply U) :=
  -- Only an update that does not fit the panel's types is warned about.
  match call with
  | .register _ => { value := .registered }
  | .menuOptions _ => { value := .menu (some panel.taggedMenu) }
  | .update message model =>
    match panel.taggedUpdate? message.payload model.payload with
    | some result => { value := .updated (some result) }
    | none => { value := .updated none, notes := [.payloadMismatch model.tag] }
  | .viewInside position radius model =>
    { value := .view (panel.taggedInside? position radius model.payload) }
  | .viewOutside position radius model =>
    { value := .view (panel.taggedOutside? position radius model.payload) }
  | .subscriptions model =>
    { value := .subscription (panel.taggedSubscriptions? model.payload) }

/-- A map from names to panels. -/
abbrev Directory (U : Universe) := Name → Option (Panel U)

namespace Directory

/-- The reply of the panel under a name, or a warning that there is none. -/
def consult (directory : Directory U) (tag : Name) (call : Call U) : Warned (Reply U) :=
  match directory tag with
  | some panel => panel.reply call
  | none => { value := call.nothing, notes := [.unregistered tag] }

/-- The reply to a call by a map from names to panels. -/
def answer (directory : Directory U) (call : Call U) : Warned (Reply U) :=
  match call with
  | .register panel =>
    { value := .registered
      notes := if (directory panel.name).isSome then [.replaced panel.name] else [] }
  | .update message model =>
    if message.tag = model.tag then directory.consult message.tag call
    else { value := .updated none, notes := [.tagMismatch message.tag model.tag] }
  | .menuOptions model | .viewInside _ _ model | .viewOutside _ _ model | .subscriptions model =>
    directory.consult model.tag call

/-- The map after a call. -/
def after (directory : Directory U) : Call U → Directory U
  | .register panel => fun tag => if panel.name = tag then some panel else directory tag
  | _ => directory

/-- The replies to some calls in order, each beside its call. -/
def run (directory : Directory U) : List (Call U) → List (Call U × Warned (Reply U))
  | [] => []
  | call :: rest => (call, directory.answer call) :: (directory.after call).run rest

end Directory

namespace Hub

variable {hub : Hub U}

/-- A query that asks a panel for something is answered by the map as by the search, if the panel's
reply is what it is asked for and there is a reply where no panel is. -/
private theorem Sorted.ask_map_eq {α : Type} (sorted : hub.Sorted) {tag : Name} {call : Call U}
    {answer : Panel U → Option α} {wrap : Option α → Reply U}
    (replies : ∀ panel : Panel U, panel.reply call = { value := wrap (answer panel) })
    (nothing : call.nothing = wrap none) :
    (hub.ask tag answer).map wrap = Directory.consult hub.panel? tag call := by
  -- The lookup finds the panel of the map, or warns where the map has none.
  rw [ask, sorted.lookup_eq, Directory.consult]
  cases hub.panel? tag with
  | none => simp [Noted.map, nothing]
  | some panel => simp [Noted.map, replies]

/-- A hub in order replies to a call like its map from names to panels. -/
theorem Sorted.answer_eq (sorted : hub.Sorted) (call : Call U) :
    hub.answer call = Directory.answer hub.panel? call := by
  -- The four queries differ only in what they ask of the panel.
  cases call with
  | register panel => simp [answer, Directory.answer, Noted.map, sorted.notes_insert]
  | update message model =>
    simp only [answer, Directory.answer, Hub.update, Directory.consult]
    split
    · rw [sorted.lookup_eq]
      cases hub.panel? message.tag with
      | none => rfl
      | some panel =>
        simp only [Panel.reply]
        cases panel.taggedUpdate? message.payload model.payload <;> rfl
    · rfl
  | menuOptions model => exact sorted.ask_map_eq (fun _ => rfl) rfl
  | viewInside position radius model => exact sorted.ask_map_eq (fun _ => rfl) rfl
  | viewOutside position radius model => exact sorted.ask_map_eq (fun _ => rfl) rfl
  | subscriptions model => exact sorted.ask_map_eq (fun _ => rfl) rfl

/-- A call keeps the panels in order. -/
theorem Sorted.after (sorted : hub.Sorted) (call : Call U) : (hub.after call).Sorted := by
  cases call with
  | register panel => exact sorted.insert panel
  -- No other call touches the panels.
  | _ => exact sorted

/-- A call changes the hub's map from names to panels as it changes any such map. -/
theorem Sorted.panel?_after (sorted : hub.Sorted) (call : Call U) :
    (hub.after call).panel? = Directory.after hub.panel? call := by
  cases call with
  | register panel => exact funext (sorted.panel?_insert panel)
  | _ => rfl

/-- A hub in order replies to any calls like its map from names to panels. -/
theorem Sorted.run_eq (sorted : hub.Sorted) (calls : List (Call U)) :
    hub.run calls = Directory.run hub.panel? calls := by
  -- Each call is answered alike, and leaves a hub in order with the map's own successor.
  induction calls generalizing hub with
  | nil => rfl
  | cons call rest ih =>
    rw [run, Directory.run, sorted.answer_eq, ih (sorted.after call), sorted.panel?_after]

end Hub

namespace Directory

/-- The map that some calls lead to. -/
def afterAll (directory : Directory U) (calls : List (Call U)) : Directory U :=
  calls.foldl after directory

/-- After some calls, a name leads to the last panel registered under it. -/
theorem afterAll_eq (directory : Directory U) (calls : List (Call U)) (tag : Name) :
    directory.afterAll calls tag =
      (latest (calls.filterMap Call.registers?) tag).or (directory tag) := by
  -- Calls that register nothing leave the map alone.
  induction calls generalizing directory with
  | nil => rfl
  | cons call rest ih =>
    rw [afterAll, List.foldl_cons, ← afterAll, ih]
    cases call with
    -- The panel that is registered counts unless a later one has its name.
    | register panel =>
      rw [List.filterMap_cons_some (by rfl : Call.registers? _ = some panel), latest_cons, after]
      by_cases named : panel.name = tag <;>
        cases latest (rest.filterMap Call.registers?) tag <;> simp [named]
    | _ => rfl

/-- The reply at each step of a run is that of the map the earlier calls lead to. -/
theorem getElem?_run (directory : Directory U) (calls : List (Call U)) (step : Nat) :
    (directory.run calls)[step]? =
      calls[step]?.map fun call => (call, (directory.afterAll (calls.take step)).answer call) := by
  -- Taking one call off the front of a run leaves a run from the next map.
  induction calls generalizing directory step with
  | nil => rfl
  | cons call rest ih =>
    cases step with
    | zero => rfl
    | succ step => exact ih (directory.after call) step

/-- A call with a lookup is answered by the panel of the name looked up. -/
theorem answer_of_lookup? (directory : Directory U) {call : Call U} {tag : Name}
    (looks : call.lookup? = some tag) : directory.answer call = directory.consult tag call := by
  -- An update looks up the tag that its message and its model share.
  cases call with
  | register panel => cases looks
  | update message model =>
    simp only [Call.lookup?, Option.ite_none_right_eq_some, Option.some.injEq] at looks
    obtain ⟨same, rfl⟩ := looks
    exact if_pos same
  | _ => cases looks; rfl

/-- No panel replies that a name is not registered. -/
private theorem unregistered_notMem_reply (panel : Panel U) (call : Call U) (tag : Name) :
    .unregistered tag ∉ (panel.reply call).notes := by
  cases call with
  -- An update is the one call that a panel warns about, and it warns of the types.
  | update message model =>
    unfold Panel.reply
    dsimp only
    split <;> simp
  | _ => simp [Panel.reply]

/-- A name is reported as not registered exactly when the map has no panel under it. -/
theorem unregistered_mem_consult_iff (directory : Directory U) (tag : Name) (call : Call U) :
    .unregistered tag ∈ (directory.consult tag call).notes ↔ directory tag = none := by
  unfold consult
  cases directory tag with
  | none => simp
  -- A panel that is there replies, and it never says that it is missing.
  | some panel => simp [unregistered_notMem_reply panel call tag]

/-- A reply about a name depends on the panel of that name only. -/
theorem answer_congr {left right : Directory U} {tag : Name} (same : left tag = right tag)
    {call : Call U} (about : call.isAbout tag = true) : left.answer call = right.answer call := by
  -- Between two panels an update is turned down, and everything else looks at the name itself.
  cases call with
  | register panel =>
    have named : panel.name = tag := eq_of_beq about
    simp [answer, named, same]
  | update message model =>
    simp only [Call.isAbout, Bool.or_eq_true, beq_iff_eq] at about
    by_cases agree : message.tag = model.tag
    · have named : message.tag = tag := about.elim id fun other => agree.trans other
      simp only [answer, consult, named, same]
    · simp [answer, agree]
  | _ =>
    have named := eq_of_beq about
    simp [answer, consult, named, same]

/-- A call changes the panel of a name alike in maps that agree on the name. -/
private theorem after_congr {left right : Directory U} {tag : Name} (same : left tag = right tag)
    (call : Call U) : left.after call tag = right.after call tag := by
  cases call with
  | register panel => simp only [after, same]
  | _ => exact same

/-- A call that is not kept registers another name, so it is not about the name and keeps its
panel. -/
theorem after_of_not_isKept (directory : Directory U) {tag : Name} {call : Call U}
    (dropped : call.isKept tag = false) :
    call.isAbout tag = false ∧ directory.after call tag = directory tag := by
  -- Whatever is no registration is kept.
  cases call with
  | register panel =>
    have different : panel.name ≠ tag := ne_of_beq_false dropped
    exact ⟨dropped, if_neg different⟩
  | _ => cases dropped

/-- Registrations of other names do not show in the replies about a name. -/
theorem run_filter_isKept {left right : Directory U} {tag : Name} (same : left tag = right tag)
    (calls : List (Call U)) :
    ((left.run calls).filter fun step => step.1.isAbout tag) =
      ((right.run (calls.filter (Call.isKept tag))).filter fun step => step.1.isAbout tag) := by
  -- Along both runs the maps agree at the name, which is all that a reply about it depends on.
  induction calls generalizing left right with
  | nil => rfl
  | cons call rest ih =>
    cases kept : call.isKept tag with
    -- The call shows in neither run, and the left map goes on with its old panel of the name.
    | false =>
      obtain ⟨aside, unchanged⟩ := left.after_of_not_isKept kept
      have later : left.after call tag = right tag := unchanged.trans same
      simp only [run, List.filter_cons, kept, aside, Bool.false_eq_true, if_false, ih later]
    -- Both runs make the call, so the maps go on agreeing.
    | true =>
      have later := ih (after_congr same call)
      cases about : call.isAbout tag with
      | false =>
        simp only [run, List.filter_cons, kept, about, Bool.false_eq_true, if_true, if_false, later]
      | true =>
        simp only [run, List.filter_cons, kept, about, if_true, later, answer_congr same about]

end Directory

namespace Hub

/-- Hubs in order with the same map from names to panels are the same. -/
theorem Sorted.eq_of_panel?_eq {left right : Hub U} (sorted : left.Sorted)
    (sorted' : right.Sorted) (same : left.panel? = right.panel?) : left = right := by
  -- In order, the map decides which panels there are, and the order does the rest.
  have members : ∀ panel, panel ∈ left.panels ↔ panel ∈ right.panels := by
    intro panel
    rw [sorted.mem_panels_iff, sorted'.mem_panels_iff, same]
  have panels : left.panels = right.panels := Name.eq_of_mem_iff sorted sorted' members
  cases left
  cases right
  exact congrArg Hub.mk panels

/-- Registrations with the same last panel under each name lead to the same hub. -/
theorem ofPanels_congr {left right : List (Panel U)}
    (same : ∀ tag, latest left tag = latest right tag) : ofPanels left = ofPanels right := by
  refine (sorted_ofPanels left).eq_of_panel?_eq (sorted_ofPanels right) (funext fun tag => ?_)
  -- The last panel under each name is what the map of the hub consists of.
  rw [panel?_ofPanels, panel?_ofPanels, same]

/-- In any run each lookup meets the panel registered last under its name, registrations of other
names do not show, and only the last panel under each name counts. -/
theorem run_goes_by_last_registrations :
    (∀ (calls : List (Call U)) (step : Nat) (call : Call U) (tag : Name),
      calls[step]? = some call → call.lookup? = some tag →
        ∃ reply, (({} : Hub U).run calls)[step]? = some (call, reply) ∧
          let registered := (calls.take step).filterMap Call.registers?
          (∀ panel, latest registered tag = some panel → reply = panel.reply call) ∧
          (latest registered tag = none →
            reply = { value := call.nothing, notes := [.unregistered tag] }) ∧
          (.unregistered tag ∈ reply.notes ↔ latest registered tag = none)) ∧
    (∀ (calls : List (Call U)) (tag : Name),
      ((({} : Hub U).run (calls.filter (Call.isKept tag))).filter fun step => step.1.isAbout tag) =
        ((({} : Hub U).run calls).filter fun step => step.1.isAbout tag)) ∧
    ∀ left right : List (Panel U), (∀ tag, latest left tag = latest right tag) →
      ofPanels left = ofPanels right := by
  refine ⟨?_, ?_, fun left right => ofPanels_congr⟩
  · intro calls step call tag asked looks
    -- The map of the run has come to hold the last panel registered under the name.
    have held := Directory.afterAll_eq ({} : Hub U).panel? (calls.take step) tag
    rw [show ({} : Hub U).panel? tag = none from rfl, Option.or_none] at held
    refine ⟨(Directory.afterAll ({} : Hub U).panel? (calls.take step)).answer call, ?_, ?_⟩
    · rw [sorted_empty.run_eq, Directory.getElem?_run, asked]
      rfl
    · rw [Directory.answer_of_lookup? _ looks, Directory.unregistered_mem_consult_iff, held]
      -- With a panel the map consults it, and without one it warns.
      refine ⟨fun panel last => ?_, fun missing => ?_, Iff.rfl⟩
      · rw [Directory.consult, held, last]
      · rw [Directory.consult, held, missing]
  · intro calls tag
    -- The full run is the left one, and both start from the same map.
    rw [sorted_empty.run_eq, sorted_empty.run_eq]
    exact (Directory.run_filter_isKept rfl calls).symm

/-- A menu asked for between two registrations of a name is that of the first, and the two leave
the same hub as the second alone. -/
theorem run_goes_by_last_registrations_replaced :
    let first := Gallery.counter ⟨"B"⟩ "first"
    let second := Gallery.tally ⟨"B"⟩ "second"
    let call : Call galleryUniverse := .menuOptions (first.ofModel (0 : Int))
    (({} : Hub galleryUniverse).run
      [.register first, .register (Gallery.text ⟨"A"⟩ "other"), call, .register second])[2]? =
        some (call, first.reply call) ∧
    ofPanels [first, second] = ofPanels [second] := by
  intro first second call
  -- Before the menu is asked for, only the first registration of the name has happened.
  obtain ⟨answered, -, same⟩ := run_goes_by_last_registrations (U := galleryUniverse)
  refine ⟨?_, same [first, second] [second] fun tag => ?_⟩
  · obtain ⟨reply, ran, found, -⟩ := answered
      [.register first, .register (Gallery.text ⟨"A"⟩ "other"), call, .register second] 2 call ⟨"B"⟩
      rfl rfl
    rw [ran, found first rfl]
  · -- The second has the name of the first, so it is the last wherever the first could be.
    rw [latest_cons first, latest_cons second]
    show (Option.or _ _).or (if second.name = tag then some first else none) = _
    split <;> rfl

end Hub

end Switchboard
