import Switchboard.Hub.Gallery
import Switchboard.Proofs.Document.Arms
import Switchboard.Proofs.Hub.Dispatch
import Switchboard.Proofs.Hub.Registration

/-!
The dispatchers of the module generated from a hub choose the same panels as the hub does itself,
and wrap what comes back in the constructors of the names that the hub tags it with.
-/

namespace Switchboard

variable {U : Universe}

namespace Hub

/-- The generated dispatchers do to constructors what the hub does to tags. -/
structure Agrees (hub : Hub U) (code : Dispatcher → Code.Definition) : Prop where
  /-- On a message and a model of one panel, its own update is called and wrapped under its name. -/
  applied : ∀ panel ∈ hub.panels,
    (code .update).outcome? (Slot.messageConstructor panel.name)
        (Slot.modelConstructor panel.name) =
      some (.applied ⟨panel.name.text, "update",
        [.content (Slot.messageConstructor panel.name),
          .content (Slot.modelConstructor panel.name)]⟩
        (Slot.modelConstructor panel.name) (Slot.messageConstructor panel.name)) ∧
    ∀ message model, hub.update (panel.ofMessage message) (panel.ofModel model) =
      { value := some (panel.ofModel (panel.update message model).1,
          (panel.update message model).2.map panel.ofMessage) }
  /-- On a message and a model of different panels, nothing but a mismatch comes back. -/
  mismatched : ∀ left ∈ hub.panels, ∀ right ∈ hub.panels, left.name ≠ right.name →
    (code .update).outcome? (Slot.messageConstructor left.name)
        (Slot.modelConstructor right.name) = some (.logged "mismatchError") ∧
    ∀ message model, hub.update (left.ofMessage message) (right.ofModel model) =
      { value := none, notes := [.tagMismatch left.name right.name] }
  /-- The menu of a model is that of its panel, with the messages wrapped under its name. -/
  menuOptions : ∀ panel ∈ hub.panels,
    (code .menuOptions).query? (Slot.modelConstructor panel.name) =
      some ⟨⟨panel.name.text, "menuOptions", []⟩, ["List.map", "Option.map"],
        Slot.messageConstructor panel.name⟩ ∧
    ∀ model, hub.menuOptions (panel.ofModel model) =
      { value := some (panel.menuOptions.map (MenuOption.map panel.ofMessage)) }
  /-- The inner view of a model is that of its panel, with the messages wrapped under its name. -/
  viewInside : ∀ panel ∈ hub.panels,
    (code .viewInside).query? (Slot.modelConstructor panel.name) =
      some ⟨⟨panel.name.text, "viewInside", [.parameter "pos", .parameter "radius",
        .content (Slot.modelConstructor panel.name)]⟩, ["Html.map"],
        Slot.messageConstructor panel.name⟩ ∧
    ∀ position radius model, hub.viewInside position radius (panel.ofModel model) =
      { value := some ((panel.viewInside position radius model).map panel.ofMessage) }
  /-- The outer view of a model is that of its panel, with the messages wrapped under its name. -/
  viewOutside : ∀ panel ∈ hub.panels,
    (code .viewOutside).query? (Slot.modelConstructor panel.name) =
      some ⟨⟨panel.name.text, "viewOutside", [.parameter "pos", .parameter "radius",
        .content (Slot.modelConstructor panel.name)]⟩, ["Html.map"],
        Slot.messageConstructor panel.name⟩ ∧
    ∀ position radius model, hub.viewOutside position radius (panel.ofModel model) =
      { value := some ((panel.viewOutside position radius model).map panel.ofMessage) }
  /-- The subscriptions for a model are those of its panel, wrapped under its name. -/
  subscriptions : ∀ panel ∈ hub.panels,
    (code .subscriptions).query? (Slot.modelConstructor panel.name) =
      some ⟨⟨panel.name.text, "subscriptions", [.content (Slot.modelConstructor panel.name)]⟩,
        ["Sub.map"], Slot.messageConstructor panel.name⟩ ∧
    ∀ model, hub.subscriptions (panel.ofModel model) =
      { value := some ((panel.subscriptions model).map panel.ofMessage) }

/-- The definitions made from the names of a hub in order agree with the hub. -/
theorem Sorted.agrees {hub : Hub U} (sorted : hub.Sorted)
    (spellable : ∀ name ∈ hub.names, name.isSpellable = true) :
    hub.Agrees fun dispatcher => dispatcher.definition hub.names := by
  -- The text is read at the panel's name, and the hub looks the panel up under the same name.
  have named {panel : Panel U} (registered : panel ∈ hub.panels) : panel.name ∈ hub.names :=
    List.mem_map_of_mem registered
  constructor
  · intro panel registered
    refine ⟨?_, sorted.update_own registered⟩
    -- The two constructors are of one name, so the update is applied.
    exact (Dispatcher.outcome?_update spellable (named registered)).trans (if_pos rfl)
  · intro left registered right _ different
    -- Both the text and the hub turn down what belongs to different names.
    refine ⟨?_, fun message model => if_neg different⟩
    exact (Dispatcher.outcome?_update spellable (named registered)).trans (if_neg different)
  · intro panel registered
    exact ⟨Dispatcher.query?_menuOptions spellable (named registered),
      sorted.menuOptions_own registered⟩
  · intro panel registered
    exact ⟨Dispatcher.query?_view spellable (named registered) (Or.inl rfl),
      sorted.viewInside_own registered⟩
  · intro panel registered
    exact ⟨Dispatcher.query?_view spellable (named registered) (Or.inr rfl),
      sorted.viewOutside_own registered⟩
  · intro panel registered
    exact ⟨Dispatcher.query?_subscriptions spellable (named registered),
      sorted.subscriptions_own registered⟩

/-- Whatever panels with spellable names were registered, the module generated from the hub defines
five dispatchers that agree with the hub, and defines nothing else under their names unless a line
feed in the settings does. -/
theorem generated_dispatchers_agree {panels : List (Panel U)}
    (spellable : ∀ panel ∈ panels, panel.name.isSpellable = true) (settings : Settings) :
    ∃ code : Dispatcher → Code.Definition,
      (∀ dispatcher, code dispatcher ∈ Code.definitions dispatcher.name
        ((ofPanels panels).toRoster.document settings).contents) ∧
      ('\n' ∉ settings.moduleName.toList → '\n' ∉ settings.contentNamespace.toList →
        ∀ dispatcher, Code.definitions dispatcher.name
          ((ofPanels panels).toRoster.document settings).contents = [code dispatcher]) ∧
      (ofPanels panels).Agrees code := by
  have sorted := sorted_ofPanels panels
  -- Every name of the hub was registered with some panel.
  have spelled : ∀ name ∈ (ofPanels panels).names, name.isSpellable = true := by
    intro name member
    rw [mem_names_iff, panel?_ofPanels, latest_isSome_iff] at member
    obtain ⟨panel, registered, rfl⟩ := List.mem_map.mp member
    exact spellable panel registered
  -- Spellable names break no line, so the text has the lines of its parts.
  have unbroken : ∀ name ∈ (ofPanels panels).names, name.Unbroken :=
    fun name member => Name.unbroken_of_isSpellable (spelled name member)
  refine ⟨fun dispatcher => dispatcher.definition (ofPanels panels).names, fun dispatcher => ?_,
    fun inModule inSpace dispatcher => ?_, sorted.agrees spelled⟩
  · -- The module is made of the hub's names, in the hub's order.
    rw [Roster.document, sorted.names_toRoster]
    exact dispatcher.definition_mem _ _ unbroken
  · rw [Roster.document, sorted.names_toRoster]
    exact dispatcher.definitions_eq_singleton unbroken inSpace inModule

/-- The module generated from two panels logs a message of one that meets a model of the other. -/
theorem generated_dispatchers_agree_mismatched :
    (Code.definitions "update" ((ofPanels [Gallery.counter ⟨"Beta"⟩ "b",
      Gallery.tally ⟨"Alpha"⟩ "a"]).toRoster.document {}).contents).map
        (fun definition => definition.outcome? "MsgBeta" "MdlAlpha") =
      [some (.logged "mismatchError")] := by
  have spellable : ∀ panel ∈ [Gallery.counter ⟨"Beta"⟩ "b", Gallery.tally ⟨"Alpha"⟩ "a"],
      panel.name.isSpellable = true := by
    intro panel member
    rcases List.mem_pair.mp member with rfl | rfl <;> rfl
  -- The usual settings have no line feeds, so the definition in the text is the only one.
  obtain ⟨code, -, once, agrees⟩ := generated_dispatchers_agree spellable {}
  have only := once (by decide) (by decide) .update
  -- Each panel is the last with its name.
  have registered {panel : Panel galleryUniverse}
      (last : latest [Gallery.counter ⟨"Beta"⟩ "b", Gallery.tally ⟨"Alpha"⟩ "a"] panel.name =
        some panel) := ((sorted_ofPanels _).mem_panels_iff panel).mpr
    ((panel?_ofPanels _ panel.name).trans last)
  rw [show "update" = Dispatcher.update.name from rfl, only, List.map_singleton]
  have logged := (agrees.mismatched (Gallery.counter ⟨"Beta"⟩ "b") (registered rfl)
    (Gallery.tally ⟨"Alpha"⟩ "a") (registered rfl) (by decide)).1
  exact congrArg (fun outcome => [outcome]) logged

end Hub

end Switchboard
