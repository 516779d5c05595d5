import Switchboard.Document
import Switchboard.Proofs.Path.Components
import Switchboard.Proofs.Roster

/-!
A roster and its generated module have one form, whatever order the content modules came in. Main
statements: the text of a generated module goes by the names alone, and the paths set aside go by
their components.
-/

namespace Switchboard.Roster

/-! ### Names -/

/-- The text of a generated module goes by the names, the namespace and its own name. -/
theorem contents_document (roster : Roster) (settings : Settings) :
    (roster.document settings).contents =
      fill settings.moduleName fun slot => slot.body settings.contentNamespace roster.names :=
  rfl

/-- A roster holds its items in the order of the bytes of their names, those of one name as they
came, and making it again from what it holds changes nothing. Items with the same names, in whatever
order and from whatever files, give the same text of a generated module, whatever is set aside and
wherever the settings look and write. -/
theorem names_settle_order_and_contents (items : List Item) :
    (ofItems items).items.Perm items ∧
    ((ofItems items).items.Pairwise fun first second =>
      Utf8.encode first.name.text ≤ Utf8.encode second.name.text) ∧
    (∀ name, (ofItems items).items.filter (·.name = name) = items.filter (·.name = name)) ∧
    ofItems (ofItems items).items = ofItems items ∧
    (∀ paths, let roster := (ofItems items).settingAside paths
      (ofItems roster.items).settingAside roster.setAside = roster) ∧
    ∀ (others : List Item) (paths paths' : List Path) (settings settings' : Settings),
      (items.map Item.name).Perm (others.map Item.name) →
      settings.contentNamespace = settings'.contentNamespace →
      settings.moduleName = settings'.moduleName →
      (({ ofItems items with setAside := paths } : Roster).document settings).contents =
        (({ ofItems others with setAside := paths' } : Roster).document settings').contents := by
  refine ⟨perm_ofItems items, ?_, filter_ofItems items, ofItems_items items, fun paths => ?_, ?_⟩
  · -- The order of names is that of their bytes.
    refine (ordered_ofItems items).imp fun {first second} order => ?_
    rwa [Name.isLE_compare_eq, decide_eq_true_iff] at order
  · -- Both lists are sorted already, so sorting them again does nothing.
    calc (ofItems (ofItems items).items).settingAside ((ofItems items).settingAside paths).setAside
        = (ofItems items).settingAside ((ofItems items).settingAside paths).setAside := by
          rw [ofItems_items]
      _ = (ofItems items).settingAside paths := settingAside_setAside _ paths
  · intro others paths paths' settings settings' same space title
    -- Neither text reads anything but the names.
    rw [contents_document, contents_document, space, title]
    exact congrArg (fun names => fill settings'.moduleName fun slot =>
      slot.body settings'.contentNamespace names) (names_ofItems_eq_of_perm same)

/-- Items in another order, from other files and under other settings for where to look and write,
give the same text. -/
theorem names_settle_order_and_contents_elsewhere :
    let items : List Item := [⟨⟨"Tally"⟩, .ofString "a/Tally.elm"⟩,
      ⟨⟨"Clock"⟩, .ofString "a/Clock.elm"⟩, ⟨⟨"Tally"⟩, .ofString "b/Tally.elm"⟩]
    let others : List Item := [⟨⟨"Clock"⟩, ⟨[]⟩⟩, ⟨⟨"Tally"⟩, ⟨[]⟩⟩, ⟨⟨"Tally"⟩, ⟨[]⟩⟩]
    let settings : Settings := {}
    let settings' : Settings := { contentDir := ⟨[]⟩, outPath := .ofString "out.elm", suffix := "" }
    (items.map Item.name).Perm (others.map Item.name) ∧
      settings.contentNamespace = settings'.contentNamespace ∧
      settings.moduleName = settings'.moduleName ∧
      (({ ofItems items with setAside := [.ofString "a/notes"] } : Roster).document
        settings).contents = ((ofItems others).document settings').contents := by
  intro items others settings settings'
  have same : (items.map Item.name).Perm (others.map Item.name) := by decide
  obtain ⟨-, -, -, -, -, alike⟩ := names_settle_order_and_contents items
  exact ⟨same, rfl, rfl, alike others _ [] settings settings' same rfl rfl⟩

/-! ### Paths set aside -/

/-- Only the paths that are set aside last count. -/
theorem foldl_settingAside (roster : Roster) (earlier : List (List Path)) (paths : List Path) :
    (earlier ++ [paths]).foldl settingAside roster = roster.settingAside paths := by
  -- Each time the items stay and everything set aside before goes.
  induction earlier generalizing roster with
  | nil => rfl
  | cons first rest ih =>
    rw [List.cons_append, List.foldl_cons, ih]
    rfl

/-- However often paths are set aside, the items stay and the last paths are kept, each as it is
spelled, in the order of their components and as they came where these are equal. Components are the
one reading of a spelling, they are compared from the front, and this makes a total preorder of all
paths, under which only paths of the same components are level. -/
theorem settingAside_goes_by_components (roster : Roster) (earlier : List (List Path))
    (paths : List Path) :
    let result := (earlier ++ [paths]).foldl settingAside roster
    (result.items = roster.items ∧
      result.setAside.Perm paths ∧
      (result.setAside.Pairwise fun first second => (compare first second).isLE = true) ∧
      ∀ steps, result.setAside.filter (·.components = steps) =
        paths.filter (·.components = steps)) ∧
    (∀ (path : Path) (steps : List Path.Component),
      path.components = steps ↔ Path.Spells path.bytes steps) ∧
    (∀ left right : Path, compare left right = .lt ↔
      List.Lex Path.Component.Before left.components right.components) ∧
    (∀ left right : Path, compare left right = .eq ↔ left.components = right.components) ∧
    (∀ left right : Path, (compare left right).isLE = true ∨ (compare right left).isLE = true) ∧
    ∀ first second third : Path, (compare first second).isLE = true →
      (compare second third).isLE = true → (compare first third).isLE = true := by
  intro result
  -- All but the last of the lists leave no trace.
  have last : result = roster.settingAside paths := foldl_settingAside roster earlier paths
  rw [last]
  refine ⟨⟨rfl, roster.perm_settingAside paths, roster.ordered_settingAside paths,
    roster.filter_settingAside paths⟩, fun _ _ => Path.components_eq_iff,
    fun _ _ => Path.compare_eq_lt_iff, fun _ _ => Path.compare_eq_eq_iff, fun left right => ?_,
    fun _ _ _ => Std.TransCmp.isLE_trans⟩
  simpa using isLE_compare_or left right

/-- Paths of equal components stay as they came, and a path below another one comes later, though
its spelling comes first. -/
theorem settingAside_goes_by_components_slashed :
    let roster : Roster := (ofItems [⟨⟨"Clock"⟩, ⟨[]⟩⟩]).settingAside [.ofString "z"]
    let result := [[.ofString "y"], [.ofString "a//b", .ofString "a.b", .ofString "a/./b/"]].foldl
      settingAside roster
    result.items = roster.items ∧
      result.setAside.filter (·.components = (Path.ofString "a/b").components) =
        [.ofString "a//b", .ofString "a/./b/"] ∧
      (compare (Path.ofString "a/") (.ofString "a//b")).isLE = true ∧
      (compare (Path.ofString "a//b") (.ofString "a.b")).isLE = true ∧
      (compare (Path.ofString "a/") (.ofString "a.b")).isLE = true := by
  intro roster result
  obtain ⟨⟨items, -, -, level⟩, -, -, -, -, trans⟩ := settingAside_goes_by_components roster
    [[.ofString "y"]] [.ofString "a//b", .ofString "a.b", .ofString "a/./b/"]
  have below : (compare (Path.ofString "a/") (.ofString "a//b")).isLE = true := by decide
  have beside : (compare (Path.ofString "a//b") (.ofString "a.b")).isLE = true := by decide
  exact ⟨items, (level _).trans (by decide), below, beside, trans _ _ _ below beside⟩

end Switchboard.Roster
