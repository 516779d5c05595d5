import Switchboard.Hub.Gallery
import Switchboard.Proofs.Hub.Registration
import Switchboard.Proofs.Roster

/-!
Rosters and hubs rank names alike. A roster sorts its names and a hub searches among its own, but
both go by one total order, which is that of the stored bytes and that of the code points.
-/

namespace Switchboard

/-! ### What sorting says -/

namespace Roster

/-- Whether sorting some items ranks two of them as an outcome of comparing: the lower one stands
before the other, and two that are level stand as they came. -/
def Ranks (items : List Item) (first second : Item) : Ordering → Prop
  | .lt => [first, second].Sublist (ofItems items).items ∧
    ¬ [second, first].Sublist (ofItems items).items
  | .eq => ([first, second].Sublist (ofItems items).items ↔ [first, second].Sublist items) ∧
    ([second, first].Sublist (ofItems items).items ↔ [second, first].Sublist items)
  | .gt => [second, first].Sublist (ofItems items).items ∧
    ¬ [first, second].Sublist (ofItems items).items

/-- Sorting puts the item of a lower name first, and not the other one. -/
theorem pair_sublist_of_lt {items : List Item} {first second : Item}
    (lower : compare first.name second.name = .lt) (member : first ∈ items)
    (member' : second ∈ items) :
    [first, second].Sublist (ofItems items).items ∧
      ¬ [second, first].Sublist (ofItems items).items := by
  -- The other order of the two would ask for the comparison that was decided against it.
  refine ⟨pair_sublist_ofItems_iff.mpr (.inl ⟨lower, member, member'⟩), fun reversed => ?_⟩
  have higher : compare second.name first.name = .gt := Std.OrientedCmp.gt_of_lt lower
  simpa [higher] using pair_sublist_ofItems_iff.mp reversed

/-- Sorting ranks two items as their names compare. -/
theorem ranks_compare {items : List Item} {first second : Item} (member : first ∈ items)
    (member' : second ∈ items) : Ranks items first second (compare first.name second.name) := by
  -- Higher is lower from the other side, so two of the three outcomes are one lemma.
  cases outcome : compare first.name second.name with
  | lt => exact pair_sublist_of_lt outcome member member'
  | eq =>
    -- Names that are level are level from either side.
    have level : compare second.name first.name = .eq := Std.OrientedCmp.eq_symm outcome
    exact ⟨by simp [pair_sublist_ofItems_iff, outcome], by simp [pair_sublist_ofItems_iff, level]⟩
  | gt => exact pair_sublist_of_lt (Std.OrientedCmp.lt_of_gt outcome) member' member

end Roster

/-! ### One order -/

namespace Hub

variable {U : Universe}

/-- Comparing two names is comparing the bytes they are stored as, and comparing their code points,
each from the front. This is a total order, under which only a name and itself are level. In every
hub that registrations lead to, the search for a tag says of each name what comparing the two says,
and every roster ranks its items as their names compare, so the search and the sorting never
disagree on two names. -/
theorem one_order_ranks_names :
    (∀ left right : Name,
      compare left right = compare (Utf8.encode left.text) (Utf8.encode right.text) ∧
      compare left right =
        compare (left.text.toList.map Char.toNat) (right.text.toList.map Char.toNat) ∧
      compare right left = (compare left right).swap ∧
      (compare left right = .eq ↔ left = right) ∧
      ((compare left right).isLE = true ∨ (compare right left).isLE = true) ∧
      ((compare left right).isLE = true → (compare right left).isLE = true → left = right)) ∧
    (∀ first second third : Name, (compare first second).isLE = true →
      (compare second third).isLE = true → (compare first third).isLE = true) ∧
    (∀ (panels : List (Panel U)) (index : Nat) (name tag : Name),
      (ofPanels panels).names[index]? = some name →
      ((ofPanels panels).position tag).verdict index = compare name tag) ∧
    (∀ (items : List Item) (first second : Item), first ∈ items → second ∈ items →
      Roster.Ranks items first second (compare first.name second.name)) ∧
    ∀ (panels : List (Panel U)) (items : List Item) (index : Nat) (first second : Item),
      (ofPanels panels).names[index]? = some first.name → first ∈ items → second ∈ items →
      Roster.Ranks items first second (((ofPanels panels).position second.name).verdict index) := by
  -- In order, what the search has to say about an index is the comparison with the name there.
  have searched (panels : List (Panel U)) (index : Nat) (name tag : Name)
      (found : (ofPanels panels).names[index]? = some name) :
      ((ofPanels panels).position tag).verdict index = compare name tag :=
    (sorted_ofPanels panels).verdict_position found tag
  refine ⟨fun left right => ⟨?_, ?_, Std.OrientedOrd.eq_swap, Std.LawfulEqOrd.compare_eq_iff_eq,
    ?_, fun order order' => ?_⟩, fun _ _ _ => Std.TransCmp.isLE_trans, searched,
    fun items first second => Roster.ranks_compare, ?_⟩
  · -- The order of bytes and that of code points agree because the encoding keeps the order.
    exact (Utf8.compare_encode left.text right.text).symm
  · exact (Utf8.compare_codePoints left.text right.text).symm
  · simpa using isLE_compare_or left right
  · exact Std.LawfulEqCmp.eq_of_compare (Std.OrientedCmp.isLE_antisymm order order')
  · -- The verdict at an index is a comparison, and those are ranked.
    intro panels items index first second found member member'
    rw [searched panels index first.name second.name found]
    exact Roster.ranks_compare member member'

/-- The search and the sorting put a name of three bytes before one of four, though in units of
sixteen bits the second starts lower, and what comes before the first comes before both. -/
theorem one_order_ranks_names_of_four_bytes :
    let panels := [Gallery.counter ⟨"😀"⟩ "second", Gallery.text ⟨"\uFFFD"⟩ "first"]
    let items : List Item := [⟨⟨"😀"⟩, .ofString "😀.elm"⟩, ⟨⟨"\uFFFD"⟩, .ofString "\uFFFD.elm"⟩]
    (ofPanels panels).names[0]? = some ⟨"\uFFFD"⟩ ∧
      ((ofPanels panels).position ⟨"😀"⟩).verdict 0 = .lt ∧
      Roster.Ranks items ⟨⟨"\uFFFD"⟩, .ofString "\uFFFD.elm"⟩ ⟨⟨"😀"⟩, .ofString "😀.elm"⟩ .lt ∧
      (compare (⟨"é"⟩ : Name) ⟨"😀"⟩).isLE = true := by
  intro panels items
  obtain ⟨-, trans, searched, -, ranked⟩ := @one_order_ranks_names galleryUniverse
  have found : (ofPanels panels).names[0]? = some ⟨"\uFFFD"⟩ := by decide +kernel
  -- By bytes the shorter encoding is the lower one here, whatever units of another width say.
  have lower : compare (⟨"\uFFFD"⟩ : Name) ⟨"😀"⟩ = .lt := by decide
  have verdict : ((ofPanels panels).position ⟨"😀"⟩).verdict 0 = .lt :=
    (searched panels 0 _ ⟨"😀"⟩ found).trans lower
  have ranks := ranked panels items 0 ⟨⟨"\uFFFD"⟩, .ofString "\uFFFD.elm"⟩
    ⟨⟨"😀"⟩, .ofString "😀.elm"⟩ found (by simp [items]) (by simp [items])
  rw [verdict] at ranks
  exact ⟨found, verdict, ranks, trans _ ⟨"\uFFFD"⟩ _ (by decide) (by rw [lower]; rfl)⟩

end Hub

end Switchboard
