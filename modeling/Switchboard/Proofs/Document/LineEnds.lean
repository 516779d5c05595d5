import Switchboard.Proofs.Document.Alignment

/-!
The ends of the lines of a generated module. Main statement: with names that are not blank and do
not end in a space themselves, no line ends in a space.
-/

namespace Switchboard

namespace Lines

/-- What it is for a text to close a line: it is not blank and does not end in a space. -/
def Closes (text : String) : Prop :=
  text ≠ "" ∧ text.toList.getLast? ≠ some ' '

instance (text : String) : Decidable (Closes text) :=
  inferInstanceAs (Decidable (_ ∧ _))

/-- What closes a line also does so behind another text. -/
theorem Closes.append {after : String} (before : String) (closes : Closes after) :
    Closes (before ++ after) := by
  obtain ⟨filled, closed⟩ := closes
  have spelled : after.toList ≠ [] := fun blank => filled (String.toList_eq_nil_iff.mp blank)
  refine ⟨fun blank => filled (String.append_eq_empty_iff.mp blank).2, ?_⟩
  -- The end of the whole is that of what stands behind.
  rwa [String.toList_append, List.getLast?_append_of_ne_nil _ spelled]

/-- Moving a line right does not open its end. -/
theorem Closes.pad {line : String} (width : Nat) (closes : Closes line) :
    Closes (pad width line) := by
  -- Only blank lines are left where they are.
  rw [Lines.pad, if_neg closes.1]
  exact closes.append _

/-- A line ends in no space if it is blank or closed. -/
theorem getLast?_ne_of_closes {line : String} (closes : line = "" ∨ Closes line) :
    line.toList.getLast? ≠ some ' ' := by
  rcases closes with rfl | ⟨-, closed⟩
  · decide
  · exact closed

end Lines

open Lines (Closes)

namespace Slot

variable {name : Name}

/-- The lines of an arm that asks a module's function are closed if the call and what follows it
are. -/
theorem closes_of_mem_queryArm {call lift : String} (inCall : Closes call) (inLift : Closes lift)
    {line : String} (member : line ∈ queryArm name call lift) : Closes line := by
  simp only [queryArm, List.mem_cons, List.not_mem_nil, or_false] at member
  -- Each of the three lines ends in fixed text, in the call or in what follows it.
  rcases member with rfl | rfl | rfl
  · exact .append _ (by decide)
  · exact inCall.append _
  · exact inLift.append _

/-- The lines of an arm that answers a message are closed but for the blank one. -/
theorem closes_of_mem_updateArm {line : String} (member : line ∈ updateArm name) :
    line = "" ∨ Closes line := by
  -- The name stands inside the lines, and what stands behind it is fixed.
  simp only [updateArm, List.mem_cons, List.not_mem_nil, or_false] at member
  rcases member with rfl | rfl | rfl | rfl | rfl | rfl | rfl | rfl | rfl | rfl | rfl
  all_goals first
    | exact Or.inl rfl
    | exact Or.inr (by decide)
    | exact Or.inr (.append _ (by decide))

/-- The lines of a block are closed or blank if the name closes a line. -/
theorem closes_of_mem_block {space : String} {slot : Slot} {first : Bool}
    (closes : Closes name.text) {line : String} (member : line ∈ block space slot first name) :
    line = "" ∨ Closes line := by
  -- The constructor for messages ends in the name.
  have lifted : Closes (messageConstructor name) := closes.append "Msg"
  cases slot with
  | imports =>
    rw [List.mem_singleton.mp member, importLine]
    split <;> exact Or.inr (closes.append _)
  | models | messages =>
    -- Behind the name stands the fixed end of a type.
    rw [List.mem_singleton.mp member]
    exact Or.inr (.append _ (by decide))
  | update => exact closes_of_mem_updateArm member
  | menu => exact Or.inr (closes_of_mem_queryArm (by decide) (.append _ (by decide)) member)
  | inside | outside | subscriptions =>
    exact Or.inr (closes_of_mem_queryArm (by decide) (lifted.append _) member)

/-- The lines of a slot are closed or blank if every name closes a line. -/
theorem closes_of_mem_lines {space : String} {slot : Slot} {names : List Name}
    (closes : ∀ name ∈ names, Closes name.text) {line : String}
    (member : line ∈ slot.lines space names) : line = "" ∨ Closes line := by
  unfold lines at member
  split at member
  · exact Or.inl (List.mem_singleton.mp member)
  · -- Moved to the margin, a closed line stays closed and a blank one blank.
    obtain ⟨inner, among, rfl⟩ := List.mem_map.mp member
    obtain ⟨block, inside, within⟩ := List.mem_flatten.mp among
    obtain ⟨first, name, named, rfl⟩ := exists_of_mem_blocks inside
    rcases closes_of_mem_block (closes name named) within with rfl | closed
    · exact Or.inl rfl
    · exact Or.inr (closed.pad _)

end Slot

namespace Part

/-- Whether what stands last in a part, outside the slots, is blank or closes a line. -/
def isClosed : Part → Bool
  | fixed line => line = "" ∨ Closes line
  | naming _ after => Closes after
  | hole _ => true

/-- Outside the slots, every line of the template is blank or closed. -/
theorem isClosed_of_mem_template : ∀ part ∈ template, part.isClosed = true := by
  decide +kernel

end Part

/-- No line of a generated module ends in a space, given that no name is blank, ends in a space or
breaks a line, and that the settings have no line feeds. -/
theorem Roster.no_line_ends_in_space (roster : Roster) (settings : Settings)
    (unbroken : ∀ name ∈ roster.names, name.Unbroken)
    (closes : ∀ name ∈ roster.names, name.text ≠ "" ∧ name.text.toList.getLast? ≠ some ' ')
    (inSpace : '\n' ∉ settings.contentNamespace.toList)
    (inModule : '\n' ∉ settings.moduleName.toList) :
    ∀ line ∈ Lines.split (roster.document settings).contents, line.toList.getLast? ≠ some ' ' := by
  intro line member
  refine Lines.getLast?_ne_of_closes ?_
  rw [roster.split_document unbroken inSpace inModule] at member
  rcases List.mem_append.mp member with inPart | last
  · obtain ⟨part, listed, within⟩ := List.mem_flatMap.mp inPart
    -- The line belongs to some part, and each kind of part has its own reason.
    have closed := Part.isClosed_of_mem_template part listed
    cases part with
    | fixed text => exact List.mem_singleton.mp within ▸ of_decide_eq_true closed
    | naming before after =>
      rw [List.mem_singleton.mp within]
      exact Or.inr ((of_decide_eq_true closed).append _)
    | hole slot => exact Slot.closes_of_mem_lines closes within
  · -- Behind the last line feed there is nothing.
    exact Or.inl (List.mem_singleton.mp last)

/-- Names with spaces in front and inside, and a module's name and a namespace that end in a space
and in a return, leave no line with a space at its end. -/
theorem Roster.no_line_ends_in_space_inside :
    let roster : Roster := { items := [⟨⟨" a b"⟩, ⟨[]⟩⟩, ⟨⟨"Été"⟩, ⟨[]⟩⟩, ⟨⟨"Été"⟩, ⟨[]⟩⟩] }
    let settings : Settings := { contentNamespace := "Content ", moduleName := "Made\r " }
    (∀ name ∈ roster.names, name.Unbroken) ∧
      (∀ name ∈ roster.names, name.text ≠ "" ∧ name.text.toList.getLast? ≠ some ' ') ∧
      '\n' ∉ settings.contentNamespace.toList ∧ '\n' ∉ settings.moduleName.toList ∧
      ∀ line ∈ Lines.split (roster.document settings).contents,
        line.toList.getLast? ≠ some ' ' := by
  intro roster settings
  -- Spaces inside a name and a return at the end of a setting do no harm.
  have unbroken : ∀ name ∈ roster.names, name.Unbroken := by
    simp [roster, Roster.names, Name.Unbroken]
  have closes : ∀ name ∈ roster.names,
      name.text ≠ "" ∧ name.text.toList.getLast? ≠ some ' ' := by decide
  have inSpace : '\n' ∉ settings.contentNamespace.toList := by decide
  have inModule : '\n' ∉ settings.moduleName.toList := by decide
  exact ⟨unbroken, closes, inSpace, inModule,
    roster.no_line_ends_in_space settings unbroken closes inSpace inModule⟩

end Switchboard
