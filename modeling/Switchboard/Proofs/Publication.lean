import Switchboard.Proofs.Document.Mentions
import Switchboard.Proofs.Survey.Accounting
import Switchboard.Proofs.Text.Utf8
import Switchboard.Publication

/-!
The generated module of a content directory, from the entries of the directory to its lines.
-/

namespace Switchboard

/-- Different names have different constructors, and none is both for models and for messages. -/
theorem Slot.nodup_constructors {names : List Name} (distinct : names.Nodup) :
    (names.map modelConstructor ++ names.map messageConstructor).Nodup := by
  -- Behind a fixed front, the name is all there is to a constructor.
  have apart (prefixed : String) {name other : Name}
      (same : prefixed ++ name.text = prefixed ++ other.text) : name = other := by
    cases name
    cases other
    simpa using same
  refine List.nodup_append.mpr ⟨distinct.map fun _ _ => apart "Mdl",
    distinct.map fun _ _ => apart "Msg", fun constructor member other member' same => ?_⟩
  obtain ⟨name, -, rfl⟩ := List.mem_map.mp member
  obtain ⟨name', -, rfl⟩ := List.mem_map.mp member'
  -- The second characters differ.
  have chars := congrArg String.toList same
  simp [modelConstructor, messageConstructor] at chars

namespace Roster

variable {roster : Roster}

/-- A roster that is not remarked on as empty has names. -/
theorem names_ne_nil (filled : .emptyRoster ∉ roster.remarks) : roster.names ≠ [] := by
  intro unnamed
  have empty : roster.isEmpty = true := List.isEmpty_iff.mpr (List.map_eq_nil_iff.mp unnamed)
  simp [remarks, empty] at filled

/-- What is drafted from a roster is its module, and the report lists its names and the size of the
text. -/
theorem of_draft {settings : Settings} {document : Document} {report : Report}
    (drafted : (roster.draft settings).value = (document, report)) :
    document = roster.document settings ∧ report.names = roster.names ∧
      report.bytes = document.contents.utf8ByteSize := by
  simp only [draft, Prod.mk.injEq] at drafted
  obtain ⟨rfl, rfl⟩ := drafted
  -- The size is reported as the number of bytes that are written.
  simp only [Utf8.length_encode, and_self]

/-- A name that is not remarked on can be spelled. -/
theorem isSpellable_of_mem_names (legal : ∀ name, .invalidName name ∉ roster.remarks) {name : Name}
    (member : name ∈ roster.names) : name.isSpellable = true := by
  cases spelled : name.isSpellable with
  | true => rfl
  | false =>
    -- Otherwise the name would be remarked on.
    refine absurd ?_ (legal name)
    simp [remarks, member, spelled]

end Roster

namespace FileSystem

variable {files : FileSystem} {settings : Settings} {document : Document} {report : Report}

/-- What is drafted is the module of the roster that was surveyed. -/
theorem exists_of_draft (drafted : (files.draft settings).value = .ok (document, report)) :
    ∃ roster, (files.survey settings.contentDir settings.suffix).value = .ok roster ∧
      (roster.draft settings).value = (document, report) := by
  unfold draft at drafted
  dsimp only at drafted
  split at drafted
  · -- A survey that fails leaves no draft.
    cases drafted
  · rename_i roster surveyed
    exact ⟨roster, surveyed, Except.ok.inj drafted⟩

/-- What a survey finds is drafted. -/
theorem value_draft_of_survey {roster : Roster}
    (surveyed : (files.survey settings.contentDir settings.suffix).value = .ok roster) :
    (files.draft settings).value = .ok (roster.draft settings).value := by
  simp only [draft, surveyed]

/-- In a generated module without remarks on emptiness or on names, every content module is
mentioned in each way as often as that way asks, its constructors are its own, and no other content
module is mentioned. -/
theorem draft_mentions_each_name
    (drafted : (files.draft settings).value = .ok (document, report))
    (filled : .emptyRoster ∉ report.remarks) (legal : ∀ name, .invalidName name ∉ report.remarks)
    (named : settings.contentNamespace ≠ "") (inSpace : '\n' ∉ settings.contentNamespace.toList)
    (inModule : '\n' ∉ settings.moduleName.toList) :
    report.names ≠ [] ∧ report.names.Nodup ∧
    (report.names.map Slot.modelConstructor ++ report.names.map Slot.messageConstructor).Nodup ∧
    (∀ name ∈ report.names, ∀ mention : Mention,
      ((Lines.split document.contents).map Lines.trim).count
          (mention.text settings.contentNamespace name) =
        mention.times (report.names.head? = some name)) ∧
    ∀ name : Name, name.isSpellable = true → name ∉ report.names → ∀ mention : Mention,
      mention.text settings.contentNamespace name ∉
        (Lines.split document.contents).map Lines.trim := by
  obtain ⟨roster, surveyed, same⟩ := exists_of_draft drafted
  cases same
  -- The roster is that of the files in one directory, so its names are in strict order.
  have distinct : roster.names.Nodup := by
    obtain ⟨place, -, rfl⟩ := exists_of_survey surveyed
    exact Name.nodup_of_rises (Roster.rises_ofItems Finding.nodup_names_findings)
  have spellable (name : Name) (member : name ∈ roster.names) : name.isSpellable = true :=
    Roster.isSpellable_of_mem_names legal member
  -- How often each line occurs is told for any roster without repetitions.
  have counted (name : Name) (legal : name.isSpellable = true) (mention : Mention) :=
    roster.count_document named spellable inSpace inModule distinct mention legal
  refine ⟨Roster.names_ne_nil filled, distinct, Slot.nodup_constructors distinct,
    fun name member mention => ?_, fun name legal absent mention => ?_⟩
  · rw [counted name (spellable name member) mention, if_pos member]
  · -- A name that is not in the roster is counted nowhere.
    rw [← List.count_eq_zero, counted name legal mention, if_neg absent]

/-- A working directory with two content modules, of whose names one starts with the other. -/
def duet : FileSystem :=
  holding [("AB.elm", .file []), ("A.elm", .file [])]

/-- Although every line about the longer name holds the shorter one, each is mentioned on its
own. -/
theorem draft_mentions_each_name_duet :
    ∃ document report,
      (duet.draft { contentDir := .ofString "." }).value = .ok (document, report) ∧
      report.names = [⟨"A"⟩, ⟨"AB"⟩] ∧
      ((Lines.split document.contents).map Lines.trim).count "= MdlA A.Model" = 1 ∧
      ((Lines.split document.contents).map Lines.trim).count "MdlAB model ->" = 5 ∧
      "import Content.B as B" ∉ (Lines.split document.contents).map Lines.trim := by
  let settings : Settings := { contentDir := .ofString "." }
  let findings := duet.findings (.ofString ".") duet.workDir ".elm"
  let roster := Roster.ofFindings findings
  -- Both files are regular and have names that are texts, so the survey succeeds.
  have surveyed : (duet.survey (.ofString ".") ".elm").value = .ok roster := by
    rw [value_survey (by decide : duet.contentPlace (.ofString ".") = .ok duet.workDir),
      (by decide +kernel : findings.findSome? Finding.illegible? = none)]
  have drafted : (duet.draft settings).value = .ok (roster.draft settings).value := by
    simp only [draft, settings, surveyed]
  -- The names are those of the files, in their own order.
  have names : roster.names = [⟨"A"⟩, ⟨"AB"⟩] := by
    refine @Name.eq_of_mem_iff _ id _ _ (Roster.rises_ofItems Finding.nodup_names_findings)
      (by decide) fun name => ?_
    have members := ((Finding.perm_items_ofFindings findings).map Item.name).mem_iff (a := name)
    rw [(by decide +kernel : (findings.filterMap Finding.item?).map Item.name = [⟨"AB"⟩, ⟨"A"⟩])]
      at members
    exact members.trans (by simp [or_comm])
  have filled : roster.items ≠ [] := by
    intro unlisted
    simp [Roster.names, unlisted] at names
  -- Both names are in the language, and so nothing is remarked on but what was set aside.
  have remarks : roster.remarks = roster.setAside.map .setAside := by
    have legal : [(⟨"A"⟩ : Name), ⟨"AB"⟩].filter (fun name => !name.isSpellable) = [] := by decide
    simp [Roster.remarks, Roster.isEmpty, filled, names, legal]
  obtain ⟨-, -, -, counted, absent⟩ := draft_mentions_each_name drafted
    (show .emptyRoster ∉ roster.remarks by simp [remarks])
    (show ∀ name, .invalidName name ∉ roster.remarks by simp [remarks])
    (by decide) (by decide) (by decide)
  refine ⟨_, _, drafted, names, ?_, ?_, ?_⟩
  · refine (counted ⟨"A"⟩ (show _ ∈ roster.names by simp [names]) (.model true)).trans ?_
    simp [names, Mention.times]
  · exact counted ⟨"AB"⟩ (show _ ∈ roster.names by simp [names]) .modelArm
  · -- The longer name ends like this, but no module has just this name.
    exact absent ⟨"B"⟩ (by decide) (show _ ∉ roster.names by simp [names]) .imported

end FileSystem

end Switchboard
