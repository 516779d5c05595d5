import Mathlib.Computability.Language
import Switchboard.Remark

/-!
What is remarked about a roster. Main statement: the remarks are one on emptiness, one for each name
that no module can have and one for each path set aside, in this order and with nothing else among
them.
-/

namespace Switchboard

open Computability

/-! ### The language of names -/

namespace Name

/-- The words of a single character of some kind. -/
def single (kind : Char → Prop) : Language Char :=
  {word | ∃ c, kind c ∧ word = [c]}

/-- What it is for a character to be a capital, which no letter past Z is. -/
def IsCapital (c : Char) : Prop :=
  'A' ≤ c ∧ c ≤ 'Z'

/-- What it is for a character to be a letter, a digit or the underscore. -/
def IsInner (c : Char) : Prop :=
  IsCapital c ∨ ('a' ≤ c ∧ c ≤ 'z') ∨ ('0' ≤ c ∧ c ≤ '9') ∨ c = '_'

/-- The language of module names: a capital and any number of letters, digits and underscores. -/
def language : Language Char :=
  single IsCapital * (single IsInner)∗

/-- A character passes for a capital exactly if it is one between A and Z. -/
theorem isUpper_iff (c : Char) : c.isUpper = true ↔ IsCapital c :=
  decide_eq_true_iff

/-- A character passes behind the first one exactly if it is a letter, a digit or the underscore. -/
theorem isRestChar_iff (c : Char) : isRestChar c = true ↔ IsInner c := by
  -- Each test is made of two comparisons.
  have letter : c.isAlpha = true ↔ IsCapital c ∨ 'a' ≤ c ∧ c ≤ 'z' :=
    Bool.or_eq_true_iff.trans (or_congr (isUpper_iff c)
      (Bool.and_eq_true_iff.trans (and_congr decide_eq_true_iff decide_eq_true_iff)))
  have digit : c.isDigit = true ↔ '0' ≤ c ∧ c ≤ '9' :=
    Bool.and_eq_true_iff.trans (and_congr decide_eq_true_iff decide_eq_true_iff)
  simp only [isRestChar, Char.isAlphanum, Bool.or_eq_true, letter, digit, beq_iff_eq, or_assoc]
  rfl

/-- Letters, digits and the underscore stand between the space and the last ASCII character, and
none of them is a dot. -/
theorem IsInner.bounds {c : Char} (inner : IsInner c) :
    0x20 < c.toNat ∧ c.toNat < 0x7F ∧ c ≠ '.' := by
  -- The dot comes before the digits, so the bounds rule it out wherever they are closer.
  have apart (low : '0'.toNat ≤ c.toNat) : c ≠ '.' := by
    rintro rfl
    exact absurd low (by decide)
  have bounds (low high : Char) : low ≤ c ∧ c ≤ high ↔ low.toNat ≤ c.toNat ∧ c.toNat ≤ high.toNat :=
    Iff.rfl
  simp only [IsInner, IsCapital, bounds, Char.reduceToNat] at inner apart
  rcases inner with capital | small | digit | rfl
  · exact ⟨by omega, by omega, apart (by omega)⟩
  · exact ⟨by omega, by omega, apart (by omega)⟩
  · exact ⟨by omega, by omega, apart (by omega)⟩
  · decide

/-- Words of single characters, one after another, are the lists of such characters. -/
theorem mem_kstar_single_iff {kind : Char → Prop} {word : List Char} :
    word ∈ (single kind)∗ ↔ ∀ c ∈ word, kind c := by
  constructor
  · -- A character stands in one of the words, which has no other.
    intro member c inside
    obtain ⟨parts, rfl, each⟩ := Language.mem_kstar.mp member
    obtain ⟨part, among, within⟩ := List.mem_flatten.mp inside
    obtain ⟨other, allowed, rfl⟩ := each part among
    exact List.mem_singleton.mp within ▸ allowed
  · -- The word is cut into words of one character each.
    intro each
    refine Language.mem_kstar.mpr ⟨word.map fun c => [c], ?_, fun part among => ?_⟩
    · rw [← List.flatMap_def, List.flatMap_singleton']
    · obtain ⟨c, inside, rfl⟩ := List.mem_map.mp among
      exact ⟨c, each c inside, rfl⟩

/-- The names that pass the check are those of the language. -/
theorem mem_language_iff {name : Name} :
    name.text.toList ∈ language ↔ name.isSpellable = true := by
  unfold isSpellable
  constructor
  · intro member
    obtain ⟨front, ⟨first, capital, rfl⟩, rest, later, joined⟩ := Language.mem_mul.mp member
    -- The word splits behind its first character, where the check splits it too.
    rw [← joined]
    simp only [List.singleton_append, Bool.and_eq_true, isUpper_iff, List.all_eq_true,
      isRestChar_iff]
    exact ⟨capital, mem_kstar_single_iff.mp later⟩
  · intro passes
    -- A name that passes has a first character, and the word is cut behind it.
    split at passes
    · cases passes
    · rename_i first rest letters
      simp only [Bool.and_eq_true, isUpper_iff, List.all_eq_true, isRestChar_iff] at passes
      obtain ⟨capital, others⟩ := passes
      rw [letters]
      exact Language.mem_mul.mpr
        ⟨[first], ⟨first, capital, rfl⟩, rest, mem_kstar_single_iff.mpr others, rfl⟩

instance (name : Name) : Decidable (name.text.toList ∈ language) :=
  decidable_of_iff _ mem_language_iff.symm

/-- Every word of the language starts with some character. -/
theorem nil_notMem_language : [] ∉ language := by
  -- A word has its capital at least.
  intro member
  obtain ⟨front, ⟨first, -, rfl⟩, rest, -, joined⟩ := Language.mem_mul.mp member
  cases joined

/-- Every character of a word of the language is a letter, a digit or the underscore. -/
theorem isInner_of_mem_language {word : List Char} (member : word ∈ language) :
    ∀ c ∈ word, IsInner c := by
  obtain ⟨front, ⟨first, capital, rfl⟩, rest, later, rfl⟩ := Language.mem_mul.mp member
  intro c inside
  -- The first character is a capital, and the others come from the second part.
  rcases List.mem_cons.mp inside with rfl | behind
  · exact Or.inl capital
  · exact mem_kstar_single_iff.mp later c behind

/-- A blank name is outside the language, and so is one with a space, a control character, a dot or
anything past ASCII. -/
theorem notMem_language_of_flaw {name : Name}
    (flaw : name.text = "" ∨
      ∃ c ∈ name.text.toList, c.toNat ≤ 0x20 ∨ c = '.' ∨ 0x7F ≤ c.toNat) :
    name.text.toList ∉ language := by
  intro inside
  -- Each flaw is something that no word of the language has.
  rcases flaw with blank | ⟨c, among, stray⟩
  · rw [blank] at inside
    exact nil_notMem_language inside
  · obtain ⟨low, high, other⟩ := (isInner_of_mem_language inside c among).bounds
    rcases stray with below | dot | above
    · omega
    · exact other dot
    · omega

end Name

/-! ### The remarks about a roster -/

namespace Remark

/-- The name a remark is about, if it is about one. -/
def name? : Remark → Option Name
  | invalidName name => some name
  | emptyRoster | setAside _ => none

/-- The path a remark is about, if it is about one. -/
def path? : Remark → Option Path
  | setAside path => some path
  | emptyRoster | invalidName _ => none

/-- The place of each kind of remark in the order. -/
def rank : Remark → Nat
  | emptyRoster => 0
  | invalidName _ => 1
  | setAside _ => 2

/-- Remarks in the order of their kinds are made up of how often the roster is called empty, of the
names and of the paths. -/
theorem eq_append_of_ordered {remarks : List Remark}
    (ordered : remarks.Pairwise fun first second => first.rank ≤ second.rank) :
    remarks = List.replicate (remarks.count .emptyRoster) .emptyRoster ++
      (remarks.filterMap name?).map .invalidName ++ (remarks.filterMap path?).map .setAside := by
  -- Each remark stands before all later ones, so a kind that was left behind does not come again.
  induction remarks with
  | nil => rfl
  | cons first rest ih =>
    obtain ⟨behind, ordered⟩ := List.pairwise_cons.mp ordered
    have parts := ih ordered
    cases first with
    -- One more remark of the first kind is counted.
    | emptyRoster => simpa [List.filterMap_cons, name?, path?, List.replicate_succ] using parts
    | invalidName name =>
      -- Behind a name the roster is not called empty any more.
      have full : rest.count .emptyRoster = 0 :=
        List.count_eq_zero.mpr fun member => absurd (behind _ member) (by simp [rank])
      simpa [List.filterMap_cons, name?, path?, full] using parts
    | setAside path =>
      have full : rest.count .emptyRoster = 0 :=
        List.count_eq_zero.mpr fun member => absurd (behind _ member) (by simp [rank])
      -- Behind a path no name follows.
      have unnamed : rest.filterMap name? = [] := by
        refine List.filterMap_eq_nil_iff.mpr fun remark member => ?_
        cases remark with
        | invalidName name => exact absurd (behind _ member) (by simp [rank])
        | emptyRoster | setAside _ => rfl
      simpa [List.filterMap_cons, name?, path?, full, unnamed] using parts

end Remark

namespace Roster

/-- What it is for remarks to be all that there is to say about a roster. -/
structure IsRemarkedBy (roster : Roster) (remarks : List Remark) : Prop where
  /-- Emptiness comes first, then names, then paths. -/
  ordered : remarks.Pairwise fun first second => first.rank ≤ second.rank
  /-- An empty roster is called empty once. -/
  emptiness : remarks.count .emptyRoster = if roster.items = [] then 1 else 0
  /-- Each name outside the language is remarked on as often as it occurs and in its place. -/
  names : remarks.filterMap Remark.name? =
    roster.names.filter fun name => name.text.toList ∉ Name.language
  /-- Each path set aside is remarked on in its place. -/
  paths : remarks.filterMap Remark.path? = roster.setAside

/-- What is remarked about a roster is all that there is to say. -/
theorem isRemarkedBy_remarks (roster : Roster) : roster.IsRemarkedBy roster.remarks := by
  -- The names that fail the check are those outside the language.
  have outside : (roster.names.filter fun name => name.text.toList ∉ Name.language) =
      roster.names.filter fun name => !name.isSpellable := by
    refine List.filter_congr fun name _ => ?_
    simp [Name.mem_language_iff]
  -- Remarks of one kind are level with each other.
  have level {α : Type} (list : List α) {remark : α → Remark} {rank : Nat}
      (alike : ∀ item, (remark item).rank = rank) :
      (list.map remark).Pairwise fun first second => first.rank ≤ second.rank :=
    List.pairwise_map.mpr (List.pairwise_of_forall fun _ _ => by rw [alike, alike])
  constructor
  · -- The kinds are level within each part and rise from one part to the next.
    unfold remarks
    refine List.pairwise_append.mpr ⟨List.pairwise_append.mpr ⟨?_, level _ fun _ => rfl, ?_⟩,
      level _ fun _ => rfl, ?_⟩
    · split <;> simp
    · -- A remark on emptiness is of the lowest kind.
      intro first member second _
      split at member
      · rw [List.mem_singleton.mp member]
        exact Nat.zero_le _
      · cases member
    · -- A remark on a path is of the highest kind.
      intro first _ second member
      obtain ⟨path, -, rfl⟩ := List.mem_map.mp member
      cases first <;> simp [Remark.rank]
  · -- Only the first part calls the roster empty.
    have names : Remark.emptyRoster ∉
        (roster.names.filter fun name => !name.isSpellable).map .invalidName := by simp
    have paths : Remark.emptyRoster ∉ roster.setAside.map .setAside := by simp
    rw [remarks, List.count_append, List.count_append, List.count_eq_zero.mpr names,
      List.count_eq_zero.mpr paths, isEmpty]
    cases roster.items <;> rfl
  · -- Only the second part is about names.
    rw [outside]
    simp [remarks, Remark.name?, List.filterMap_map, Function.comp_def]
  · -- Only the last part is about paths.
    simp [remarks, Remark.path?, List.filterMap_map, Function.comp_def]

/-- The remarks about a roster are the one list that says all there is to say. So there are none
exactly if there is a name, every name is in the language and nothing is set aside. A name is
remarked on that is blank or has a space, a control character, a dot or anything past ASCII. -/
theorem remarks_name_every_flaw (roster : Roster) :
    (∀ remarks, remarks = roster.remarks ↔ roster.IsRemarkedBy remarks) ∧
    (roster.remarks = [] ↔ roster.items ≠ [] ∧
      (∀ name ∈ roster.names, name.text.toList ∈ Name.language) ∧ roster.setAside = []) ∧
    ∀ name ∈ roster.names,
      (name.text = "" ∨ ∃ c ∈ name.text.toList, c.toNat ≤ 0x20 ∨ c = '.' ∨ 0x7F ≤ c.toNat) →
        .invalidName name ∈ roster.remarks := by
  have said := roster.isRemarkedBy_remarks
  refine ⟨fun remarks => ⟨?_, fun other => ?_⟩, ?_, ?_⟩
  · rintro rfl
    exact said
  · -- Both lists are made up of the same three parts.
    rw [Remark.eq_append_of_ordered other.ordered, Remark.eq_append_of_ordered said.ordered,
      other.emptiness, other.names, other.paths, said.emptiness, said.names, said.paths]
  · -- The list is empty where all three parts are.
    rw [Remark.eq_append_of_ordered said.ordered, said.emptiness, said.names, said.paths]
    simp [List.filter_eq_nil_iff]
  · intro name member flaw
    -- The name is kept among those outside the language, and so there is a remark about it.
    have kept : name ∈ roster.remarks.filterMap Remark.name? := by
      rw [said.names]
      exact List.mem_filter.mpr ⟨member, decide_eq_true (Name.notMem_language_of_flaw flaw)⟩
    obtain ⟨remark, told, about⟩ := List.mem_filterMap.mp kept
    cases remark with
    | invalidName other => exact Option.some.inj about ▸ told
    | emptyRoster | setAside _ => cases about

/-- Of names in one roster, each that is outside the language is remarked on by itself: a letter
that is not ASCII makes it so, and the same name counts each time. -/
theorem remarks_name_every_flaw_repeated :
    let roster : Roster := { items := [⟨⟨"Clock"⟩, ⟨[]⟩⟩, ⟨⟨"Ünder"⟩, ⟨[]⟩⟩, ⟨⟨"Ünder"⟩, ⟨[]⟩⟩] }
    (⟨"Ünder"⟩ ∈ roster.names ∧ ∃ c ∈ (⟨"Ünder"⟩ : Name).text.toList, 0x7F ≤ c.toNat) ∧
      .invalidName ⟨"Ünder"⟩ ∈ roster.remarks ∧
      roster.remarks.filterMap Remark.name? = [⟨"Ünder"⟩, ⟨"Ünder"⟩] := by
  intro roster
  obtain ⟨all, -, flaws⟩ := roster.remarks_name_every_flaw
  have member : ⟨"Ünder"⟩ ∈ roster.names := by decide
  have among : 'Ü' ∈ (⟨"Ünder"⟩ : Name).text.toList := by decide
  have stray : 0x7F ≤ 'Ü'.toNat := by decide
  refine ⟨⟨member, 'Ü', among, stray⟩,
    flaws _ member (Or.inr ⟨'Ü', among, Or.inr (Or.inr stray)⟩), ?_⟩
  rw [((all _).mp rfl).names]
  decide

end Roster

end Switchboard
