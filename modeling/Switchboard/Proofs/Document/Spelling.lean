import Switchboard.Proofs.Document.Lines
import Switchboard.Proofs.Document.Reading

/-! Spellable names as parts of words: nothing in them ends a word, a line or a module's name. -/

namespace Switchboard

namespace Name

/-- A spellable name starts with a capital. -/
theorem exists_of_isSpellable {name : Name} (spellable : name.isSpellable = true) :
    ∃ first rest, name.text.toList = first :: rest ∧ first.isUpper = true := by
  unfold isSpellable at spellable
  split at spellable
  · cases spellable
  · -- The check fails on the empty name and asks for a capital otherwise.
    rename_i first rest letters
    exact ⟨first, rest, letters, (Bool.and_eq_true_iff.mp spellable).1⟩

/-- A spellable name has only letters, digits and underscores. -/
theorem isRestChar_of_isSpellable {name : Name} (spellable : name.isSpellable = true) {c : Char}
    (member : c ∈ name.text.toList) : isRestChar c = true := by
  -- The check looks at the first character and then at the others.
  unfold isSpellable at spellable
  split at spellable
  · cases spellable
  · rename_i first rest letters
    obtain ⟨upper, others⟩ := Bool.and_eq_true_iff.mp spellable
    rw [letters] at member
    rcases List.mem_cons.mp member with same | later
    · -- A capital is a letter, and so a letter or a digit.
      have letter : first.isAlpha = true := Bool.or_eq_true_iff.mpr (Or.inl upper)
      have letterOrDigit : first.isAlphanum = true := Bool.or_eq_true_iff.mpr (Or.inl letter)
      exact same ▸ Bool.or_eq_true_iff.mpr (Or.inl letterOrDigit)
    · -- The others are checked one by one.
      exact List.all_eq_true.mp others c later

/-- A spellable name has no other characters. -/
theorem notMem_of_isSpellable {name : Name} (spellable : name.isSpellable = true) {c : Char}
    (other : isRestChar c = false) : c ∉ name.text.toList := by
  intro member
  -- All characters of the name pass a test that this one fails.
  rw [isRestChar_of_isSpellable spellable member] at other
  cases other

/-- A spellable name does not break a line. -/
theorem unbroken_of_isSpellable {name : Name} (spellable : name.isSpellable = true) :
    name.Unbroken :=
  ⟨notMem_of_isSpellable spellable rfl, notMem_of_isSpellable spellable rfl⟩

/-- Letters, digits and underscores are plain characters of words. -/
theorem isPlain_of_isRestChar {c : Char} (letter : isRestChar c = true) :
    Words.isPlain c = true := by
  -- The characters that are not plain are known, and none of them is a letter.
  by_contra special
  have known : c = ' ' ∨ c = '(' ∨ c = ')' ∨ c = ',' := by
    simp only [Words.isPlain, Words.isMark, Bool.and_eq_true, bne_iff_ne, Bool.not_eq_true',
      Bool.or_eq_false_iff, decide_eq_false_iff_not] at special
    tauto
  rcases known with rfl | rfl | rfl | rfl <;> cases letter

/-- Plain text before and after a spellable name makes one word with it. -/
theorem isWord_of_isSpellable {name : Name} (spellable : name.isSpellable = true)
    {before after : String} (front : before.toList.all Words.isPlain = true)
    (rear : after.toList.all Words.isPlain = true) :
    Words.IsWord (before ++ name.text ++ after) := by
  constructor
  · -- The name itself is not empty.
    intro blank
    have parts := String.append_eq_empty_iff.mp blank
    have empty : name.text = "" := (String.append_eq_empty_iff.mp parts.1).2
    unfold isSpellable at spellable
    rw [empty] at spellable
    cases spellable
  · -- Each character stands before, in or after the name.
    intro c member
    simp only [String.toList_append, List.mem_append] at member
    rcases member with (inFront | inName) | inRear
    · exact List.all_eq_true.mp front c inFront
    · exact isPlain_of_isRestChar (isRestChar_of_isSpellable spellable inName)
    · exact List.all_eq_true.mp rear c inRear

/-- The constructor of a spellable name's models is one word. -/
theorem isWord_modelConstructor {name : Name} (spellable : name.isSpellable = true) :
    Words.IsWord (Slot.modelConstructor name) := by
  have word := @isWord_of_isSpellable name spellable "Mdl" "" rfl rfl
  rwa [String.append_empty] at word

/-- The constructor of a spellable name's messages is one word. -/
theorem isWord_messageConstructor {name : Name} (spellable : name.isSpellable = true) :
    Words.IsWord (Slot.messageConstructor name) := by
  have word := @isWord_of_isSpellable name spellable "Msg" "" rfl rfl
  rwa [String.append_empty] at word

/-- A function behind a spellable name and a dot is one word. -/
theorem isWord_qualified {name : Name} (spellable : name.isSpellable = true) {function : String}
    (plain : ("." ++ function).toList.all Words.isPlain = true) :
    Words.IsWord (name.text ++ "." ++ function) := by
  -- Nothing stands before the name, and the dot and the function after it.
  have word := @isWord_of_isSpellable name spellable "" ("." ++ function) rfl plain
  rwa [String.empty_append, ← String.append_assoc] at word

/-- A function behind a name and a dot is no word without a dot. -/
theorem ne_qualified (name : Name) (function : String) {word : String}
    (other : '.' ∉ word.toList) : word ≠ name.text ++ "." ++ function := by
  rintro rfl
  simp at other

/-- The words of a call are the function behind its module and the arguments. -/
theorem read_qualified {name : Name} (spellable : name.isSpellable = true)
    {function tail : String} {arguments : List String}
    (plain : ("." ++ function).toList.all Words.isPlain = true)
    (ended : Words.isApart tail.toList = true)
    (words : Words.read tail.toList = arguments) :
    Words.read (name.text ++ "." ++ (function ++ tail)).toList =
      (name.text ++ "." ++ function) :: arguments := by
  -- The function up to the arguments is one word, and they are read by themselves.
  rw [← String.append_assoc, Words.read_toList_append (isWord_qualified spellable plain) ended,
    words]

/-- The words of a call are read as the call, with the name as its module. -/
theorem call?_qualified {scope : Code.Scope} {name : Name} (spellable : name.isSpellable = true)
    {function : String} {words : List String} {given : List Code.Datum}
    (inFunction : '.' ∉ function.toList)
    (known : (words.mapM fun word => scope.lookup word) = some given) :
    Code.call? scope ((name.text ++ "." ++ function) :: words) =
      some ⟨name.text, function, given⟩ :=
  Code.call?_eq (notMem_of_isSpellable spellable rfl) inFunction known

end Name

end Switchboard
