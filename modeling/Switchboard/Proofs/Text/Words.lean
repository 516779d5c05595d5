import Mathlib.Data.List.Basic

/-! The words of a line of code: what stands between spaces, and brackets and commas alone. -/

namespace Switchboard.Words

/-- Whether a character is a word by itself. -/
def isMark (c : Char) : Bool :=
  c = '(' || c = ')' || c = ','

/-- Whether a character belongs to the word of its neighbours. -/
def isPlain (c : Char) : Bool :=
  c != ' ' && !isMark c

/-- Ends the word being read. -/
def close (letters : List Char) (words : List String) : List String :=
  -- Between two spaces there is no word.
  if letters = [] then words else String.ofList letters :: words

/-- Puts one more character in front of the word being read and the words after it. -/
def spell (c : Char) : List Char × List String → List Char × List String
  | (letters, words) =>
    if isPlain c then (c :: letters, words)
    else if isMark c then ([], String.singleton c :: close letters words)
    else ([], close letters words)

/-- The words of a line. -/
def read (line : List Char) : List String :=
  match line.foldr spell ([], []) with
  | (letters, words) => close letters words

/-- Plain characters all join the word being read. -/
private theorem foldr_spell_plain {word : List Char} (plain : ∀ c ∈ word, isPlain c = true)
    (letters : List Char) (words : List String) :
    word.foldr spell (letters, words) = (word ++ letters, words) := by
  -- Each character goes in front of the letters that wait.
  induction word with
  | nil => rfl
  | cons c rest ih =>
    have first : isPlain c = true := plain c List.mem_cons_self
    have later := ih fun other member => plain other (List.mem_cons_of_mem _ member)
    rw [List.foldr_cons, later, spell, if_pos first]
    rfl

/-- A text that is one word. -/
structure IsWord (text : String) : Prop where
  filled : text ≠ ""
  plain : ∀ c ∈ text.toList, isPlain c = true

/-- Whether some text does not go on with a word in front of it. -/
def isApart (rest : List Char) : Bool :=
  rest.head?.all fun c => !isPlain c

/-- A word is read by itself where a character that is not plain ends it. -/
theorem read_append {word : String} (isWord : IsWord word) {rest : List Char}
    (ended : isApart rest = true) : read (word.toList ++ rest) = word :: read rest := by
  -- Nothing of the rest is still waiting to join the word.
  have waiting : ∃ words, rest.foldr spell ([], []) = ([], words) := by
    cases rest with
    | nil => exact ⟨[], rfl⟩
    | cons c rest =>
      have first : isPlain c = false := by simpa [isApart] using ended
      -- A mark or a space leaves no letters behind it, whatever it closes.
      rw [List.foldr_cons]
      obtain ⟨letters, words⟩ := rest.foldr spell ([], [])
      rw [spell, if_neg (by simp [first])]
      split
      · exact ⟨_, rfl⟩
      · exact ⟨_, rfl⟩
  obtain ⟨words, waiting⟩ := waiting
  have letters : word.toList ≠ [] := fun blank => isWord.filled (String.toList_eq_nil_iff.mp blank)
  rw [read, read, List.foldr_append, waiting, foldr_spell_plain isWord.plain]
  simp [close, letters]

/-- A word in front of a text that does not go on with it is read by itself. -/
theorem read_toList_append {word text : String} (isWord : IsWord word)
    (ended : isApart text.toList = true) :
    read (word ++ text).toList = word :: read text.toList := by
  rw [String.toList_append, read_append isWord ended]

/-- A word alone is read as itself. -/
theorem read_word {word : String} (isWord : IsWord word) : read word.toList = [word] := by
  -- Nothing behind a word ends it.
  have alone := @read_append word isWord [] rfl
  rwa [List.append_nil] at alone

end Switchboard.Words
