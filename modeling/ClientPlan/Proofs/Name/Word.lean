import ClientPlan.Name.Tag
import ClientPlan.Proofs.Text.Ascii

/-! # Words

A word is a text of ASCII letters and digits. Camel case makes a word of every text whose other
characters have become underscores, and leaves a word as it is but for its first letter.
-/

namespace ClientPlan.Name

open Text

/-- A text of ASCII letters and digits. -/
def IsWord (text : List Char) : Prop :=
  ∀ c ∈ text, isAsciiAlnum c = true

instance (text : List Char) : Decidable (IsWord text) :=
  List.decidableBAll _ text

theorem isWord_nil : IsWord [] := by
  intro c hc
  simp at hc

theorem isWord_cons {c : Char} {text : List Char} :
    IsWord (c :: text) ↔ isAsciiAlnum c = true ∧ IsWord text := List.forall_mem_cons

theorem isWord_append {first second : List Char} :
    IsWord (first ++ second) ↔ IsWord first ∧ IsWord second := List.forall_mem_append

theorem isSeparator_of_isAsciiAlnum {c : Char} (hc : isAsciiAlnum c = true) :
    isSeparator c = false := by
  have hplain := isPlain_of_isAsciiAlnum hc
  simp [isSeparator, hplain.ne_hyphen, hplain.ne_underscore]

theorem upperFirst_cons {c : Char} {rest : List Char} (hc : isAsciiAlnum c = true) :
    upperFirst (c :: rest) = c.toUpper :: rest := by
  rw [upperFirst, (isPlain_of_isAsciiAlnum hc).upperChar, List.singleton_append]

theorem lowerFirst_cons {c : Char} {rest : List Char} (hc : isAsciiAlnum c = true) :
    lowerFirst (c :: rest) = c.toLower :: rest := by
  rw [lowerFirst, (isPlain_of_isAsciiAlnum hc).lowerChar, List.singleton_append]

theorem IsWord.lowerFirst {text : List Char} (htext : IsWord text) : IsWord (lowerFirst text) := by
  cases text with
  | nil => exact isWord_nil
  | cons c rest =>
      obtain ⟨hc, hrest⟩ := isWord_cons.mp htext
      rw [lowerFirst_cons hc]
      exact isWord_cons.mpr ⟨(isPlain_of_isAsciiAlnum hc).isAsciiAlnum_toLower, hrest⟩

theorem IsWord.upperFirst {text : List Char} (htext : IsWord text) : IsWord (upperFirst text) := by
  cases text with
  | nil => exact isWord_nil
  | cons c rest =>
      obtain ⟨hc, hrest⟩ := isWord_cons.mp htext
      rw [upperFirst_cons hc]
      exact isWord_cons.mpr ⟨(isPlain_of_isAsciiAlnum hc).isAsciiAlnum_toUpper, hrest⟩

/-- What separators part are words, so joining them gives a word. -/
theorem isWord_joinWords {raised : Bool} {text : List Char}
    (htext : ∀ c ∈ text, isSeparator c = true ∨ isAsciiAlnum c = true) :
    IsWord (joinWords raised text) := by
  induction text generalizing raised with
  | nil => exact isWord_nil
  | cons c rest ih =>
      obtain ⟨hc, hrest⟩ := List.forall_mem_cons.mp htext
      unfold joinWords
      split
      next => exact ih hrest
      next hsep =>
        have halnum := hc.resolve_left hsep
        refine isWord_append.mpr ⟨?_, ih hrest⟩
        cases raised with
        | false => exact isWord_cons.mpr ⟨halnum, isWord_nil⟩
        | true =>
            rw [if_pos rfl, (isPlain_of_isAsciiAlnum halnum).upperChar]
            exact isWord_cons.mpr
              ⟨(isPlain_of_isAsciiAlnum halnum).isAsciiAlnum_toUpper, isWord_nil⟩

theorem isWord_joinWords_wordChars (raised : Bool) (name : List Char) :
    IsWord (joinWords raised (wordChars name)) := by
  refine isWord_joinWords ?_
  intro c hc
  obtain ⟨d, _, rfl⟩ := List.mem_map.mp hc
  split
  next halnum => exact Or.inr halnum
  next => exact Or.inl rfl

theorem isWord_camelChars_wordChars (name : List Char) : IsWord (camelChars (wordChars name)) :=
  (isWord_joinWords_wordChars false name).lowerFirst

theorem isWord_tag (raw : String) : IsWord (tag raw).toList := by
  have hname : IsWord (pascal (String.ofList (wordChars raw.toList))).toList := by
    rw [pascal, capitalize, camel, String.toList_ofList, String.toList_ofList,
      String.toList_ofList]
    exact (isWord_camelChars_wordChars raw.toList).upperFirst
  unfold tag
  generalize pascal (String.ofList (wordChars raw.toList)) = name at hname ⊢
  dsimp only
  split
  next => decide
  next =>
    split
    next =>
      rw [String.toList_append]
      exact isWord_append.mpr ⟨by decide, hname⟩
    next => exact hname

theorem joinWords_append {word : List Char} (hword : IsWord word) (rest : List Char) :
    joinWords false (word ++ rest) = word ++ joinWords false rest := by
  induction word with
  | nil => rfl
  | cons c word ih =>
      obtain ⟨hc, hword⟩ := isWord_cons.mp hword
      rw [List.cons_append, joinWords, if_neg (by simp [isSeparator_of_isAsciiAlnum hc]), ih hword]
      rfl

theorem joinWords_of_isWord {word : List Char} (hword : IsWord word) :
    joinWords false word = word := by
  have happend := joinWords_append hword []
  rwa [List.append_nil, joinWords, List.append_nil] at happend

/-- The first letter is all that lower-casing it changes. -/
theorem head_lowerFirst {text : List Char} (htext : IsWord text) :
    ∀ c ∈ (lowerFirst text).head?, isAsciiUpper c = false := by
  cases text with
  | nil =>
      intro c hc
      simp [Text.lowerFirst] at hc
  | cons c rest =>
      have hc := (isWord_cons.mp htext).1
      rw [lowerFirst_cons hc]
      intro d hd
      rw [List.head?_cons, Option.mem_some_iff] at hd
      exact hd ▸ (isPlain_of_isAsciiAlnum hc).isAsciiUpper_toLower

theorem lowerFirst_of_head {text : List Char} (htext : IsWord text)
    (hhead : ∀ c ∈ text.head?, isAsciiUpper c = false) : lowerFirst text = text := by
  cases text with
  | nil => rfl
  | cons c rest =>
      have hc := (isWord_cons.mp htext).1
      rw [lowerFirst_cons hc, (isPlain_of_isAsciiAlnum hc).toLower_eq (hhead c rfl)]

end ClientPlan.Name
