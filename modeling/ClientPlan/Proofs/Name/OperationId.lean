import Mathlib.Data.List.DropRight
import ClientPlan.Name.OperationId
import ClientPlan.Proofs.Name.Word

/-! # The normal form of operation ids

A method name is a word that begins with no capital and ends with no digit. That shape leaves
room behind a name for an underscore and a counter: both can be told from the name again, also
once Pascal case has dropped the underscore.
-/

namespace ClientPlan.Name

open Text

/-- The shape of method names. -/
structure IsNormalId (id : List Char) : Prop where
  ne_nil : id ≠ []
  isWord : IsWord id
  head : ∀ c ∈ id.head?, isAsciiUpper c = false
  last : ∀ c ∈ id.getLast?, isAsciiDigit c = false

theorem isAsciiAlnum_of_isAsciiDigit {c : Char} (hc : isAsciiDigit c = true) :
    isAsciiAlnum c = true := by
  simp [isAsciiAlnum, hc]

theorem decide_eq_underscore_of_isAsciiAlnum {c : Char} (hc : isAsciiAlnum c = true) :
    decide (c = '_') = false :=
  decide_eq_false (isPlain_of_isAsciiAlnum hc).ne_underscore

theorem dropWhile_of_isWord {p : Char → Bool} (hp : ∀ c, isAsciiAlnum c = true → p c = false)
    {text : List Char} (htext : IsWord text) : text.dropWhile p = text := by
  cases text with
  | nil => rfl
  | cons c rest =>
      have hc := hp c (isWord_cons.mp htext).1
      rw [List.dropWhile_cons_of_neg (by simp [hc])]

theorem trim_of_isWord {text : List Char} (htext : IsWord text) : trim text = text := by
  have hblank : ∀ c, isAsciiAlnum c = true → isBlank c = false := fun _ hc =>
    (isPlain_of_isAsciiAlnum hc).isBlank
  have hreverse : IsWord text.reverse := fun c hc => htext c (List.mem_reverse.mp hc)
  rw [trim, trimStart, dropWhile_of_isWord hblank htext, trimEnd,
    dropWhile_of_isWord hblank hreverse, List.reverse_reverse]

theorem dropTrailingDigits_eq_rdropWhile (text : List Char) :
    dropTrailingDigits text = text.rdropWhile isAsciiDigit := rfl

theorem dropTrailingDigits_isPrefix (text : List Char) : dropTrailingDigits text <+: text :=
  List.rdropWhile_prefix _ _

theorem last_dropTrailingDigits (text : List Char) :
    ∀ c ∈ (dropTrailingDigits text).getLast?, isAsciiDigit c = false := by
  intro c hc
  obtain ⟨hne, rfl⟩ := List.mem_getLast?_eq_getLast hc
  have hlast := List.rdropWhile_last_not isAsciiDigit text hne
  simpa [dropTrailingDigits_eq_rdropWhile] using hlast

/-- Digits behind a text that ends with none can be taken off again. -/
theorem dropTrailingDigits_append {text digits : List Char}
    (htext : ∀ c ∈ text.getLast?, isAsciiDigit c = false)
    (hdigits : ∀ c ∈ digits, isAsciiDigit c = true) :
    dropTrailingDigits (text ++ digits) = text := by
  rw [dropTrailingDigits, List.reverse_append,
    List.dropWhile_append_of_pos (by simpa using hdigits)]
  cases hrev : text.reverse with
  | nil => simpa using congrArg List.reverse hrev
  | cons c rest =>
      have hc : c ∈ text.getLast? := by
        rw [← List.head?_reverse, hrev]
        exact rfl
      rw [List.dropWhile_cons_of_neg (by simp [htext c hc]), ← hrev, List.reverse_reverse]

theorem isNormalId_dropTrailingDigits {word : List Char} (hword : IsWord word)
    (hhead : ∀ c ∈ word.head?, isAsciiUpper c = false) (hne : dropTrailingDigits word ≠ []) :
    IsNormalId (dropTrailingDigits word) := by
  obtain ⟨rest, hrest⟩ := dropTrailingDigits_isPrefix word
  refine ⟨hne, fun c hc => hword c ?_, fun c hc => hhead c ?_, last_dropTrailingDigits word⟩
  · rw [← hrest]
    exact List.mem_append_left rest hc
  · rw [← hrest, List.head?_append_of_ne_nil _ hne]
    exact hc

/-- The name before the fallback: camel case without the digits at its end. -/
def idStem (declared : String) : List Char :=
  dropTrailingDigits (camelChars (wordChars declared.toList))

theorem isNormalId_idStem {declared : String} (hne : idStem declared ≠ []) :
    IsNormalId (idStem declared) := by
  have hjoined := isWord_joinWords_wordChars false declared.toList
  exact isNormalId_dropTrailingDigits hjoined.lowerFirst (head_lowerFirst hjoined) hne

theorem operationId_eq (declared : String) :
    operationId declared =
      if idStem declared = [] then "operation" else String.ofList (idStem declared) := by
  have hcamel := isWord_camelChars_wordChars declared.toList
  have hdrop : (camelChars (wordChars declared.toList)).dropWhile (· = '_') =
      camelChars (wordChars declared.toList) :=
    dropWhile_of_isWord (fun _ => decide_eq_underscore_of_isAsciiAlnum) hcamel
  unfold operationId
  simp only [hdrop]
  rw [← idStem]
  by_cases hne : idStem declared = []
  · simp [hne, trim, trimStart, trimEnd]
  · have hnormal := isNormalId_idStem hne
    rw [trim_of_isWord hnormal.isWord, lowerFirst_of_head hnormal.isWord hnormal.head]
    simp [hne]

theorem isNormalId_operationId (declared : String) :
    IsNormalId (operationId declared).toList := by
  rw [operationId_eq]
  split
  next =>
    refine ⟨by decide, by decide, ?_, ?_⟩
    · rintro c ⟨⟩
      rfl
    · rintro c ⟨⟩
      rfl
  next hne =>
    rw [String.toList_ofList]
    exact isNormalId_idStem hne

section Counters

variable {id digits : List Char} (hid : IsNormalId id)
  (hdigits : ∀ c ∈ digits, isAsciiDigit c = true)

include hid

theorem camelChars_of_isNormalId : camelChars id = id := by
  rw [camelChars, joinWords_of_isWord hid.isWord, lowerFirst_of_head hid.isWord hid.head]

include hdigits in
/-- Camel case drops the underscore before a counter and changes nothing else. -/
theorem camelChars_append_counter : camelChars (id ++ '_' :: digits) = id ++ digits := by
  have hword : IsWord digits := fun c hc => isAsciiAlnum_of_isAsciiDigit (hdigits c hc)
  have hcounter : joinWords false ('_' :: digits) = digits := by
    rw [joinWords, if_pos (by decide)]
    cases digits with
    | nil => rfl
    | cons c rest =>
        obtain ⟨hc, hrest⟩ := isWord_cons.mp hword
        have hplain := isPlain_of_isAsciiAlnum hc
        have hdigit := hdigits c List.mem_cons_self
        rw [joinWords, if_neg (by simp [isSeparator_of_isAsciiAlnum hc]), if_pos rfl,
          hplain.upperChar, hplain.toUpper_eq hdigit, joinWords_of_isWord hrest]
        rfl
  rw [camelChars, joinWords_append hid.isWord, hcounter]
  refine lowerFirst_of_head (isWord_append.mpr ⟨hid.isWord, hword⟩) ?_
  rw [List.head?_append_of_ne_nil _ hid.ne_nil]
  exact hid.head

theorem upperFirst_append (rest : List Char) :
    upperFirst (id ++ rest) = upperFirst id ++ rest := by
  cases id with
  | nil => exact absurd rfl hid.ne_nil
  | cons c tail => simp [upperFirst]

/-- A method name can be told from its form with a capital. -/
theorem lowerFirst_upperFirst : lowerFirst (upperFirst id) = id := by
  cases id with
  | nil => rfl
  | cons c tail =>
      have hc := (isWord_cons.mp hid.isWord).1
      have hplain := isPlain_of_isAsciiAlnum hc
      rw [upperFirst_cons hc, lowerFirst_cons hplain.isAsciiAlnum_toUpper,
        hplain.toLower_toUpper (hid.head c rfl)]

theorem last_upperFirst : ∀ c ∈ (upperFirst id).getLast?, isAsciiDigit c = false := by
  cases id with
  | nil => exact absurd rfl hid.ne_nil
  | cons c tail =>
      have hc := (isWord_cons.mp hid.isWord).1
      rw [upperFirst_cons hc]
      intro d hd
      cases tail with
      | nil =>
          rw [List.getLast?_singleton, Option.mem_some_iff] at hd
          rw [← hd, (isPlain_of_isAsciiAlnum hc).isAsciiDigit_toUpper]
          exact hid.last c rfl
      | cons e rest =>
          rw [List.getLast?_cons_cons] at hd
          refine hid.last d ?_
          rw [List.getLast?_cons_cons]
          exact hd

end Counters

/-- A capitalized method name and the digits behind it determine both. -/
theorem upperFirst_append_digits_inj {first second : List Char} {ds es : List Char}
    (hfirst : IsNormalId first) (hsecond : IsNormalId second)
    (hds : ∀ c ∈ ds, isAsciiDigit c = true) (hes : ∀ c ∈ es, isAsciiDigit c = true)
    (heq : upperFirst first ++ ds = upperFirst second ++ es) : first = second ∧ ds = es := by
  have hraised : upperFirst first = upperFirst second := by
    rw [← dropTrailingDigits_append (last_upperFirst hfirst) hds, heq,
      dropTrailingDigits_append (last_upperFirst hsecond) hes]
  refine ⟨?_, ?_⟩
  · rw [← lowerFirst_upperFirst hfirst, hraised, lowerFirst_upperFirst hsecond]
  · rw [hraised] at heq
    exact List.append_cancel_left heq

/-! ## Normalization -/

theorem wordChars_of_isWord {text : List Char} (htext : IsWord text) : wordChars text = text := by
  refine (List.map_congr_left fun c hc => ?_).trans (List.map_id text)
  exact if_pos (htext c hc)

theorem operationId_of_isNormalId {id : String} (hid : IsNormalId id.toList) :
    operationId id = id := by
  have hdigits : dropTrailingDigits id.toList = id.toList := by
    have hdrop : dropTrailingDigits (id.toList ++ []) = id.toList :=
      dropTrailingDigits_append hid.last (by simp)
    rwa [List.append_nil] at hdrop
  have hstem : idStem id = id.toList := by
    rw [idStem, wordChars_of_isWord hid.isWord, camelChars_of_isNormalId hid, hdigits]
  rw [operationId_eq, hstem, if_neg hid.ne_nil, String.ofList_toList]

/-- Normalization gives texts in normal form only, keeps these as they are, and so gives every one
of them. -/
theorem operationId_normalizes (text : String) :
    IsNormalId (operationId text).toList ∧
      (operationId text = text ↔ IsNormalId text.toList) ∧
      operationId (operationId text) = operationId text ∧
      ((∃ declared, operationId declared = text) ↔ IsNormalId text.toList) := by
  have hnormal := isNormalId_operationId text
  refine ⟨hnormal, ⟨fun heq => heq ▸ hnormal, operationId_of_isNormalId⟩,
    operationId_of_isNormalId hnormal, ?_, ?_⟩
  · rintro ⟨declared, rfl⟩
    exact isNormalId_operationId declared
  · intro htext
    exact ⟨text, operationId_of_isNormalId htext⟩

end ClientPlan.Name
