import ClientPlan.Proofs.Name.Hyphens
import ClientPlan.Proofs.Name.OperationId

/-! # Names made of a tag

A tag in its grouping form is a capital with letters and digits behind it. Such a text is its own
grouping form and its own Pascal case, so the class of a tag is told apart by it, and its file stem
is a list of words between single hyphens.
-/

namespace ClientPlan.Name

open Text

/-- The grouping form of tags: a capital, then letters and digits. -/
structure IsTag (text : List Char) : Prop where
  head : text.head?.any isAsciiUpper = true
  isWord : IsWord text

/-- The characters between the hyphens of a file stem. -/
def isStemChar (c : Char) : Bool :=
  isAsciiLower c || isAsciiDigit c

/-- Words of small letters and digits with single hyphens between them. -/
inductive IsKebab : List Char → Prop where
  | single {c : Char} (hc : isStemChar c = true) : IsKebab [c]
  | cons {c : Char} {rest : List Char} (hc : isStemChar c = true) (hrest : IsKebab rest) :
      IsKebab (c :: rest)
  | hyphen {c : Char} {rest : List Char} (hc : isStemChar c = true) (hrest : IsKebab rest) :
      IsKebab (c :: '-' :: rest)

/-! ## Letters and digits -/

theorem isAsciiUpper_toUpper {c : Char} (hc : isAsciiAlnum c = true)
    (hdigit : isAsciiDigit c = false) : isAsciiUpper c.toUpper = true := by
  have hall : ∀ n < 128, isAsciiAlnum (Char.ofNat n) = true → isAsciiDigit (Char.ofNat n) = false →
      isAsciiUpper (Char.ofNat n).toUpper = true := by decide +kernel
  exact forall_ascii (p := fun c => isAsciiAlnum c = true → isAsciiDigit c = false →
    isAsciiUpper c.toUpper = true) hall (toNat_lt_of_isAsciiAlnum hc) hc hdigit

theorem toUpper_toLower {c : Char} (hc : isAsciiUpper c = true) : c.toLower.toUpper = c := by
  have hall : ∀ n < 128, isAsciiUpper (Char.ofNat n) = true →
      (Char.ofNat n).toLower.toUpper = Char.ofNat n := by decide +kernel
  have halnum : isAsciiAlnum c = true := by simp [isAsciiAlnum, hc]
  exact forall_ascii (p := fun c => isAsciiUpper c = true → c.toLower.toUpper = c) hall
    (toNat_lt_of_isAsciiAlnum halnum) hc

theorem isStemChar_toLower {c : Char} (hc : isAsciiAlnum c = true) :
    isStemChar c.toLower = true := by
  have hall : ∀ n < 128, isAsciiAlnum (Char.ofNat n) = true →
      isStemChar (Char.ofNat n).toLower = true := by decide +kernel
  exact forall_ascii (p := fun c => isAsciiAlnum c = true → isStemChar c.toLower = true) hall
    (toNat_lt_of_isAsciiAlnum hc) hc

theorem not_isAsciiDigit_of_isAsciiUpper {c : Char} (hc : isAsciiUpper c = true) :
    isAsciiDigit c = false := by
  by_contra hdigit
  rw [Bool.not_eq_false] at hdigit
  simp [isAsciiUpper, isAsciiDigit, Char.le_def, UInt32.le_iff_toNat_le] at hc hdigit
  omega

/-! ## The grouping form -/

theorem toList_pascal (name : String) :
    (pascal name).toList = upperFirst (camelChars name.toList) := by
  rw [pascal, capitalize, camel, String.toList_ofList, String.toList_ofList]

theorem isTag_upperFirst {c : Char} {rest : List Char} (hword : IsWord (c :: rest))
    (hdigit : isAsciiDigit c = false) : IsTag (upperFirst (c :: rest)) where
  head := by
    have hc := (isWord_cons.mp hword).1
    rw [upperFirst_cons hc, List.head?_cons, Option.any_some, isAsciiUpper_toUpper hc hdigit]
  isWord := hword.upperFirst

theorem isTag_append_of_isWord {name : String} (hname : IsWord name.toList) :
    IsTag ("Tag" ++ name).toList where
  head := by
    rw [String.toList_append]
    rfl
  isWord := by
    rw [String.toList_append]
    exact isWord_append.mpr ⟨by decide, hname⟩

theorem isTag_tag (raw : String) : IsTag (tag raw).toList := by
  have hword := isWord_camelChars_wordChars raw.toList
  have hname : (pascal (String.ofList (wordChars raw.toList))).toList =
      upperFirst (camelChars (wordChars raw.toList)) := by
    rw [toList_pascal, String.toList_ofList]
  unfold tag
  generalize pascal (String.ofList (wordChars raw.toList)) = name at hname ⊢
  dsimp only
  split
  next => exact ⟨rfl, by decide⟩
  next d tail hchars =>
    split
    next => exact isTag_append_of_isWord (hname ▸ hword.upperFirst)
    next hdigit =>
      rw [hname] at hchars ⊢
      cases hcamel : camelChars (wordChars raw.toList) with
      | nil => simp [hcamel, upperFirst] at hchars
      | cons c rest =>
          rw [hcamel] at hword hchars
          -- Upper-casing the first character makes no digit of it, and leaves a digit one.
          have hc := (isWord_cons.mp hword).1
          rw [upperFirst_cons hc, List.cons.injEq] at hchars
          rw [← hchars.1, (isPlain_of_isAsciiAlnum hc).isAsciiDigit_toUpper] at hdigit
          exact isTag_upperFirst hword (by simpa using hdigit)

section

variable {text : String} (htext : IsTag text.toList)

include htext

theorem IsTag.exists_cons : ∃ c rest, text.toList = c :: rest ∧ isAsciiUpper c = true := by
  have hhead := htext.head
  cases hchars : text.toList with
  | nil => simp [hchars] at hhead
  | cons c rest => exact ⟨c, rest, rfl, by simpa [hchars] using hhead⟩

theorem pascal_of_isTag : pascal text = text := by
  obtain ⟨c, rest, hchars, hc⟩ := htext.exists_cons
  have hword := htext.isWord
  rw [← String.toList_inj, toList_pascal, camelChars, joinWords_of_isWord hword]
  rw [hchars] at hword ⊢
  have halnum := (isWord_cons.mp hword).1
  rw [lowerFirst_cons halnum, upperFirst_cons (isPlain_of_isAsciiAlnum halnum).isAsciiAlnum_toLower,
    toUpper_toLower hc]

theorem tag_of_isTag : tag text = text := by
  obtain ⟨c, rest, hchars, hc⟩ := htext.exists_cons
  have hpascal : pascal (String.ofList (wordChars text.toList)) = text := by
    rw [wordChars_of_isWord htext.isWord, String.ofList_toList, pascal_of_isTag htext]
  unfold tag
  generalize pascal (String.ofList (wordChars text.toList)) = name at hpascal ⊢
  dsimp only
  rw [hpascal, hchars]
  exact if_neg (by rw [not_isAsciiDigit_of_isAsciiUpper hc]; exact Bool.false_ne_true)

theorem apiClass_of_isTag : apiClass text = text ++ "Api" := by
  rw [apiClass, pascal_of_isTag htext]

end

/-! ## The file stem -/

theorem mem_hyphenated {c : Char} {text : List Char} (hc : c ∈ hyphenated text) :
    c ∈ text ∨ c = '-' := by
  induction text with
  | nil => cases hc
  | cons d rest ih =>
      rw [hyphenated_cons] at hc
      rcases List.mem_append.mp hc with hc | hc
      · rw [firstParted] at hc
        split at hc <;> simp only [List.mem_cons, List.not_mem_nil, or_false] at hc ⊢ <;> tauto
      · exact (ih hc).imp_left (List.mem_cons_of_mem d)

theorem isKebab_map_hyphenated {text : List Char} (hword : IsWord text) (hne : text ≠ []) :
    IsKebab ((hyphenated text).map Char.toLower) := by
  induction text with
  | nil => exact absurd rfl hne
  | cons c rest ih =>
      obtain ⟨hc, hrest⟩ := isWord_cons.mp hword
      have hstem := isStemChar_toLower hc
      cases rest with
      | nil => exact .single hstem
      | cons d rest =>
          have htail := ih hrest (List.cons_ne_nil _ _)
          rw [hyphenated_cons, firstParted]
          split
          next => exact .hyphen hstem htail
          next => exact .cons hstem htail

theorem isKebab_slug {name : String} (hword : IsWord name.toList) (hne : name.toList ≠ []) :
    IsKebab (slug name).toList := by
  have hparts : ∀ c ∈ hyphenated name.toList, isAsciiAlnum c = true ∨ c = '-' := fun c hc =>
    (mem_hyphenated hc).imp_left (hword c)
  rw [slug_eq, String.toList_ofList, lower, lowerAfter_eq_map [] hparts]
  exact isKebab_map_hyphenated hword hne

theorem apiClass_tag (raw : String) : apiClass (tag raw) = tag raw ++ "Api" :=
  apiClass_of_isTag (isTag_tag raw)

theorem isKebab_slug_tag (raw : String) : IsKebab (slug (tag raw)).toList := by
  have htag := isTag_tag raw
  obtain ⟨c, rest, hchars, _⟩ := htag.exists_cons
  exact isKebab_slug htag.isWord (by rw [hchars]; exact List.cons_ne_nil _ _)

/-- The grouping form of a tag has a fixed shape, which just the texts have that it leaves alone.
Its class is the tag with a suffix, so two tags have two classes, and its file stem is made of
words. -/
theorem tag_names (raw : String) :
    IsTag (tag raw).toList ∧ tag (tag raw) = tag raw ∧ (tag raw = raw ↔ IsTag raw.toList) ∧
      pascal (tag raw) = tag raw ∧ apiClass (tag raw) = tag raw ++ "Api" ∧
      (∀ other, apiClass (tag other) = apiClass (tag raw) ↔ tag other = tag raw) ∧
      IsKebab (slug (tag raw)).toList := by
  have htag := isTag_tag raw
  refine ⟨htag, tag_of_isTag htag, ⟨fun heq => heq ▸ htag, tag_of_isTag⟩, pascal_of_isTag htag,
    apiClass_tag raw, fun other => ?_, isKebab_slug_tag raw⟩
  rw [apiClass_tag, apiClass_tag]
  exact String.append_left_inj "Api"

end ClientPlan.Name
