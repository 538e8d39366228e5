import ClientPlan.Proofs.Plan.Isolation
import ClientPlan.Proofs.Plan.UniqueIds
import ClientPlan.Proofs.Plan.Words

/-! # When method names are identifiers

Method names are words, and so they are identifiers unless they begin with a digit. A name made from
verb and path begins with the verb. A declared id keeps a digit in front if a letter is behind it,
and a counter changes nothing in front.
-/

namespace ClientPlan

open Client Text

/-! ## Names of declared ids -/

namespace Name

open Plan (startsWord isWordChar IsAsciiIdentifier)

/-- The first letter or digit is a digit, and there is a letter. -/
def leadsWithDigit (declared : String) : Bool :=
  let kept := declared.toList.filter isAsciiAlnum
  kept.head?.any isAsciiDigit && kept.any fun c => !isAsciiDigit c

theorem startsWord_of_isAsciiAlnum {c : Char} (hc : isAsciiAlnum c = true) :
    startsWord c = !isAsciiDigit c := by
  cases hdigit : isAsciiDigit c with
  | false =>
      rw [isAsciiAlnum, hdigit, Bool.or_false] at hc
      rw [startsWord, hc]
      rfl
  | true =>
      have hne : c ≠ '_' := by
        rintro rfl
        exact absurd hdigit (by decide)
      simp [isAsciiDigit, startsWord, isAsciiUpper, isAsciiLower, Char.le_def,
        UInt32.le_iff_toNat_le, hne] at hdigit ⊢
      omega

theorem isWordChar_of_isAsciiAlnum {c : Char} (hc : isAsciiAlnum c = true) :
    isWordChar c = true := by
  rw [isWordChar, startsWord_of_isAsciiAlnum hc, Bool.not_or_self]

/-- A word with or without word characters behind it is an identifier if its first character is no
digit. -/
theorem isAsciiIdentifier_append_iff {word rest : List Char} (hword : IsWord word)
    (hne : word ≠ []) (hrest : ∀ c ∈ rest, isWordChar c = true) :
    IsAsciiIdentifier (String.ofList (word ++ rest)) ↔ word.head?.any isAsciiDigit = false := by
  rw [Plan.isAsciiIdentifier_iff, String.toList_ofList]
  cases word with
  | nil => exact absurd rfl hne
  | cons c word =>
      obtain ⟨hc, hword⟩ := isWord_cons.mp hword
      have hparts : (c :: word ++ rest).all isWordChar = true := by
        simp only [List.cons_append, List.all_cons, List.all_append, Bool.and_eq_true,
          List.all_eq_true]
        exact ⟨isWordChar_of_isAsciiAlnum hc,
          fun d hd => isWordChar_of_isAsciiAlnum (hword d hd), hrest⟩
      rw [hparts, and_iff_left rfl, List.cons_append, List.head?_cons, Option.any_some,
        startsWord_of_isAsciiAlnum hc, Bool.not_eq_true', List.head?_cons, Option.any_some]

/-- Camel case keeps digits where they are among letters and digits. -/
theorem map_isAsciiDigit_joinWords (raised : Bool) (text : List Char) :
    (joinWords raised (wordChars text)).map isAsciiDigit =
      (text.filter isAsciiAlnum).map isAsciiDigit := by
  induction text generalizing raised with
  | nil => rfl
  | cons c rest ih =>
      have hcons : wordChars (c :: rest) =
          (if isAsciiAlnum c then c else '_') :: wordChars rest := rfl
      rw [hcons, joinWords]
      by_cases hc : isAsciiAlnum c = true
      · rw [if_pos hc, if_neg (by simp [isSeparator_of_isAsciiAlnum hc]), List.map_append, ih,
          List.filter_cons_of_pos hc, List.map_cons]
        -- A letter may be raised here, which makes no digit of it.
        cases raised with
        | false => rfl
        | true =>
            rw [if_pos rfl, (isPlain_of_isAsciiAlnum hc).upperChar, List.map_singleton,
              (isPlain_of_isAsciiAlnum hc).isAsciiDigit_toUpper, List.singleton_append]
      · rw [if_neg hc, if_pos (by decide), ih, List.filter_cons_of_neg hc]

theorem map_isAsciiDigit_camelChars (text : List Char) :
    (camelChars (wordChars text)).map isAsciiDigit =
      (text.filter isAsciiAlnum).map isAsciiDigit := by
  have hword := isWord_joinWords_wordChars false text
  rw [← map_isAsciiDigit_joinWords false, camelChars]
  cases hjoined : joinWords false (wordChars text) with
  | nil => rfl
  | cons c rest =>
      rw [hjoined] at hword
      have hc := (isWord_cons.mp hword).1
      rw [lowerFirst_cons hc, List.map_cons, List.map_cons, isAsciiDigit_toLower hc]

theorem leadsWithDigit_eq (declared : String) :
    leadsWithDigit declared =
      ((camelChars (wordChars declared.toList)).head?.any isAsciiDigit &&
        (camelChars (wordChars declared.toList)).any fun c => !isAsciiDigit c) := by
  have hhead : ∀ text : List Char,
      text.head?.any isAsciiDigit = (text.map isAsciiDigit).head?.any id := by
    intro text
    cases text <;> rfl
  have hany : ∀ text : List Char,
      (text.any fun c => !isAsciiDigit c) = (text.map isAsciiDigit).any fun digit => !digit := by
    intro text
    rw [List.any_map]
    rfl
  rw [leadsWithDigit, hhead, hany, hhead, hany, map_isAsciiDigit_camelChars]

theorem idStem_eq_nil_iff (declared : String) :
    idStem declared = [] ↔
      ((camelChars (wordChars declared.toList)).any fun c => !isAsciiDigit c) = false := by
  rw [idStem, dropTrailingDigits_eq_rdropWhile, List.rdropWhile_eq_nil_iff, List.any_eq_false]
  simp

/-- The method name of a declared id is an identifier unless the id leads with a digit. -/
theorem isAsciiIdentifier_operationId_iff (declared : String) :
    IsAsciiIdentifier (operationId declared) ↔ leadsWithDigit declared = false := by
  rw [operationId_eq, leadsWithDigit_eq]
  split
  next hnil =>
    rw [(idStem_eq_nil_iff declared).mp hnil, Bool.and_false]
    exact iff_of_true (by decide) rfl
  next hne =>
    have hnormal := isNormalId_idStem hne
    have hany := mt (idStem_eq_nil_iff declared).mpr hne
    rw [Bool.not_eq_false] at hany
    -- Digits are taken off at the end, and something is left, so the first character stays.
    have hhead : (idStem declared).head? = (camelChars (wordChars declared.toList)).head? := by
      obtain ⟨digits, hdigits⟩ := dropTrailingDigits_isPrefix
        (camelChars (wordChars declared.toList))
      rw [← hdigits]
      exact (List.head?_append_of_ne_nil _ hne).symm
    have hiff : IsAsciiIdentifier (String.ofList (idStem declared ++ [])) ↔
        (idStem declared).head?.any isAsciiDigit = false :=
      isAsciiIdentifier_append_iff hnormal.isWord hne (by simp)
    rw [List.append_nil] at hiff
    rw [hiff, hhead, hany, Bool.and_true]

/-- The method name of an operation without an id begins with its verb. -/
theorem isAsciiIdentifier_synthesizedId (method : Method) (path : String) :
    IsAsciiIdentifier (synthesizedId method.verb path) := by
  obtain ⟨c, rest, hverb, hc⟩ : ∃ c rest, lower method.verb.toList = c :: rest ∧
      (isAsciiAlnum c && !isAsciiDigit c) = true := by
    cases method <;> exact ⟨_, _, rfl, rfl⟩
  rw [Bool.and_eq_true, Bool.not_eq_true'] at hc
  rw [synthesizedId, isAsciiIdentifier_operationId_iff, hverb, leadsWithDigit,
    String.toList_ofList, List.cons_append, List.filter_cons_of_pos hc.1]
  simp [hc.2]

end Name

/-! ## The ids of a tag -/

namespace OpenApi

/-- The operation is declared under an id that leads with a digit. -/
def Declared.leadsWithDigit (found : Declared) : Bool :=
  found.operation.operationId.any Name.leadsWithDigit

theorem Operation.listedTags_ne_nil (op : Operation) : op.listedTags ≠ [] := by
  rw [listedTags]
  rcases op.tags with _ | _ | ⟨tag, rest⟩
  · exact List.cons_ne_nil _ _
  · exact List.cons_ne_nil _ _
  · dsimp only
    rw [List.map_cons, List.eraseDups_cons]
    exact List.cons_ne_nil _ _

end OpenApi

theorem forall_mem_iff_of_forall₂ {α β : Type} {p : α → Prop} {q : β → Prop} {xs : List α}
    {ys : List β} (hpairs : List.Forall₂ (fun x y => q y ↔ p x) xs ys) :
    (∀ y ∈ ys, q y) ↔ ∀ x ∈ xs, p x := by
  induction hpairs with
  | nil => simp
  | cons hpair _ ih => rw [List.forall_mem_cons, List.forall_mem_cons, hpair, ih]

namespace Plan

theorem isWordChar_counter (n : Nat) : ∀ c ∈ '_' :: Nat.toDigits 10 n, isWordChar c = true := by
  refine List.forall_mem_cons.mpr ⟨by decide, fun c hc => ?_⟩
  rw [isWordChar, isAsciiDigit_of_mem_toDigits c hc, Bool.or_true]

theorem isWordChar_numbered {id : String} (hid : Name.IsWord id.toList) (n : Nat) :
    ∀ c ∈ (numbered id n).toList, isWordChar c = true := by
  have hword : ∀ c ∈ id.toList, isWordChar c = true :=
    fun c hc => Name.isWordChar_of_isAsciiAlnum (hid c hc)
  cases n with
  | zero => exact hword
  | succ later =>
      rw [numbered, toList_counted]
      exact List.forall_mem_append.mpr ⟨hword, isWordChar_counter later⟩

/-- A counter keeps an id in normal form an identifier, and makes no other one. -/
theorem isAsciiIdentifier_numbered_iff {id : String} (hid : Name.IsNormalId id.toList) (n : Nat) :
    IsAsciiIdentifier (numbered id n) ↔ IsAsciiIdentifier id := by
  cases n with
  | zero => rfl
  | succ later =>
      have hplain : IsAsciiIdentifier (String.ofList (id.toList ++ [])) ↔ _ :=
        Name.isAsciiIdentifier_append_iff hid.isWord hid.ne_nil (by simp)
      rw [List.append_nil, String.ofList_toList] at hplain
      rw [hplain, ← Name.isAsciiIdentifier_append_iff hid.isWord hid.ne_nil
        (isWordChar_counter later), ← toList_counted, String.ofList_toList, numbered]

theorem isAsciiIdentifier_outlinedOf_iff (options : Options) (document : OpenApi.Document)
    (found : OpenApi.Declared) :
    IsAsciiIdentifier (outlinedOf options document found).operationId ↔
      found.leadsWithDigit = false := by
  simp only [outlinedOf, Outline.operation, Flavour.angular, Flavour.operationName,
    OpenApi.Declared.leadsWithDigit]
  cases found.operation.operationId with
  | some declared => exact Name.isAsciiIdentifier_operationId_iff declared
  | none => exact iff_of_true (Name.isAsciiIdentifier_synthesizedId _ _) rfl

section

variable {options : Options} {document : OpenApi.Document} {plan : Plan}
  (hplan : ofDocument (.angular options) document = .ok plan)

include hplan

theorem isWordChar_of_mem_operations {api : Api} (hapi : api ∈ plan.apis) {op : Operation}
    (hop : op ∈ api.operations) : ∀ c ∈ op.operationId.toList, isWordChar c = true := by
  obtain ⟨id, n, hid, hname⟩ := (inStep_of_mem_operations hplan hapi hop).id_form
  rw [hname]
  exact isWordChar_numbered hid.isWord n

/-- Every declared operation is under a tag of the plan. -/
theorem exists_api_of_mem_declared {found : OpenApi.Declared}
    (hfound : found ∈ document.declared) :
    ∃ api ∈ plan.apis, found ∈ document.declaredUnder api.tag := by
  obtain ⟨tag, htag⟩ := List.exists_mem_of_ne_nil _ found.operation.listedTags_ne_nil
  have hmem : tag ∈ (outlined options document).flatMap Operation.tags := by
    rw [List.mem_flatMap, outlined_eq_map_declared]
    exact ⟨_, List.mem_map_of_mem hfound, by rwa [tags_outlinedOf]⟩
  obtain ⟨api, hapi, rfl⟩ := exists_api_of_mem_tags hplan hmem
  exact ⟨api, hapi, List.mem_filter.mpr ⟨hfound, decide_eq_true htag⟩⟩

/-- The operations of a tag stand for the declared ones, each under its id or a numbered form. -/
theorem forall₂_declaredUnder {api : Api} (hapi : api ∈ plan.apis) :
    List.Forall₂
      (fun found op => ∃ n, op.operationId =
        numbered (outlinedOf options document found).operationId n)
      (document.declaredUnder api.tag) api.operations := by
  refine List.forall₂_iff_get.mpr ⟨?_, fun n hfound hop => ?_⟩
  · rw [length_operations hplan hapi, carrying_outlined, List.length_map]
  · have hplace := getElem?_operations hplan hapi n
    rw [carrying_outlined, List.getElem?_map, List.getElem?_eq_getElem hop,
      List.getElem?_eq_getElem hfound, Option.map_some, Option.map_some, Option.some.injEq]
      at hplace
    rw [List.get_eq_getElem, List.get_eq_getElem, hplace, underNumber,
      Operation.annotated_operationId]
    exact ⟨_, rfl⟩

theorem forall₂_isAsciiIdentifier_iff {api : Api} (hapi : api ∈ plan.apis) :
    List.Forall₂
      (fun found op =>
        (IsAsciiIdentifier (outlinedOf options document found).operationId ↔
          found.leadsWithDigit = false) ∧
        (IsAsciiIdentifier op.operationId ↔ found.leadsWithDigit = false))
      (document.declaredUnder api.tag) api.operations := by
  refine (forall₂_declaredUnder hplan hapi).imp ?_
  rintro found op ⟨n, hop⟩
  have hbefore := isAsciiIdentifier_outlinedOf_iff options document found
  have hnormal : Name.IsNormalId (outlinedOf options document found).operationId.toList := by
    simp only [outlinedOf, Outline.operation, Flavour.angular]
    exact isNormalId_operationName _ _ _
  refine ⟨hbefore, ?_⟩
  rw [hop, isAsciiIdentifier_numbered_iff hnormal, hbefore]

/-- The id of an operation is an identifier, before and after a counter, unless the operation is
declared under an id that leads with a digit. So all ids of a plan are identifiers exactly where no
declared id leads with a digit. -/
theorem operation_ids_usable_iff :
    (∀ api ∈ plan.apis, List.Forall₂
      (fun found op =>
        (IsAsciiIdentifier (outlinedOf options document found).operationId ↔
          found.leadsWithDigit = false) ∧
        (IsAsciiIdentifier op.operationId ↔ found.leadsWithDigit = false))
      (document.declaredUnder api.tag) api.operations) ∧
    ((∀ api ∈ plan.apis, ∀ op ∈ api.operations, IsAsciiIdentifier op.operationId) ↔
      ∀ found ∈ document.declared, found.leadsWithDigit = false) := by
  have hpairs : ∀ api ∈ plan.apis, _ := fun _ hapi => forall₂_isAsciiIdentifier_iff hplan hapi
  have hapis : ∀ api ∈ plan.apis, (∀ op ∈ api.operations, IsAsciiIdentifier op.operationId) ↔
      ∀ found ∈ document.declaredUnder api.tag, found.leadsWithDigit = false := fun api hapi =>
    forall_mem_iff_of_forall₂ ((hpairs api hapi).imp fun _ _ hpair => hpair.2)
  refine ⟨hpairs, ?_, ?_⟩
  · intro husable found hfound
    obtain ⟨api, hapi, hunder⟩ := exists_api_of_mem_declared hplan hfound
    exact (hapis api hapi).mp (husable api hapi) found hunder
  · intro hdeclared api hapi
    exact (hapis api hapi).mpr fun found hunder =>
      hdeclared found (List.mem_of_mem_filter hunder)

end

/-- A log-in in two steps, declared twice, and a list without an id. -/
def twoFactor : OpenApi.Document where
  paths :=
    [("/login", { post := some { operationId := some "2fa-login" } }),
      ("/login/again", { post := some { operationId := some "_2fa_login" } }),
      ("/2fa/{user}", { get := some {} })]

theorem operation_ids_usable_iff_twoFactor :
    ∃ plan, ofDocument (.angular {}) twoFactor = .ok plan ∧
      (∃ api ∈ plan.apis, api.operations.map (fun op => decide (IsAsciiIdentifier op.operationId)) =
        [false, false, true]) ∧
      ¬ ∀ api ∈ plan.apis, ∀ op ∈ api.operations, IsAsciiIdentifier op.operationId := by
  have hplan := ofDocument_of_lenient {} twoFactor rfl
  obtain ⟨api, hapi, htag⟩ := exists_api_of_mem_tags hplan
    (show "Default" ∈ _ by decide +kernel)
  obtain ⟨hapis, hall⟩ := operation_ids_usable_iff hplan
  have hpairs := hapis api hapi
  rw [htag] at hpairs
  have hmap : (twoFactor.declaredUnder "Default").map (fun found => !found.leadsWithDigit) =
      api.operations.map fun op => decide (IsAsciiIdentifier op.operationId) := by
    rw [← List.forall₂_eq_eq_eq, List.forall₂_map_left_iff, List.forall₂_map_right_iff]
    refine hpairs.imp fun found op hpair => ?_
    rw [Bool.eq_iff_iff, Bool.not_eq_true', decide_eq_true_eq, hpair.2]
  refine ⟨_, hplan, ⟨api, hapi, hmap.symm.trans (by decide +kernel)⟩, ?_⟩
  rw [hall]
  decide +kernel

/-- The first operation keeps its digit, and the second one has it under a counter. -/
theorem not_usable_twoFactor :
    ∃ plan, ofDocument (.angular {}) twoFactor = .ok plan ∧
      ∃ api ∈ plan.apis, ∃ first ∈ api.operations, ∃ second ∈ api.operations,
        first.operationId = "2faLogin" ∧ ¬ IsAsciiIdentifier first.operationId ∧
        second.operationId = "2faLogin_0" ∧ ¬ IsAsciiIdentifier second.operationId := by
  have hplan := ofDocument_of_lenient {} twoFactor rfl
  obtain ⟨api, hapi, htag⟩ := exists_api_of_mem_tags hplan
    (show "Default" ∈ _ by decide +kernel)
  have hplace := getElem?_operations hplan hapi
  rw [htag] at hplace
  have hmember : ∀ n found id, (carrying "Default" (outlined {} twoFactor))[n]? = some found →
      numbered found.operationId ((ids ((carrying "Default"
        (outlined {} twoFactor)).take n)).count found.operationId) = id →
      ∃ op ∈ api.operations, op.operationId = id := by
    intro n found id hfound hid
    have hop := hplace n
    rw [hfound, Option.map_some] at hop
    refine ⟨_, List.mem_of_getElem? hop, ?_⟩
    rw [underNumber, Operation.annotated_operationId, hid]
  obtain ⟨first, hfirst, hid⟩ := hmember 0 _ "2faLogin" rfl (by decide +kernel)
  obtain ⟨second, hsecond, hcounted⟩ := hmember 1 _ "2faLogin_0" rfl (by decide +kernel)
  refine ⟨_, hplan, api, hapi, first, hfirst, second, hsecond, hid, ?_, hcounted, ?_⟩
  · rw [hid]
    decide
  · rw [hcounted]
    decide

end Plan

end ClientPlan
