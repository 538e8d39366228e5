import Mathlib.Data.Bool.AllAny
import Mathlib.Logic.Relation
import ClientPlan.Proofs.Name.OperationId
import ClientPlan.Proofs.Text.LowerCase

/-! # Ids made of a verb and a path

The id of an operation that declares none is its verb, and behind it the words of the literal
segments of its path. The digits that are trimmed at the end stand behind the verb, and a segment
that is no literal one leaves nothing behind.
-/

namespace ClientPlan.Name

open Text

/-- `A` to `Z` and `a` to `z`. -/
def isAsciiLetter (c : Char) : Bool :=
  isAsciiUpper c || isAsciiLower c

/-- The words of a segment, each with its first character upper-cased. -/
def segmentWords (segment : List Char) : List Char :=
  joinWords true (wordChars segment)

/-- A segment that is no literal one is put in somewhere, left out, or exchanged for another. -/
inductive Reroutes : List (List Char) → List (List Char) → Prop where
  | insert (before : List (List Char)) (segment : List Char) (after : List (List Char))
      (hsegment : isLiteralSegment segment = false) :
      Reroutes (before ++ after) (before ++ segment :: after)
  | remove (before : List (List Char)) (segment : List Char) (after : List (List Char))
      (hsegment : isLiteralSegment segment = false) :
      Reroutes (before ++ segment :: after) (before ++ after)
  | replace (before after : List (List Char)) {old new : List Char}
      (hold : isLiteralSegment old = false) (hnew : isLiteralSegment new = false) :
      Reroutes (before ++ old :: after) (before ++ new :: after)

/-! ## Segments -/

theorem Reroutes.filter_eq {first second : List (List Char)} (hstep : Reroutes first second) :
    second.filter isLiteralSegment = first.filter isLiteralSegment := by
  cases hstep with
  | insert before segment after hsegment => simp [hsegment]
  | remove before segment after hsegment => simp [hsegment]
  | replace before after hold hnew => simp [hold, hnew]

theorem filter_eq_of_reroutes {first second : List (List Char)}
    (hsteps : Relation.ReflTransGen Reroutes first second) :
    second.filter isLiteralSegment = first.filter isLiteralSegment := by
  induction hsteps with
  | refl => rfl
  | tail _ hstep ih => exact hstep.filter_eq.trans ih

/-- A separator makes the words on its two sides independent of each other. -/
theorem joinWords_append_cons (raised : Bool) (first rest : List Char) {c : Char}
    (hc : isSeparator c = true) :
    joinWords raised (first ++ c :: rest) = joinWords raised first ++ joinWords true rest := by
  induction first generalizing raised with
  | nil =>
      show joinWords raised (c :: rest) = joinWords true rest
      rw [joinWords, if_pos hc]
  | cons d first ih =>
      rw [List.cons_append, joinWords, joinWords]
      split
      next => exact ih true
      next => rw [ih false, List.append_assoc]

theorem wordChars_append_underscore (first rest : List Char) :
    wordChars (first ++ '_' :: rest) = wordChars first ++ '_' :: wordChars rest := by
  have hmark : (if isAsciiAlnum '_' then '_' else '_') = '_' := ite_self _
  rw [wordChars, List.map_append, List.map_cons, hmark]
  rfl

theorem joinWords_intercalate (segments : List (List Char)) :
    joinWords true (wordChars (['_'].intercalate segments)) = segments.flatMap segmentWords := by
  induction segments with
  | nil => rfl
  | cons segment segments ih =>
      cases segments with
      | nil => simp [segmentWords]
      | cons next segments =>
          rw [List.intercalate_cons_cons, List.append_assoc, List.singleton_append,
            wordChars_append_underscore, joinWords_append_cons true _ _ rfl, ih]
          rfl

/-! ## A name before the segments -/

section

variable {id : List Char} (hid : IsNormalId id)

include hid

theorem lowerFirst_append (rest : List Char) : lowerFirst (id ++ rest) = id ++ rest := by
  cases id with
  | nil => exact absurd rfl hid.ne_nil
  | cons c tail =>
      have hc := (isWord_cons.mp hid.isWord).1
      rw [List.cons_append, lowerFirst_cons hc,
        (isPlain_of_isAsciiAlnum hc).toLower_eq (hid.head c rfl)]

/-- Digits are trimmed no further than to the end of a name. -/
theorem dropTrailingDigits_append_right (rest : List Char) :
    dropTrailingDigits (id ++ rest) = id ++ dropTrailingDigits rest := by
  have hreverse : id.reverse.dropWhile isAsciiDigit = id.reverse := by
    have hid := dropTrailingDigits_append hid.last (List.forall_mem_nil _)
    rw [List.append_nil, dropTrailingDigits] at hid
    rw [← List.reverse_inj, hid, List.reverse_reverse]
  rw [dropTrailingDigits, dropTrailingDigits, List.reverse_append, List.dropWhile_append, hreverse]
  cases rest.reverse.dropWhile isAsciiDigit with
  | nil => simp
  | cons c tail => simp

theorem idStem_append_segments (segments : List (List Char)) :
    idStem (String.ofList (id ++ '_' :: ['_'].intercalate segments)) =
      id ++ dropTrailingDigits (segments.flatMap segmentWords) := by
  rw [idStem, String.toList_ofList, wordChars_append_underscore, wordChars_of_isWord hid.isWord,
    camelChars, joinWords_append_cons false _ _ rfl, joinWords_of_isWord hid.isWord,
    joinWords_intercalate, lowerFirst_append hid, dropTrailingDigits_append_right hid]

end

/-! ## The verb -/

section

variable {verb : String} (hne : verb ≠ "") (hverb : ∀ c ∈ verb.toList, isAsciiLetter c = true)

include hverb

theorem isAsciiAlnum_of_mem_verb {c : Char} (hc : c ∈ verb.toList) : isAsciiAlnum c = true := by
  have hletter := hverb c hc
  rw [isAsciiLetter] at hletter
  rw [isAsciiAlnum, hletter, Bool.true_or]

/-- A lower-cased verb is made of letters, none of them a capital. -/
theorem verb_cases {c : Char} (hc : c ∈ lower verb.toList) :
    isAsciiAlnum c = true ∧ isAsciiUpper c = false ∧ isAsciiDigit c = false := by
  have hlower : lower verb.toList = verb.toList.map Char.toLower :=
    lowerAfter_eq_map [] fun _ hc => .inl (isAsciiAlnum_of_mem_verb hverb hc)
  rw [hlower, List.mem_map] at hc
  obtain ⟨d, hd, rfl⟩ := hc
  have halnum := isAsciiAlnum_of_mem_verb hverb hd
  have hplain := isPlain_of_isAsciiAlnum halnum
  refine ⟨hplain.isAsciiAlnum_toLower, hplain.isAsciiUpper_toLower, ?_⟩
  have hall : ∀ n < 128, isAsciiLetter (Char.ofNat n) = true →
      isAsciiDigit (Char.ofNat n) = false := by decide +kernel
  rw [isAsciiDigit_toLower halnum]
  exact forall_ascii (p := fun c => isAsciiLetter c = true → isAsciiDigit c = false) hall
    (toNat_lt_of_isAsciiAlnum halnum) (hverb d hd)

include hne

theorem isNormalId_lower_verb : IsNormalId (lower verb.toList) where
  ne_nil := by
    rw [lower, lowerAfter_eq_map [] fun _ hc => .inl (isAsciiAlnum_of_mem_verb hverb hc)]
    simpa using hne
  isWord := fun _ hc => (verb_cases hverb hc).1
  head := fun _ hc => (verb_cases hverb (List.mem_of_mem_head? hc)).2.1
  last := fun _ hc => (verb_cases hverb (List.mem_of_mem_getLast? hc)).2.2

/-- The verb, and behind it what is left of the words of the literal segments. -/
theorem toList_synthesizedId (path : String) :
    (synthesizedId verb path).toList =
      lower verb.toList ++
        dropTrailingDigits
          (((splitOn '/' path.toList).filter isLiteralSegment).flatMap segmentWords) := by
  have hid := isNormalId_lower_verb hne hverb
  simp only [synthesizedId]
  rw [operationId_eq, idStem_append_segments hid, if_neg (by simp [hid.ne_nil]),
    String.toList_ofList]

/-- The id begins with the verb in lower case, is in normal form, and stays the same however the
segments of the path that are no literal ones change. -/
theorem synthesizedId_rerouted (path : String) :
    synthesizedId verb path = lowered verb ++
        String.ofList (dropTrailingDigits
          (((splitOn '/' path.toList).filter isLiteralSegment).flatMap segmentWords)) ∧
      (lowered verb).toList <+: (synthesizedId verb path).toList ∧
      IsNormalId (synthesizedId verb path).toList ∧
      ∀ other, Relation.ReflTransGen Reroutes (splitOn '/' path.toList) (splitOn '/' other.toList) →
        synthesizedId verb other = synthesizedId verb path := by
  have hpath := toList_synthesizedId hne hverb path
  refine ⟨?_, ?_, ?_, fun other hother => ?_⟩
  · rw [← String.toList_inj, hpath, String.toList_append, lowered, String.toList_ofList,
      String.toList_ofList]
  · rw [hpath, lowered, String.toList_ofList]
    exact List.prefix_append _ _
  · rw [synthesizedId]
    exact isNormalId_operationId _
  · rw [← String.toList_inj, hpath, toList_synthesizedId hne hverb other,
      filter_eq_of_reroutes hother]

end

/-- The lines of an order, by way of an order or not. -/
theorem synthesizedId_rerouted_orderLines :
    "GET" ≠ "" ∧ (∀ c ∈ "GET".toList, isAsciiLetter c = true) ∧
      Relation.ReflTransGen Reroutes (splitOn '/' "/orders/{id}/lines2".toList)
        (splitOn '/' "/orders/lines2/{line}".toList) ∧
      synthesizedId "GET" "/orders/{id}/lines2" = "getOrdersLines" ∧
      synthesizedId "GET" "/orders/lines2/{line}" = "getOrdersLines" := by
  have hverb : ∀ c ∈ "GET".toList, isAsciiLetter c = true :=
    List.all_iff_forall_prop.mp (by decide)
  have hsteps : Relation.ReflTransGen Reroutes (splitOn '/' "/orders/{id}/lines2".toList)
      (splitOn '/' "/orders/lines2/{line}".toList) :=
    .head (.remove ["".toList, "orders".toList] "{id}".toList ["lines2".toList] rfl)
      (.single (.insert ["".toList, "orders".toList, "lines2".toList] "{line}".toList [] rfl))
  obtain ⟨hid, _, _, hother⟩ := synthesizedId_rerouted (by decide) hverb "/orders/{id}/lines2"
  have hname : synthesizedId "GET" "/orders/{id}/lines2" = "getOrdersLines" :=
    hid.trans (by decide +kernel)
  exact ⟨by decide, hverb, hsteps, hname, (hother _ hsteps).trans hname⟩

end ClientPlan.Name
