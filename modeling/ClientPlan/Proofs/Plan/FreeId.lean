import Mathlib.Data.List.Nodup
import Mathlib.Data.List.Perm.Subperm
import ClientPlan.Plan.Api
import ClientPlan.Proofs.Name.OperationId

/-! # Ids with counters

The search for a free id ends on the least counter that is not taken. Ids in normal form and their
numbered forms never meet, and neither do the query interfaces named after them.
-/

namespace ClientPlan.Plan

open Name Text

theorem toList_counted (id : String) (counter : Nat) :
    (counted id counter).toList = id.toList ++ '_' :: Nat.toDigits 10 counter := by
  simp [counted]

theorem toDigits_inj {m n : Nat} (heq : Nat.toDigits 10 m = Nat.toDigits 10 n) : m = n := by
  rw [← Nat.ofDigitChars_ten_toDigits (n := m), heq, Nat.ofDigitChars_ten_toDigits]

theorem isAsciiDigit_of_mem_toDigits {n : Nat} :
    ∀ c ∈ Nat.toDigits 10 n, isAsciiDigit c = true := by
  intro c hc
  have hdigit := Nat.isDigit_of_mem_toDigits (by decide) (by decide) hc
  simpa [isAsciiDigit, Char.isDigit, Char.le_def] using hdigit

theorem counted_inj {id : String} {m n : Nat} (heq : counted id m = counted id n) : m = n := by
  have hlist := congrArg String.toList heq
  rw [toList_counted, toList_counted] at hlist
  exact toDigits_inj (List.cons.inj (List.append_cancel_left hlist)).2

/-- More counters than taken ids always leave one free. -/
theorem exists_free_counter (taken : List String) (id : String) :
    ∃ n ≤ taken.length, counted id n ∉ taken := by
  by_contra hnone
  push Not at hnone
  -- One counter more than there are taken ids cannot all be taken, for counted forms differ.
  have hnodup : ((List.range (taken.length + 1)).map (counted id)).Nodup :=
    List.nodup_range.map fun _ _ => counted_inj
  have hsubset : (List.range (taken.length + 1)).map (counted id) ⊆ taken := by
    intro name hname
    obtain ⟨n, hn, rfl⟩ := List.mem_map.mp hname
    exact hnone n (Nat.lt_succ_iff.mp (List.mem_range.mp hn))
  have hlength := (List.subperm_of_subset hnodup hsubset).length_le
  rw [List.length_map, List.length_range] at hlength
  omega

/-- The free id has the least counter that is not taken. -/
theorem freeId_spec (taken : List String) (id : String) :
    ∃ n ≤ taken.length, freeId taken id = counted id n ∧ counted id n ∉ taken ∧
      ∀ m < n, counted id m ∈ taken := by
  obtain ⟨free, hle, hfree⟩ := exists_free_counter taken id
  unfold freeId
  split
  next n hfound =>
    obtain ⟨hn, hrange, hleast⟩ := List.find?_range_eq_some.mp hfound
    refine ⟨n, Nat.lt_succ_iff.mp (List.mem_range.mp hrange), rfl, by simpa using hn, ?_⟩
    intro m hm
    simpa using hleast m hm
  next hnone =>
    have htaken := List.find?_range_eq_none.mp hnone free (by omega)
    exact absurd (by simpa using htaken) hfree

/-- The forms that an id takes as it is met again: itself, then itself with the counters from
zero. -/
def numbered (id : String) : Nat → String
  | 0 => id
  | later + 1 => counted id later

/-- The digits that a numbered form adds. -/
def counterDigits : Nat → List Char
  | 0 => []
  | later + 1 => Nat.toDigits 10 later

theorem isAsciiDigit_of_mem_counterDigits (n : Nat) :
    ∀ c ∈ counterDigits n, isAsciiDigit c = true := by
  cases n with
  | zero => simp [counterDigits]
  | succ later => exact isAsciiDigit_of_mem_toDigits

theorem counterDigits_inj {m n : Nat} (heq : counterDigits m = counterDigits n) : m = n := by
  cases m with
  | zero =>
      cases n with
      | zero => rfl
      | succ n => exact absurd heq.symm Nat.toDigits_ne_nil
  | succ m =>
      cases n with
      | zero => exact absurd heq Nat.toDigits_ne_nil
      | succ n => exact congrArg Nat.succ (toDigits_inj heq)

theorem toList_pascal_numbered {id : String} (hid : IsNormalId id.toList) (n : Nat) :
    (pascal (numbered id n)).toList = upperFirst id.toList ++ counterDigits n := by
  rw [pascal, capitalize, camel, String.toList_ofList, String.toList_ofList]
  cases n with
  | zero => rw [numbered, camelChars_of_isNormalId hid, counterDigits, List.append_nil]
  | succ later =>
      rw [numbered, toList_counted, camelChars_append_counter hid isAsciiDigit_of_mem_toDigits,
        upperFirst_append hid, counterDigits]

section

variable {first second : String} (hfirst : IsNormalId first.toList)
  (hsecond : IsNormalId second.toList) {m n : Nat}

include hfirst hsecond

/-- Pascal case drops the underscore and still keeps numbered forms apart. -/
theorem pascal_numbered_inj (heq : pascal (numbered first m) = pascal (numbered second n)) :
    first = second ∧ m = n := by
  have hlist := congrArg String.toList heq
  rw [toList_pascal_numbered hfirst, toList_pascal_numbered hsecond] at hlist
  obtain ⟨hid, hdigits⟩ := upperFirst_append_digits_inj hfirst hsecond
    (isAsciiDigit_of_mem_counterDigits m) (isAsciiDigit_of_mem_counterDigits n) hlist
  exact ⟨String.toList_inj.mp hid, counterDigits_inj hdigits⟩

theorem numbered_inj (heq : numbered first m = numbered second n) : first = second ∧ m = n :=
  pascal_numbered_inj hfirst hsecond (congrArg pascal heq)

theorem queryInterface_numbered_inj
    (heq : queryInterface (numbered first m) = queryInterface (numbered second n)) :
    first = second ∧ m = n := by
  refine pascal_numbered_inj hfirst hsecond (String.toList_inj.mp ?_)
  have hlist := congrArg String.toList heq
  rw [queryInterface, queryInterface, String.toList_append, String.toList_append] at hlist
  exact List.append_cancel_right hlist

end

end ClientPlan.Plan
