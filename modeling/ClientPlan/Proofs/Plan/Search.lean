import ClientPlan.Proofs.Plan.FreeId

/-! # The search for a free id as a loop

Counters are tried one after the other, and nothing in the loop itself says that it ends. It does,
on the least free counter, since the ids that are taken are finite in number and counted ids differ.
A counter of 32 bits is large enough for any group of fewer than 2³¹ operations.
-/

namespace ClientPlan.Plan

open Client

/-- The taken ids that no counter before the given one makes. -/
def ahead (taken : List String) (id : String) (counter : Nat) : List String :=
  taken.filter fun name => ∀ m < counter, counted id m ≠ name

theorem ahead_succ (taken : List String) (id : String) (counter : Nat) :
    ahead taken id (counter + 1) =
      (ahead taken id counter).filter fun name => counted id counter ≠ name := by
  rw [ahead, ahead, List.filter_filter]
  refine List.filter_congr fun name _ => ?_
  rw [← Bool.decide_and, decide_eq_decide, Nat.forall_lt_succ_right]
  exact and_comm

/-- A taken counter leaves fewer ids ahead, since no earlier one makes the same id. -/
theorem length_ahead_succ_lt {taken : List String} {id : String} {counter : Nat}
    (htaken : counted id counter ∈ taken) :
    (ahead taken id (counter + 1)).length < (ahead taken id counter).length := by
  rw [ahead_succ, List.length_filter_lt_length_iff_exists]
  refine ⟨counted id counter, ?_, by simp⟩
  refine List.mem_filter.mpr ⟨htaken, decide_eq_true fun m hm heq => ?_⟩
  exact hm.ne (counted_inj heq)

/-- The first counter, from the given one on, whose id is free. The loop ends since with each taken
counter fewer ids are left ahead. -/
def searchFrom (taken : List String) (id : String) (counter : Nat) : Nat :=
  if counted id counter ∈ taken then searchFrom taken id (counter + 1) else counter
termination_by (ahead taken id counter).length
decreasing_by exact length_ahead_succ_lt ‹_›

/-- What goes wrong with a counter. -/
inductive CounterError where
  /-- No signed word of 32 bits is left to count on with. -/
  | overflow
  deriving DecidableEq, Inhabited, Repr

section

variable {counter : Int32} (hcounter : counter ≠ Int32.maxValue)

include hcounter

theorem toInt_lt_of_ne_maxValue : counter.toInt < Int32.maxValue.toInt :=
  Int.lt_iff_le_and_ne.mpr
    ⟨Int32.toInt_le counter, fun heq => hcounter (Int32.toInt_inj.mp heq)⟩

theorem toInt_add_one_of_ne_maxValue : (counter + 1).toInt = counter.toInt + 1 := by
  have hlt := toInt_lt_of_ne_maxValue hcounter
  have hge := Int32.le_toInt counter
  rw [Int32.toInt_maxValue] at hlt
  rw [Int32.toInt_add]
  exact Int.bmod_eq_of_le (by simp; omega) (by simp; omega)

end

/-- The same loop with a signed word of 32 bits for the counter; it ends on an id, or where the
words end. -/
def wordSearchFrom (taken : List String) (id : String) (counter : Int32) :
    Except CounterError String :=
  if id ++ "_" ++ toString counter ∈ taken then
    if counter = Int32.maxValue then .error .overflow
    else wordSearchFrom taken id (counter + 1)
  else .ok (id ++ "_" ++ toString counter)
termination_by (Int32.maxValue.toInt - counter.toInt).toNat
decreasing_by
  rename_i hcounter
  have hlt := toInt_lt_of_ne_maxValue hcounter
  rw [toInt_add_one_of_ne_maxValue hcounter]
  omega

/-- How many counters a signed word of 32 bits has, from zero on. -/
def wordCounters : Nat :=
  0x80000000

theorem toInt_ofNat_counter {counter : Nat} (hcounter : counter < wordCounters) :
    (Int32.ofNat counter).toInt = counter :=
  Int32.toInt_ofNat_of_lt hcounter

theorem append_toString_counter (id : String) {counter : Nat} (hcounter : counter < wordCounters) :
    id ++ "_" ++ toString (Int32.ofNat counter) = counted id counter := by
  have htext : toString (Int32.ofNat counter) = toString (Int32.ofNat counter).toInt := rfl
  rw [htext, toInt_ofNat_counter hcounter]
  rfl

theorem ofNat_succ_counter (counter : Nat) :
    Int32.ofNat (counter + 1) = Int32.ofNat counter + 1 :=
  Int32.ofNat_add counter 1

theorem ofNat_counter_ne_maxValue {counter : Nat} (hcounter : counter + 1 < wordCounters) :
    Int32.ofNat counter ≠ Int32.maxValue := by
  intro heq
  have hint := congrArg Int32.toInt heq
  rw [toInt_ofNat_counter (Nat.lt_of_succ_lt hcounter)] at hint
  have hmax : Int32.maxValue.toInt = 0x7fffffff := by decide
  rw [wordCounters] at hcounter
  omega

section

variable {taken : List String} {id : String} {n : Nat} (hfree : counted id n ∉ taken)

include hfree

/-- From a counter behind which only taken ones stand, the loop goes on to the first free one. -/
theorem searchFrom_eq {counter : Nat} (hle : counter ≤ n)
    (htaken : ∀ m < n, counter ≤ m → counted id m ∈ taken) :
    searchFrom taken id counter = n := by
  -- Downwards from the free counter, where the loop ends.
  induction hle using Nat.decreasingInduction with
  | self => rw [searchFrom, if_neg hfree]
  | of_succ counter hlt ih =>
      rw [searchFrom, if_pos (htaken counter hlt le_rfl)]
      exact ih fun m hm hcounter => htaken m hm (Nat.le_of_succ_le hcounter)

/-- On signed words the loop goes the same way, as long as the free counter is one of them. -/
theorem wordSearchFrom_eq {counter : Nat} (hle : counter ≤ n) (hword : n < wordCounters)
    (htaken : ∀ m < n, counter ≤ m → counted id m ∈ taken) :
    wordSearchFrom taken id (Int32.ofNat counter) = .ok (counted id n) := by
  induction hle using Nat.decreasingInduction with
  | self => rw [wordSearchFrom, append_toString_counter id hword, if_neg hfree]
  | of_succ counter hlt ih =>
      have hnext : counter + 1 < wordCounters := by omega
      rw [wordSearchFrom, append_toString_counter id (Nat.lt_of_succ_lt hnext),
        if_pos (htaken counter hlt le_rfl), if_neg (ofNat_counter_ne_maxValue hnext),
        ← ofNat_succ_counter]
      exact ih fun m hm hcounter => htaken m hm (Nat.le_of_succ_le hcounter)

end

/-- The search for a free id ends, on the least counter whose id no operation of the group has, and
that counter is at most the number of operations. Among fewer than 2³¹ operations a counter of 32
bits does not overflow. -/
theorem search_ends (group : List Operation) (id : String) :
    ∃ n ≤ group.length,
      searchFrom (ids group) id 0 = n ∧
      freeId (ids group) id = counted id n ∧
      (∀ op ∈ group, op.operationId ≠ counted id n) ∧
      (∀ m < n, ∃ op ∈ group, op.operationId = counted id m) ∧
      (group.length < wordCounters →
        wordSearchFrom (ids group) id 0 = .ok (counted id n)) := by
  obtain ⟨n, hle, heq, hfree, htaken⟩ := freeId_spec (ids group) id
  rw [ids, List.length_map] at hle
  refine ⟨n, hle, ?_, heq, ?_, ?_, ?_⟩
  · exact searchFrom_eq hfree n.zero_le fun m hm _ => htaken m hm
  · intro op hop hid
    exact hfree (hid ▸ List.mem_map_of_mem hop)
  · intro m hm
    exact List.mem_map.mp (htaken m hm)
  · intro hword
    exact wordSearchFrom_eq hfree n.zero_le (by omega) fun m hm _ => htaken m hm

/-- Three operations, two of them under ids that look like counted ones. -/
def petGroup : List Operation :=
  ["pet_1", "pet", "pet_0"].map fun id => { (default : Operation) with operationId := id }

theorem search_ends_petGroup :
    petGroup.length < wordCounters ∧ searchFrom (ids petGroup) "pet" 0 = 2 ∧
      wordSearchFrom (ids petGroup) "pet" 0 = .ok "pet_2" := by
  obtain ⟨n, _, hsearch, heq, _, _, hword⟩ := search_ends petGroup "pet"
  have hfree : freeId (ids petGroup) "pet" = counted "pet" 2 := by decide +kernel
  obtain rfl := counted_inj (heq.symm.trans hfree)
  have hlength : petGroup.length < wordCounters := by decide
  exact ⟨hlength, hsearch, hword hlength⟩

end ClientPlan.Plan
