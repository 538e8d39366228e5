import Mathlib.Data.List.Induction
import Mathlib.Data.List.Nodup
import ClientPlan.OrderedMap

/-! # Collecting values under keys

A list of keyed values folded into an ordered map. The map that results is known in closed form:
its keys are those of the list in the order in which they are first seen, and each holds the fold
of its own values.
-/

namespace ClientPlan

theorem nodup_eraseDups {α : Type} [BEq α] [LawfulBEq α] (xs : List α) :
    xs.eraseDups.Nodup := by
  cases xs with
  | nil => simp
  | cons head tail =>
      rw [List.eraseDups_cons, List.nodup_cons]
      exact ⟨by simp, nodup_eraseDups _⟩
termination_by xs.length
decreasing_by exact Nat.lt_succ_of_le (List.length_filter_le _ _)

theorem eraseDups_append_singleton {α : Type} [BEq α] [LawfulBEq α] [DecidableEq α]
    (xs : List α) (x : α) :
    (xs ++ [x]).eraseDups = if x ∈ xs then xs.eraseDups else xs.eraseDups ++ [x] := by
  rw [List.eraseDups_append]
  split
  next hmem => simp [List.removeAll, hmem]
  next hmem => simp [List.removeAll, hmem, List.eraseDups_cons]

theorem filter_eraseDups {α : Type} [BEq α] [LawfulBEq α] [DecidableEq α] (p : α → Bool)
    (xs : List α) : xs.eraseDups.filter p = (xs.filter p).eraseDups := by
  induction xs using List.reverseRecOn with
  | nil => rfl
  | append_singleton xs x ih =>
      rw [eraseDups_append_singleton, List.filter_append]
      by_cases hx : p x = true
      · by_cases hmem : x ∈ xs <;> simp [hmem, hx, ih, eraseDups_append_singleton]
      · by_cases hmem : x ∈ xs <;> simp [hmem, hx, ih]

namespace OrderedMap

variable {α β : Type}

theorem mem_of_find?_eq_some {map : OrderedMap β} {key : String} {value : β}
    (hfound : map.find? key = some value) : (key, value) ∈ map := by
  induction map with
  | nil => cases hfound
  | cons entry rest ih =>
      obtain ⟨k, v⟩ := entry
      rw [find?] at hfound
      split at hfound
      next heq =>
        obtain rfl := Option.some.inj hfound
        exact heq ▸ List.mem_cons_self
      next => exact List.mem_cons_of_mem _ (ih hfound)

theorem find?_eq_none_iff {map : OrderedMap β} {key : String} :
    map.find? key = none ↔ key ∉ map.keys := by
  induction map with
  | nil => simp [keys]
  | cons entry rest ih =>
      obtain ⟨k, v⟩ := entry
      rw [find?]
      by_cases hk : k = key
      · simp [keys, hk]
      · rw [if_neg hk, ih]
        simp [keys, Ne.symm hk]

theorem find?_map (keys : List String) (g : String → β) (key : String) :
    find? (keys.map fun k => (k, g k)) key = if key ∈ keys then some (g key) else none := by
  induction keys with
  | nil => rfl
  | cons head tail ih =>
      by_cases hk : head = key
      · subst hk
        simp [find?]
      · simp [find?, hk, Ne.symm hk, ih]

/-- Setting one key of a map given by a function on distinct keys. -/
theorem insert_map {keys : List String} (hkeys : keys.Nodup) (g : String → β) (key : String)
    (value : β) :
    insert (keys.map fun k => (k, g k)) key value =
      (if key ∈ keys then keys else keys ++ [key]).map
        fun k => (k, if k = key then value else g k) := by
  induction keys with
  | nil => simp [insert]
  | cons head tail ih =>
      obtain ⟨hhead, htail⟩ := List.nodup_cons.mp hkeys
      by_cases hk : head = key
      · subst hk
        have hrest : ∀ k ∈ tail, k ≠ head := fun k hmem heq => hhead (heq ▸ hmem)
        simp only [List.map_cons, insert, if_true, List.mem_cons, true_or, List.cons.injEq,
          true_and]
        exact List.map_congr_left fun k hmem => by rw [if_neg (hrest k hmem)]
      · have ih := ih htail
        by_cases hmem : key ∈ tail <;>
          simp [insert, hk, Ne.symm hk, hmem, ih]

/-- The map in which each key holds the fold of the values that stand under it. -/
def collect (start : β) (f : β → α → β) (steps : List (String × α)) : OrderedMap β :=
  steps.foldl (fun map step => map.update step.1 start fun value => f value step.2) []

/-- The values that stand under a key. -/
def valuesOf (key : String) (steps : List (String × α)) : List α :=
  (steps.filter fun step => step.1 = key).map Prod.snd

theorem valuesOf_append (key : String) (first second : List (String × α)) :
    valuesOf key (first ++ second) = valuesOf key first ++ valuesOf key second := by
  simp [valuesOf]

theorem valuesOf_singleton (key other : String) (value : α) :
    valuesOf key [(other, value)] = if other = key then [value] else [] := by
  by_cases hkey : other = key <;> simp [valuesOf, hkey]

theorem valuesOf_of_not_mem {key : String} {steps : List (String × α)}
    (hkey : key ∉ steps.map Prod.fst) : valuesOf key steps = [] := by
  simp only [valuesOf, List.map_eq_nil_iff, List.filter_eq_nil_iff, decide_eq_true_eq]
  intro step hstep heq
  exact hkey (heq ▸ List.mem_map_of_mem hstep)

/-- Collected keys come in the order in which they are first seen, each with its own fold. -/
theorem collect_eq (start : β) (f : β → α → β) (steps : List (String × α)) :
    collect start f steps =
      (steps.map Prod.fst).eraseDups.map fun key => (key, (valuesOf key steps).foldl f start) := by
  -- From the right, since the last step updates the map that the earlier ones have made.
  induction steps using List.reverseRecOn with
  | nil => rfl
  | append_singleton steps step ih =>
      obtain ⟨key, value⟩ := step
      have hstep : collect start f (steps ++ [(key, value)]) =
          (collect start f steps).update key start fun old => f old value := by
        simp [collect]
      rw [hstep, update, ih, find?_map, insert_map (nodup_eraseDups _), List.map_append,
        List.map_singleton, eraseDups_append_singleton]
      simp only [List.mem_eraseDups]
      apply List.map_congr_left
      intro other _
      by_cases hother : other = key
      · subst hother
        by_cases hmem : other ∈ steps.map Prod.fst
        · simp only [hmem, if_true, valuesOf_append, valuesOf_singleton, List.foldl_concat,
            Option.getD_some]
        · simp only [hmem, if_true, if_false, valuesOf_append, valuesOf_singleton,
            valuesOf_of_not_mem hmem, List.nil_append, List.foldl_cons, List.foldl_nil,
            Option.getD_none]
      · simp only [hother, Ne.symm hother, if_false, valuesOf_append, valuesOf_singleton,
          List.append_nil]

theorem valuesOf_map_label {labels : List String} (hlabels : labels.Nodup) (key : String)
    (value : α) :
    valuesOf key (labels.map fun label => (label, value)) =
      if key ∈ labels then [value] else [] := by
  induction labels with
  | nil => rfl
  | cons head tail ih =>
      obtain ⟨hhead, htail⟩ := List.nodup_cons.mp hlabels
      have ih := ih htail
      rw [List.map_cons, ← List.singleton_append, valuesOf_append, valuesOf_singleton, ih]
      by_cases hk : head = key
      · subst hk
        simp [hhead]
      · simp [hk, Ne.symm hk]

theorem keys_flatMap (labels : β → List String) (g : β → α) (xs : List β) :
    (xs.flatMap fun x => (labels x).map fun label => (label, g x)).map Prod.fst =
      xs.flatMap labels := by
  simp [List.map_flatMap, Function.comp_def]

/-- Values listed once under each of their labels: those under one label are the values that carry
it, in order. -/
theorem valuesOf_flatMap (labels : β → List String) (g : β → α) {xs : List β}
    (hlabels : ∀ x ∈ xs, (labels x).Nodup) (key : String) :
    valuesOf key (xs.flatMap fun x => (labels x).map fun label => (label, g x)) =
      (xs.filter fun x => key ∈ labels x).map g := by
  induction xs with
  | nil => rfl
  | cons head tail ih =>
      have htail := ih fun x hx => hlabels x (List.mem_cons_of_mem _ hx)
      rw [List.flatMap_cons, valuesOf_append, htail,
        valuesOf_map_label (hlabels head List.mem_cons_self)]
      by_cases hmem : key ∈ labels head <;> simp [hmem]

/-! ## Entries set one after the other -/

/-- A map with entries set one after the other. -/
def insertAll (map : OrderedMap β) (entries : List (String × β)) : OrderedMap β :=
  entries.foldl (fun map entry => map.insert entry.1 entry.2) map

theorem exists_last {declared : List (String × β)} {name : String}
    (hname : name ∈ declared.map Prod.fst) :
    ∃ earlier value later, declared = earlier ++ (name, value) :: later ∧
      name ∉ later.map Prod.fst := by
  induction declared with
  | nil => cases hname
  | cons head tail ih =>
      by_cases htail : name ∈ tail.map Prod.fst
      · obtain ⟨earlier, value, later, rfl, hlater⟩ := ih htail
        exact ⟨head :: earlier, value, later, rfl, hlater⟩
      · rcases List.mem_cons.mp hname with rfl | hmem
        · exact ⟨[], head.2, tail, rfl, htail⟩
        · exact absurd hmem htail

section

variable [Inhabited β]

theorem insertAll_nil_eq (declared : List (String × β)) :
    insertAll [] declared =
      (declared.map Prod.fst).eraseDups.map fun name =>
        (name, (valuesOf name declared).foldl (fun _ value => value) default) :=
  collect_eq default (fun _ value => value) declared

/-- A map filled entry by entry holds those that no later entry replaces. -/
theorem mem_insertAll_nil_iff {declared : List (String × β)} {name : String} {value : β} :
    (name, value) ∈ insertAll [] declared ↔
      ∃ earlier later, declared = earlier ++ (name, value) :: later ∧
        name ∉ later.map Prod.fst := by
  have hlast : ∀ {earlier later : List (String × β)} {last : β}, name ∉ later.map Prod.fst →
      (valuesOf name (earlier ++ (name, last) :: later)).foldl (fun _ value => value) default =
        last := by
    intro earlier later last hlater
    rw [← List.singleton_append, valuesOf_append, valuesOf_append, valuesOf_of_not_mem hlater,
      valuesOf_singleton, if_pos rfl, List.append_nil, List.foldl_concat]
  rw [insertAll_nil_eq, List.mem_map]
  constructor
  · rintro ⟨key, hkey, heq⟩
    obtain ⟨rfl, hvalue⟩ := Prod.mk.inj heq
    obtain ⟨earlier, last, later, rfl, hlater⟩ := exists_last (List.mem_eraseDups.mp hkey)
    rw [hlast hlater] at hvalue
    exact ⟨earlier, later, by rw [hvalue], hlater⟩
  · rintro ⟨earlier, later, rfl, hlater⟩
    refine ⟨name, List.mem_eraseDups.mpr ?_, by rw [hlast hlater]⟩
    simp

end

theorem keys_insertAll_nil (entries : List (String × β)) :
    (insertAll [] entries).keys = (entries.map Prod.fst).eraseDups := by
  cases entries with
  | nil => rfl
  | cons entry rest =>
      have : Inhabited β := ⟨entry.2⟩
      rw [insertAll_nil_eq, keys, List.map_map]
      exact List.map_id _

theorem find?_insertAll_of_not_mem {map : OrderedMap β} {entries : List (String × β)} {key : String}
    (hkey : key ∉ entries.map Prod.fst) : (insertAll map entries).find? key = map.find? key := by
  induction entries generalizing map with
  | nil => rfl
  | cons entry rest ih =>
      obtain ⟨hne, hrest⟩ := List.ne_and_not_mem_of_not_mem_cons hkey
      exact (ih hrest).trans ((find?_insert _ _ _ _).trans (if_neg hne.symm))

/-- The last entry under a key decides. -/
theorem find?_insertAll_of_last {map : OrderedMap β} {before after : List (String × β)}
    {key : String} {value : β} (hkey : key ∉ after.map Prod.fst) :
    (insertAll map (before ++ (key, value) :: after)).find? key = some value := by
  have hrun : insertAll map (before ++ (key, value) :: after) =
      insertAll ((insertAll map before).insert key value) after := by
    simp [insertAll]
  rw [hrun, find?_insertAll_of_not_mem hkey, find?_insert, if_pos rfl]

end OrderedMap

end ClientPlan
