import ClientPlan.Proofs.OrderedMap
import ClientPlan.Proofs.Plan.FreeId

/-! # Groups in closed form

Grouping operations by their tags gathers, for each tag in the order in which tags are first seen,
the operations that carry it. Gathering renames at most: each operation keeps its place and takes
the next form of its id that the group does not hold.
-/

namespace ClientPlan.Plan

open Client Name

/-- The group that operations form when they join it one after the other. -/
def gather (ops : List Operation) : List Operation :=
  ops.foldl (fun group op => group ++ [member group op]) []

theorem gather_append_singleton (ops : List Operation) (op : Operation) :
    gather (ops ++ [op]) = gather ops ++ [member (gather ops) op] := by
  simp [gather]

theorem groupByTag_eq_collect (ops : List Operation) :
    groupByTag ops =
      OrderedMap.collect [] (fun group op => group ++ [member group op])
        (ops.flatMap fun op => op.tags.map fun tag => (tag, op)) := by
  rw [groupByTag, OrderedMap.collect, List.foldl_flatMap]
  simp only [List.foldl_map]
  rfl

/-- Each tag has the operations that carry it, gathered in order. -/
theorem groupByTag_eq {ops : List Operation} (htags : ∀ op ∈ ops, op.tags.Nodup) :
    groupByTag ops =
      (ops.flatMap Operation.tags).eraseDups.map
        fun tag => (tag, gather (ops.filter fun op => tag ∈ op.tags)) := by
  rw [groupByTag_eq_collect, OrderedMap.collect_eq,
    OrderedMap.keys_flatMap Operation.tags fun op => op]
  refine List.map_congr_left fun tag _ => ?_
  rw [OrderedMap.valuesOf_flatMap Operation.tags (fun op => op) htags, List.map_id', gather]

/-! ## One more member -/

@[simp] theorem member_method (group : List Operation) (op : Operation) :
    (member group op).method = op.method := by
  unfold member
  split <;> rfl

@[simp] theorem member_kind (group : List Operation) (op : Operation) :
    (member group op).kind = op.kind := by
  rw [Operation.kind, member_method, Operation.kind]

/-- A projection that joining a group preserves is preserved by gathering. -/
theorem map_gather {α : Type} {g : Operation → α} (hg : ∀ group op, g (member group op) = g op)
    (ops : List Operation) : (gather ops).map g = ops.map g := by
  induction ops using List.reverseRecOn with
  | nil => rfl
  | append_singleton ops op ih =>
      rw [gather_append_singleton, List.map_append, List.map_append, ih, List.map_singleton, hg,
        List.map_singleton]

theorem length_gather (ops : List Operation) : (gather ops).length = ops.length := by
  have hmap := congrArg List.length (map_gather member_method ops)
  rwa [List.length_map, List.length_map] at hmap

theorem member_of_not_mem {group : List Operation} {op : Operation}
    (hop : op.operationId ∉ ids group) : member group op = op := by
  rw [member, if_neg (by simpa using hop)]

theorem member_of_mem {group : List Operation} {op : Operation}
    (hop : op.operationId ∈ ids group) :
    member group op = renamed op (freeId (ids group) op.operationId) := by
  rw [member, if_pos (by simpa using hop)]

/-- An operation joins a group under an id that the group does not hold. -/
theorem member_fresh (group : List Operation) (op : Operation) :
    (member group op).operationId ∉ ids group := by
  by_cases hop : op.operationId ∈ ids group
  · obtain ⟨n, _, heq, hfree, _⟩ := freeId_spec (ids group) op.operationId
    rw [member_of_mem hop, heq]
    exact hfree
  · rw [member_of_not_mem hop]
    exact hop

theorem ids_append (first second : List Operation) :
    ids (first ++ second) = ids first ++ ids second := List.map_append

theorem nodup_ids_gather (ops : List Operation) : (ids (gather ops)).Nodup := by
  induction ops using List.reverseRecOn with
  | nil => exact List.nodup_nil
  | append_singleton ops op ih =>
      rw [gather_append_singleton, ids_append]
      refine List.nodup_append.mpr ⟨ih, List.nodup_singleton _, ?_⟩
      rintro id hid _ hnew rfl
      rw [ids, List.map_singleton, List.mem_singleton] at hnew
      exact member_fresh (gather ops) op (hnew ▸ hid)

/-! ## Members of a group of ids in normal form -/

/-- The operation under one of the forms of its id. -/
def settled (op : Operation) : Nat → Operation
  | 0 => op
  | later + 1 => renamed op (counted op.operationId later)

theorem settled_operationId (op : Operation) (n : Nat) :
    (settled op n).operationId = numbered op.operationId n := by
  cases n <;> rfl

/-- Where ids in normal form have been met, a group holds the first forms of each, as many as the
id has been met. -/
def Settles (met : List String) (group : List Operation) : Prop :=
  ∀ id : String, IsNormalId id.toList → ∀ n, numbered id n ∈ ids group ↔ n < met.count id

theorem settles_nil : Settles [] [] := by
  intro id _ n
  simp [ids]

section

variable {met : List String} {group : List Operation} (hgroup : Settles met group)
  {op : Operation} (hop : IsNormalId op.operationId.toList)

include hgroup hop

/-- In a settled group the least free counter is the number of namesakes. -/
theorem freeId_of_settles {later : Nat} (hcount : met.count op.operationId = later + 1) :
    freeId (ids group) op.operationId = counted op.operationId later := by
  obtain ⟨n, _, heq, hfree, hleast⟩ := freeId_spec (ids group) op.operationId
  -- The invariant, one form further on: the id itself is the first of the forms that are taken.
  have hmem : ∀ m, counted op.operationId m ∈ ids group ↔ m < later := by
    intro m
    have hm := hgroup op.operationId hop (m + 1)
    rw [numbered] at hm
    rw [hm, hcount, Nat.add_lt_add_iff_right]
  have hle : later ≤ n := Nat.le_of_not_lt fun hlt => hfree ((hmem n).mpr hlt)
  have hge : n ≤ later := Nat.le_of_not_lt fun hlt =>
    Nat.lt_irrefl later ((hmem later).mp (hleast later hlt))
  rw [heq, Nat.le_antisymm hge hle]

theorem member_of_settles :
    member group op = settled op (met.count op.operationId) := by
  have hself := hgroup op.operationId hop 0
  rw [numbered] at hself
  cases hcount : met.count op.operationId with
  | zero =>
      rw [hcount] at hself
      exact member_of_not_mem fun hmem => Nat.lt_irrefl 0 (hself.mp hmem)
  | succ later =>
      have hmem := hself.mpr (by omega)
      rw [member_of_mem hmem, freeId_of_settles hgroup hop hcount, settled]

theorem Settles.append_member :
    Settles (met ++ [op.operationId]) (group ++ [member group op]) := by
  intro id hid n
  rw [ids_append, List.mem_append, hgroup id hid n, ids, List.map_singleton, List.mem_singleton,
    member_of_settles hgroup hop, settled_operationId, List.count_append, List.count_singleton]
  -- The new member takes the next form of its own id, and no form of another one.
  by_cases heq : op.operationId = id
  · subst heq
    have hform : numbered op.operationId n =
        numbered op.operationId (met.count op.operationId) ↔ n = met.count op.operationId :=
      ⟨fun h => (numbered_inj hop hop h).2, fun h => by rw [h]⟩
    rw [hform, beq_self_eq_true, if_pos rfl]
    omega
  · have hform : ¬ numbered id n = numbered op.operationId (met.count op.operationId) :=
      fun h => heq (numbered_inj hid hop h).1.symm
    simp [hform, heq]

end

section

variable {ops : List Operation}

theorem settles_gather (hops : ∀ op ∈ ops, IsNormalId op.operationId.toList) :
    Settles (ids ops) (gather ops) := by
  induction ops using List.reverseRecOn with
  | nil => exact settles_nil
  | append_singleton ops op ih =>
      rw [ids_append, gather_append_singleton]
      have hbefore := ih fun other hother => hops other (List.mem_append_left _ hother)
      exact hbefore.append_member (hops op List.mem_concat_self)

/-- The operation at a place takes the form of its id that counts its namesakes before that
place. -/
theorem getElem?_gather (hops : ∀ op ∈ ops, IsNormalId op.operationId.toList) (n : Nat) :
    (gather ops)[n]? =
      ops[n]?.map fun op => settled op ((ids (ops.take n)).count op.operationId) := by
  induction ops using List.reverseRecOn with
  | nil => rfl
  | append_singleton ops op ih =>
      have hbefore : ∀ other ∈ ops, IsNormalId other.operationId.toList :=
        fun other hother => hops other (List.mem_append_left _ hother)
      rw [gather_append_singleton]
      -- Places before the last keep their members; there is nothing behind it.
      rcases Nat.lt_trichotomy n ops.length with hlt | rfl | hgt
      · rw [List.getElem?_append_left (by rw [length_gather]; exact hlt), ih hbefore,
          List.getElem?_append_left hlt, List.take_append_of_le_length hlt.le]
      · have hmember := member_of_settles (settles_gather hbefore) (hops op List.mem_concat_self)
        rw [← length_gather ops, List.getElem?_concat_length, length_gather,
          List.getElem?_concat_length, List.take_left, hmember, Option.map_some]
      · rw [List.getElem?_eq_none (by simp [length_gather]; omega),
          List.getElem?_eq_none (by simp; omega), Option.map_none]

end

end ClientPlan.Plan
