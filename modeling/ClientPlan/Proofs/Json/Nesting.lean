import ClientPlan.Proofs.Traversal
import ClientPlan.Source.Reading

/-! # How deeply a JSON value nests

A JSON value as a node has no aliases, no tags and no scalars whose type is open, and all its lists
and objects are closed. Settling such a node changes nothing, as long as it nests to the limit and
no further.
-/

namespace ClientPlan

namespace Json

/-- A list or an object. -/
def IsContainer : Json → Prop
  | array _ => True
  | object _ => True
  | _ => False

mutual

/-- How many lists and objects stand inside each other at most. -/
def nesting : Json → Nat
  | array items => nestingOfItems items + 1
  | object members => nestingOfMembers members + 1
  | null => 0
  | bool _ => 0
  | number _ => 0
  | string _ => 0

/-- The deepest nesting of the items of a list. -/
def nestingOfItems : List Json → Nat
  | [] => 0
  | item :: rest => max (nesting item) (nestingOfItems rest)

/-- The deepest nesting of the values of an object. -/
def nestingOfMembers : List (String × Json) → Nat
  | [] => 0
  | (_, value) :: rest => max (nesting value) (nestingOfMembers rest)

end

theorem nestingOfItems_le_iff {items : List Json} {depth : Nat} :
    nestingOfItems items ≤ depth ↔ ∀ item ∈ items, item.nesting ≤ depth := by
  induction items with
  | nil => simp [nestingOfItems]
  | cons item rest ih => rw [nestingOfItems, Nat.max_le, List.forall_mem_cons, ih]

theorem nestingOfMembers_le_iff {members : List (String × Json)} {depth : Nat} :
    nestingOfMembers members ≤ depth ↔ ∀ member ∈ members, member.2.nesting ≤ depth := by
  induction members with
  | nil => simp [nestingOfMembers]
  | cons member rest ih => rw [nestingOfMembers, Nat.max_le, List.forall_mem_cons, ih]

theorem nestingOfItems_append (first second : List Json) :
    nestingOfItems (first ++ second) = max (nestingOfItems first) (nestingOfItems second) := by
  induction first with
  | nil => rw [List.nil_append, nestingOfItems, Nat.zero_max]
  | cons item rest ih => rw [List.cons_append, nestingOfItems, nestingOfItems, ih, Nat.max_assoc]

theorem nestingOfMembers_append (first second : List (String × Json)) :
    nestingOfMembers (first ++ second) =
      max (nestingOfMembers first) (nestingOfMembers second) := by
  induction first with
  | nil => rw [List.nil_append, nestingOfMembers, Nat.zero_max]
  | cons member rest ih =>
      rw [List.cons_append, nestingOfMembers, nestingOfMembers, ih, Nat.max_assoc]

theorem nestingOfMembers_perm {members others : List (String × Json)}
    (hperm : members.Perm others) : nestingOfMembers members = nestingOfMembers others :=
  Nat.le_antisymm
    (nestingOfMembers_le_iff.mpr fun _ hmember =>
      nestingOfMembers_le_iff.mp (Nat.le_refl _) _ (hperm.mem_iff.mp hmember))
    (nestingOfMembers_le_iff.mpr fun _ hmember =>
      nestingOfMembers_le_iff.mp (Nat.le_refl _) _ (hperm.mem_iff.mpr hmember))

theorem nesting_array_le_iff {items : List Json} {depth : Nat} :
    (array items).nesting ≤ depth ↔ depth ≠ 0 ∧ ∀ item ∈ items, item.nesting ≤ depth - 1 := by
  rw [nesting, ← nestingOfItems_le_iff]
  omega

theorem nesting_object_le_iff {members : List (String × Json)} {depth : Nat} :
    (object members).nesting ≤ depth ↔
      depth ≠ 0 ∧ ∀ member ∈ members, member.2.nesting ≤ depth - 1 := by
  rw [nesting, ← nestingOfMembers_le_iff]
  omega

end Json

namespace Source

open Json

theorem Node.ofItems_eq_map (items : List Json) : Node.ofItems items = items.map Node.ofJson := by
  induction items with
  | nil => rfl
  | cons item rest ih => rw [Node.ofItems, ih, List.map_cons]

theorem Node.ofMembers_eq_map (members : List (String × Json)) :
    Node.ofMembers members = members.map fun member => (.text member.1, .ofJson member.2) := by
  induction members with
  | nil => rfl
  | cons member rest ih => rw [Node.ofMembers, ih, List.map_cons]

section

variable (context : Context) (depth : Nat)

theorem settle_list (items : List Node) :
    settle context (depth + 1) (.list items true) =
      (items.mapM (settle context depth)).map fun items => .list items true := by
  have hrun : settle context (depth + 1) (.list items true) =
      (items.mapM (settle context depth)).bind fun items => .ok (.list items true) := rfl
  rw [hrun]
  cases items.mapM (settle context depth) <;> rfl

/-- A member with its key and its value settled. -/
def settleMember (member : Node × Node) : Except Problem (Node × Node) := do
  let key ← settle context depth member.1
  let value ← settle context depth member.2
  return (key, value)

theorem settle_mapping (members : List (Node × Node)) :
    settle context (depth + 1) (.mapping members true) =
      (members.mapM (settleMember context depth)).map fun members => .mapping members true := by
  have hrun : settle context (depth + 1) (.mapping members true) =
      (members.mapM (settleMember context depth)).bind
        fun members => .ok (.mapping members true) := rfl
  rw [hrun]
  cases members.mapM (settleMember context depth) <;> rfl

theorem settle_ofJson_of_leaf {json : Json} (hjson : ¬ json.IsContainer) :
    settle context depth (.ofJson json) = .ok (.ofJson json) := by
  cases json with
  | array items => exact absurd trivial hjson
  | object members => exact absurd trivial hjson
  | _ => cases depth <;> rfl

end

theorem settleMember_text_eq_ok_iff {context : Context} {depth : Nat} {name : String}
    {node : Node} {member : Node × Node} :
    settleMember context depth (.text name, node) = .ok member ↔
      ∃ value, settle context depth node = .ok value ∧ (.text name, value) = member := by
  have hname : settle context depth (.text name) = .ok (.text name) :=
    @settle_ofJson_of_leaf context depth (.string name) id
  have hrun : settleMember context depth (.text name, node) =
      settle context depth (.text name) >>= fun key =>
        settle context depth node >>= fun value => .ok (key, value) := rfl
  rw [hrun, hname]
  simp only [bind_eq_ok_iff, Except.ok.injEq, exists_eq_left']

/-- A JSON value is settled if it nests to the limit and no further, and then as it is. -/
theorem settle_ofJson_eq_ok_iff {context : Context} {depth : Nat} {json : Json} {node : Node} :
    settle context depth (.ofJson json) = .ok node ↔
      json.nesting ≤ depth ∧ .ofJson json = node := by
  induction depth generalizing json node with
  | zero =>
      cases json with
      | array items =>
          exact ⟨nofun, fun hnode => absurd rfl (nesting_array_le_iff.mp hnode.1).1⟩
      | object members =>
          exact ⟨nofun, fun hnode => absurd rfl (nesting_object_le_iff.mp hnode.1).1⟩
      | _ =>
          rw [settle_ofJson_of_leaf context 0 id]
          simp [nesting]
  | succ depth ih =>
      cases json with
      | array items =>
          have hitem : ∀ (item : Json) (settled : Node),
              settle context depth (.ofJson item) = .ok settled ↔
                item.nesting ≤ depth ∧ settled = .ofJson item := by
            intro item settled
            rw [ih, eq_comm]
          rw [Node.ofJson, Node.ofItems_eq_map, settle_list, map_eq_ok_iff, List.mapM_map]
          simp [Function.comp_def, mapM_eq_ok_iff hitem, nesting_array_le_iff]
      | object members =>
          have hmember : ∀ (member : String × Json) (settled : Node × Node),
              settleMember context depth (.text member.1, .ofJson member.2) = .ok settled ↔
                member.2.nesting ≤ depth ∧ settled = (.text member.1, .ofJson member.2) := by
            intro member settled
            rw [settleMember_text_eq_ok_iff, @eq_comm _ settled]
            simp [ih, and_assoc]
          rw [Node.ofJson, Node.ofMembers_eq_map, settle_mapping, map_eq_ok_iff, List.mapM_map]
          simp [Function.comp_def, mapM_eq_ok_iff hmember, nesting_object_le_iff]
      | _ =>
          rw [settle_ofJson_of_leaf context (depth + 1) id]
          simp [nesting]

end Source

end ClientPlan
