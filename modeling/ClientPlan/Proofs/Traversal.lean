import Mathlib.Data.List.Forall2

/-! # Traversals that can fail

A traversal of a list succeeds exactly when every step does, and then its outcomes stand in the
places of its inputs. Otherwise it fails as the first step that does.
-/

namespace ClientPlan

variable {α β ε : Type}

theorem mapM_eq_some_map {f : α → Option β} {g : α → β} {xs : List α}
    (hstep : ∀ x ∈ xs, f x = some (g x)) : xs.mapM f = some (xs.map g) := by
  induction xs with
  | nil => rfl
  | cons x xs ih =>
      obtain ⟨hx, hxs⟩ := List.forall_mem_cons.mp hstep
      rw [List.mapM_cons, hx, ih hxs]
      rfl

theorem mapM_eq_some_iff {f : α → Option β} {xs : List α} {ys : List β} :
    xs.mapM f = some ys ↔ List.Forall₂ (fun x y => f x = some y) xs ys := by
  induction xs generalizing ys with
  | nil =>
      rw [List.forall₂_nil_left_iff]
      exact ⟨fun heq => (Option.some.inj heq).symm, fun heq => heq ▸ rfl⟩
  | cons x xs ih =>
      simp only [List.mapM_cons, List.forall₂_cons_left_iff, ← ih]
      cases f x with
      | none => simp
      | some y => cases xs.mapM f <;> simp [eq_comm]

theorem mapM_eq_none_iff {f : α → Option β} {xs : List α} :
    xs.mapM f = none ↔ ∃ x ∈ xs, f x = none := by
  induction xs with
  | nil => simp
  | cons x xs ih =>
      simp only [List.mapM_cons, List.mem_cons, exists_eq_or_imp, ← ih]
      cases f x with
      | none => simp
      | some y => cases xs.mapM f <;> simp

theorem bind_eq_ok_iff {x : Except ε α} {f : α → Except ε β} {value : β} :
    x >>= f = .ok value ↔ ∃ a, x = .ok a ∧ f a = .ok value := by
  cases x with
  | error e => simp [bind, Except.bind]
  | ok a => simp [bind, Except.bind]

theorem map_eq_ok_iff {x : Except ε α} {f : α → β} {value : β} :
    x.map f = .ok value ↔ ∃ a, x = .ok a ∧ f a = value := by
  cases x with
  | error e => simp [Except.map]
  | ok a => simp [Except.map]

variable {f : α → Except ε β}

theorem mapM_cons_eq_ok_iff {x : α} {xs : List α} {ys : List β} :
    (x :: xs).mapM f = .ok ys ↔ ∃ y rest, f x = .ok y ∧ xs.mapM f = .ok rest ∧ ys = y :: rest := by
  rw [List.mapM_cons]
  cases hhead : f x with
  | error e => simp [bind, Except.bind]
  | ok y =>
      cases htail : xs.mapM f with
      | error e => simp [bind, Except.bind]
      | ok rest =>
          simp only [bind, Except.bind, pure, Except.pure, Except.ok.injEq]
          constructor
          · intro heq
            exact ⟨y, rest, rfl, rfl, heq.symm⟩
          · rintro ⟨_, _, rfl, rfl, rfl⟩
            rfl

theorem mapM_eq_ok_iff_forall₂ {xs : List α} {ys : List β} :
    xs.mapM f = .ok ys ↔ List.Forall₂ (fun x y => f x = .ok y) xs ys := by
  induction xs generalizing ys with
  | nil => simp [pure, Except.pure, eq_comm]
  | cons x xs ih =>
      rw [mapM_cons_eq_ok_iff, List.forall₂_cons_left_iff]
      constructor
      · rintro ⟨y, rest, hy, hrest, rfl⟩
        exact ⟨y, rest, hy, ih.mp hrest, rfl⟩
      · rintro ⟨y, rest, hy, hrest, rfl⟩
        exact ⟨y, rest, hy, ih.mpr hrest, rfl⟩

theorem mapM_eq_findSome? {bad : α → Option ε} {g : α → β} {xs : List α}
    (hstep : ∀ x ∈ xs, f x = (bad x).elim (.ok (g x)) .error) :
    xs.mapM f = (xs.findSome? bad).elim (.ok (xs.map g)) .error := by
  induction xs with
  | nil => rfl
  | cons x xs ih =>
      obtain ⟨hx, hxs⟩ := List.forall_mem_cons.mp hstep
      rw [List.mapM_cons, hx, ih hxs, List.findSome?_cons]
      cases bad x with
      | some e => rfl
      | none => cases xs.findSome? bad <;> rfl

/-- Where a step succeeds on the good inputs only and then has one known outcome, so has the
traversal. -/
theorem mapM_eq_ok_iff {good : α → Prop} {g : α → β}
    (hstep : ∀ x y, f x = .ok y ↔ good x ∧ y = g x) {xs : List α} {ys : List β} :
    xs.mapM f = .ok ys ↔ (∀ x ∈ xs, good x) ∧ ys = xs.map g := by
  induction xs generalizing ys with
  | nil => simp [pure, Except.pure, eq_comm]
  | cons x xs ih =>
      rw [mapM_cons_eq_ok_iff, List.forall_mem_cons, List.map_cons]
      constructor
      · rintro ⟨y, rest, hy, hrest, rfl⟩
        obtain ⟨hgood, rfl⟩ := (hstep x y).mp hy
        obtain ⟨hall, rfl⟩ := ih.mp hrest
        exact ⟨⟨hgood, hall⟩, rfl⟩
      · rintro ⟨⟨hgood, hall⟩, rfl⟩
        exact ⟨g x, xs.map g, (hstep x _).mpr ⟨hgood, rfl⟩, ih.mpr ⟨hall, rfl⟩, rfl⟩

/-! ## Lists in step -/

section

variable {related : α → β → Prop} {xs : List α} {ys : List β}

theorem map_eq_map_of_forall₂ {γ : Type} {f : α → γ} {g : β → γ}
    (hrelated : List.Forall₂ related xs ys)
    (heq : ∀ x ∈ xs, ∀ y, related x y → g y = f x) : ys.map g = xs.map f := by
  induction hrelated with
  | nil => rfl
  | cons hhead _ ih =>
      obtain ⟨hfirst, hrest⟩ := List.forall_mem_cons.mp heq
      rw [List.map_cons, List.map_cons, hfirst _ hhead, ih hrest]

theorem exists_mem_right_of_forall₂ (hrelated : List.Forall₂ related xs ys) {x : α} (hx : x ∈ xs) :
    ∃ y ∈ ys, related x y := by
  induction hrelated with
  | nil => cases hx
  | cons hhead _ ih =>
      rcases List.mem_cons.mp hx with rfl | hx
      · exact ⟨_, List.mem_cons_self, hhead⟩
      · obtain ⟨y, hy, hxy⟩ := ih hx
        exact ⟨y, List.mem_cons_of_mem _ hy, hxy⟩

theorem exists_mem_left_of_forall₂ (hrelated : List.Forall₂ related xs ys) {y : β} (hy : y ∈ ys) :
    ∃ x ∈ xs, related x y :=
  exists_mem_right_of_forall₂ hrelated.flip hy

theorem exists_split_of_forall₂ {before after : List α} {x : α}
    (hall : List.Forall₂ related (before ++ x :: after) ys) :
    ∃ earlier y later, ys = earlier ++ y :: later ∧ List.Forall₂ related before earlier ∧
      related x y ∧ List.Forall₂ related after later := by
  induction before generalizing ys with
  | nil =>
      obtain ⟨y, later, hy, hlater, rfl⟩ := List.forall₂_cons_left_iff.mp hall
      exact ⟨[], y, later, rfl, .nil, hy, hlater⟩
  | cons head before ih =>
      obtain ⟨z, rest, hz, hrest, rfl⟩ := List.forall₂_cons_left_iff.mp hall
      obtain ⟨earlier, y, later, rfl, hearlier, hy, hlater⟩ := ih hrest
      exact ⟨z :: earlier, y, later, rfl, .cons hz hearlier, hy, hlater⟩

/-- An element can be replaced by one that is related to whatever it was related to. -/
theorem forall₂_of_replaced {x replacement : α}
    (hx : ∀ y, related x y → related replacement y) {before after : List α}
    (hall : List.Forall₂ related (before ++ x :: after) ys) :
    List.Forall₂ related (before ++ replacement :: after) ys := by
  obtain ⟨earlier, y, later, rfl, hearlier, hy, hlater⟩ := exists_split_of_forall₂ hall
  exact List.rel_append hearlier (.cons (hx y hy) hlater)

end

end ClientPlan
