import Mathlib.Data.List.Basic
import Mathlib.Data.List.Induction

/-! # Steps that overwrite

A run of steps with labels, in which a step undoes the earlier ones of its own label and commutes with
those of any other. All that counts is the last step of each label.
-/

namespace ClientPlan

variable {α β γ : Type} [DecidableEq γ] {f : α → β → α} {label : β → γ}

/-- The last step of a label. -/
def lastOf? (label : β → γ) (key : γ) (steps : List β) : Option β :=
  (steps.filter fun step => label step = key).getLast?

section

variable (label)

theorem lastOf?_concat (key : γ) (steps : List β) (step : β) :
    lastOf? label key (steps ++ [step]) =
      if label step = key then some step else lastOf? label key steps := by
  by_cases hkey : label step = key <;> simp [lastOf?, hkey]

theorem mem_of_lastOf? {key : γ} {steps : List β} {step : β}
    (hlast : lastOf? label key steps = some step) : step ∈ steps :=
  (List.mem_filter.mp (List.mem_of_getLast? hlast)).1

theorem label_of_lastOf? {key : γ} {steps : List β} {step : β}
    (hlast : lastOf? label key steps = some step) : label step = key := by
  have hmem := List.mem_of_getLast? hlast
  exact of_decide_eq_true (List.mem_filter.mp hmem).2

theorem exists_lastOf? {steps : List β} {step : β} (hstep : step ∈ steps) :
    ∃ last, lastOf? label (label step) steps = some last := by
  have hmem : step ∈ steps.filter fun other => label other = label step :=
    List.mem_filter.mpr ⟨hstep, decide_eq_true rfl⟩
  exact ⟨_, List.getLast?_eq_some_getLast (List.ne_nil_of_mem hmem)⟩

/-- No later step than the last one has its label. -/
theorem exists_append_of_lastOf? {key : γ} {steps : List β} {step : β}
    (hlast : lastOf? label key steps = some step) :
    ∃ earlier later, steps = earlier ++ step :: later ∧ ∀ other ∈ later, label other ≠ key := by
  induction steps using List.reverseRecOn with
  | nil => cases hlast
  | append_singleton steps final ih =>
      rw [lastOf?_concat] at hlast
      split at hlast
      next =>
        obtain rfl := Option.some.inj hlast
        exact ⟨steps, [], rfl, List.forall_mem_nil _⟩
      next hfinal =>
        obtain ⟨earlier, later, rfl, hlater⟩ := ih hlast
        refine ⟨earlier, later ++ [final], by rw [List.append_assoc, List.cons_append], ?_⟩
        exact List.forall_mem_append.mpr ⟨hlater, List.forall_mem_singleton.mpr hfinal⟩

theorem lastOf?_filter_ne (key other : γ) (steps : List β) :
    lastOf? label key (steps.filter fun step => label step ≠ other) =
      if key = other then none else lastOf? label key steps := by
  rw [lastOf?, List.filter_filter]
  by_cases hkey : key = other
  · subst hkey
    simp
  · rw [if_neg hkey, lastOf?]
    congr 1
    refine List.filter_congr fun step _ => ?_
    by_cases hstep : label step = key <;> simp [hstep, hkey]

end

section

variable (hover : ∀ a x y, label x = label y → f (f a x) y = f a y)
  (hcomm : ∀ a x y, label x ≠ label y → f (f a x) y = f (f a y) x)

include hover hcomm

theorem foldl_then (start : α) (steps : List β) (step : β) :
    f (steps.foldl f start) step =
      f ((steps.filter fun other => label other ≠ label step).foldl f start) step := by
  induction steps using List.reverseRecOn with
  | nil => rfl
  | append_singleton steps last ih =>
      rw [List.foldl_concat, List.filter_append]
      by_cases hlast : label last = label step
      · rw [hover _ _ _ hlast, ih]
        simp [hlast]
      · rw [hcomm _ _ _ hlast, ih, hcomm _ _ _ (Ne.symm hlast)]
        simp [hlast]

/-- The last step of a label can be taken at the end, and no other of that label. -/
theorem foldl_of_lastOf? {key : γ} {steps : List β} {step : β}
    (hstep : lastOf? label key steps = some step) (start : α) :
    steps.foldl f start = f ((steps.filter fun other => label other ≠ key).foldl f start) step := by
  induction steps using List.reverseRecOn generalizing step with
  | nil => cases hstep
  | append_singleton steps last ih =>
      rw [lastOf?_concat] at hstep
      split at hstep
      next hlast =>
        obtain rfl := Option.some.inj hstep
        subst hlast
        rw [List.foldl_concat, foldl_then hover hcomm, List.filter_append]
        simp
      next hlast =>
        have hne : label step ≠ label last := by
          rw [label_of_lastOf? label hstep]
          exact Ne.symm hlast
        rw [List.foldl_concat, ih hstep, hcomm _ _ _ hne, List.filter_append]
        simp [hlast]

/-- Runs with the same last step of each label end alike. -/
theorem foldl_congr_lastOf? {steps others : List β}
    (hlast : ∀ key, lastOf? label key steps = lastOf? label key others) (start : α) :
    steps.foldl f start = others.foldl f start := by
  match steps with
  | [] =>
      cases others with
      | nil => rfl
      | cons other rest =>
          obtain ⟨last, hother⟩ := exists_lastOf? label (List.mem_cons_self (a := other) (l := rest))
          rw [← hlast] at hother
          cases hother
  | step :: rest =>
      obtain ⟨last, hstep⟩ := exists_lastOf? label (List.mem_cons_self (a := step) (l := rest))
      have hother : lastOf? label (label step) others = some last := (hlast _).symm.trans hstep
      have hrest : ∀ key,
          lastOf? label key ((step :: rest).filter fun other => label other ≠ label step) =
            lastOf? label key (others.filter fun other => label other ≠ label step) := fun key => by
        rw [lastOf?_filter_ne, lastOf?_filter_ne, hlast]
      rw [foldl_of_lastOf? hover hcomm hstep, foldl_of_lastOf? hover hcomm hother,
        foldl_congr_lastOf? hrest]
termination_by steps.length
decreasing_by simpa using Nat.lt_succ_of_le (List.length_filter_le _ rest)

end

end ClientPlan
