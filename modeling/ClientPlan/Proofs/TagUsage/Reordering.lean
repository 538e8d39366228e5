import ClientPlan.Name.Slug
import ClientPlan.Proofs.Artifact

/-! # Reordered steps

The usage of a tag and the files that are left out do not depend on the order in which operations are
recorded. Only the order of the tags does: they come as they are first seen.
-/

namespace ClientPlan

open Client

/-- Entries come in the order in which they are first seen. -/
theorem pairwise_idxOf_eraseDups (xs : List String) :
    xs.eraseDups.Pairwise fun first second => xs.idxOf first < xs.idxOf second := by
  induction xs using List.reverseRecOn with
  | nil => exact List.Pairwise.nil
  | append_singleton xs x ih =>
      have hkept : xs.eraseDups.Pairwise fun first second =>
          (xs ++ [x]).idxOf first < (xs ++ [x]).idxOf second := by
        refine ih.imp_of_mem fun hfirst hsecond hlt => ?_
        rwa [List.idxOf_append_of_mem (List.mem_eraseDups.mp hfirst),
          List.idxOf_append_of_mem (List.mem_eraseDups.mp hsecond)]
      rw [eraseDups_append_singleton]
      split
      next => exact hkept
      next hnew =>
        refine List.pairwise_append.mpr ⟨hkept, List.pairwise_singleton _ _, ?_⟩
        intro first hfirst second hsecond
        have hmem := List.mem_eraseDups.mp hfirst
        rw [List.mem_singleton.mp hsecond, List.idxOf_append_of_mem hmem,
          List.idxOf_append_of_notMem hnew]
        exact Nat.lt_add_right _ (List.idxOf_lt_length_of_mem hmem)

/-- Sorted paths are known by what they are. -/
theorem SkipSet.eq_of_mem_iff {first second : SkipSet} (hfirst : first.Pairwise (· < ·))
    (hsecond : second.Pairwise (· < ·)) (hmem : ∀ path, path ∈ first ↔ path ∈ second) :
    first = second := by
  have hperm : first.Perm second :=
    (List.perm_ext_iff_of_nodup (hfirst.imp String.ne_of_lt) (hsecond.imp String.ne_of_lt)).mpr hmem
  exact hperm.eq_of_pairwise (fun _ _ _ _ hlt hgt => absurd hgt (String.lt_asymm hlt)) hfirst hsecond

namespace TagUsage

/-! ## Usage under some steps -/

/-- The usage of a tag under some steps. -/
def usageIn (steps : List (String × Kind)) (tag : String) : Usage where
  hasRetrieval := (tag, .retrieval) ∈ steps
  hasMutation := (tag, .mutation) ∈ steps

theorem ofKinds_valuesOf (tag : String) (steps : List (String × Kind)) :
    Usage.ofKinds (OrderedMap.valuesOf tag steps) = usageIn steps tag := by
  simp [Usage.ofKinds, usageIn, OrderedMap.valuesOf]

theorem ofSteps_eq_usageIn (steps : List (String × Kind)) :
    ofSteps steps = (steps.map Prod.fst).eraseDups.map fun tag => (tag, usageIn steps tag) := by
  simp only [ofSteps_eq, ofKinds_valuesOf]

theorem keys_ofSteps (steps : List (String × Kind)) :
    (ofSteps steps).keys = (steps.map Prod.fst).eraseDups := by
  rw [ofSteps_eq_usageIn, OrderedMap.keys, List.map_map]
  exact List.map_id _

theorem find?_ofSteps (steps : List (String × Kind)) (tag : String) :
    (ofSteps steps).find? tag =
      if tag ∈ steps.map Prod.fst then some (usageIn steps tag) else none := by
  rw [ofSteps_eq_usageIn, OrderedMap.find?_map]
  simp only [List.mem_eraseDups]

/-! ## The same steps in another order -/

section

variable {steps others : List (String × Kind)} (hperm : others.Perm steps)

include hperm

theorem mem_tags_of_perm {tag : String} :
    tag ∈ others.map Prod.fst ↔ tag ∈ steps.map Prod.fst :=
  (hperm.map Prod.fst).mem_iff

theorem usageIn_of_perm (tag : String) : usageIn others tag = usageIn steps tag := by
  simp only [usageIn, hperm.mem_iff]

theorem find?_ofSteps_of_perm (tag : String) :
    (ofSteps others).find? tag = (ofSteps steps).find? tag := by
  rw [find?_ofSteps, find?_ofSteps, usageIn_of_perm hperm]
  simp only [mem_tags_of_perm hperm]

theorem ofSteps_perm : (ofSteps others).Perm (ofSteps steps) := by
  have htags : (others.map Prod.fst).eraseDups.Perm (steps.map Prod.fst).eraseDups := by
    rw [List.perm_ext_iff_of_nodup (nodup_eraseDups _) (nodup_eraseDups _)]
    simp only [List.mem_eraseDups, mem_tags_of_perm hperm, implies_true]
  simp only [ofSteps_eq_usageIn, usageIn_of_perm hperm]
  exact htags.map _

theorem ofUsage_of_perm (options : Options) (stem : String → String) :
    SkipSet.ofUsage (ofSteps others) options stem =
      SkipSet.ofUsage (ofSteps steps) options stem := by
  refine SkipSet.eq_of_mem_iff (SkipSet.sorted_ofUsage _ options stem)
    (SkipSet.sorted_ofUsage _ options stem) fun path => ?_
  simp only [SkipSet.mem_ofUsage, (ofSteps_perm hperm).mem_iff]

end

/-- Each recorded tag has the kinds that are recorded under it, and comes as it is first seen. The
same steps in another order give the same tags with the same usage, and leave out the same files,
whatever the stems of tags are. -/
theorem steps_reordered (steps : List (String × Kind)) :
    (∀ tag, (ofSteps steps).find? tag =
        if tag ∈ steps.map Prod.fst then
          some { hasRetrieval := (tag, .retrieval) ∈ steps
                 hasMutation := (tag, .mutation) ∈ steps }
        else none) ∧
      (∀ tag, tag ∈ (ofSteps steps).keys ↔ tag ∈ steps.map Prod.fst) ∧
      ((ofSteps steps).keys.Pairwise fun first second =>
        (steps.map Prod.fst).idxOf first < (steps.map Prod.fst).idxOf second) ∧
      ∀ others, others.Perm steps →
        (ofSteps others).Perm (ofSteps steps) ∧
          (∀ tag, (ofSteps others).find? tag = (ofSteps steps).find? tag) ∧
          ∀ options stem, SkipSet.ofUsage (ofSteps others) options stem =
            SkipSet.ofUsage (ofSteps steps) options stem := by
  refine ⟨find?_ofSteps steps, fun tag => ?_, ?_, fun others hperm => ?_⟩
  · rw [keys_ofSteps, List.mem_eraseDups]
  · rw [keys_ofSteps]
    exact pairwise_idxOf_eraseDups _
  · exact ⟨ofSteps_perm hperm, find?_ofSteps_of_perm hperm, ofUsage_of_perm hperm⟩

/-- Tags in another order, two of which share the stem of their files. -/
theorem steps_reordered_sharedStem :
    let steps : List (String × Kind) :=
      [("API", .retrieval), ("Stock", .mutation), ("Api", .mutation), ("Stock", .retrieval)]
    let others := steps.reverse
    others.Perm steps ∧ (ofSteps others).keys = ["Stock", "Api", "API"] ∧
      (ofSteps others).find? "Stock" = some { hasRetrieval := true, hasMutation := true } ∧
      SkipSet.ofUsage (ofSteps others) {} Name.slug =
        SkipSet.ofUsage (ofSteps steps) {} Name.slug := by
  intro steps others
  have hperm : others.Perm steps := List.reverse_perm steps
  obtain ⟨hfind, -, -, hsame⟩ := steps_reordered steps
  obtain ⟨-, hfound, hskipped⟩ := hsame others hperm
  exact ⟨hperm, by decide, (hfound "Stock").trans (hfind "Stock"), hskipped {} Name.slug⟩

end TagUsage

end ClientPlan
