import ClientPlan.Outline.Operations

/-! # Merged parameters

The parameters of an operation are those that its path shares and it does not declare again, and
then its own, each as it is declared last. They are sent in four places, and each of them in one.
-/

namespace ClientPlan.Outline

open OpenApi

/-- What tells parameters apart: the name, and the place that is meant. -/
def key (param : Parameter) : String × Client.Location :=
  (param.name, .ofWord param.location)

/-- The parameters that are not declared again behind their place. -/
def lastDeclared : List Parameter → List Parameter
  | [] => []
  | param :: later =>
      if ∃ other ∈ later, key other = key param then lastDeclared later
      else param :: lastDeclared later

theorem sameParameter_parameter (document : Document) (param : Client.Parameter)
    (other : Parameter) :
    sameParameter param (parameter document other) = true ↔
      key other = (param.rawName, param.location) := by
  rw [sameParameter, Bool.and_eq_true, beq_iff_eq, beq_iff_eq, key, Prod.mk.injEq]
  exact and_congr eq_comm eq_comm

theorem replaceParameter_parameter (document : Document) (params : List Client.Parameter)
    (param : Parameter) :
    replaceParameter params (parameter document param) =
      params.filter (fun other => key param ≠ (other.rawName, other.location)) ++
        [parameter document param] := by
  rw [replaceParameter]
  congr 1
  apply List.filter_congr
  intro other _
  rw [Bool.eq_iff_iff, Bool.not_eq_true', ← Bool.not_eq_true, sameParameter_parameter,
    decide_eq_true_eq]

/-- Parameters put behind others one by one: of the others those remain that none of them
replaces. -/
theorem foldl_replaceParameter (document : Document) (own : List Parameter)
    (others : List Client.Parameter) :
    (own.map (parameter document)).foldl replaceParameter others =
      others.filter (fun other => ∀ param ∈ own, key param ≠ (other.rawName, other.location)) ++
        (lastDeclared own).map (parameter document) := by
  induction own generalizing others with
  | nil =>
      rw [List.filter_eq_self.mpr (by simp)]
      exact (List.append_nil _).symm
  | cons param later ih =>
      rw [List.map_cons, List.foldl_cons, ih, replaceParameter_parameter, List.filter_append,
        List.filter_filter, List.append_assoc]
      congr 1
      · apply List.filter_congr
        intro other _
        rw [← Bool.decide_and, decide_eq_decide, List.forall_mem_cons, and_comm]
      · rw [lastDeclared]
        by_cases hagain : ∃ other ∈ later, key other = key param
        · obtain ⟨other, hother, hkey⟩ := hagain
          rw [if_pos ⟨other, hother, hkey⟩, List.filter_eq_nil_iff.mpr, List.nil_append]
          intro found hfound
          rw [List.mem_singleton.mp hfound, decide_eq_true_eq]
          exact fun hall => hall other hother hkey
        · rw [if_neg hagain, List.filter_eq_self.mpr, List.map_cons, List.singleton_append]
          intro found hfound
          rw [List.mem_singleton.mp hfound, decide_eq_true_eq]
          exact fun other hother hkey => hagain ⟨other, hother, hkey⟩

theorem perm_sentIn (params : List Client.Parameter) :
    (sentIn .path params ++ sentIn .query params ++ sentIn .header params ++
      sentIn .cookie params).Perm params := by
  rw [List.perm_iff_count]
  intro param
  induction params with
  | nil => rfl
  | cons other params ih =>
      simp only [sentIn, List.count_append] at ih ⊢
      cases hplace : other.location <;> simp [hplace, List.count_cons] <;> omega

/-- The parameters of an operation in closed form, and the four lists that share them out. -/
theorem parameters_merged (document : Document) (flavour : Flavour) (path : String)
    (shared : Option (List Parameter)) (method : Client.Method) (op : Operation) :
    let own := op.parameters.getD []
    let kept := (shared.getD []).filter fun param => ∀ other ∈ own, key other ≠ key param
    let merged := parameters document shared op.parameters
    let outlined := operation document flavour path shared method op
    merged = (kept ++ lastDeclared own).map (parameter document) ∧
      outlined.pathParams = merged.filter (fun param => param.location = .path) ∧
      outlined.queryParams = merged.filter (fun param => param.location = .query) ∧
      outlined.headerParams = merged.filter (fun param => param.location = .header) ∧
      outlined.cookieParams = merged.filter (fun param => param.location = .cookie) ∧
      (outlined.pathParams ++ outlined.queryParams ++ outlined.headerParams ++
        outlined.cookieParams).Perm merged := by
  intro own kept merged outlined
  refine ⟨?_, rfl, rfl, rfl, rfl, perm_sentIn merged⟩
  calc merged
      = ((shared.getD []).map (parameter document)).filter
            (fun other => ∀ param ∈ own, key param ≠ (other.rawName, other.location)) ++
          (lastDeclared own).map (parameter document) := foldl_replaceParameter document own _
    _ = (kept ++ lastDeclared own).map (parameter document) := by
        rw [List.filter_map, List.map_append]
        rfl

end ClientPlan.Outline
