import Mathlib.Data.List.Forall2
import ClientPlan.Proofs.PathTemplate
import ClientPlan.Proofs.PathTemplate.Factors

/-! # Dialects of path templates

The dialects name the same parameters in the same places, and differ only in the variable that
stands for a number.
-/

namespace ClientPlan.PathTemplate

open Client Text

/-- The first parameter of the path of which something holds. -/
def FirstInPath (params : List Parameter) (holds : Parameter → Prop) (param : Parameter) : Prop :=
  (param.location = .path ∧ holds param) ∧
    ∃ earlier later, params = earlier ++ param :: later ∧
      ∀ other ∈ earlier, other.location = .path → ¬ holds other

/-- The parameter that the name of a placeholder chooses: the first in the path with that wire
name, and where none has it, the first with that identifier. -/
def Chosen (params : List Parameter) (name : String) (param : Parameter) : Prop :=
  FirstInPath params (fun other => other.rawName = name) param ∨
    (∀ other ∈ params, other.location = .path → other.rawName ≠ name) ∧
      FirstInPath params (fun other => other.identifier = name) param

/-- The variables that a name becomes in the plain dialect and in the value dialect. -/
inductive Paired (params : List Parameter) (name : String) : String × String → Prop
  | unresolved (hnone : ∀ param, ¬ Chosen params name param) : Paired params name (name, name)
  | text {param : Parameter} (hchosen : Chosen params name param)
      (htext : param.isNumeric = false) :
      Paired params name (param.identifier ++ "Path", param.identifier ++ "Path")
  | number {param : Parameter} (hchosen : Chosen params name param)
      (hnumber : param.isNumeric = true) :
      Paired params name (param.identifier, param.identifier ++ "Value")

section

variable {params : List Parameter} {name : String} {param : Parameter}

theorem find?_inPath_eq_some_iff {holds : Parameter → Prop} [DecidablePred holds] :
    ((params.filter fun other => other.location = .path).find? fun other => holds other) =
        some param ↔ FirstInPath params holds param := by
  simp [List.find?_filter, List.find?_eq_some_iff_append, FirstInPath, imp_iff_not_or]

theorem find?_inPath_eq_none_iff {holds : Parameter → Prop} [DecidablePred holds] :
    ((params.filter fun other => other.location = .path).find? fun other => holds other) = none ↔
      ∀ other ∈ params, other.location = .path → ¬ holds other := by
  simp [List.find?_filter, List.find?_eq_none]

theorem parameter?_eq_some_iff_chosen :
    parameter? params name = some param ↔ Chosen params name param := by
  unfold parameter? Chosen
  dsimp only
  rw [← find?_inPath_eq_some_iff, ← find?_inPath_eq_some_iff, ← find?_inPath_eq_none_iff]
  split
  next found hfound => simp [hfound]
  next hnone => simp [hnone]

theorem isNone_parameter?_iff :
    (parameter? params name).isNone = true ↔ ∀ param, ¬ Chosen params name param := by
  simp only [Option.isNone_iff_eq_none, Option.eq_none_iff_forall_ne_some, ne_eq,
    parameter?_eq_some_iff_chosen]

end

/-- The variable that a name becomes. -/
def variableOf (params : List Parameter) (dialect : Dialect) (name : String) : String :=
  (answer? params dialect name).getD name

theorem paired_variableOf (params : List Parameter) (name : String) :
    Paired params name (variableOf params .plain name, variableOf params .value name) := by
  rw [variableOf, variableOf, answer?, answer?]
  cases hparam : parameter? params name with
  | none => exact .unresolved (isNone_parameter?_iff.mp (by rw [hparam, Option.isNone_none]))
  | some param =>
      have hchosen := parameter?_eq_some_iff_chosen.mp hparam
      cases hnumeric : param.isNumeric with
      | false => simpa [Dialect.variableFor, hnumeric] using Paired.text hchosen hnumeric
      | true => simpa [Dialect.variableFor, hnumeric] using Paired.number hchosen hnumeric

open scoped Classical in
/-- The dialects agree on the unresolved names, on the literal text and on the places of the
variables, and on what each placeholder stands for. -/
theorem build_dialects_paired (raw : String) (params : List Parameter) :
    (build raw params .plain).unresolved = (build raw params .value).unresolved ∧
      ∃ parts last pairs, Factors (unescape raw).toList parts last ∧
        (build raw params .plain).text = fill parts (pairs.map Prod.fst) last ∧
        (build raw params .value).text = fill parts (pairs.map Prod.snd) last ∧
        List.Forall₂ (Paired params) (names parts) pairs ∧
        (build raw params .plain).unresolved =
          (names parts).filter fun name => ∀ param, ¬ Chosen params name param := by
  refine ⟨?_, ?_⟩
  · rw [unresolved_build, unresolved_build]
  obtain ⟨parts, last, hfactors, hsegments⟩ := exists_factors (unescape raw).toList
  have hshown (dialect : Dialect) :
      (build raw params dialect).text =
          fill parts ((names parts).map (variableOf params dialect)) last ∧
        (build raw params dialect).unresolved =
          (names parts).filter fun name => (answer? params dialect name).isNone :=
    Prod.mk.inj (shown_rewrite_parts _ _ hsegments)
  refine ⟨parts, last,
    (names parts).map fun name => (variableOf params .plain name, variableOf params .value name),
    hfactors, ?_, ?_, ?_, ?_⟩
  · rw [List.map_map, (hshown .plain).1]
    rfl
  · rw [List.map_map, (hshown .value).1]
    rfl
  · rw [List.forall₂_map_right_iff, List.forall₂_same]
    intro name _
    exact paired_variableOf params name
  · rw [(hshown .plain).2]
    apply List.filter_congr
    intro name _
    rw [answer?, Option.isNone_map, Bool.eq_iff_iff, decide_eq_true_iff]
    exact isNone_parameter?_iff

end ClientPlan.PathTemplate
