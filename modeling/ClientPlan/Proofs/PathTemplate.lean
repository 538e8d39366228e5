import ClientPlan.PathTemplate.Basic

/-! # The variables of a path template

A template interpolates one variable for each placeholder: the one that answers to the placeholder,
which stands for a path parameter, or else a copy of the name of the placeholder.
-/

namespace ClientPlan.PathTemplate

open Client Text

/-- The variables that answer to the placeholders of a raw path. -/
def resolved (raw : String) (params : List Parameter) (dialect : Dialect) : List String :=
  (placeholderNames (segments (unescape raw).toList)).filterMap (answer? params dialect)

variable {raw : String} {params : List Parameter} {dialect : Dialect} {variableName : String}

theorem mem_of_parameter?_eq_some {name : String} {param : Parameter}
    (hparam : parameter? params name = some param) : param ∈ params := by
  rw [parameter?] at hparam
  split at hparam
  next found hfound =>
    obtain rfl := Option.some.inj hparam
    exact (List.mem_filter.mp (List.mem_of_find?_eq_some hfound)).1
  next => exact (List.mem_filter.mp (List.mem_of_find?_eq_some hparam)).1

theorem parameter?_eq_none_iff {name : String} :
    parameter? params name = none ↔
      ∀ param ∈ params, param.location = .path →
        param.rawName ≠ name ∧ param.identifier ≠ name := by
  unfold parameter?
  simp only [List.find?_filter]
  split
  next found hfound =>
    have hmem := List.mem_of_find?_eq_some hfound
    have hname := List.find?_some hfound
    simp only [decide_eq_true_eq] at hname
    simp only [reduceCtorEq, false_iff]
    intro hall
    exact (hall found hmem hname.1).1 hname.2
  next hnone =>
    rw [List.find?_eq_none] at hnone
    simp only [List.find?_eq_none, decide_eq_true_eq, not_and] at hnone ⊢
    constructor
    · intro hall param hparam hpath
      exact ⟨hnone param hparam hpath, hall param hparam hpath⟩
    · intro hall param hparam hpath
      exact (hall param hparam hpath).2

/-- The names that are copied are those to which no parameter answers, whatever the dialect. -/
theorem unresolved_build (raw : String) (params : List Parameter) (dialect : Dialect) :
    (build raw params dialect).unresolved =
      (placeholderNames (segments (unescape raw).toList)).filter
        fun name => (parameter? params name).isNone := by
  rw [build, rewrite]
  simp only [answer?, Option.isNone_map]

/-- A variable that answers to a placeholder stands for a parameter. -/
theorem exists_of_mem_resolved (hvariable : variableName ∈ resolved raw params dialect) :
    ∃ param ∈ params, variableName = dialect.variableFor param.identifier param.isNumeric := by
  obtain ⟨name, _, hanswer⟩ := List.mem_filterMap.mp hvariable
  obtain ⟨param, hparam, rfl⟩ := Option.map_eq_some_iff.mp hanswer
  exact ⟨param, mem_of_parameter?_eq_some hparam, rfl⟩

theorem hole_mem_map_pieceOf {found : List Segment} {resolve : String → Option String} :
    .hole variableName ∈ found.map (pieceOf resolve) ↔
      ∃ name ∈ placeholderNames found, (resolve name).getD name = variableName := by
  simp only [List.mem_map, placeholderNames, List.mem_filterMap]
  constructor
  · rintro ⟨segment, hsegment, hpiece⟩
    cases segment with
    | literal c => cases hpiece
    | placeholder written => exact ⟨_, ⟨_, hsegment, rfl⟩, Piece.hole.inj hpiece⟩
  · rintro ⟨name, ⟨segment, hsegment, hname⟩, hvariable⟩
    cases segment with
    | literal c => cases hname
    | placeholder written =>
        obtain rfl := Option.some.inj hname
        exact ⟨_, hsegment, congrArg Piece.hole hvariable⟩

/-- A template interpolates the variables that answer to placeholders and the names that are
copied, and no other. -/
theorem hole_mem_build :
    .hole variableName ∈ (build raw params dialect).pieces ↔
      variableName ∈ resolved raw params dialect ∨
        variableName ∈ (build raw params dialect).unresolved := by
  rw [build, rewrite, hole_mem_map_pieceOf, resolved, List.mem_filterMap, List.mem_filter]
  constructor
  · rintro ⟨name, hname, rfl⟩
    cases hanswer : answer? params dialect name with
    | some found => exact .inl ⟨name, hname, hanswer⟩
    | none => exact .inr ⟨hname, Option.isNone_iff_eq_none.mpr hanswer⟩
  · rintro (⟨name, hname, hanswer⟩ | ⟨hname, hanswer⟩)
    · exact ⟨name, hname, by rw [hanswer, Option.getD_some]⟩
    · exact ⟨_, hname, by rw [Option.isNone_iff_eq_none.mp hanswer, Option.getD_none]⟩

/-- An interpolated variable stands in the text. -/
theorem infix_text_of_hole_mem {template : PathTemplate}
    (hhole : .hole variableName ∈ template.pieces) :
    ("$\x7b" ++ variableName ++ "\x7d").toList <:+: template.text.toList := by
  obtain ⟨before, behind, hpieces⟩ := List.append_of_mem hhole
  have hwritten : ("$\x7b" ++ variableName ++ "\x7d").toList = (Piece.hole variableName).chars := by
    rw [String.toList_append, String.toList_append]
    rfl
  refine ⟨before.flatMap Piece.chars, behind.flatMap Piece.chars, ?_⟩
  rw [text, String.toList_ofList, hpieces, List.flatMap_append, List.flatMap_cons, hwritten,
    List.append_assoc]

end ClientPlan.PathTemplate
