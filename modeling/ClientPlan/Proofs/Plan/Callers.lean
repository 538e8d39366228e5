import ClientPlan.Proofs.Plan.ApiFiles

/-! # Every operation is called by one function

Among the texts of the files of a tag an operation has exactly one function, in the form that
options call for and in the file where that form belongs.
-/

namespace ClientPlan

open Client Code

namespace Code

theorem Caller.shape_form (options : Options) (op : Operation) :
    (form options op).shape =
      if op.method = .get ∧ options.resourceFiles = true then .function
      else if op.method = .get ∧ options.useReactiveResource = true then .method
      else .request := by
  unfold form
  split
  next => rfl
  next => split <;> rfl

/-- The text of a function tells the operation that it calls. -/
theorem Block.IsFunction.names_iff {block : Block Signature} {options : Options}
    {op other : Operation} (hblock : block.IsFunction (Caller.form options other)) :
    block.head.Names op ↔ other.operationId = op.operationId := by
  have hshape := hblock.shape
  have hname := hblock.name
  unfold Signature.Names
  rcases Caller.mem_forms.mp (Caller.form_mem_forms options other) with hform | hform | hform <;>
    rw [hform] at hshape hname <;> rw [hshape, hname]
  · exact String.append_left_inj "Resource"
  · exact String.append_left_inj "Resource"
  · exact Iff.rfl

end Code

namespace Plan

section

variable {options : Options} {document : OpenApi.Document} {plan : Plan}
  (hplan : ofDocument (.angular options) document = .ok plan)

include hplan

section

variable {api : Api} (hapi : api ∈ plan.apis) {kind : ArtifactKind}
  (hkind : kind ∈ ArtifactKind.ofTag options)

include hapi

/-- An operation is called in one kind of file. -/
theorem filter_calledIn {op : Operation} (hop : op ∈ api.operations) :
    (calledIn options kind api.operations).filter (·.operationId = op.operationId) =
      if Caller.home options op = kind then [op] else [] := by
  have hids := nodup_ids_operations hplan hapi
  have hnodup : (calledIn options kind api.operations).Nodup := (List.Nodup.of_map _ hids).filter _
  have hsame : ∀ other ∈ calledIn options kind api.operations,
      decide (other.operationId = op.operationId) = decide (other = op) := by
    intro other hother
    rw [decide_eq_decide]
    exact ⟨fun hid => List.inj_on_of_nodup_map hids (List.mem_filter.mp hother).1 hop hid,
      congrArg Operation.operationId⟩
  rw [List.filter_congr hsame, List.filter_eq, hnodup.count]
  simp only [calledIn, List.mem_filter, hop, true_and, decide_eq_true_eq]
  split <;> rfl

include hkind

theorem forall₂_calledIn :
    List.Forall₂ (fun block op => block.IsFunction (Caller.form options op))
      (functionReader.blocks (plan.apiFile kind api).lines)
      (calledIn options kind api.operations) := by
  have hread := forall₂_functions hplan hapi hkind
  rw [(declares_apiFile hplan hapi hkind).callers] at hread
  exact List.forall₂_map_right_iff.mp hread

/-- The functions in a file that are named after an operation: one if it is the file for it, and
none if it is another one. -/
theorem forall₂_filter {op : Operation} (hop : op ∈ api.operations) :
    List.Forall₂ (fun block op => block.IsFunction (Caller.form options op))
      ((functionReader.blocks (plan.apiFile kind api).lines).filter (·.head.Names op))
      (if Caller.home options op = kind then [op] else []) := by
  rw [← filter_calledIn hplan hapi hop]
  refine List.rel_filter ?_ (forall₂_calledIn hplan hapi hkind)
  intro block other hblock
  simp only [decide_eq_true_eq]
  exact hblock.names_iff

end

/-- The text of a file of a tag holds one function for each operation that is called there, in the
form that options call for, and those of a service file are members of its class. In all the files
of the tag together, an operation has one function. -/
theorem called_once {index : Nat} {api : Api} (hindex : plan.apis[index]? = some api) :
    (∀ kind ∈ ArtifactKind.ofTag options,
      (∀ path, plan.render {} ⟨path, kind, index⟩ =
        .ok (String.join ((plan.apiFile kind api).lines.map (· ++ "\n")))) ∧
      List.Forall₂ (fun block op => block.IsFunction (Caller.form options op))
        (functionReader.blocks (plan.apiFile kind api).lines)
        (calledIn options kind api.operations)) ∧
    InClass api.className (plan.apiFile .mutation api).lines ∧
    ∀ op ∈ api.operations,
      (Caller.form options op).lines <:+: (plan.apiFile (Caller.home options op) api).lines ∧
      ∃ block ∈ functionReader.blocks (plan.apiFile (Caller.home options op) api).lines,
        block.IsFunction (Caller.form options op) ∧
        (block.head.shape =
          if op.method = .get ∧ options.resourceFiles = true then .function
          else if op.method = .get ∧ options.useReactiveResource = true then .method
          else .request) ∧
        ((ArtifactKind.ofTag options).flatMap fun kind =>
          (functionReader.blocks (plan.apiFile kind api).lines).filter (·.head.Names op)) =
            [block] := by
  have hapi : api ∈ plan.apis := List.mem_of_getElem? hindex
  refine ⟨?_, inClass_apiFile hplan hapi, ?_⟩
  · intro kind hkind
    exact ⟨render_eq_ok hplan hindex hkind, forall₂_calledIn hplan hapi hkind⟩
  · intro op hop
    have hhome := Caller.home_mem_ofTag options op
    have hread := forall₂_filter hplan hapi hhome hop
    rw [if_pos rfl, List.forall₂_cons_right_iff] at hread
    obtain ⟨block, rest, hblock, hrest, hfilter⟩ := hread
    rw [List.forall₂_nil_right_iff.mp hrest] at hfilter
    have hmem : block ∈ functionReader.blocks (plan.apiFile (Caller.home options op) api).lines :=
      List.mem_of_mem_filter (hfilter ▸ List.mem_singleton_self block)
    have hlines : (Caller.form options op).lines <:+:
        (plan.apiFile (Caller.home options op) api).lines := by
      refine ApiFile.lines_infix_of_mem_callers ?_
      rw [(declares_apiFile hplan hapi hhome).callers]
      exact List.mem_map_of_mem (List.mem_filter.mpr ⟨hop, decide_eq_true rfl⟩)
    refine ⟨hlines, block, hmem, hblock, hblock.shape.trans (Caller.shape_form options op), ?_⟩
    have hfiles : ((ArtifactKind.ofTag options).flatMap fun kind =>
        (functionReader.blocks (plan.apiFile kind api).lines).filter (·.head.Names op)) =
        (ArtifactKind.ofTag options).flatMap fun kind =>
          if Caller.home options op = kind then [block] else [] := by
      refine List.flatMap_congr fun kind hkind => ?_
      split
      next heq => rw [← heq, hfilter]
      next hne =>
        have hnone := forall₂_filter hplan hapi hkind hop
        rw [if_neg hne] at hnone
        exact List.forall₂_nil_right_iff.mp hnone
    rw [hfiles, Caller.home, ArtifactKind.ofTag]
    by_cases hget : op.method = .get <;> cases options.resourceFiles <;> simp [hget]

end

theorem called_once_stockAndOrders :
    ∃ plan, ofDocument (.angular {}) stockAndOrders = .ok plan ∧
      ∃ api, plan.apis[1]? = some api ∧
        plan.render {} ⟨"api/orders-resources.ts", .resource, 1⟩ =
          .ok (String.join ((plan.apiFile .resource api).lines.map (· ++ "\n"))) ∧
        (∃ op ∈ api.operations, op.method = .get ∧
          ∃ block ∈ functionReader.blocks (plan.apiFile .resource api).lines,
            block.head.shape = .function ∧ block.head.Names op) ∧
        ∃ op ∈ api.operations, op.method = .post ∧
          ∃ block ∈ functionReader.blocks (plan.apiFile .mutation api).lines,
            block.head.shape = .request ∧ block.head.Names op := by
  have hplan := ofDocument_of_lenient {} stockAndOrders rfl
  have hsome : ((outcome {} stockAndOrders).apis[1]?).isSome = true := by decide +kernel
  have hmethods : ∀ api ∈ (outcome {} stockAndOrders).apis[1]?,
      (∃ op ∈ api.operations, op.method = .get) ∧ ∃ op ∈ api.operations, op.method = .post := by
    decide +kernel
  obtain ⟨api, hindex⟩ := Option.isSome_iff_exists.mp hsome
  obtain ⟨⟨retrieval, hretrieval, hget⟩, change, hchange, hpost⟩ := hmethods api hindex
  obtain ⟨hfiles, -, hops⟩ := called_once hplan hindex
  refine ⟨_, hplan, api, hindex, (hfiles .resource (by decide)).1 _, ?_, ?_⟩
  · obtain ⟨_, block, hmem, hblock, hshape, _⟩ := hops retrieval hretrieval
    rw [Caller.home, if_pos ⟨hget, rfl⟩] at hmem
    rw [if_pos ⟨hget, rfl⟩] at hshape
    exact ⟨retrieval, hretrieval, hget, block, hmem, hshape, hblock.names_iff.mpr rfl⟩
  · obtain ⟨_, block, hmem, hblock, hshape, _⟩ := hops change hchange
    simp only [Caller.home, hpost, reduceCtorEq, false_and, if_false] at hmem hshape
    exact ⟨change, hchange, hpost, block, hmem, hshape, hblock.names_iff.mpr rfl⟩

end Plan

end ClientPlan
