import ClientPlan.Proofs.Plan.Coverage
import ClientPlan.Proofs.Plan.ApiFiles

/-! # Names of the methods of a service

Ids are unique within a tag, and a request is named by its id. A resource method is named by its id
with a suffix, and so it can meet the request whose id has that suffix already.
-/

namespace ClientPlan

open Client Code

namespace Code.Caller

theorem name_form (options : Options) (op : Operation) :
    (form options op).name =
      if op.method = .get ∧ options.useReactiveResource = true then op.operationId ++ "Resource"
      else op.operationId := by
  rcases form_cases options op with ⟨hfetch, hform | hform⟩ | ⟨hsend, hform⟩
  · rw [hform, if_pos hfetch]
    rfl
  · rw [hform, if_pos hfetch]
    rfl
  · rw [hform, if_neg hsend]
    rfl

end Code.Caller

namespace Plan

section

variable {options : Options} {ops : List Operation}

/-- Functions of operations with distinct ids are told apart by their names, unless a resource takes
the name of a request. -/
theorem nodup_map_name_form_iff (hids : (ids ops).Nodup) :
    (ops.map fun op => (Caller.form options op).name).Nodup ↔
      (options.useReactiveResource = true → ∀ op ∈ ops, op.method = .get →
        ∀ other ∈ ops, other.method ≠ .get → other.operationId ≠ op.operationId ++ "Resource") := by
  rw [List.nodup_map_iff_inj_on hids.of_map]
  have hinj := List.inj_on_of_nodup_map hids
  simp only [Caller.name_form]
  constructor
  · intro hnames hreactive op hop hget other hother hne heq
    have hsame := hnames op hop other hother (by simp [hget, hreactive, hne, heq])
    exact hne (hsame ▸ hget)
  · intro happart first hfirst second hsecond hname
    -- Names of one kind are ids alike, with the suffix or without it; only across kinds can they meet.
    apply hinj hfirst hsecond
    by_cases hreactive : options.useReactiveResource = true
    · by_cases hget : first.method = .get <;> by_cases hother : second.method = .get <;>
        simp only [hget, hother, hreactive, and_self, and_true, if_true, if_false] at hname
      · exact (String.append_left_inj "Resource").mp hname
      · exact absurd hname.symm (happart hreactive first hfirst hget second hsecond hother)
      · exact absurd hname (happart hreactive second hsecond hother first hfirst hget)
      · exact hname
    · simpa [hreactive] using hname

theorem mem_calledIn_mutation {op : Operation} :
    op ∈ calledIn options .mutation ops ↔
      op ∈ ops ∧ ¬ (op.method = .get ∧ options.resourceFiles = true) := by
  rw [calledIn, List.mem_filter, Caller.home]
  split
  next hsplit => simp [hsplit]
  next hsplit => simp only [hsplit, decide_true, and_true, not_false_eq_true]

/-- Where resources have files of their own, a service has none that could take a name. -/
theorem forall_calledIn_iff :
    (options.useReactiveResource = true → ∀ op ∈ calledIn options .mutation ops, op.method = .get →
        ∀ other ∈ calledIn options .mutation ops, other.method ≠ .get →
          other.operationId ≠ op.operationId ++ "Resource") ↔
      (options.useReactiveResource = true → options.splitResourceArtifacts = false →
        ∀ op ∈ ops, op.method = .get → ∀ other ∈ ops, other.method ≠ .get →
          other.operationId ≠ op.operationId ++ "Resource") := by
  simp only [mem_calledIn_mutation, Options.resourceFiles]
  constructor
  · intro happart hreactive hsplit op hop hget other hother hne
    exact happart hreactive op ⟨hop, by simp [hsplit]⟩ hget other ⟨hother, by simp [hne]⟩ hne
  · rintro happart hreactive op ⟨hop, hhome⟩ hget other ⟨hother, _⟩ hne
    have hsplit : options.splitResourceArtifacts = false := by
      simpa [hget, hreactive] using hhome
    exact happart hreactive hsplit op hop hget other hother hne

end

section

variable {options : Options} {document : OpenApi.Document} {plan : Plan}
  (hplan : ofDocument (.angular options) document = .ok plan)

include hplan

/-- The methods of a planned service have distinct names unless retrievals become resource methods
there and the id of another operation is that of a retrieval with the suffix behind it. -/
theorem nodup_member_names_iff {file : PlannedFile} (hfile : file ∈ plan.plannedFiles)
    (hkind : file.kind = .mutation) :
    ∃ api service, plan.apis[file.index]? = some api ∧
      plan.render {} file = .ok (unlines (ServiceFile.lines service)) ∧
      (∀ member ∈ service.members, member.lines <:+: service.lines) ∧
      service.members.map Member.name =
        (calledIn options .mutation api.operations).map (fun op =>
          if op.method = .get ∧ options.useReactiveResource = true then op.operationId ++ "Resource"
          else op.operationId) ∧
      ((service.members.map Member.name).Nodup ↔
        (options.useReactiveResource = true → options.splitResourceArtifacts = false →
          ∀ op ∈ api.operations, op.method = .get → ∀ other ∈ api.operations, other.method ≠ .get →
            other.operationId ≠ op.operationId ++ "Resource")) := by
  obtain ⟨api, hindex, hofTag, hrender⟩ :=
    exists_api_of_mem_plannedFiles hplan hfile (by simp [hkind])
  have hapi := List.mem_of_getElem? hindex
  have hcallers := (declares_apiFile hplan hapi hofTag).callers
  rw [hkind] at hrender hcallers
  obtain ⟨service, hservice⟩ : ∃ service, plan.apiFile .mutation api = .service service := ⟨_, rfl⟩
  rw [hservice] at hrender hcallers
  have hnames : service.members.map Member.name =
      (calledIn options .mutation api.operations).map fun op => (Caller.form options op).name := by
    have hmap := congrArg (List.map Caller.name) hcallers
    rw [ApiFile.callers, List.map_map, List.map_map] at hmap
    exact hmap
  have hids : (ids (calledIn options .mutation api.operations)).Nodup :=
    (nodup_ids_operations hplan hapi).sublist (List.filter_sublist.map Operation.operationId)
  refine ⟨api, service, hindex, hrender, ?_, ?_, ?_⟩
  · intro member hmember
    have hcaller : Caller.member member ∈ (ApiFile.service service).callers :=
      List.mem_map_of_mem hmember
    exact ApiFile.lines_infix_of_mem_callers hcaller
  · simp only [hnames, Caller.name_form]
  · rw [hnames, nodup_map_name_form_iff hids, forall_calledIn_iff]

end

/-- A shop with a request that is named as the resource of its pets. -/
def petsResource : OpenApi.Document where
  paths :=
    [("/pets",
        { get := some { operationId := some "pets" }
          post := some { operationId := some "petsResource" } })]

/-- The service of each document, as it is planned. -/
theorem names_stockAndOrders_petsResource :
    ((∃ file ∈ (outcome unsplit stockAndOrders).plannedFiles, file.kind = .mutation) ∧
      ∀ api ∈ (outcome unsplit stockAndOrders).apis, ∀ op ∈ api.operations,
        op.method = .get → ∀ other ∈ api.operations, other.method ≠ .get →
          other.operationId ≠ op.operationId ++ "Resource") ∧
    (∃ file ∈ (outcome unsplit petsResource).plannedFiles,
      file.kind = .mutation ∧ file.index = 0) ∧
      ((outcome unsplit petsResource).apis[0]?).isSome = true ∧
      ∀ api ∈ (outcome unsplit petsResource).apis[0]?,
        ((outcome unsplit petsResource).apiFile .mutation api).callers.map Caller.name =
          ["petsResource", "petsResource"] := by
  decide +kernel

theorem nodup_member_names_iff_stockAndOrders :
    ∃ plan, ofDocument (.angular unsplit) stockAndOrders = .ok plan ∧
      ∃ file ∈ plan.plannedFiles, file.kind = .mutation ∧
        ∃ service, plan.render {} file = .ok (unlines (ServiceFile.lines service)) ∧
          (service.members.map Member.name).Nodup := by
  have hplan := ofDocument_of_lenient unsplit stockAndOrders rfl
  obtain ⟨⟨⟨file, hfile, hkind⟩, hids⟩, -⟩ := names_stockAndOrders_petsResource
  obtain ⟨api, service, hindex, hrender, _, _, hnodup⟩ := nodup_member_names_iff hplan hfile hkind
  refine ⟨_, hplan, file, hfile, hkind, service, hrender, hnodup.mpr ?_⟩
  intro _ _
  exact hids api (List.mem_of_getElem? hindex)

/-- Its service has two methods of one name. -/
theorem not_nodup_member_names_petsResource :
    ∃ plan, ofDocument (.angular unsplit) petsResource = .ok plan ∧
      ∃ file ∈ plan.plannedFiles, file.kind = .mutation ∧ file.index = 0 ∧
        ∃ api ∈ plan.apis[0]?, ∃ service, plan.apiFile .mutation api = .service service ∧
          plan.render {} file = .ok (unlines (ServiceFile.lines service)) ∧
            ¬ (service.members.map Member.name).Nodup := by
  have hplan := ofDocument_of_lenient unsplit petsResource rfl
  obtain ⟨-, ⟨file, hfile, hkind, hfirst⟩, hsome, hnames⟩ := names_stockAndOrders_petsResource
  obtain ⟨api, hindex⟩ := Option.isSome_iff_exists.mp hsome
  obtain ⟨service, hservice⟩ :
      ∃ service, (outcome unsplit petsResource).apiFile .mutation api = .service service := ⟨_, rfl⟩
  have hmembers := hnames api hindex
  have hrender := render_eq_ok hplan hindex (ArtifactKind.mutation_mem_ofTag unsplit) file.path
  rw [hservice] at hmembers hrender
  refine ⟨_, hplan, file, hfile, hkind, hfirst, api, hindex, service, hservice, ?_, ?_⟩
  · rw [← hkind, ← hfirst] at hrender
    exact hrender
  · rw [ApiFile.callers, List.map_map] at hmembers
    have hsame : service.members.map Member.name = ["petsResource", "petsResource"] := hmembers
    rw [hsame]
    decide

end Plan

end ClientPlan
