import ClientPlan.Proofs.Plan.Outcome

/-! # The ids of a tag are told apart

Within a tag an id that is met again takes a counter, and the interface of its query parameters
follows it. Nothing else of an operation changes.
-/

namespace ClientPlan.Plan

open Client Name

/-- The operation under its id with the given number, its query interface named after that id. -/
def underNumber (op : Operation) (n : Nat) : Operation :=
  { op with
    operationId := numbered op.operationId n
    notes := { op.notes with
      queryParamsInterfaceName :=
        if op.queryParams.isEmpty then none
        else some (queryInterface (numbered op.operationId n)) } }

theorem settled_annotated (options : Options) (op : Operation) (n : Nat) :
    settled (op.annotated options) n = underNumber (op.annotated options) n := by
  have hinterface := op.annotated_queryInterface options
  rw [← op.annotated_queryParams_isEmpty options, ← op.annotated_operationId options]
    at hinterface
  -- From here on only the interface name counts, however the operation came by it.
  generalize op.annotated options = op at hinterface
  cases n with
  | zero =>
      rw [settled, underNumber, numbered, ← hinterface]
  | succ later =>
      rw [settled, underNumber, numbered, renamed, hinterface]
      cases op.queryParams.isEmpty <;> rfl

/-! ## Query interfaces -/

/-- The id of an operation is a numbered form, and its query interface is named after it. -/
structure InStep (op : Operation) : Prop where
  id_form : ∃ id n, IsNormalId id.toList ∧ op.operationId = numbered id n
  interface : ∀ name ∈ op.notes.queryParamsInterfaceName, name = queryInterface op.operationId

theorem inStep_underNumber {op : Operation} (hop : IsNormalId op.operationId.toList) (n : Nat) :
    InStep (underNumber op n) where
  id_form := ⟨op.operationId, n, hop, rfl⟩
  interface := by
    intro name hname
    rw [underNumber] at hname ⊢
    split at hname
    next => cases hname
    next => exact (Option.some.inj hname).symm

theorem InStep.operationId_eq {first second : Operation} (hfirst : InStep first)
    (hsecond : InStep second) {name : String}
    (hname : first.notes.queryParamsInterfaceName = some name)
    (hother : second.notes.queryParamsInterfaceName = some name) :
    first.operationId = second.operationId := by
  obtain ⟨id, m, hid, hm⟩ := hfirst.id_form
  obtain ⟨other, n, hotherId, hn⟩ := hsecond.id_form
  -- Pascal case drops underscores, so names are compared as those of numbered forms.
  have heq : queryInterface (numbered id m) = queryInterface (numbered other n) := by
    rw [← hm, ← hn, ← hfirst.interface name hname, ← hsecond.interface name hother]
  obtain ⟨rfl, rfl⟩ := queryInterface_numbered_inj hid hotherId heq
  rw [hm, hn]

/-- Operations with distinct ids have distinct query interfaces. -/
theorem nodup_queryInterfaces {ops : List Operation} (hids : (ids ops).Nodup)
    (hstep : ∀ op ∈ ops, InStep op) :
    (ops.filterMap fun op => op.notes.queryParamsInterfaceName).Nodup := by
  refine List.pairwise_filterMap.mpr ((List.pairwise_map.mp hids).imp_of_mem ?_)
  rintro first second hfirst hsecond hne name hname _ hother rfl
  exact hne ((hstep first hfirst).operationId_eq (hstep second hsecond) hname hother)

/-! ## The operations of a tag -/

section

variable {options : Options} {document : OpenApi.Document} {plan : Plan}
  (hplan : ofDocument (.angular options) document = .ok plan) {api : Api} (hapi : api ∈ plan.apis)

include hplan hapi

theorem getElem?_operations (n : Nat) :
    api.operations[n]? =
      (carrying api.tag (outlined options document))[n]?.map fun op =>
        underNumber (op.annotated options)
          ((ids ((carrying api.tag (outlined options document)).take n)).count
            op.operationId) := by
  have hids : ∀ ops : List Operation, ids (ops.map (Operation.annotated options)) = ids ops := by
    intro ops
    simp only [ids, List.map_map, Function.comp_def, Operation.annotated_operationId]
  have hnormal : ∀ op ∈ (carrying api.tag (outlined options document)).map
      (Operation.annotated options), IsNormalId op.operationId.toList := by
    intro op hop
    obtain ⟨source, hsource, rfl⟩ := List.mem_map.mp hop
    rw [Operation.annotated_operationId]
    exact isNormalId_of_mem_outlined (List.mem_of_mem_filter hsource)
  rw [operations_of_ok hplan hapi, getElem?_gather hnormal, List.getElem?_map, Option.map_map,
    ← List.map_take, hids]
  refine Option.map_congr fun op _ => ?_
  rw [Function.comp_apply, settled_annotated, Operation.annotated_operationId]

theorem length_operations :
    api.operations.length = (carrying api.tag (outlined options document)).length := by
  rw [operations_of_ok hplan hapi, length_gather, List.length_map]

/-- The operations of a tag are outlined operations, annotated and under numbered ids. -/
theorem exists_underNumber_of_mem_operations {op : Operation} (hop : op ∈ api.operations) :
    ∃ source ∈ outlined options document, ∃ n, op = underNumber (source.annotated options) n := by
  obtain ⟨n, hn⟩ := List.mem_iff_getElem?.mp hop
  rw [getElem?_operations hplan hapi] at hn
  obtain ⟨source, hsource, rfl⟩ := Option.map_eq_some_iff.mp hn
  exact ⟨source, List.mem_of_mem_filter (List.mem_of_getElem? hsource), _, rfl⟩

theorem inStep_of_mem_operations {op : Operation} (hop : op ∈ api.operations) : InStep op := by
  obtain ⟨source, hsource, n, rfl⟩ := exists_underNumber_of_mem_operations hplan hapi hop
  refine inStep_underNumber ?_ _
  rw [Operation.annotated_operationId]
  exact isNormalId_of_mem_outlined hsource

/-- Each operation of a tag is the annotated one under its own id, or under that id with a counter
that starts from zero where the id is met again. Ids and query interfaces of the tag are unique. -/
theorem operations_numbered :
    api.operations.length = (carrying api.tag (outlined options document)).length ∧
      (∀ n op, (carrying api.tag (outlined options document))[n]? = some op →
        ∃ annotated, op.annotate options = .ok annotated ∧
          api.operations[n]? = some (underNumber annotated
            ((ids ((carrying api.tag (outlined options document)).take n)).count
              op.operationId))) ∧
      (ids api.operations).Nodup ∧
      (api.operations.filterMap fun op => op.notes.queryParamsInterfaceName).Nodup := by
  have hids : (ids api.operations).Nodup := by
    rw [operations_of_ok hplan hapi]
    exact nodup_ids_gather _
  refine ⟨length_operations hplan hapi, ?_, hids, ?_⟩
  · intro n op hop
    have hgood := ((ofDocument_eq_ok_iff options document plan).mp hplan).1
    have hmem := List.mem_of_mem_filter (List.mem_of_getElem? hop)
    refine ⟨op.annotated options,
      (op.annotate_eq_ok_iff options _).mpr ⟨hgood op hmem, rfl⟩, ?_⟩
    rw [getElem?_operations hplan hapi, hop, Option.map_some]
  · exact nodup_queryInterfaces hids fun op hop => inStep_of_mem_operations hplan hapi hop

end

/-- Three operations of one tag whose ids have one normal form. -/
def fetches : OpenApi.Document where
  paths :=
    [("/a", { get := some { operationId := some "fetch1", tags := some ["T"] } }),
      ("/b",
        { get := some
            { operationId := some "fetch2"
              tags := some ["T"]
              parameters := some [{ name := "q", location := "query" }] } }),
      ("/c", { delete := some { operationId := some "fetch", tags := some ["T"] } })]

theorem operations_numbered_fetches :
    ∃ plan, ofDocument (.angular {}) fetches = .ok plan ∧ ∃ api ∈ plan.apis,
      api.tag = "T" ∧ api.operations.length = 3 ∧ (ids api.operations).Nodup ∧
        ∃ second, api.operations[1]? = some second ∧ second.operationId = "fetch_0" ∧
          second.notes.queryParamsInterfaceName = some "Fetch0Params" := by
  have hplan := ofDocument_of_lenient {} fetches rfl
  have htag : "T" ∈ (outcome {} fetches).apis.map Api.tag := by
    rw [map_tag_of_ok hplan]
    decide +kernel
  obtain ⟨api, hapi, htag⟩ := List.mem_map.mp htag
  obtain ⟨hlength, hplace, hids, _⟩ := operations_numbered hplan hapi
  rw [htag] at hlength hplace
  obtain ⟨op, hop, hid, hquery⟩ : ∃ op, (carrying "T" (outlined {} fetches))[1]? = some op ∧
      op.operationId = "fetch" ∧ op.queryParams.isEmpty = false :=
    ⟨_, rfl, by decide +kernel, by decide +kernel⟩
  obtain ⟨annotated, hannotated, hsecond⟩ := hplace 1 op hop
  obtain ⟨_, rfl⟩ := (op.annotate_eq_ok_iff {} annotated).mp hannotated
  refine ⟨_, hplan, api, hapi, htag, hlength.trans (by decide +kernel), hids, _, hsecond, ?_⟩
  simp only [underNumber, Operation.annotated_operationId,
    Operation.annotated_queryParams_isEmpty, hid, hquery]
  decide +kernel

end ClientPlan.Plan
