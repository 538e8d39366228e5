import ClientPlan.Proofs.Json.Nesting
import ClientPlan.Proofs.OrderedMap

/-! # Reading lists, maps and records from JSON values

What a reader accepts, as a condition on the value, and what it makes of it. A record is read from
the members that name its fields: each changes the record in its own way, and all others are passed
over.
-/

namespace ClientPlan.Source

section

variable {α : Type} {depth : Nat} {read : Node → Except Problem α}

theorem readOption_of_isContainer {json : Json} (hjson : json.IsContainer) :
    readOption {} read (.ofJson json) = (read (.ofJson json)).map some := by
  have hrun : readOption {} read (.ofJson json) = read (.ofJson json) >>= fun value =>
      .ok (some value) := by
    cases json with
    | array items => rfl
    | object members => rfl
    | _ => exact hjson.elim
  rw [hrun]
  cases read (.ofJson json) <;> rfl

theorem readList_eq_ok_iff {json : Json} {values : List α} :
    readList {} depth read (.ofJson json) = .ok values ↔
      depth ≠ 0 ∧ ∃ items, json = .array items ∧
        List.Forall₂ (fun item value => read (.ofJson item) = .ok value) items values := by
  cases json with
  | array items =>
      have hrun : readList {} depth read (.ofJson (.array items)) =
          if depth = 0 then .error .tooDeep else
            (Node.ofItems items).mapM read >>= fun values => .ok values := rfl
      rw [hrun, Node.ofItems_eq_map]
      by_cases hdepth : depth = 0
      · simp [hdepth]
      · simp [hdepth, bind_eq_ok_iff, mapM_eq_ok_iff_forall₂]
  | _ => simp [readList, Node.ofJson, Context.view, Context.target]

/-- An entry of a map holds what is read from the member under its key. -/
def ReadsEntry (read : Node → Except Problem α) (member : String × Json) (entry : String × α) :
    Prop :=
  member.1 = entry.1 ∧ read (.ofJson member.2) = .ok entry.2

theorem foldlM_readEntry_eq_ok_iff {members : List (String × Json)} {start map : OrderedMap α} :
    (Node.ofMembers members).foldlM (readEntry {} read) start = .ok map ↔
      ∃ entries, List.Forall₂ (ReadsEntry read) members entries ∧
        map = start.insertAll entries := by
  induction members generalizing start with
  | nil => simp [Node.ofMembers, OrderedMap.insertAll, pure, Except.pure, eq_comm]
  | cons member rest ih =>
      obtain ⟨name, json⟩ := member
      have hentry : readEntry {} read start (.text name, .ofJson json) =
          read (.ofJson json) >>= fun value => .ok (start.insert name value) := rfl
      rw [Node.ofMembers, List.foldlM_cons, hentry, bind_eq_ok_iff]
      simp only [bind_eq_ok_iff, Except.ok.injEq, ih, List.forall₂_cons_left_iff]
      constructor
      · rintro ⟨_, ⟨value, hvalue, rfl⟩, entries, hentries, rfl⟩
        exact ⟨(name, value) :: entries, ⟨_, _, ⟨rfl, hvalue⟩, hentries, rfl⟩, rfl⟩
      · rintro ⟨_, ⟨⟨_, value⟩, entries, ⟨rfl, hvalue⟩, hentries, rfl⟩, rfl⟩
        exact ⟨_, ⟨value, hvalue, rfl⟩, entries, hentries, rfl⟩

theorem readMap_eq_ok_iff {json : Json} {map : OrderedMap α} :
    readMap {} depth read (.ofJson json) = .ok map ↔
      depth ≠ 0 ∧ ∃ members, json = .object members ∧
        ∃ entries, List.Forall₂ (ReadsEntry read) members entries ∧
          map = OrderedMap.insertAll [] entries := by
  cases json with
  | object members =>
      have hrun : readMap {} depth read (.ofJson (.object members)) =
          if depth = 0 then .error .tooDeep else
            (Node.ofMembers members).foldlM (readEntry {} read) [] >>= fun map => .ok map := rfl
      rw [hrun]
      by_cases hdepth : depth = 0
      · simp [hdepth]
      · simp [hdepth, bind_eq_ok_iff, foldlM_readEntry_eq_ok_iff]
  | _ => simp [readMap, Node.ofJson, Context.view, Context.target]

/-- The keys of a map that is read stand in the order in which they are first written. -/
theorem keys_of_readMap {members : List (String × Json)} {map : OrderedMap α}
    (hread : readMap {} depth read (.ofJson (.object members)) = .ok map) :
    map.keys = (members.map Prod.fst).eraseDups := by
  obtain ⟨_, _, heq, entries, hentries, rfl⟩ := readMap_eq_ok_iff.mp hread
  cases heq
  clear hread
  have hkeys : members.map Prod.fst = entries.map Prod.fst := by
    induction hentries with
    | nil => rfl
    | cons hentry _ ih => rw [List.map_cons, List.map_cons, hentry.1, ih]
  rw [OrderedMap.keys_insertAll_nil, hkeys]

end

/-! ## Records -/

section

variable {ρ : Type} {fields : List (Field ρ)}

/-- The names of fields. -/
def fieldNames (fields : List (Field ρ)) : List String :=
  fields.map Field.name

/-- The field with the given name. -/
def fieldNamed? (fields : List (Field ρ)) (name : String) : Option (Field ρ) :=
  fields.find? fun field => field.name = name

theorem name_of_fieldNamed? {name : String} {field : Field ρ}
    (hfield : fieldNamed? fields name = some field) : field.name = name := by
  simpa using List.find?_some hfield

theorem fieldNamed?_eq_none_iff {name : String} :
    fieldNamed? fields name = none ↔ name ∉ fieldNames fields := by
  simp [fieldNamed?, fieldNames]

theorem mem_fieldNames_of_fieldNamed? {name : String} {field : Field ρ}
    (hfield : fieldNamed? fields name = some field) : name ∈ fieldNames fields := by
  by_contra hname
  rw [fieldNamed?_eq_none_iff.mpr hname] at hfield
  cases hfield

/-- The members that a record is read from, under the names of its fields: those of an object that
name a field, or the elements of a list, which are the fields in order. -/
def named (names : List String) : Json → List (String × Json)
  | .object members => members.filter fun member => member.1 ∈ names
  | .array items => names.zip items
  | _ => []

/-- The names of the members that a record is read from. -/
def givenNames (names : List String) (json : Json) : List String :=
  (named names json).map Prod.fst

section

variable {names : List String} {name : String} (json : Json) (rest : List (String × Json))

theorem named_cons_of_mem (hname : name ∈ names) :
    named names (.object ((name, json) :: rest)) = (name, json) :: named names (.object rest) := by
  simp [named, hname]

theorem named_cons_of_not_mem (hname : name ∉ names) :
    named names (.object ((name, json) :: rest)) = named names (.object rest) := by
  simp [named, hname]

theorem givenNames_cons_of_mem (hname : name ∈ names) :
    givenNames names (.object ((name, json) :: rest)) =
      name :: givenNames names (.object rest) := by
  rw [givenNames, named_cons_of_mem json rest hname, List.map_cons, ← givenNames]

theorem givenNames_cons_of_not_mem (hname : name ∉ names) :
    givenNames names (.object ((name, json) :: rest)) = givenNames names (.object rest) := by
  rw [givenNames, named_cons_of_not_mem json rest hname, ← givenNames]

end

section

variable {names : List String} {name : String} (before after : List (String × Json)) (json : Json)

theorem named_insert (hname : name ∉ names) :
    named names (.object (before ++ (name, json) :: after)) =
      named names (.object (before ++ after)) := by
  simp [named, hname]

theorem named_member (hname : name ∈ names) :
    named names (.object (before ++ (name, json) :: after)) =
      named names (.object before) ++ (name, json) :: named names (.object after) := by
  simp [named, hname]

theorem givenNames_member (hname : name ∈ names) :
    givenNames names (.object (before ++ (name, json) :: after)) =
      givenNames names (.object before) ++ name :: givenNames names (.object after) := by
  rw [givenNames, named_member before after json hname, List.map_append, List.map_cons]
  rfl

theorem named_perm (names : List String) {members others : List (String × Json)}
    (hperm : members.Perm others) :
    (named names (.object members)).Perm (named names (.object others)) :=
  hperm.filter _

/-- An element of a list stands under the name of the field at its place. -/
theorem named_element {before : List Json} (hname : names[before.length]? = some name)
    (after : List Json) (json : Json) :
    named names (.array (before ++ json :: after)) =
      (names.take before.length).zip before ++
        (name, json) :: (names.drop (before.length + 1)).zip after := by
  obtain ⟨hlength, rfl⟩ := List.getElem?_eq_some_iff.mp hname
  have htake : (names.take before.length).length = before.length :=
    List.length_take_of_le (Nat.le_of_lt hlength)
  rw [named]
  conv_lhs => rw [← List.take_append_drop before.length names, List.drop_eq_getElem_cons hlength]
  rw [List.zip_append htake, List.zip_cons_cons]

end

/-- A member changes the record as the field of its name reads it. -/
def Sets (fields : List (Field ρ)) (member : String × Json) (set : ρ → ρ) : Prop :=
  ∃ field, fieldNamed? fields member.1 = some field ∧ field.read (.ofJson member.2) = .ok set

/-- The record after all changes. -/
def applyAll (sets : List (ρ → ρ)) (record : ρ) : ρ :=
  sets.foldl (fun record set => set record) record

theorem readMember_of_none {name : String} (state : List String × ρ) (node : Node)
    (hfield : fieldNamed? fields name = none) :
    readMember {} fields state (.text name, node) = .ok state := by
  rw [fieldNamed?] at hfield
  simp only [readMember, fieldOf, Context.view, Context.target, hfield]
  rfl

theorem readMember_eq_ok_iff {name : String} {node : Node} {field : Field ρ}
    {state next : List String × ρ} (hfield : fieldNamed? fields name = some field) :
    readMember {} fields state (.text name, node) = .ok next ↔
      name ∉ state.1 ∧
        ∃ set, field.read node = .ok set ∧ (name :: state.1, set state.2) = next := by
  have hname := name_of_fieldNamed? hfield
  have hrun : readMember {} fields state (.text name, node) =
      if state.1.contains field.name then .error .duplicateField else
        field.read node >>= fun set => .ok (field.name :: state.1, set state.2) := by
    rw [fieldNamed?] at hfield
    simp only [readMember, fieldOf, Context.view, Context.target, hfield]
    exact ite_congr rfl (fun _ => rfl) fun _ => rfl
  rw [hrun, hname]
  by_cases hmem : name ∈ state.1
  · simp [hmem]
  · simp [hmem, bind_eq_ok_iff]

theorem foldlM_readMember_eq_ok_iff {members : List (String × Json)} {names : List String}
    {record : ρ} {next : List String × ρ} :
    (Node.ofMembers members).foldlM (readMember {} fields) (names, record) = .ok next ↔
      ((givenNames (fieldNames fields) (.object members)).Nodup ∧
        ∀ name ∈ givenNames (fieldNames fields) (.object members), name ∉ names) ∧
      ∃ sets, List.Forall₂ (Sets fields) (named (fieldNames fields) (.object members)) sets ∧
        ((givenNames (fieldNames fields) (.object members)).reverse ++ names,
          applyAll sets record) = next := by
  induction members generalizing names record with
  | nil => simp [Node.ofMembers, givenNames, named, applyAll, pure, Except.pure]
  | cons member rest ih =>
      obtain ⟨name, json⟩ := member
      rw [Node.ofMembers, List.foldlM_cons, bind_eq_ok_iff]
      cases hfield : fieldNamed? fields name with
      | none =>
          have hname := fieldNamed?_eq_none_iff.mp hfield
          rw [readMember_of_none _ _ hfield, named_cons_of_not_mem _ _ hname,
            givenNames_cons_of_not_mem _ _ hname]
          simpa only [Except.ok.injEq, exists_eq_left'] using ih
      | some field =>
          have hname := mem_fieldNames_of_fieldNamed? hfield
          have hset : ∀ set,
              Sets fields (name, json) set ↔ field.read (.ofJson json) = .ok set := by
            intro set
            simp [Sets, hfield]
          rw [named_cons_of_mem _ _ hname, givenNames_cons_of_mem _ _ hname]
          simp only [readMember_eq_ok_iff hfield, List.nodup_cons, List.forall_mem_cons,
            List.forall₂_cons_left_iff, hset]
          constructor
          · rintro ⟨_, ⟨hnew, set, hset, rfl⟩, hrest⟩
            obtain ⟨⟨hnodup, hapart⟩, sets, hsets, rfl⟩ := ih.mp hrest
            refine ⟨⟨⟨fun hmem => hapart name hmem List.mem_cons_self, hnodup⟩, hnew, ?_⟩,
              _, ⟨set, sets, hset, hsets, rfl⟩, ?_⟩
            · exact fun other hother hmem => hapart other hother (List.mem_cons_of_mem _ hmem)
            · simp [applyAll]
          · rintro ⟨⟨⟨hmem, hnodup⟩, hnew, hapart⟩, _, ⟨set, sets, hset, hsets, rfl⟩, rfl⟩
            refine ⟨_, ⟨hnew, set, hset, rfl⟩, ih.mpr ⟨⟨hnodup, ?_⟩, sets, hsets, ?_⟩⟩
            · intro other hother hmem'
              rcases List.mem_cons.mp hmem' with rfl | hmem'
              · exact hmem hother
              · exact hapart other hother hmem'
            · simp [applyAll]

/-- No field is missing that must be there. -/
def Supplied (fields : List (Field ρ)) (names : List String) : Prop :=
  ∀ field ∈ fields, field.presence = .required → field.name ∈ names

theorem missingField_check_eq_ok_iff {names : List String} {value record : ρ} :
    (if fields.any fun field => field.presence == .required && !names.contains field.name
      then Except.error Problem.missingField else .ok value) = .ok record ↔
      Supplied fields names ∧ value = record := by
  have hmissing : (fields.any fun field =>
      field.presence == .required && !names.contains field.name) = true ↔
        ¬ Supplied fields names := by
    simp [Supplied]
  by_cases hsupplied : Supplied fields names
  · rw [if_neg (mt hmissing.mp (not_not.mpr hsupplied))]
    simp [hsupplied]
  · rw [if_pos (hmissing.mpr hsupplied)]
    simp [hsupplied]

theorem readMembers_eq_ok_iff {members : List (String × Json)} {start record : ρ} :
    readMembers {} fields start (Node.ofMembers members) true = .ok record ↔
      ((givenNames (fieldNames fields) (.object members)).Nodup ∧
        Supplied fields (givenNames (fieldNames fields) (.object members))) ∧
      ∃ sets, List.Forall₂ (Sets fields) (named (fieldNames fields) (.object members)) sets ∧
        applyAll sets start = record := by
  have hrun : readMembers {} fields start (Node.ofMembers members) true =
      (Node.ofMembers members).foldlM (readMember {} fields) ([], start) >>= fun next =>
        if fields.any fun field => field.presence == .required && !next.1.contains field.name
        then .error .missingField else .ok next.2 := by
    rw [readMembers]
    refine congrArg _ (funext fun next => ?_)
    exact ite_congr rfl (fun _ => rfl) fun _ => rfl
  have hsupplied : Supplied fields
        ((givenNames (fieldNames fields) (.object members)).reverse ++ []) ↔
      Supplied fields (givenNames (fieldNames fields) (.object members)) := by
    simp [Supplied]
  rw [hrun, bind_eq_ok_iff]
  simp only [foldlM_readMember_eq_ok_iff, missingField_check_eq_ok_iff]
  constructor
  · rintro ⟨_, ⟨⟨hnodup, _⟩, sets, hsets, rfl⟩, hrequired, heq⟩
    exact ⟨⟨hnodup, hsupplied.mp hrequired⟩, sets, hsets, heq⟩
  · rintro ⟨⟨hnodup, hrequired⟩, sets, hsets, heq⟩
    exact ⟨_, ⟨⟨hnodup, fun _ _ => List.not_mem_nil⟩, sets, hsets, rfl⟩,
      hsupplied.mpr hrequired, heq⟩

/-- A record that is written as the list of its fields. -/
theorem readElements_eq_ok_iff {items : List Json} {start record : ρ} :
    readElements true start fields (Node.ofItems items) = .ok record ↔
      (items.length ≤ fields.length ∧
        ∀ field ∈ fields.drop items.length, field.presence = .defaulted) ∧
      ∃ sets, List.Forall₂ (fun element set => element.1.read (.ofJson element.2) = .ok set)
          (fields.zip items) sets ∧ applyAll sets start = record := by
  induction fields generalizing items start with
  | nil =>
      cases items with
      | nil =>
          have hrun : readElements true start ([] : List (Field ρ)) (Node.ofItems []) =
              .ok start := rfl
          simp [hrun, applyAll]
      | cons item rest => simp [Node.ofItems, readElements]
  | cons field fields ih =>
      cases items with
      | nil =>
          have hrun : readElements true start (field :: fields) (Node.ofItems []) =
              if field.presence = .defaulted then readElements true start fields (Node.ofItems [])
              else .error .missingField := rfl
          rw [hrun]
          by_cases hfield : field.presence = .defaulted
          · simpa [hfield] using @ih [] start
          · simp [hfield]
      | cons item rest =>
          have hrun : readElements true start (field :: fields) (Node.ofItems (item :: rest)) =
              field.read (.ofJson item) >>= fun set =>
                readElements true (set start) fields (Node.ofItems rest) := rfl
          rw [hrun, bind_eq_ok_iff]
          simp only [ih, List.zip_cons_cons, List.forall₂_cons_left_iff, List.length_cons,
            List.drop_succ_cons, Nat.add_le_add_iff_right]
          constructor
          · rintro ⟨set, hset, hlength, sets, hsets, rfl⟩
            exact ⟨hlength, _, ⟨set, sets, hset, hsets, rfl⟩, rfl⟩
          · rintro ⟨hlength, _, ⟨set, sets, hset, hsets, rfl⟩, rfl⟩
            exact ⟨set, hset, hlength, sets, hsets, rfl⟩

/-- Every field finds its value: none is there twice, and none is missing that must be there. At the
end of a list only fields with a default may be left out. -/
def Complete (fields : List (Field ρ)) : Json → Prop
  | .object members =>
      (givenNames (fieldNames fields) (.object members)).Nodup ∧
        Supplied fields (givenNames (fieldNames fields) (.object members))
  | .array items =>
      items.length ≤ fields.length ∧
        ∀ field ∈ fields.drop items.length, field.presence = .defaulted
  | _ => False

theorem map_fst_zip_sublist {α β : Type} :
    ∀ (xs : List α) (ys : List β), ((xs.zip ys).map Prod.fst).Sublist xs
  | [], _ => List.Sublist.refl []
  | x :: xs, [] => List.nil_sublist (x :: xs)
  | x :: xs, _ :: ys => (map_fst_zip_sublist xs ys).cons_cons x

theorem Complete.nodup_givenNames {json : Json} (hcomplete : Complete fields json)
    (hfields : (fieldNames fields).Nodup) : (givenNames (fieldNames fields) json).Nodup := by
  cases json with
  | object members => exact hcomplete.1
  | array items => exact hfields.sublist (map_fst_zip_sublist _ _)
  | _ => exact hcomplete.elim

theorem fieldNamed?_of_mem (hfields : (fieldNames fields).Nodup) {field : Field ρ}
    (hfield : field ∈ fields) : fieldNamed? fields field.name = some field := by
  cases hfound : fieldNamed? fields field.name with
  | none => exact absurd (List.mem_map_of_mem hfield) (fieldNamed?_eq_none_iff.mp hfound)
  | some found =>
      have hmem := List.mem_of_find?_eq_some hfound
      rw [List.inj_on_of_nodup_map hfields hmem hfield (name_of_fieldNamed? hfound)]

theorem forall₂_sets_named_array_iff (hfields : (fieldNames fields).Nodup) {items : List Json}
    {sets : List (ρ → ρ)} :
    List.Forall₂ (Sets fields) (named (fieldNames fields) (.array items)) sets ↔
      List.Forall₂ (fun element set => element.1.read (.ofJson element.2) = .ok set)
        (fields.zip items) sets := by
  have hnamed : named (fieldNames fields) (.array items) =
      (fields.zip items).map fun element => (element.1.name, element.2) := by
    rw [named, fieldNames, List.zip_map_left]
    rfl
  rw [hnamed, List.forall₂_map_left_iff, List.forall₂_iff_zip, List.forall₂_iff_zip]
  refine and_congr_right fun _ => forall₂_congr fun element set => forall_congr' fun hmem => ?_
  have hfield := (List.of_mem_zip (List.of_mem_zip hmem).1).1
  simp [Sets, fieldNamed?_of_mem hfields hfield]

/-- A record is read from a value that is an object or a list with every field in place, by the
changes that its members make one after the other. -/
theorem readRecord_eq_ok_iff (hfields : (fieldNames fields).Nodup) {depth : Nat} {json : Json}
    {start record : ρ} :
    readRecord {} depth fields start (.ofJson json) = .ok record ↔
      (depth ≠ 0 ∧ Complete fields json) ∧
      ∃ sets, List.Forall₂ (Sets fields) (named (fieldNames fields) json) sets ∧
        applyAll sets start = record := by
  cases json with
  | object members =>
      have hrun : readRecord {} depth fields start (.ofJson (.object members)) =
          if depth = 0 then .error .tooDeep
          else readMembers {} fields start (Node.ofMembers members) true := rfl
      rw [hrun]
      by_cases hdepth : depth = 0
      · simp [hdepth]
      · simp only [hdepth, if_false, not_false_iff, true_and, ne_eq, Complete,
          readMembers_eq_ok_iff]
  | array items =>
      have hrun : readRecord {} depth fields start (.ofJson (.array items)) =
          if depth = 0 then .error .tooDeep
          else readElements true start fields (Node.ofItems items) := rfl
      rw [hrun]
      by_cases hdepth : depth = 0
      · simp [hdepth]
      · simp only [hdepth, if_false, not_false_iff, true_and, ne_eq, Complete,
          readElements_eq_ok_iff, forall₂_sets_named_array_iff hfields]
  | _ => simp [readRecord, Node.ofJson, Context.view, Context.target, Complete]

end

end ClientPlan.Source
