import Mathlib.Data.List.Pairwise
import Mathlib.Data.List.Perm.Basic
import ClientPlan.OpenApi.Reading
import ClientPlan.Proofs.OpenApi.Edit
import ClientPlan.Proofs.Source.JsonReading

/-! # Readers that overlook edits

A reader overlooks the edits in the values that it accepts if it reads the same from them
afterwards. Each way of reading passes this on from the readers of its parts to the whole, a record
from those of its fields.
-/

namespace ClientPlan.OpenApi

open Json Source

variable {α : Type}

section

variable {limit : Nat} {read : Node → Except Problem Schema} {json : Json}

/-- What is said of additional keys, from a settled node. -/
def readSettled (read : Node → Except Problem Schema) :
    Node → Except Problem (Additional Schema)
  | .bool value => .ok (.allowed value)
  | settled =>
    match read settled with
    | .ok schema => .ok (.each schema)
    | .error _ => .error .wrongShape

theorem readSettled_eq_ok_iff (hjson : json.IsContainer) {value : Additional Schema} :
    readSettled read (.ofJson json) = .ok value ↔
      ∃ schema, read (.ofJson json) = .ok schema ∧ .each schema = value := by
  have hrun : readSettled read (.ofJson json) =
      match read (.ofJson json) with
      | .ok schema => .ok (.each schema)
      | .error _ => .error .wrongShape := by
    cases json with
    | array items => rfl
    | object members => rfl
    | _ => exact hjson.elim
  rw [hrun]
  cases read (.ofJson json) <;> simp

/-- A schema of additional values is settled before it is read, so that whatever is passed over in
it may not nest beyond the limit either. -/
theorem readAdditional_eq_ok_iff (hjson : json.IsContainer) {value : Additional Schema} :
    readAdditional {} limit read (.ofJson json) = .ok value ↔
      json.nesting ≤ limit ∧ ∃ schema, read (.ofJson json) = .ok schema ∧ .each schema = value := by
  have hrun : readAdditional {} limit read (.ofJson json) =
      settle {} limit (.ofJson json) >>= readSettled read := rfl
  rw [hrun, bind_eq_ok_iff]
  simp only [settle_ofJson_eq_ok_iff, and_assoc, exists_and_left, exists_eq_left',
    readSettled_eq_ok_iff hjson]

end

/-- What the reader accepts, it reads the same after an edit, as long as the value nests to the
limit and no further. -/
def Overlooks (limit : Nat) (content : Content) (read : Node → Except Problem α) : Prop :=
  ∀ ⦃json other⦄, Edit content json other → other.nesting ≤ limit →
    ∀ ⦃value⦄, read (.ofJson json) = .ok value → read (.ofJson other) = .ok value

namespace Overlooks

variable {limit : Nat} {content : Content} {kind : RecordKind} {read : Node → Except Problem α}

theorem plain : Overlooks limit .plain read :=
  fun _ _ hedit => nomatch hedit

theorem map {β : Type} (hread : Overlooks limit content read) (f : α → β) :
    Overlooks limit content fun node => (read node).map f := by
  intro json other hedit hother value hjson
  obtain ⟨before, hbefore, rfl⟩ := map_eq_ok_iff.mp hjson
  exact map_eq_ok_iff.mpr ⟨before, hread hedit hother hbefore, rfl⟩

theorem option (hread : Overlooks limit content read) :
    Overlooks limit content (readOption {} read) := by
  intro json other hedit hother value hjson
  obtain ⟨hcontainer, hedited⟩ := hedit.isContainer
  rw [readOption_of_isContainer hcontainer] at hjson
  rw [readOption_of_isContainer hedited]
  exact hread.map some hedit hother hjson

theorem list (hread : Overlooks (limit - 1) (.record kind) read) :
    Overlooks limit (.list kind) (readList {} limit read) := by
  intro json other hedit hother values hjson
  cases hedit with
  | item before after hvalue =>
      obtain ⟨hlimit, items, hitems, hvalues⟩ := readList_eq_ok_iff.mp hjson
      obtain rfl := Json.array.inj hitems
      have hnesting := (nesting_array_le_iff.mp hother).2 _ (List.mem_append_cons_self)
      refine readList_eq_ok_iff.mpr ⟨hlimit, _, rfl, forall₂_of_replaced ?_ hvalues⟩
      exact fun value hread' => hread hvalue hnesting hread'

theorem mapping (hread : Overlooks (limit - 1) (.record kind) read) :
    Overlooks limit (.map kind) (readMap {} limit read) := by
  intro json other hedit hother values hjson
  cases hedit with
  | entry before after key hvalue =>
      obtain ⟨hlimit, members, hmembers, entries, hentries, rfl⟩ := readMap_eq_ok_iff.mp hjson
      obtain rfl := Json.object.inj hmembers
      have hnesting := (nesting_object_le_iff.mp hother).2 _ List.mem_append_cons_self
      refine readMap_eq_ok_iff.mpr
        ⟨hlimit, _, rfl, entries, forall₂_of_replaced (fun entry hentry => ?_) hentries, rfl⟩
      exact ⟨hentry.1, hread hvalue hnesting hentry.2⟩

theorem additional {read : Node → Except Problem Schema}
    (hread : Overlooks limit (.record .schema) read) :
    Overlooks limit .additional (readAdditional {} limit read) := by
  intro json other hedit hother value hjson
  cases hedit with
  | additional hvalue =>
      obtain ⟨hcontainer, hedited⟩ := hvalue.isContainer
      obtain ⟨_, schema, hschema, rfl⟩ := (readAdditional_eq_ok_iff hcontainer).mp hjson
      exact (readAdditional_eq_ok_iff hedited).mpr
        ⟨hother, schema, hread hvalue hother hschema, rfl⟩

end Overlooks

/-! ## Records -/

/-- Two fields change different parts of a record. -/
def Commute {ρ : Type} (first second : Source.Field ρ) : Prop :=
  ∀ ⦃node other set next⦄, first.read node = .ok set → second.read other = .ok next →
    ∀ record, set (next record) = next (set record)

instance {ρ : Type} : Std.Symm (Commute (ρ := ρ)) where
  symm _ _ hcommute _ _ _ _ hset hnext record := (hcommute hnext hset record).symm

/-- The fields are those of the record, each with a reader that overlooks edits, and they change
different parts of it. -/
structure Overlooking {ρ : Type} (limit : Nat) (kind : RecordKind)
    (fields : List (Source.Field ρ)) : Prop where
  reads : List.Forall₂ (fun entry field =>
    entry.1 = field.name ∧ Overlooks limit entry.2 field.read) kind.fields fields
  commute : fields.Pairwise Commute

theorem exists_field_of_sets {ρ : Type} {kind : RecordKind} {fields : List (Source.Field ρ)}
    {related : String × Content → Source.Field ρ → Prop}
    (hreads : List.Forall₂ (fun entry field => entry.1 = field.name ∧ related entry field)
      kind.fields fields) (hfields : (fieldNames fields).Nodup) {name : String} {content : Content}
    (hentry : (name, content) ∈ kind.fields) {value : Json} {set : ρ → ρ}
    (hset : Sets fields (name, value) set) :
    ∃ field, related (name, content) field ∧ fieldNamed? fields name = some field ∧
      field.read (.ofJson value) = .ok set := by
  obtain ⟨found, hfound, hread⟩ := hset
  obtain ⟨field, hfield, hname, hrelated⟩ := exists_mem_right_of_forall₂ hreads hentry
  have hsame := fieldNamed?_of_mem hfields hfield
  rw [← hname] at hsame
  obtain rfl := Option.some.inj (hsame.symm.trans hfound)
  exact ⟨field, hrelated, hfound, hread⟩

namespace Overlooking

variable {ρ : Type} {limit : Nat} {kind : RecordKind} {fields : List (Source.Field ρ)}
  (hfields : Overlooking limit kind fields)

include hfields

theorem fieldNames_eq : fieldNames fields = kind.names :=
  map_eq_map_of_forall₂ hfields.reads fun _ _ _ hentry => hentry.1.symm

theorem nodup_fieldNames : (fieldNames fields).Nodup :=
  hfields.fieldNames_eq ▸ kind.nodup_names

/-- A member that names a field changes the record in the same way after an edit in its value. -/
theorem sets_of_edit {name : String} {content : Content} (hentry : (name, content) ∈ kind.fields)
    {value other : Json} (hedit : Edit content value other) (hother : other.nesting ≤ limit)
    {set : ρ → ρ} (hset : Sets fields (name, value) set) : Sets fields (name, other) set := by
  obtain ⟨field, hoverlooks, hfield, hread⟩ :=
    exists_field_of_sets hfields.reads hfields.nodup_fieldNames hentry hset
  exact ⟨field, hfield, hoverlooks hedit hother hread⟩

theorem set_commute {members : List (String × Json)} (hnames : (members.map Prod.fst).Nodup)
    {sets : List (ρ → ρ)} (hsets : List.Forall₂ (Sets fields) members sets) :
    ∀ first ∈ sets, ∀ second ∈ sets, ∀ record, first (second record) = second (first record) := by
  intro first hfirst second hsecond record
  obtain ⟨member, hmember, field, hfield, hread⟩ := exists_mem_left_of_forall₂ hsets hfirst
  obtain ⟨other, hother, next, hnext, hreadNext⟩ := exists_mem_left_of_forall₂ hsets hsecond
  by_cases hsame : field = next
  · -- Two members under one name are one member.
    subst hsame
    have hname := (name_of_fieldNamed? hfield).symm.trans (name_of_fieldNamed? hnext)
    obtain rfl := List.inj_on_of_nodup_map hnames hmember hother hname
    rw [Except.ok.inj (hread.symm.trans hreadNext)]
  · have hmem := List.mem_of_find?_eq_some hfield
    have hmemNext := List.mem_of_find?_eq_some hnext
    exact hfields.commute.forall hmem hmemNext hsame hread hreadNext record

/-- The order of the members does not show in the record. -/
theorem exists_sets_of_perm {members others : List (String × Json)}
    (hnames : (members.map Prod.fst).Nodup) (hperm : members.Perm others) {sets : List (ρ → ρ)}
    (hsets : List.Forall₂ (Sets fields) members sets) (start : ρ) :
    ∃ next, List.Forall₂ (Sets fields) others next ∧ applyAll next start = applyAll sets start := by
  obtain ⟨next, hnext, hsame⟩ := List.perm_comp_forall₂ hperm.symm hsets
  refine ⟨next, hnext, hsame.foldl_eq' ?_ start⟩
  intro first hfirst second hsecond record
  exact hfields.set_commute hnames hsets second (hsame.mem_iff.mp hsecond) first
    (hsame.mem_iff.mp hfirst) record

end Overlooking

/-- Members that are no field are passed over, the others are read in any order, and the values are
read by readers that overlook edits. -/
theorem Overlooks.record {ρ : Type} {limit : Nat} {kind : RecordKind}
    {fields : List (Source.Field ρ)} (hfields : Overlooking (limit - 1) kind fields) (start : ρ) :
    Overlooks limit (.record kind) (readRecord {} limit fields start) := by
  intro json other hedit hother record hjson
  have hread := @readRecord_eq_ok_iff _ _ hfields.nodup_fieldNames
  obtain ⟨⟨hlimit, hcomplete⟩, sets, hsets, rfl⟩ := hread.mp hjson
  rw [hread]
  have hnames := hfields.fieldNames_eq
  cases hedit with
  | insert before after hname value =>
      rw [← hnames] at hname
      have hsame := named_insert before after value hname
      rw [Complete, givenNames] at hcomplete ⊢
      rw [hsame]
      exact ⟨⟨hlimit, hcomplete⟩, sets, hsets, rfl⟩
  | reorder hperm =>
      have hsame := named_perm (fieldNames fields) hperm
      have hgiven := hsame.map Prod.fst
      obtain ⟨next, hnext, heq⟩ := hfields.exists_sets_of_perm hcomplete.1 hsame hsets start
      refine ⟨⟨hlimit, hgiven.nodup_iff.mp hcomplete.1, ?_⟩, next, hnext, heq⟩
      exact fun field hfield hrequired => hgiven.mem_iff.mp (hcomplete.2 field hfield hrequired)
  | @member _ name _ _ _ before after hentry hvalue =>
      have hname : name ∈ fieldNames fields := hnames ▸ List.mem_map_of_mem hentry
      have hnesting := (nesting_object_le_iff.mp hother).2 _ List.mem_append_cons_self
      rw [Complete, givenNames_member before after _ hname] at hcomplete ⊢
      rw [named_member before after _ hname] at hsets ⊢
      refine ⟨⟨hlimit, hcomplete⟩, sets, forall₂_of_replaced (fun _ hset => ?_) hsets, rfl⟩
      exact hfields.sets_of_edit hentry hvalue hnesting hset
  | @element _ name _ _ _ before after hentry hvalue =>
      have hname : (fieldNames fields)[before.length]? = some name := by
        rw [hnames, RecordKind.names, List.getElem?_map, hentry]
        rfl
      have hnesting := (nesting_array_le_iff.mp hother).2 _ List.mem_append_cons_self
      rw [named_element hname] at hsets ⊢
      refine ⟨⟨hlimit, ?_⟩, sets, forall₂_of_replaced (fun _ hset => ?_) hsets, rfl⟩
      · simpa [Complete] using hcomplete
      · exact hfields.sets_of_edit (List.mem_of_getElem? hentry) hvalue hnesting hset

end ClientPlan.OpenApi
