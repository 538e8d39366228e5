import Mathlib.Data.List.Perm.Subperm
import ClientPlan.OpenApi.Document
import ClientPlan.Proofs.OrderedMap

/-! # Where references lead

References lead from a schema through components to a schema without a reference, to a name that
no component has, or round in a circle. They are followed for a limited number of hops. The limit
is not met in a document with no more components than that, because a longer way meets some
component twice.
-/

namespace ClientPlan.OpenApi

/-- References lead from one schema to another, through the components with the given names. -/
inductive Document.Leads (document : Document) : Schema → List String → Schema → Prop
  | here {schema : Schema} : Leads document schema [] schema
  | hop {schema next last : Schema} {name : String} {names : List String}
      (htarget : schema.target? = some name) (hfound : document.schema? name = some next)
      (hrest : Leads document next names last) :
      Leads document schema (name :: names) last

/-- The references of a schema lead to a name that no component has. -/
def Document.MeetsUnknown (document : Document) (schema : Schema) : Prop :=
  ∃ names last name, document.Leads schema names last ∧ last.target? = some name ∧
    document.schema? name = none

/-- The references of a schema lead through some component twice. -/
def Document.RunsInCircle (document : Document) (schema : Schema) : Prop :=
  ∃ names last, document.Leads schema names last ∧ ¬ names.Nodup

theorem Schema.target?_eq_none_iff {schema : Schema} :
    schema.target? = none ↔ schema.reference = none :=
  Option.map_eq_none_iff

namespace Document

variable {document : Document} {schema last : Schema} {names : List String}

namespace Leads

/-- There is one way on, and it does not go on from where the way ends. -/
theorem exists_rest {final : Schema} {all : List String} (hall : document.Leads schema all final)
    (hfinal : final.reference = none) (hleads : document.Leads schema names last) :
    ∃ rest, all = names ++ rest ∧ document.Leads last rest final := by
  induction hleads generalizing all with
  | here => exact ⟨all, rfl, hall⟩
  | hop htarget hfound _ ih =>
      cases hall with
      | here =>
          rw [Schema.target?_eq_none_iff.mpr hfinal] at htarget
          cases htarget
      | hop htarget' hfound' hrest' =>
          obtain rfl := Option.some.inj (htarget.symm.trans htarget')
          obtain rfl := Option.some.inj (hfound.symm.trans hfound')
          obtain ⟨rest, rfl, hlater⟩ := ih hrest'
          exact ⟨rest, rfl, hlater⟩

/-- The way goes on from each component on it as it goes on from that component anywhere. -/
theorem of_append_cons {before after : List String} {name : String}
    (hleads : document.Leads schema (before ++ name :: after) last) :
    ∃ next, document.schema? name = some next ∧ document.Leads next after last := by
  induction before generalizing schema with
  | nil =>
      rcases hleads with _ | ⟨_, hfound, hrest⟩
      exact ⟨_, hfound, hrest⟩
  | cons head before ih =>
      rcases hleads with _ | ⟨_, _, hrest⟩
      exact ih hrest

/-- A way that ends meets no component twice: it would go on from there in two ways. -/
theorem nodup (hleads : document.Leads schema names last) (hlast : last.reference = none) :
    names.Nodup := by
  induction hleads with
  | here => exact List.nodup_nil
  | hop _ hfound hrest ih =>
      refine List.nodup_cons.mpr ⟨fun hmem => ?_, ih hlast⟩
      obtain ⟨before, after, rfl⟩ := List.append_of_mem hmem
      obtain ⟨next, hfound', hafter⟩ := hrest.of_append_cons
      obtain rfl := Option.some.inj (hfound.symm.trans hfound')
      obtain ⟨rest, heq, _⟩ := hafter.exists_rest hlast hrest
      have hlength := congrArg List.length heq
      simp only [List.length_append, List.length_cons] at hlength
      omega

theorem subset_keys (hleads : document.Leads schema names last) :
    names ⊆ document.schemas.keys := by
  induction hleads with
  | here => exact List.nil_subset _
  | hop _ hfound _ ih =>
      exact List.cons_subset.mpr
        ⟨List.mem_map_of_mem (OrderedMap.mem_of_find?_eq_some hfound), ih⟩

end Leads

/-! ## Following references -/

theorem follow_of_leads {hops : Nat} {target : Schema} (hleads : document.Leads schema names target)
    (hlength : names.length ≤ hops) (hend : target.reference = none) :
    document.follow hops schema = some target := by
  induction hleads generalizing hops with
  | here =>
      unfold follow
      rw [Schema.target?_eq_none_iff.mpr hend]
  | hop htarget hfound _ ih =>
      rcases hops with _ | hops
      · exact absurd hlength (Nat.not_succ_le_zero _)
      · unfold follow
        rw [htarget]
        dsimp only
        rw [hfound]
        exact ih (Nat.le_of_succ_le_succ hlength) hend

theorem follow_eq_some_iff {hops : Nat} {target : Schema} :
    document.follow hops schema = some target ↔
      ∃ names, document.Leads schema names target ∧ names.length ≤ hops ∧
        target.reference = none := by
  refine ⟨fun hfollow => ?_, fun ⟨names, hleads, hlength, hend⟩ =>
    follow_of_leads hleads hlength hend⟩
  fun_induction document.follow hops schema with
  | case1 hops schema hnone =>
      obtain rfl := Option.some.inj hfollow
      exact ⟨[], .here, Nat.zero_le _, Schema.target?_eq_none_iff.mp hnone⟩
  | case2 => cases hfollow
  | case3 schema name left htarget next hfound ih =>
      obtain ⟨names, hleads, hlength, hend⟩ := ih hfollow
      exact ⟨name :: names, .hop htarget hfound hleads, Nat.succ_le_succ hlength, hend⟩
  | case4 => cases hfollow

/-- Where no schema is found, references lead to an unknown name or further than they are
followed. -/
theorem meetsUnknown_or_of_follow_eq_none {hops : Nat}
    (hnone : document.follow hops schema = none) :
    document.MeetsUnknown schema ∨
      ∃ names last, document.Leads schema names last ∧ names.length = hops + 1 := by
  fun_induction document.follow hops schema with
  | case1 => cases hnone
  | case2 schema name htarget =>
      cases hfound : document.schema? name with
      | none => exact .inl ⟨[], schema, name, .here, htarget, hfound⟩
      | some next => exact .inr ⟨[name], next, .hop htarget hfound .here, rfl⟩
  | case3 schema name left htarget next hfound ih =>
      rcases ih hnone with ⟨names, last, unknown, hleads, hunknown⟩ | ⟨names, last, hleads, hlength⟩
      · exact .inl ⟨name :: names, last, unknown, .hop htarget hfound hleads, hunknown⟩
      · exact .inr ⟨name :: names, last, .hop htarget hfound hleads, congrArg Nat.succ hlength⟩
  | case4 schema name left htarget hunknown =>
      exact .inl ⟨[], schema, name, .here, htarget, hunknown⟩

theorem not_meetsUnknown_of_leads {final : Schema} (hleads : document.Leads schema names final)
    (hfinal : final.reference = none) : ¬ document.MeetsUnknown schema := by
  rintro ⟨others, last, name, hothers, htarget, hunknown⟩
  obtain ⟨rest, _, hrest⟩ := hleads.exists_rest hfinal hothers
  rcases hrest with _ | ⟨htarget', hfound, _⟩
  · rw [Schema.target?_eq_none_iff.mpr hfinal] at htarget
    cases htarget
  · obtain rfl := Option.some.inj (htarget.symm.trans htarget')
    rw [hunknown] at hfound
    cases hfound

theorem not_runsInCircle_of_leads {final : Schema} (hleads : document.Leads schema names final)
    (hfinal : final.reference = none) : ¬ document.RunsInCircle schema := by
  rintro ⟨others, last, hothers, hagain⟩
  obtain ⟨rest, rfl, _⟩ := hleads.exists_rest hfinal hothers
  exact hagain (List.nodup_append.mp (hleads.nodup hfinal)).1

/-- A schema resolves to the first schema without a reference that it leads to within 32 hops. In a
document with no more components than that, it fails to resolve only where its references lead to
no schema at all. -/
theorem resolve_exact (document : Document) (schema : Schema) :
    (∀ target, document.resolve schema = some target ↔
      ∃ names, document.Leads schema names target ∧ names.length ≤ 32 ∧
        target.reference = none) ∧
      (document.schemas.length ≤ 32 →
        (document.resolve schema = none ↔
          document.MeetsUnknown schema ∨ document.RunsInCircle schema)) := by
  refine ⟨fun target => follow_eq_some_iff, fun hsmall => ⟨fun hnone => ?_, fun hlost => ?_⟩⟩
  · refine (meetsUnknown_or_of_follow_eq_none hnone).imp_right ?_
    rintro ⟨names, last, hleads, hlength⟩
    refine ⟨names, last, hleads, fun hnodup => ?_⟩
    have hbound : names.length ≤ document.schemas.keys.length :=
      (hnodup.subperm hleads.subset_keys).length_le
    rw [OrderedMap.keys, List.length_map, hlength, maxHops] at hbound
    omega
  · refine Option.eq_none_iff_forall_ne_some.mpr fun target htarget => ?_
    obtain ⟨names, hleads, _, hend⟩ := follow_eq_some_iff.mp htarget
    exact hlost.elim (not_meetsUnknown_of_leads hleads hend)
      (not_runsInCircle_of_leads hleads hend)

/-- A schema that refers to a component. -/
def referringTo (name : String) : Schema :=
  { reference := some (componentPrefix ++ name) }

/-- References two hops long, a circle, and a reference to nothing. -/
def signposts : Document where
  components := some
    { schemas := some
        [("ToyId", referringTo "Number"),
          ("Number", { type := some (.single "integer") }),
          ("Left", referringTo "Right"),
          ("Right", referringTo "Left"),
          ("Astray", referringTo "Gone")] }

theorem resolve_exact_signposts :
    signposts.schemas.length ≤ 32 ∧
      (∃ names, signposts.Leads (referringTo "ToyId") names { type := some (.single "integer") } ∧
        names.length ≤ 32) ∧
      signposts.RunsInCircle (referringTo "Left") ∧
      signposts.resolve (referringTo "Left") = none ∧
      signposts.resolve (referringTo "Astray") = none ∧
      (signposts.MeetsUnknown (referringTo "Astray") ∨
        signposts.RunsInCircle (referringTo "Astray")) := by
  have hsmall : signposts.schemas.length ≤ 32 := by decide
  obtain ⟨hfound, _⟩ := resolve_exact signposts (referringTo "ToyId")
  obtain ⟨names, hleads, hlength, _⟩ := (hfound { type := some (.single "integer") }).mp rfl
  obtain ⟨_, hcircle⟩ := resolve_exact signposts (referringTo "Left")
  obtain ⟨_, hastray⟩ := resolve_exact signposts (referringTo "Astray")
  have hround : signposts.RunsInCircle (referringTo "Left") :=
    ⟨["Left", "Right", "Left"], referringTo "Right",
      .hop rfl rfl (.hop rfl rfl (.hop rfl rfl .here)), by decide⟩
  exact ⟨hsmall, ⟨names, hleads, hlength⟩, hround, (hcircle hsmall).mpr (.inr hround), rfl,
    (hastray hsmall).mp rfl⟩

end Document

end ClientPlan.OpenApi
