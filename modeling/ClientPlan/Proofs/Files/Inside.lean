import ClientPlan.Proofs.Files.Tree
import ClientPlan.Proofs.Text.Split

/-! # Where paths lead by their names

Points and double points are resolved by the names of a path alone. In a tree the path leads to the
same place, if it leads anywhere.
-/

namespace ClientPlan.Files

open Text

/-- The place that some parts lead to from another. -/
def walk? (place : Place) (parts : List String) : Option Place :=
  parts.foldlM step? place

/-- The place that a path leads to from the current folder. -/
def resolve? (path : String) : Option Place :=
  walk? [] (pathParts path)

/-- A path leads into a folder, and not to the folder itself. -/
def Inside (folder path : String) : Prop :=
  ∃ inner, inner ≠ [] ∧ resolve? path = some (folder :: inner)

/-! ## Steps -/

/-- A part with another character than points is a name. -/
theorem step?_of_mem {part : String} {c : Char} (hc : c ∈ part.toList) (hpoint : c ≠ '.')
    (place : Place) : step? place part = some (place ++ [part]) := by
  have hempty : part ≠ "" := by
    rintro rfl
    simp at hc
  have hone : part ≠ "." := by
    rintro rfl
    simp [hpoint] at hc
  have htwo : part ≠ ".." := by
    rintro rfl
    simp [hpoint] at hc
  simp [step?, hempty, hone, htwo]

theorem step?_append {place next : Place} {part : String} (hstep : step? place part = some next)
    (base : Place) : step? (base ++ place) part = some (base ++ next) := by
  rw [step?] at hstep ⊢
  split at hstep
  next hstay =>
    rw [if_pos hstay, ← Option.some.inj hstep]
  next hstay =>
    rw [if_neg hstay]
    split at hstep
    next hup =>
      rw [if_pos hup]
      cases place with
      | nil => cases hstep
      | cons head tail =>
          rw [← Option.some.inj hstep]
          simp [List.dropLast_append_of_ne_nil]
    next hup =>
      rw [if_neg hup, ← Option.some.inj hstep, List.append_assoc]

/-- Only double points lead out of a place. -/
theorem exists_step?_eq (place : Place) {part : String} (hpart : part ≠ "..") :
    ∃ inner, step? place part = some (place ++ inner) := by
  rw [step?]
  split
  next => exact ⟨[], by rw [List.append_nil]⟩
  next => exact ⟨[part], rfl⟩

/-! ## Walks -/

theorem walk?_append (place : Place) (first second : List String) :
    walk? place (first ++ second) = (walk? place first).bind fun middle => walk? middle second :=
  List.foldlM_append

theorem walk?_cons (place : Place) (part : String) (rest : List String) :
    walk? place (part :: rest) = (step? place part).bind fun next => walk? next rest :=
  List.foldlM_cons

theorem walk?_singleton (place : Place) (part : String) : walk? place [part] = step? place part := by
  rw [walk?_cons]
  cases step? place part <;> rfl

/-- A walk goes below any place as it does from the top. -/
theorem walk?_under {place found : Place} {parts : List String}
    (hwalk : walk? place parts = some found) (base : Place) :
    walk? (base ++ place) parts = some (base ++ found) := by
  induction parts generalizing place with
  | nil => rw [← Option.some.inj hwalk]; rfl
  | cons part rest ih =>
      rw [walk?_cons] at hwalk ⊢
      obtain ⟨next, hnext, hrest⟩ := Option.bind_eq_some_iff.mp hwalk
      rw [step?_append hnext base, Option.bind_some, ih hrest]

theorem exists_walk?_eq (place : Place) {parts : List String} (hparts : ".." ∉ parts) :
    ∃ inner, walk? place parts = some (place ++ inner) := by
  induction parts generalizing place with
  | nil => exact ⟨[], by rw [List.append_nil]; rfl⟩
  | cons part rest ih =>
      obtain ⟨hpart, hrest⟩ := List.ne_and_not_mem_of_not_mem_cons hparts
      obtain ⟨first, hfirst⟩ := exists_step?_eq place hpart.symm
      obtain ⟨inner, hinner⟩ := ih (place ++ first) hrest
      exact ⟨first ++ inner, by rw [walk?_cons, hfirst, Option.bind_some, hinner, List.append_assoc]⟩

/-- A path leads to its place by its names. -/
theorem walk?_of_follow {tree : Tree} {place found : Place} {parts : List String}
    (hfollow : tree.follow place parts = .ok found) : walk? place parts = some found := by
  induction parts generalizing place with
  | nil => exact congrArg some (Except.ok.inj hfollow)
  | cons part rest ih =>
      obtain ⟨_, next, hnext, hrest⟩ := Tree.follow_cons_eq_ok_iff.mp hfollow
      rw [walk?_cons, hnext, Option.bind_some, ih hrest]

theorem resolve?_of_locate {tree : Tree} {path : String} {place : Place}
    (hlocate : tree.locate path = .ok place) : resolve? path = some place :=
  walk?_of_follow (Tree.locate_eq_ok_iff.mp hlocate).2

/-! ## Paths below a folder -/

theorem pathParts_of_toList_eq {path first rest : String}
    (hpath : path.toList = first.toList ++ '/' :: rest.toList) :
    pathParts path = pathParts first ++ pathParts rest := by
  simp only [pathParts, splitString, hpath, splitOn_append_cons, List.map_append]

/-- A path below a folder leads where it leads from that folder. -/
theorem resolve?_joinPath {output path : String} (hpath : path.toList.head? ≠ some '/') :
    resolve? (joinPath output path) =
      (resolve? output).bind fun base => walk? base (pathParts path) := by
  have hempty : ∀ place, walk? place [""] = some place := fun place => rfl
  rw [joinPath]
  split
  next hfile =>
    have houtput : output = "" := by simpa [hpath] using hfile
    rw [houtput]
    rfl
  next =>
    split
    next hslash =>
      obtain ⟨init, hinit⟩ := List.getLast?_eq_some_iff.mp hslash
      have hoccurs : output.toList = (String.ofList init).toList ++ '/' :: "".toList := by
        simpa using hinit
      have hjoined : (output ++ path).toList = (String.ofList init).toList ++ '/' :: path.toList := by
        simp [hinit]
      rw [resolve?, resolve?, pathParts_of_toList_eq hjoined, pathParts_of_toList_eq hoccurs,
        walk?_append, walk?_append]
      simp only [show pathParts "" = [""] from rfl, hempty, Option.bind_fun_some]
    next =>
      have hjoined : (output ++ "/" ++ path).toList = output.toList ++ '/' :: path.toList := by
        simp
      rw [resolve?, resolve?, pathParts_of_toList_eq hjoined, walk?_append]

end ClientPlan.Files
