import ClientPlan.Files.Tree

/-! # What changes in a tree

Making a folder changes no file, and writing a file changes no other. Neither takes a folder away,
so a path that leads to a place goes on to lead there.
-/

namespace ClientPlan.Files

/-! ## Places that paths lead to -/

/-- The place that one part of a path leads to, by the names alone. A step up from the empty place
leads nowhere. -/
def step? (place : Place) (part : String) : Option Place :=
  if part = "" || part = "." then some place
  else if part = ".." then if place.isEmpty then none else some place.dropLast
  else some (place ++ [part])

/-- A part that is no name of its own, or a name that is not too long. -/
def IsPart (part : String) : Prop :=
  part ∈ ["", ".", ".."] ∨ part.utf8ByteSize ≤ Tree.nameLimit

/-- A path that can lead into a tree. -/
def IsPath (path : String) : Prop :=
  '\x00' ∉ path.toList ∧ path ≠ "" ∧ path.utf8ByteSize < Tree.pathLimit ∧
    path.toList.head? ≠ some '/'

namespace Tree

/-- A path goes on through a folder as its names say. -/
theorem follow_cons_eq_ok_iff {tree : Tree} {place found : Place} {part : String}
    {rest : List String} :
    tree.follow place (part :: rest) = .ok found ↔
      (tree.get? place = some .folder ∧ IsPart part) ∧
        ∃ next, step? place part = some next ∧ tree.follow next rest = .ok found := by
  rw [follow, IsPart, step?, ← Nat.not_lt]
  cases hentry : tree.get? place with
  | none => simp
  | some entry =>
      cases entry with
      | folder =>
          by_cases hstay : part = "" ∨ part = "."
          · rcases hstay with rfl | rfl <;> simp
          · by_cases hup : part = ".."
            · subst hup
              cases place <;> simp
            · obtain ⟨hempty, hpoint⟩ := not_or.mp hstay
              by_cases hlong : nameLimit < part.utf8ByteSize <;>
                simp [hempty, hpoint, hup, hlong]
      | text contents => simp
      | binary bytes => simp

theorem locate_eq_ok_iff {tree : Tree} {path : String} {place : Place} :
    tree.locate path = .ok place ↔
      IsPath path ∧ tree.follow [] (pathParts path) = .ok place := by
  rw [locate, IsPath]
  by_cases hnul : '\x00' ∈ path.toList
  · simp [hnul]
  · by_cases hempty : path = ""
    · simp [hempty]
    · by_cases hlong : pathLimit ≤ path.utf8ByteSize
      · simp [hnul, hempty, hlong, Nat.not_lt.mpr hlong]
      · by_cases hroot : path.toList.head? = some '/'
        · simp [hnul, hempty, hlong, hroot]
        · simp [hnul, hempty, hlong, hroot, Nat.not_le.mp hlong]

/-- The folders of one tree are folders of another. -/
def KeepsFolders (before after : Tree) : Prop :=
  ∀ place, before.get? place = some .folder → after.get? place = some .folder

section

variable {before after : Tree} (hkeeps : before.KeepsFolders after)

include hkeeps

theorem follow_of_keepsFolders {place found : Place} {parts : List String}
    (hfollow : before.follow place parts = .ok found) : after.follow place parts = .ok found := by
  induction parts generalizing place with
  | nil => exact hfollow
  | cons part rest ih =>
      obtain ⟨⟨hfolder, hpart⟩, next, hnext, hrest⟩ := follow_cons_eq_ok_iff.mp hfollow
      exact follow_cons_eq_ok_iff.mpr ⟨⟨hkeeps place hfolder, hpart⟩, next, hnext, ih hrest⟩

theorem locate_of_keepsFolders {path : String} {place : Place}
    (hlocate : before.locate path = .ok place) : after.locate path = .ok place := by
  obtain ⟨hpath, hfollow⟩ := locate_eq_ok_iff.mp hlocate
  exact locate_eq_ok_iff.mpr ⟨hpath, follow_of_keepsFolders hkeeps hfollow⟩

end

/-! ## Files -/

/-- The file at a place. -/
def file? (tree : Tree) (place : Place) : Option Entry :=
  match tree.get? place with
  | some .folder => none
  | other => other

/-- One tree becomes another by folders alone. -/
structure Grows (before after : Tree) : Prop where
  keepsFolders : before.KeepsFolders after
  file?_eq : ∀ place, after.file? place = before.file? place

/-- One tree becomes another by folders, and by a file that is written at a place. -/
structure Gains (before after : Tree) (place : Place) (contents : String) : Prop where
  keepsFolders : before.KeepsFolders after
  file?_eq : ∀ other,
    after.file? other = if place = other then some (.text contents) else before.file? other

theorem KeepsFolders.trans {first second third : Tree} (hfirst : first.KeepsFolders second)
    (hsecond : second.KeepsFolders third) : first.KeepsFolders third :=
  fun place hfolder => hsecond place (hfirst place hfolder)

theorem Grows.refl (tree : Tree) : tree.Grows tree :=
  ⟨fun _ hfolder => hfolder, fun _ => rfl⟩

theorem Grows.trans {first second third : Tree} (hfirst : first.Grows second)
    (hsecond : second.Grows third) : first.Grows third where
  keepsFolders := hfirst.keepsFolders.trans hsecond.keepsFolders
  file?_eq place := (hsecond.file?_eq place).trans (hfirst.file?_eq place)

theorem Grows.trans_gains {first second third : Tree} {place : Place} {contents : String}
    (hfirst : first.Grows second) (hsecond : second.Gains third place contents) :
    first.Gains third place contents where
  keepsFolders := hfirst.keepsFolders.trans hsecond.keepsFolders
  file?_eq other := by rw [hsecond.file?_eq, hfirst.file?_eq]

theorem ne_nil_of_get?_ne_folder (tree : Tree) {place : Place}
    (hentry : tree.get? place ≠ some .folder) : place ≠ [] := by
  rintro rfl
  exact hentry rfl

theorem grows_of_makeFolder {before after : Tree} {path : String}
    (hmake : before.makeFolder path = .ok after) : before.Grows after := by
  rw [makeFolder] at hmake
  split at hmake
  next => cases hmake
  next place _ =>
    split at hmake
    next => cases hmake
    next hfree =>
      have hnone : before.get? place = none := by simpa using hfree
      have hplace : place ≠ [] := ne_nil_of_get?_ne_folder before (by simp [hnone])
      obtain rfl := Except.ok.inj hmake
      constructor
      · intro other hother
        rw [get?_set hplace, hother, ite_self]
      · intro other
        by_cases hother : place = other
        · subst hother
          simp [file?, get?_set hplace, hnone]
        · simp [file?, get?_set hplace, hother]

theorem gains_of_writeText {before after : Tree} {path contents : String}
    (hwrite : before.writeText path contents = .ok after) :
    ∃ place, before.locate path = .ok place ∧ before.Gains after place contents := by
  rw [writeText] at hwrite
  split at hwrite
  next => cases hwrite
  next place hlocate =>
    refine ⟨place, hlocate, ?_⟩
    split at hwrite
    next => cases hwrite
    next hentry =>
      have hplace : place ≠ [] := ne_nil_of_get?_ne_folder before hentry
      obtain rfl := Except.ok.inj hwrite
      constructor
      · intro other hother
        rw [get?_set hplace, if_neg, hother]
        rintro rfl
        exact hentry hother
      · intro other
        by_cases hother : place = other
        · subst hother
          simp [file?, get?_set hplace]
        · simp [file?, get?_set hplace, hother]

end Tree

end ClientPlan.Files
