import ClientPlan.PathTemplate.Placeholder
import ClientPlan.Proofs.Text.Replace

/-! # Segments cover a path

A placeholder is read off the beginning of a text, and so the segments of a raw path are the path
again when they are written as they were found.
-/

namespace ClientPlan.PathTemplate

open Text

/-- A segment as it is written in the raw path. -/
def Segment.source : Segment → List Char
  | literal c => [c]
  | placeholder found => found.source

section

variable {text : List Char}

theorem documentForm?_source {found : Placeholder} (hfound : documentForm? text = some found) :
    found.source <+: text ∧ found.source ≠ [] := by
  unfold documentForm? at hfound
  split at hfound
  next rest =>
    split at hfound
    next after hclose =>
      dsimp only at hfound
      split at hfound
      next => cases hfound
      next =>
        obtain rfl := Option.some.inj hfound
        have hrest : rest.takeWhile isNameChar ++ '}' :: after = rest := by
          rw [← hclose, List.takeWhile_append_dropWhile]
        refine ⟨⟨after, ?_⟩, List.cons_ne_nil _ _⟩
        simpa using hrest
    next => cases hfound
  next => cases hfound

theorem prefix_of_encodedTail? {tail : List Char} (htail : encodedTail? text = some tail) :
    tail <+: text := by
  unfold encodedTail? at htail
  split at htail
  next after hclose =>
    obtain rfl := Option.some.inj htail
    refine ⟨after, ?_⟩
    have htext := List.takeWhile_append_dropWhile (p := (· ≠ ')')) (l := text)
    rw [hclose] at htext
    simpa using htext
  next => cases htail

theorem prefix_of_encodedName? {length : Nat} {inner tail : List Char}
    (hname : encodedName? text length = some (inner, tail)) : inner ++ tail <+: text := by
  induction length with
  | zero => cases hname
  | succ length ih =>
      rw [encodedName?] at hname
      split at hname
      next found htail =>
        obtain ⟨rfl, rfl⟩ := Prod.mk.inj (Option.some.inj hname)
        have hbegin := List.prefix_append_right_inj (text.take (length + 1)) |>.mpr
          (prefix_of_encodedTail? htail)
        rwa [List.take_append_drop] at hbegin
      next => exact ih hname

/-- The arguments as they are written. -/
def EncodedArguments.source (found : EncodedArguments) : List Char :=
  found.before ++ found.inner ++ found.tail

theorem prefix_of_markedArguments? {found : EncodedArguments}
    (hfound : markedArguments? text = some found) : found.source <+: text := by
  unfold markedArguments? at hfound
  split at hfound
  next rest hmark =>
    split at hfound
    next inner tail hname =>
      obtain rfl := Option.some.inj hfound
      rw [eq_append_of_dropWord? hmark, EncodedArguments.source, List.append_assoc,
        List.prefix_append_right_inj]
      exact prefix_of_encodedName? hname
    next => cases hfound
  next => cases hfound

theorem prefix_of_encodedArguments? {found : EncodedArguments}
    (hfound : encodedArguments? text = some found) : found.source <+: text := by
  induction text generalizing found with
  | nil => cases hfound
  | cons c rest ih =>
      rw [encodedArguments?] at hfound
      split at hfound
      next marked hmarked =>
        obtain rfl := Option.some.inj hfound
        exact prefix_of_markedArguments? hmarked
      next =>
        split at hfound
        next => cases hfound
        next =>
          split at hfound
          next later hlater =>
            obtain rfl := Option.some.inj hfound
            exact List.cons_prefix_cons.mpr ⟨rfl, ih hlater⟩
          next => cases hfound

theorem encodedForm?_source {found : Placeholder} (hfound : encodedForm? text = some found) :
    found.source <+: text ∧ found.source ≠ [] := by
  unfold encodedForm? at hfound
  split at hfound
  next rest hstart =>
    split at hfound
    next arguments harguments =>
      obtain rfl := Option.some.inj hfound
      have hbegin := prefix_of_encodedArguments? harguments
      rw [EncodedArguments.source] at hbegin
      constructor
      · rw [eq_append_of_dropWord? hstart]
        simpa only [List.append_assoc, List.prefix_append_right_inj] using hbegin
      · have hne : encodedStart ≠ [] := by decide
        simp only [List.append_assoc, ne_eq, List.append_eq_nil_iff, hne, false_and,
          not_false_eq_true]
    next => cases hfound
  next => cases hfound

theorem placeholder?_source {found : Placeholder} (hfound : placeholder? text = some found) :
    found.source <+: text ∧ found.source ≠ [] := by
  unfold placeholder? at hfound
  split at hfound
  next encoded hencoded =>
    obtain rfl := Option.some.inj hfound
    exact encodedForm?_source hencoded
  next => exact documentForm?_source hfound

theorem flatMap_source_segmentsAfter (skip : Nat) :
    (segmentsAfter skip text).flatMap Segment.source = text.drop skip := by
  induction text generalizing skip with
  | nil => rw [segmentsAfter, List.drop_nil, List.flatMap_nil]
  | cons c rest ih =>
      cases skip with
      | succ skip => rw [segmentsAfter, ih, List.drop_succ_cons]
      | zero =>
          rw [segmentsAfter, List.drop_zero]
          split
          next found hfound =>
            obtain ⟨hbegin, hne⟩ := placeholder?_source hfound
            rw [List.flatMap_cons, ih, Segment.source]
            -- The first character of a placeholder is read already, the others are skipped.
            obtain ⟨d, later, hsource⟩ := List.exists_cons_of_ne_nil hne
            rw [hsource] at hbegin ⊢
            obtain ⟨rfl, after, rfl⟩ := List.cons_prefix_cons.mp hbegin
            simp
          next => rw [List.flatMap_cons, ih, List.drop_zero, Segment.source, List.singleton_append]

end

theorem flatMap_source_segments (raw : List Char) :
    (segments raw).flatMap Segment.source = raw :=
  flatMap_source_segmentsAfter 0

end ClientPlan.PathTemplate
