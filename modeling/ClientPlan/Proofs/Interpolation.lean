import Mathlib.Data.List.Infix
import ClientPlan.Proofs.Code.TemplateLiteral
import ClientPlan.Proofs.PathTemplate
import ClientPlan.Proofs.Segments

/-! # Path templates as template literals

A path template is copied between backticks. What it yields there is the path with the values of
variables for its placeholders exactly where no literal character means something else to the
literal and every variable has a name that one can have.
-/

namespace ClientPlan.PathTemplate

open Client Code Code.TemplateLiteral Text

section

variable (raw : String) (params : List Parameter) (dialect : Dialect)

/-- The path with the value of the variable chosen for it in place of each placeholder. -/
def filled (env : String → List UInt16) : List UInt16 :=
  (segments (unescape raw).toList).flatMap fun
    | .literal c => charUnits c
    | .placeholder found => env ((answer? params dialect found.name).getD found.name)

/-- The part of a literal that a piece is to be read as. -/
def Piece.part : Piece → Part
  | literal c => .text (charUnits c)
  | hole name => .hole name

theorem filled_eq (env : String → List UInt16) :
    filled raw params dialect env =
      ((build raw params dialect).pieces.map Piece.part).flatMap (Part.value env) := by
  rw [filled, build, rewrite, List.map_map, List.flatMap_map]
  refine List.flatMap_congr fun segment _ => ?_
  cases segment <;> rfl

end

/-- Pieces that a literal reads as they are meant: no literal character ends the literal, begins an
escape or is read as another, no two of them begin an interpolation, and variables have names. -/
structure Safe (pieces : List Piece) : Prop where
  literals : ∀ c, .literal c ∈ pieces → c ≠ '\x60' ∧ c ≠ '\\' ∧ c ≠ '\r'
  unopened : ¬ [.literal '$', .literal '{'] <:+: pieces
  holes : ∀ name, .hole name ∈ pieces → IsIdentifier name

section

variable {pieces : List Piece}

theorem safe_nil : Safe [] where
  literals := fun _ hmem => absurd hmem List.not_mem_nil
  unopened := by simp
  holes := fun _ hmem => absurd hmem List.not_mem_nil

theorem opens_iff {piece : Piece} :
    [.literal '$', .literal '{'] <+: piece :: pieces ↔
      piece = .literal '$' ∧ pieces.head? = some (.literal '{') := by
  rw [List.cons_prefix_cons, eq_comm]
  cases pieces with
  | nil => simp
  | cons next pieces => simp [List.cons_prefix_cons, eq_comm]

theorem safe_literal_cons_iff {c : Char} :
    Safe (.literal c :: pieces) ↔
      (c ≠ '\x60' ∧ c ≠ '\\' ∧ c ≠ '\r') ∧
      ¬ (c = '$' ∧ pieces.head? = some (.literal '{')) ∧ Safe pieces := by
  constructor
  · rintro ⟨hliterals, hunopened, hholes⟩
    rw [List.infix_cons_iff, opens_iff, not_or, Piece.literal.injEq] at hunopened
    exact ⟨hliterals c List.mem_cons_self, hunopened.1,
      fun d hd => hliterals d (List.mem_cons_of_mem _ hd), hunopened.2,
      fun name hname => hholes name (List.mem_cons_of_mem _ hname)⟩
  · rintro ⟨hc, hopen, hliterals, hunopened, hholes⟩
    refine ⟨?_, ?_, ?_⟩
    · intro d hd
      rcases List.mem_cons.mp hd with hd | hd
      · rwa [Piece.literal.inj hd]
      · exact hliterals d hd
    · rw [List.infix_cons_iff, opens_iff, not_or, Piece.literal.injEq]
      exact ⟨hopen, hunopened⟩
    · intro name hname
      rcases List.mem_cons.mp hname with hname | hname
      · cases hname
      · exact hholes name hname

theorem safe_hole_cons_iff {name : String} :
    Safe (.hole name :: pieces) ↔ IsIdentifier name ∧ Safe pieces := by
  constructor
  · rintro ⟨hliterals, hunopened, hholes⟩
    rw [List.infix_cons_iff, not_or] at hunopened
    exact ⟨hholes name List.mem_cons_self,
      fun d hd => hliterals d (List.mem_cons_of_mem _ hd), hunopened.2,
      fun other hother => hholes other (List.mem_cons_of_mem _ hother)⟩
  · rintro ⟨hname, hliterals, hunopened, hholes⟩
    refine ⟨?_, ?_, ?_⟩
    · intro d hd
      rcases List.mem_cons.mp hd with hd | hd
      · cases hd
      · exact hliterals d hd
    · rw [List.infix_cons_iff, opens_iff, not_or]
      exact ⟨fun hopen => absurd hopen.1 (by simp), hunopened⟩
    · intro other hother
      rcases List.mem_cons.mp hother with hother | hother
      · rwa [Piece.hole.inj hother]
      · exact hholes other hother

/-! ## Reading pieces back -/

/-- A brace after a text of pieces is a literal one: a hole begins with another character. -/
theorem exists_of_dropWord?_brace {after : List Char}
    (hdrop : dropWord? ['{'] (pieces.flatMap Piece.chars) = some after) :
    pieces.head? = some (.literal '{') := by
  cases pieces with
  | nil => cases hdrop
  | cons piece pieces =>
      cases piece with
      | literal c =>
          rw [List.flatMap_cons, Piece.chars, List.singleton_append, dropWord?] at hdrop
          split at hdrop
          next hc => rw [List.head?_cons, ← hc]
          next => cases hdrop
      | hole name => cases hdrop

theorem chars_hole_append (name : String) (rest : List Char) :
    (Piece.hole name).chars ++ rest = '$' :: '{' :: (name.toList ++ '}' :: rest) := by
  simp [Piece.chars]

theorem parts?_flatMap_chars (hsafe : Safe pieces) :
    parts? (pieces.flatMap Piece.chars) = some (pieces.map Piece.part) := by
  induction pieces with
  | nil => exact parts?_nil
  | cons piece pieces ih =>
      cases piece with
      | literal c =>
          obtain ⟨⟨hquote, hback, hreturn⟩, hopen, hrest⟩ := safe_literal_cons_iff.mp hsafe
          have hclosed : c = '$' → dropWord? ['{'] (pieces.flatMap Piece.chars) = none := by
            intro hdollar
            cases hdrop : dropWord? ['{'] (pieces.flatMap Piece.chars) with
            | none => rfl
            | some after => exact absurd ⟨hdollar, exists_of_dropWord?_brace hdrop⟩ hopen
          rw [List.flatMap_cons, Piece.chars, List.singleton_append,
            parts?_of_part? (part?_of_ne hquote hback hreturn hclosed), ih hrest]
          rfl
      | hole name =>
          obtain ⟨hname, hrest⟩ := safe_hole_cons_iff.mp hsafe
          have hpart := interpolated?_of_isIdentifier hname (pieces.flatMap Piece.chars)
          rw [← part?_open] at hpart
          rw [List.flatMap_cons, chars_hole_append, parts?_of_part? hpart, ih hrest]
          rfl

/-! ## What a literal tells of its pieces -/

theorem length_value_part (piece : Piece) :
    (piece.part.value probe).length = (units piece.chars).length := by
  cases piece with
  | literal c => rw [Piece.part, Piece.chars, units_singleton, Part.value]
  | hole name =>
      have hchars : (Piece.hole name).chars = '$' :: '{' :: (name.toList ++ ['}']) := rfl
      rw [hchars, length_units_hole, Piece.part, Part.value, length_probe]

theorem length_units_flatMap_chars :
    (units (pieces.flatMap Piece.chars)).length =
      ((pieces.map Piece.part).flatMap (Part.value probe)).length := by
  induction pieces with
  | nil => rfl
  | cons piece pieces ih =>
      rw [List.flatMap_cons, units_append, List.length_append, ih, ← length_value_part,
        List.map_cons, List.flatMap_cons, List.length_append]

/-- Under the probe a literal character is read as it is meant, or what is read begins otherwise. -/
theorem reads_literal {c : Char} {part : Part} {rest : List Char} (hback : c ≠ '\\')
    (hpart : part? (c :: pieces.flatMap Piece.chars) = some (part, rest))
    {first second : List UInt16} (hsame : part.value probe ++ first = charUnits c ++ second) :
    (c ≠ '\x60' ∧ c ≠ '\\' ∧ c ≠ '\r') ∧
      ¬ (c = '$' ∧ pieces.head? = some (.literal '{')) ∧
        part = .text (charUnits c) ∧ rest = pieces.flatMap Piece.chars := by
  have hhead := congrArg List.head? hsame
  have hquote : c ≠ '\x60' := by
    rintro rfl
    cases hpart
  have hreturn : c ≠ '\r' := by
    rintro rfl
    rw [part?_return] at hpart
    obtain ⟨rfl, rfl⟩ := Prod.mk.inj (Option.some.inj hpart)
    exact absurd (Option.some.inj hhead) (by decide)
  have hopen : c = '$' → dropWord? ['{'] (pieces.flatMap Piece.chars) = none := by
    -- The two would be read as a variable, and no value under the probe begins with a dollar.
    rintro rfl
    cases hdrop : dropWord? ['{'] (pieces.flatMap Piece.chars) with
    | none => rfl
    | some after =>
        rw [eq_append_of_dropWord? hdrop, List.singleton_append, part?_open] at hpart
        obtain ⟨name, _, _, hname, rfl⟩ := exists_source_of_interpolated? hpart
        rw [Part.value, head?_probe, if_pos hname] at hhead
        exact absurd (Option.some.inj hhead) (by decide)
  refine ⟨⟨hquote, hback, hreturn⟩, ?_, ?_⟩
  · rintro ⟨hdollar, hbrace⟩
    obtain ⟨pieces, rfl⟩ := List.head?_eq_some_iff.mp hbrace
    cases hopen hdollar
  · rw [part?_of_ne hquote hback hreturn hopen] at hpart
    obtain ⟨rfl, rfl⟩ := Prod.mk.inj (Option.some.inj hpart)
    exact ⟨rfl, rfl⟩

/-- Under the probe a hole is read as its variable, or what is read begins otherwise. -/
theorem reads_hole {name : String} {part : Part} {text rest : List Char}
    (hpart : interpolated? (name.toList ++ '}' :: text) = some (part, rest))
    {first second : List UInt16} (hsame : part.value probe ++ first = probe name ++ second) :
    IsIdentifier name ∧ part = .hole name ∧ rest = text := by
  have hname : IsIdentifier name := by
    obtain ⟨found, _, _, hfound, rfl⟩ := exists_source_of_interpolated? hpart
    have hhead := congrArg List.head? hsame
    rw [Part.value, head?_probe, head?_probe, if_pos hfound] at hhead
    by_contra hname
    rw [if_neg hname] at hhead
    exact absurd (Option.some.inj hhead) (by decide)
  rw [interpolated?_of_isIdentifier hname] at hpart
  obtain ⟨rfl, rfl⟩ := Prod.mk.inj (Option.some.inj hpart)
  exact ⟨hname, rfl, rfl⟩

variable {parts : List Part} (hparts : parts? (pieces.flatMap Piece.chars) = some parts)
  (hsame : parts.flatMap (Part.value probe) =
    (pieces.map Piece.part).flatMap (Part.value probe))

include hparts hsame

/-- Under the probe pieces yield as much as their text is long, so none of it is a backslash. -/
theorem not_mem_of_yields : '\\' ∉ pieces.flatMap Piece.chars := by
  intro hback
  have hless := (length_of_parts? hparts).2 hback
  rw [hsame, length_units_flatMap_chars] at hless
  exact Nat.lt_irrefl _ hless

/-- Without backslashes parts follow the pieces one by one. -/
theorem safe_of_yields (hback : '\\' ∉ pieces.flatMap Piece.chars) : Safe pieces := by
  -- What is left of the parts and of the pieces goes on yielding the same.
  induction pieces generalizing parts with
  | nil => exact safe_nil
  | cons piece pieces ih =>
      have hne : (piece :: pieces).flatMap Piece.chars ≠ [] := by
        cases piece <;> exact List.cons_ne_nil _ _
      obtain ⟨part, rest, tail, hpart, htail, rfl⟩ := exists_of_parts?_eq_some hne hparts
      rw [List.map_cons, List.flatMap_cons, List.flatMap_cons] at hsame
      rw [List.flatMap_cons, List.mem_append, not_or] at hback
      cases piece with
      | literal c =>
          rw [List.flatMap_cons, Piece.chars, List.singleton_append] at hpart
          have hc : c ≠ '\\' := by simpa [Piece.chars, eq_comm] using hback.1
          obtain ⟨hplain, hopen, rfl, rfl⟩ := reads_literal hc hpart hsame
          exact safe_literal_cons_iff.mpr
            ⟨hplain, hopen, ih htail (List.append_cancel_left hsame) hback.2⟩
      | hole name =>
          rw [List.flatMap_cons, chars_hole_append, part?_open] at hpart
          obtain ⟨hname, rfl, rfl⟩ := reads_hole hpart hsame
          exact safe_hole_cons_iff.mpr
            ⟨hname, ih htail (List.append_cancel_left hsame) hback.2⟩

end

variable (raw : String) (params : List Parameter) (dialect : Dialect)

/-- The segments make up the unescaped path, and a template yields that path with the value of a
variable for each placeholder, whatever the values are, exactly where its pieces are read as they are
meant. -/
theorem evaluate_build_iff :
    (segments (unescape raw).toList).flatMap Segment.source = (unescape raw).toList ∧
    ((∀ env,
        evaluate env (build raw params dialect).text = some (filled raw params dialect env)) ↔
      Safe (build raw params dialect).pieces) := by
  refine ⟨flatMap_source_segments _, ?_⟩
  simp only [evaluate, text, String.toList_ofList, filled_eq]
  constructor
  · intro hall
    obtain ⟨parts, hparts, hsame⟩ := Option.map_eq_some_iff.mp (hall probe)
    exact safe_of_yields hparts hsame (not_mem_of_yields hparts hsame)
  · intro hsafe env
    rw [parts?_flatMap_chars hsafe, Option.map_some]

/-- A backtick in a path ends the literal. -/
theorem not_evaluate_build_backtick :
    ¬ ∀ env, evaluate env (build "/a\x60b" [] .plain).text =
      some (filled "/a\x60b" [] .plain env) := by
  intro hall
  have htext : (build "/a\x60b" [] .plain).text.toList = ['/', 'a', '\x60', 'b'] := by
    decide +kernel
  obtain ⟨_, hparts, _⟩ := Option.map_eq_some_iff.mp (hall fun _ => [])
  rw [htext] at hparts
  obtain ⟨_, _, _, hslash, hparts, _⟩ := exists_of_parts?_eq_some (by decide) hparts
  obtain ⟨_, rfl⟩ := Prod.mk.inj (Option.some.inj hslash)
  obtain ⟨_, _, _, hletter, hparts, _⟩ := exists_of_parts?_eq_some (by decide) hparts
  obtain ⟨_, rfl⟩ := Prod.mk.inj (Option.some.inj hletter)
  obtain ⟨_, _, _, hquote, _⟩ := exists_of_parts?_eq_some (by decide) hparts
  cases hquote

end ClientPlan.PathTemplate
