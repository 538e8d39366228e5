import ClientPlan.Proofs.Name.Slug
import ClientPlan.Proofs.Text.LowerCase

/-! # Where slugs are parted

A slug is made by two passes, the second over what the first has written. Together they follow one
rule, which looks at three neighbouring characters of the name: no hyphen of the first pass begins,
ends or prevents one of the second.
-/

namespace ClientPlan.Name

open Text

/-- Whether a hyphen belongs behind the first character of a text: between a small letter and a
capital, and between two capitals before a small letter. -/
def partsBehindFirst : List Char → Bool
  | c :: d :: rest =>
    isAsciiLower c && isAsciiUpper d ||
      isAsciiUpper c && isAsciiUpper d && rest.head?.any isAsciiLower
  | _ => false

/-- The first character of a text, with the hyphen that belongs behind it. -/
def firstParted : List Char → List Char
  | [] => []
  | c :: rest => if partsBehindFirst (c :: rest) then [c, '-'] else [c]

/-- A text with a hyphen at each boundary. What is behind a character decides about the hyphen
there. -/
def hyphenated (text : List Char) : List Char :=
  text.tails.flatMap firstParted

theorem hyphenated_cons (c : Char) (rest : List Char) :
    hyphenated (c :: rest) = firstParted (c :: rest) ++ hyphenated rest := by
  rw [hyphenated, List.tails, List.flatMap_cons, hyphenated]

theorem firstParted_of_false {c : Char} {rest : List Char}
    (hparts : partsBehindFirst (c :: rest) = false) : firstParted (c :: rest) = [c] := by
  rw [firstParted, hparts]
  rfl

theorem not_isAsciiLower_of_isAsciiUpper {c : Char} (hc : isAsciiUpper c = true) :
    isAsciiLower c = false := by
  by_contra hlower
  rw [Bool.not_eq_false] at hlower
  simp [isAsciiUpper, isAsciiLower, Char.le_def, UInt32.le_iff_toNat_le] at hc hlower
  omega

/-! ## The first pass -/

theorem splitLowerUpper_of_not_isAsciiLower {c : Char} (hc : isAsciiLower c = false)
    (rest : List Char) : splitLowerUpper (c :: rest) = c :: splitLowerUpper rest := by
  cases rest with
  | nil => rfl
  | cons d rest => rw [splitLowerUpper, hc, Bool.false_and, if_neg Bool.false_ne_true]

/-- A character that is no capital is the last of what is read with it: the first pass puts a hyphen
behind it where the rule has one. -/
theorem splitLowerUpper_of_not_isAsciiUpper {c : Char} (hc : isAsciiUpper c = false)
    (rest : List Char) :
    splitLowerUpper (c :: rest) = firstParted (c :: rest) ++ splitLowerUpper rest := by
  cases rest with
  | nil => rfl
  | cons d rest =>
      rw [firstParted, partsBehindFirst, hc, Bool.false_and, Bool.false_and, Bool.or_false,
        splitLowerUpper]
      split
      next hparts =>
        have hd := not_isAsciiLower_of_isAsciiUpper (Bool.and_eq_true_iff.mp hparts).2
        rw [splitLowerUpper_of_not_isAsciiLower hd]
        rfl
      next => rfl

/-! ## Capitals before a character that is none -/

theorem endRun_append {capitals : List Char} (hlength : 2 ≤ capitals.length) (a c : Char) :
    endRun (capitals ++ [a]) c = a :: endRun capitals c := by
  match capitals, hlength with
  | last :: previous :: more, _ =>
      rw [List.cons_append, List.cons_append, endRun, endRun]
      split <;> simp

/-- In a run of capitals only the place before the last one can be a boundary, and the second pass
parts it there. -/
theorem hyphenated_capitals {capitals : List Char}
    (hcapitals : ∀ a ∈ capitals, isAsciiUpper a = true) {c : Char} (hc : isAsciiUpper c = false)
    (rest : List Char) :
    hyphenated (capitals ++ c :: rest) =
      endRun capitals.reverse c ++ hyphenated (c :: rest) := by
  induction capitals with
  | nil => rfl
  | cons a capitals ih =>
      obtain ⟨ha, hcapitals⟩ := List.forall_mem_cons.mp hcapitals
      have hlower := not_isAsciiLower_of_isAsciiUpper ha
      rw [List.cons_append, hyphenated_cons, ih hcapitals]
      match capitals, hcapitals with
      | [], _ =>
          rw [List.nil_append, firstParted_of_false (by simp [partsBehindFirst, hlower, hc])]
          rfl
      | [b], hcapitals =>
          have hb := hcapitals b List.mem_cons_self
          cases hsmall : isAsciiLower c <;>
            simp [firstParted, partsBehindFirst, endRun, ha, hb, hlower, hsmall]
      | b :: d :: more, hcapitals =>
          have hd := hcapitals d (List.mem_cons_of_mem b List.mem_cons_self)
          have hplain : partsBehindFirst (a :: (b :: d :: more ++ c :: rest)) = false := by
            simp [partsBehindFirst, hlower, not_isAsciiLower_of_isAsciiUpper hd]
          rw [firstParted_of_false hplain, List.reverse_cons (a := a),
            endRun_append (by simp)]
          rfl

theorem hyphenated_of_capitals {capitals : List Char}
    (hcapitals : ∀ a ∈ capitals, isAsciiUpper a = true) : hyphenated capitals = capitals := by
  induction capitals with
  | nil => rfl
  | cons a capitals ih =>
      obtain ⟨ha, hcapitals⟩ := List.forall_mem_cons.mp hcapitals
      have hplain : partsBehindFirst (a :: capitals) = false := by
        match capitals, hcapitals with
        | [], _ => rfl
        | [b], _ => simp [partsBehindFirst, not_isAsciiLower_of_isAsciiUpper ha]
        | b :: d :: more, hcapitals =>
            have hd := hcapitals d (List.mem_cons_of_mem b List.mem_cons_self)
            simp [partsBehindFirst, not_isAsciiLower_of_isAsciiUpper ha,
              not_isAsciiLower_of_isAsciiUpper hd]
      rw [hyphenated_cons, firstParted_of_false hplain, ih hcapitals]
      rfl

/-! ## Both passes -/

theorem splitAcronyms_firstParted (c : Char) (rest tail : List Char) :
    c :: splitAcronyms ((firstParted (c :: rest)).tail ++ tail) =
      firstParted (c :: rest) ++ splitAcronyms tail := by
  rw [firstParted]
  split
  next => rfl
  next => rfl

/-- With some capitals read, the second pass over the first gives the rest of the text, and them
before it, parted by the rule. -/
theorem splitAcronymsAfter_splitLowerUpper {capitals : List Char}
    (hcapitals : ∀ a ∈ capitals, isAsciiUpper a = true) (text : List Char) :
    splitAcronymsAfter capitals (splitLowerUpper text) = hyphenated (capitals.reverse ++ text) := by
  induction text generalizing capitals with
  | nil =>
      have hreverse : ∀ a ∈ capitals.reverse, isAsciiUpper a = true := fun a ha =>
        hcapitals a (List.mem_reverse.mp ha)
      rw [List.append_nil, hyphenated_of_capitals hreverse]
      rfl
  | cons c rest ih =>
      by_cases hc : isAsciiUpper c = true
      · have hmore := ih (List.forall_mem_cons.mpr ⟨hc, hcapitals⟩)
        rw [splitLowerUpper_of_not_isAsciiLower (not_isAsciiLower_of_isAsciiUpper hc),
          splitAcronymsAfter_cons, if_pos hc, hmore, List.reverse_cons, List.append_assoc,
          List.singleton_append]
      · rw [Bool.not_eq_true] at hc
        have hreverse : ∀ a ∈ capitals.reverse, isAsciiUpper a = true := fun a ha =>
          hcapitals a (List.mem_reverse.mp ha)
        have hrest : splitAcronyms (splitLowerUpper rest) = hyphenated rest :=
          ih (List.forall_mem_nil _)
        have hfirst : firstParted (c :: rest) = c :: (firstParted (c :: rest)).tail := by
          rw [firstParted]
          split <;> rfl
        rw [hyphenated_capitals hreverse hc, List.reverse_reverse, hyphenated_cons, ← hrest,
          ← splitAcronyms_firstParted, splitLowerUpper_of_not_isAsciiUpper hc]
        nth_rewrite 1 [hfirst]
        rw [List.cons_append, splitAcronymsAfter_cons, hc, if_neg Bool.false_ne_true]

theorem splitAcronyms_splitLowerUpper (text : List Char) :
    splitAcronyms (splitLowerUpper text) = hyphenated text :=
  splitAcronymsAfter_splitLowerUpper (List.forall_mem_nil _) text

theorem slug_eq (name : String) : slug name = String.ofList (lower (hyphenated name.toList)) := by
  rw [slug, splitAcronyms_splitLowerUpper]

/-! ## Slugs again -/

theorem hyphenated_of_not_isAsciiUpper {text : List Char}
    (htext : ∀ c ∈ text, isAsciiUpper c = false) : hyphenated text = text := by
  induction text with
  | nil => rfl
  | cons c rest ih =>
      obtain ⟨hc, hrest⟩ := List.forall_mem_cons.mp htext
      have hplain : partsBehindFirst (c :: rest) = false := by
        cases rest with
        | nil => rfl
        | cons d rest => simp [partsBehindFirst, hrest d List.mem_cons_self]
      rw [hyphenated_cons, firstParted_of_false hplain, ih hrest]
      rfl

/-- A slug is the lower case of the name with a hyphen at each boundary and nowhere else. It holds
no capital of ASCII, so it has no boundary and is its own slug. -/
theorem slug_parted (name : String) :
    slug name = String.ofList (lower (hyphenated name.toList)) ∧
      (∀ c ∈ (slug name).toList, isAsciiUpper c = false) ∧ slug (slug name) = slug name := by
  have hslug := slug_eq name
  have hcapitals : ∀ c ∈ (slug name).toList, isAsciiUpper c = false := by
    rw [hslug, String.toList_ofList]
    exact fun _ hc => not_isAsciiUpper_of_mem_lower hc
  refine ⟨hslug, hcapitals, ?_⟩
  rw [slug_eq (slug name), hyphenated_of_not_isAsciiUpper hcapitals, hslug, String.toList_ofList,
    lower_lower]

end ClientPlan.Name
