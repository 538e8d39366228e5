import ClientPlan.Name.Slug
import ClientPlan.Proofs.Text.Ascii
import ClientPlan.Proofs.Text.Split

/-! # The slug of a path

Hyphens go between letters, and only letters are lower-cased. So a slug keeps the slashes of a name,
and its parts are the slugs of the parts of the name.
-/

namespace ClientPlan

namespace Text

/-! ## Lower case -/

/-- A mark of ASCII, such as the slash and the point, before the digits. -/
def IsMark (c : Char) : Prop :=
  0 < c.toNat ∧ c.toNat < 48

instance (c : Char) : Decidable (IsMark c) :=
  inferInstanceAs (Decidable (_ ∧ _))

/-- A text of marks. -/
def AllMarks (text : List Char) : Prop :=
  ∀ c ∈ text, IsMark c

instance (text : List Char) : Decidable (AllMarks text) :=
  List.decidableBAll _ text

theorem IsMark.not_isAsciiUpper {c : Char} (hc : IsMark c) : isAsciiUpper c = false := by
  have hall : ∀ n < 128, IsMark (Char.ofNat n) → isAsciiUpper (Char.ofNat n) = false := by
    decide +kernel
  exact forall_ascii (p := fun c => IsMark c → isAsciiUpper c = false) hall
    (Nat.lt_trans hc.2 (by decide)) hc

theorem not_isMark_ofNat {code : Nat} (hcode : 48 ≤ code) : ¬ IsMark (Char.ofNat code) := by
  by_cases hvalid : code.isValidChar
  · rintro ⟨_, hlt⟩
    rw [toNat_ofNat_of_isValidChar hvalid] at hlt
    exact absurd hlt (Nat.not_lt.mpr hcode)
  · have hzero : Char.ofNat code = '\x00' := dif_neg hvalid
    rw [hzero]
    decide

theorem not_isMark_moveBy {c : Char} (hc : ¬ IsMark c) : ¬ IsMark (moveBy lowerRuns c) := by
  -- Every run leads from beyond ASCII to letters, so it is enough to look where it begins.
  have hruns : ∀ run ∈ lowerRuns, (48 : Int) ≤ run.first + run.distance := by decide +kernel
  rw [moveBy]
  split
  next run hrun =>
    have hcovers := List.find?_some hrun
    have hlow := hruns run (List.mem_of_find?_eq_some hrun)
    simp only [CaseRun.covers, Bool.and_eq_true, decide_eq_true_eq] at hcovers
    exact not_isMark_ofNat (by omega)
  next => exact hc

theorem not_isMark_lowerChar {c : Char} (hc : ¬ IsMark c) :
    lowerChar c ≠ [] ∧ ∀ d ∈ lowerChar c, ¬ IsMark d := by
  rw [lowerChar]
  split
  next =>
    split
    next hupper =>
      have hval : c.toNat = c.val.toNat := rfl
      simp [isAsciiUpper, Char.le_def, UInt32.le_iff_toNat_le] at hupper
      have hcode : 48 ≤ c.toNat + 32 := by omega
      simpa using not_isMark_ofNat hcode
    next => simpa using hc
  next =>
    have hcodes : ∀ entry ∈ lowerExpansions,
        entry.2 ≠ [] ∧ ∀ code ∈ entry.2, ¬ IsMark (Char.ofNat code) := by
      decide +kernel
    rw [mapCase]
    split
    next codes hlookup =>
      obtain ⟨before, after, htable, _⟩ := List.lookup_eq_some_iff.mp hlookup
      obtain ⟨hne, hmarks⟩ := hcodes (c.toNat, codes) (by simp [htable])
      simpa using ⟨hne, hmarks⟩
    next => simpa using not_isMark_moveBy hc

theorem lowerChar_of_isMark {c : Char} (hc : IsMark c) : lowerChar c = [c] := by
  rw [lowerChar, if_pos (Nat.lt_trans hc.2 (by decide)), hc.not_isAsciiUpper]
  rfl

/-- A slash is neither looked through nor cased, so what is before it does not matter behind it. -/
theorem meetsCased_append (first rest : List Char) :
    meetsCased (first ++ '/' :: rest) = meetsCased first := by
  induction first with
  | nil =>
      have hslash : inRanges caseIgnorableRanges '/' = false ∧ inRanges casedRanges '/' = false := by
        decide +kernel
      rw [List.nil_append, meetsCased, List.dropWhile_cons_of_neg (by simp [hslash.1])]
      exact hslash.2
  | cons c first ih =>
      rw [List.cons_append, meetsCased, meetsCased]
      by_cases hc : inRanges caseIgnorableRanges c = true
      · rw [List.dropWhile_cons_of_pos hc, List.dropWhile_cons_of_pos hc]
        exact ih
      · rw [List.dropWhile_cons_of_neg hc, List.dropWhile_cons_of_neg hc]

theorem lowerAfter_append_before (before more text : List Char) :
    lowerAfter (before ++ '/' :: more) text = lowerAfter before text := by
  induction text generalizing before with
  | nil => rfl
  | cons c rest ih =>
      rw [lowerAfter, lowerAfter, meetsCased_append, ← List.cons_append, ih]

/-- A mark stays, and no other character becomes one. -/
theorem exists_lowerAfter_cons (before : List Char) (c : Char) (rest : List Char) :
    ∃ image, lowerAfter before (c :: rest) = image ++ lowerAfter (c :: before) rest ∧
      (IsMark c → image = [c]) ∧ (¬ IsMark c → image ≠ [] ∧ ∀ d ∈ image, ¬ IsMark d) := by
  refine ⟨_, rfl, ?_, ?_⟩
  · intro hc
    rw [if_neg, lowerChar_of_isMark hc]
    rintro rfl
    exact absurd hc (by decide)
  · intro hc
    split
    next => split <;> simpa using by decide
    next => exact not_isMark_lowerChar hc

theorem lowerAfter_append (before first rest : List Char) :
    lowerAfter before (first ++ '/' :: rest) = lowerAfter before first ++ '/' :: lower rest := by
  induction first generalizing before with
  | nil =>
      obtain ⟨image, himage, hmark, _⟩ := exists_lowerAfter_cons before '/' rest
      rw [List.nil_append, himage, hmark (by decide)]
      exact congrArg ('/' :: ·) (lowerAfter_append_before [] before rest)
  | cons c first ih =>
      rw [List.cons_append, lowerAfter, lowerAfter, meetsCased_append, ih, List.append_assoc]

theorem mem_of_mem_lowerAfter {before text : List Char} {mark : Char} (hmark : IsMark mark)
    (hmem : mark ∈ lowerAfter before text) : mark ∈ text := by
  induction text generalizing before with
  | nil => exact hmem
  | cons c rest ih =>
      obtain ⟨image, himage, hstays, hother⟩ := exists_lowerAfter_cons before c rest
      rw [himage] at hmem
      rcases List.mem_append.mp hmem with hmem | hmem
      · have hc : IsMark c := by
          by_contra hc
          exact (hother hc).2 mark hmem hmark
        rw [hstays hc, List.mem_singleton] at hmem
        exact hmem ▸ List.mem_cons_self
      · exact List.mem_cons_of_mem c (ih hmem)

/-- Lower-casing gives marks alone only from marks. -/
theorem lowerAfter_eq_self {before text : List Char}
    (hmarks : AllMarks (lowerAfter before text)) : lowerAfter before text = text := by
  induction text generalizing before with
  | nil => rfl
  | cons c rest ih =>
      obtain ⟨image, himage, hstays, hother⟩ := exists_lowerAfter_cons before c rest
      rw [himage] at hmarks ⊢
      obtain ⟨hhead, htail⟩ := List.forall_mem_append.mp hmarks
      have hc : IsMark c := by
        by_contra hc
        obtain ⟨d, hd⟩ := List.exists_mem_of_ne_nil image (hother hc).1
        exact (hother hc).2 d hd (hhead d hd)
      rw [hstays hc, ih htail]
      rfl

theorem keepsParts_lower : KeepsParts '/' lower where
  append_cons := lowerAfter_append []
  not_mem _ htext hmem := htext (mem_of_mem_lowerAfter (by decide) hmem)

end Text

namespace Name

open Text

/-! ## Hyphens -/

theorem not_isMark_of_isAsciiLower {c : Char} (hc : isAsciiLower c = true) : ¬ IsMark c := by
  have hval : c.toNat = c.val.toNat := rfl
  simp [isAsciiLower, Char.le_def, UInt32.le_iff_toNat_le] at hc
  simp only [IsMark]
  omega

theorem splitLowerUpper_slash (rest : List Char) :
    splitLowerUpper ('/' :: rest) = '/' :: splitLowerUpper rest := by
  cases rest with
  | nil => rfl
  | cons c rest => rfl

theorem splitLowerUpper_append (first rest : List Char) :
    splitLowerUpper (first ++ '/' :: rest) =
      splitLowerUpper first ++ '/' :: splitLowerUpper rest := by
  fun_induction splitLowerUpper first with
  | case1 c d more hsplit ih =>
      rw [List.cons_append, List.cons_append, splitLowerUpper, if_pos hsplit, ih]
      rfl
  | case2 c d more hsplit ih =>
      rw [List.cons_append, List.cons_append, splitLowerUpper, if_neg hsplit,
        ← List.cons_append, ih]
      rfl
  | case3 text htext =>
      match text, htext with
      | [], _ => exact splitLowerUpper_slash rest
      | [c], _ =>
          have hslash : (isAsciiLower c && isAsciiUpper '/') = false := Bool.and_false _
          rw [List.singleton_append, splitLowerUpper, hslash, splitLowerUpper_slash]
          rfl
      | c :: d :: more, htext => exact absurd rfl (htext c d more)

theorem mem_of_mem_splitLowerUpper {c : Char} {text : List Char}
    (hmem : c ∈ splitLowerUpper text) : c = '-' ∨ c ∈ text := by
  fun_induction splitLowerUpper text with
  | case1 first second more hsplit ih =>
      simp only [List.mem_cons] at hmem ⊢
      tauto
  | case2 first second more hsplit ih =>
      simp only [List.mem_cons] at hmem ⊢ ih
      tauto
  | case3 text htext => exact Or.inr hmem

theorem splitLowerUpper_eq_self {text : List Char}
    (hmarks : AllMarks (splitLowerUpper text)) : splitLowerUpper text = text := by
  fun_induction splitLowerUpper text with
  | case1 c d more hsplit ih =>
      have hlower : isAsciiLower c = true := (Bool.and_eq_true_iff.mp hsplit).1
      exact absurd (hmarks c List.mem_cons_self) (not_isMark_of_isAsciiLower hlower)
  | case2 c d more hsplit ih =>
      rw [ih fun e he => hmarks e (List.mem_cons_of_mem c he)]
  | case3 text htext => rfl

theorem keepsParts_splitLowerUpper : KeepsParts '/' splitLowerUpper where
  append_cons := splitLowerUpper_append
  not_mem text htext hmem := by
    rcases mem_of_mem_splitLowerUpper hmem with heq | hmem
    · exact absurd heq (by decide)
    · exact htext hmem

/-- What becomes of the capitals before a character that is none; they come the latest first. -/
def endRun (capitals : List Char) (c : Char) : List Char :=
  match capitals with
  | last :: previous :: more =>
    if isAsciiLower c then (previous :: more).reverse ++ ['-', last] else capitals.reverse
  | _ => capitals.reverse

theorem splitAcronymsAfter_cons (capitals : List Char) (c : Char) (rest : List Char) :
    splitAcronymsAfter capitals (c :: rest) =
      if isAsciiUpper c then splitAcronymsAfter (c :: capitals) rest
      else endRun capitals c ++ c :: splitAcronyms rest := by
  conv_lhs => unfold splitAcronymsAfter
  split
  next => rfl
  next =>
    match capitals with
    | [] => rfl
    | [last] => rfl
    | last :: previous :: more =>
        by_cases hlower : isAsciiLower c = true <;> simp [endRun, splitAcronyms, hlower]

theorem endRun_of_not_isAsciiLower (capitals : List Char) {c : Char} (hc : isAsciiLower c = false) :
    endRun capitals c = capitals.reverse := by
  unfold endRun
  split <;> simp [hc]

theorem mem_of_mem_endRun {capitals : List Char} {c d : Char} (hmem : d ∈ endRun capitals c) :
    d = '-' ∨ d ∈ capitals := by
  unfold endRun at hmem
  split at hmem
  next =>
    split at hmem
    next =>
      simp only [List.mem_append, List.mem_reverse, List.mem_cons, List.not_mem_nil] at hmem ⊢
      tauto
    next => exact Or.inr (List.mem_reverse.mp hmem)
  next => exact Or.inr (List.mem_reverse.mp hmem)

theorem splitAcronymsAfter_append (capitals first rest : List Char) :
    splitAcronymsAfter capitals (first ++ '/' :: rest) =
      splitAcronymsAfter capitals first ++ '/' :: splitAcronyms rest := by
  induction first generalizing capitals with
  | nil =>
      have hslash : isAsciiUpper '/' = false := rfl
      rw [List.nil_append, splitAcronymsAfter_cons, hslash,
        endRun_of_not_isAsciiLower capitals rfl]
      rfl
  | cons c first ih =>
      rw [List.cons_append, splitAcronymsAfter_cons, splitAcronymsAfter_cons]
      split
      next => exact ih (c :: capitals)
      next =>
        rw [splitAcronyms, ih, List.append_assoc]
        rfl

theorem mem_of_mem_splitAcronymsAfter {c : Char} {capitals text : List Char}
    (hmem : c ∈ splitAcronymsAfter capitals text) : c = '-' ∨ c ∈ capitals ∨ c ∈ text := by
  induction text generalizing capitals with
  | nil => exact Or.inr (Or.inl (List.mem_reverse.mp hmem))
  | cons d rest ih =>
      rw [splitAcronymsAfter_cons] at hmem
      split at hmem
      next =>
        have hrest := ih hmem
        simp only [List.mem_cons] at hrest ⊢
        tauto
      next =>
        rcases List.mem_append.mp hmem with hmem | hmem
        · have hrun := mem_of_mem_endRun hmem
          tauto
        · rcases List.mem_cons.mp hmem with rfl | hmem
          · exact Or.inr (Or.inr List.mem_cons_self)
          · have hrest := ih hmem
            simp only [List.not_mem_nil, false_or, List.mem_cons] at hrest ⊢
            tauto

theorem splitAcronymsAfter_eq_append {capitals text : List Char}
    (hmarks : AllMarks (splitAcronymsAfter capitals text)) :
    splitAcronymsAfter capitals text = capitals.reverse ++ text := by
  induction text generalizing capitals with
  | nil => exact (List.append_nil _).symm
  | cons c rest ih =>
      rw [splitAcronymsAfter_cons] at hmarks ⊢
      split
      next hupper =>
        rw [if_pos hupper] at hmarks
        rw [ih hmarks, List.reverse_cons, List.append_assoc]
        rfl
      next hupper =>
        rw [if_neg hupper] at hmarks
        obtain ⟨_, hmarks⟩ := List.forall_mem_append.mp hmarks
        obtain ⟨hc, hrest⟩ := List.forall_mem_cons.mp hmarks
        have hlower : isAsciiLower c = false := by
          by_contra hlower
          exact not_isMark_of_isAsciiLower (by simpa using hlower) hc
        rw [endRun_of_not_isAsciiLower capitals hlower, splitAcronyms, ih hrest]
        rfl

theorem keepsParts_splitAcronyms : KeepsParts '/' splitAcronyms where
  append_cons := splitAcronymsAfter_append []
  not_mem text htext hmem := by
    rcases mem_of_mem_splitAcronymsAfter hmem with heq | hmem | hmem
    · exact absurd heq (by decide)
    · exact absurd hmem List.not_mem_nil
    · exact htext hmem

/-! ## Slugs -/

theorem toList_slug (name : String) :
    (slug name).toList = lower (splitAcronyms (splitLowerUpper name.toList)) :=
  String.toList_ofList

/-- A slug keeps the slashes of a name. -/
theorem splitString_slug (name : String) :
    splitString '/' (slug name) = (splitString '/' name).map slug := by
  have hkeeps := keepsParts_lower.comp (keepsParts_splitAcronyms.comp keepsParts_splitLowerUpper)
  have hsplit := hkeeps.splitOn name.toList
  simp only [Function.comp] at hsplit
  rw [splitString, splitString, toList_slug, hsplit, List.map_map, List.map_map]
  refine List.map_congr_left fun part _ => ?_
  simp [slug]

/-- Only marks give marks, and each gives itself. -/
theorem eq_of_slug_eq {name marks : String} (hmarks : AllMarks marks.toList)
    (heq : slug name = marks) : name = marks := by
  rw [← String.toList_inj, toList_slug] at heq
  rw [← heq] at hmarks
  have hlower : lower _ = _ := lowerAfter_eq_self hmarks
  rw [hlower] at hmarks heq
  have hacronyms : splitAcronyms _ = _ := splitAcronymsAfter_eq_append hmarks
  rw [hacronyms] at hmarks heq
  rw [splitLowerUpper_eq_self hmarks] at heq
  exact String.toList_inj.mp heq

end Name

end ClientPlan
