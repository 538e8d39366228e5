import Mathlib.Data.Bool.AllAny
import Mathlib.Data.List.Basic
import ClientPlan.Proofs.Text.Ascii

/-! # Lower case once and for all

A character that lower-casing gives is left alone by lower-casing, in every context. So a text is in
lower case after one pass, and holds no capital of ASCII.
-/

namespace ClientPlan.Text

/-- Lower-casing leaves the character alone. -/
def IsLowered (c : Char) : Prop :=
  lowerChar c = [c]

instance (c : Char) : Decidable (IsLowered c) :=
  inferInstanceAs (Decidable (_ = _))

/-- Below 128 no capital is left alone, and what a character becomes is. -/
theorem isLowered_ascii : ∀ n < 128,
    (IsLowered (Char.ofNat n) → isAsciiUpper (Char.ofNat n) = false) ∧
      (lowerChar (Char.ofNat n)).all (fun d => decide (IsLowered d)) = true := by
  decide +kernel

/-- Sigma is lower-cased to one of two forms, and these are left alone. So are `k`, to which a
character beyond ASCII leads, and what characters are expanded to. -/
theorem isLowered_special :
    ¬ IsLowered 'Σ' ∧ IsLowered 'ς' ∧ IsLowered 'σ' ∧ IsLowered (Char.ofNat 0x6B) ∧
      ∀ entry ∈ lowerExpansions,
        (entry.2.map Char.ofNat).all (fun d => decide (IsLowered d)) = true := by
  decide +kernel

theorem IsLowered.not_isAsciiUpper {c : Char} (hc : IsLowered c) : isAsciiUpper c = false := by
  by_cases hascii : c.toNat < 128
  · exact forall_ascii (p := fun c => IsLowered c → isAsciiUpper c = false)
      (fun n hn => (isLowered_ascii n hn).1) hascii hc
  · have hval : c.toNat = c.val.toNat := rfl
    by_contra hupper
    simp [isAsciiUpper, Char.le_def, UInt32.le_iff_toNat_le] at hupper
    omega

theorem IsLowered.ne_sigma {c : Char} (hc : IsLowered c) : c ≠ 'Σ' := by
  rintro rfl
  exact isLowered_special.1 hc

/-! ## Runs -/

/-- The code that the first code of a run is moved to. -/
def CaseRun.target (run : CaseRun) : Nat :=
  (run.first + run.distance).toNat

/-- Nothing that a run moves lands where a run begins to move: an interval apart, or in between the
steps of two. -/
theorem lowerRuns_apart : (lowerRuns.all fun run => lowerRuns.all fun other =>
    Nat.blt other.last run.target || Nat.blt (run.target + run.last) (other.first + run.first) ||
      (other.step == 2 && (run.step == 2 || run.last == run.first) &&
        (run.target + other.first) % 2 == 1)) = true := by
  decide +kernel

/-- Runs lead to characters, beyond ASCII or to a small letter, and to none that is expanded. -/
theorem lowerRuns_target : ∀ run ∈ lowerRuns,
    (run.target : Int) = run.first + run.distance ∧
      (run.last + run.distance < 0xD800 ∨
        0xE000 ≤ run.target ∧ run.last + run.distance < 0x110000) ∧
      (128 ≤ run.target ∨ run.first = run.last ∧ run.target = 0x6B) ∧
      (run.last + run.distance < 0x130 ∨ 0x130 < run.target) := by
  decide +kernel

theorem covers_eq_false_of_mem {run other : CaseRun} (hrun : run ∈ lowerRuns)
    (hother : other ∈ lowerRuns) {code image : Nat} (hcode : run.covers code = true)
    (himage : (image : Int) = code + run.distance) : other.covers image = false := by
  have hapart := List.all_eq_true.mp (List.all_eq_true.mp lowerRuns_apart run hrun) other hother
  have htarget := (lowerRuns_target run hrun).1
  simp only [Nat.blt_eq, Bool.or_eq_true, Bool.and_eq_true, beq_iff_eq] at hapart
  rw [← Bool.not_eq_true]
  intro hcovers
  simp only [CaseRun.covers, Bool.and_eq_true, decide_eq_true_eq, beq_iff_eq] at hcode hcovers
  obtain ⟨⟨hfirst, hlast⟩, hstep⟩ := hcode
  obtain ⟨⟨hfirst', hlast'⟩, hstep'⟩ := hcovers
  rcases hapart with (habove | hbelow) | ⟨⟨htwo, hsteps⟩, hodd⟩
  · omega
  · omega
  · rw [htwo] at hstep'
    rcases hsteps with hsame | hsingle
    · rw [hsame] at hstep
      omega
    · omega

theorem isLowered_of_run {run : CaseRun} (hrun : run ∈ lowerRuns) {code : Nat}
    (hcode : run.covers code = true) :
    IsLowered (Char.ofNat (code + run.distance).toNat) := by
  obtain ⟨htarget, hvalid, hascii, hexpanded⟩ := lowerRuns_target run hrun
  have hbounds := hcode
  simp only [CaseRun.covers, Bool.and_eq_true, decide_eq_true_eq, beq_iff_eq] at hbounds
  obtain ⟨⟨hfirst, hlast⟩, _⟩ := hbounds
  obtain ⟨image, himage⟩ : ∃ image : Nat, (image : Int) = code + run.distance :=
    ⟨(code + run.distance).toNat, Int.toNat_of_nonneg (by omega)⟩
  rw [← himage, Int.toNat_natCast]
  rcases hascii with hbeyond | ⟨hsingle, hletter⟩
  · have hchar : image.isValidChar := by
      unfold Nat.isValidChar
      omega
    have hnat := toNat_ofNat_of_isValidChar hchar
    have hlookup : lowerExpansions.lookup image = none := by
      rw [List.lookup_eq_none_iff]
      simp only [lowerExpansions, List.mem_singleton, forall_eq, bne_iff_ne]
      omega
    have hfind : lowerRuns.find? (·.covers image) = none := by
      refine List.find?_eq_none.mpr fun other hother => ?_
      rw [covers_eq_false_of_mem hrun hother hcode himage]
      exact Bool.false_ne_true
    rw [IsLowered, lowerChar, if_neg (by omega), mapCase, hnat, hlookup]
    simp only [moveBy, hnat, hfind]
  · have hk : image = 0x6B := by omega
    rw [hk]
    exact isLowered_special.2.2.2.1

/-! ## Texts -/

theorem isLowered_of_mem_lowerChar {c d : Char} (hd : d ∈ lowerChar c) : IsLowered d := by
  by_cases hascii : c.toNat < 128
  · have hc := forall_ascii (p := fun c => (lowerChar c).all (fun d => decide (IsLowered d)) = true)
      (fun n hn => (isLowered_ascii n hn).2) hascii
    exact List.all_iff_forall_prop.mp hc d hd
  · rw [lowerChar, if_neg hascii, mapCase] at hd
    split at hd
    next codes hlookup =>
      obtain ⟨before, after, htable, _⟩ := List.lookup_eq_some_iff.mp hlookup
      have hentry : (c.toNat, codes) ∈ lowerExpansions := by simp [htable]
      exact List.all_iff_forall_prop.mp (isLowered_special.2.2.2.2 _ hentry) d hd
    next hlookup =>
      obtain rfl := List.mem_singleton.mp hd
      unfold moveBy
      split
      next run hrun =>
        exact isLowered_of_run (List.mem_of_find?_eq_some hrun)
          (List.find?_some (p := fun run : CaseRun => run.covers c.toNat) hrun)
      next hnone =>
        rw [IsLowered, lowerChar, if_neg hascii, mapCase, hlookup]
        simp only [moveBy, hnone]

theorem isLowered_of_mem_lowerAfter {before text : List Char} {c : Char}
    (hc : c ∈ lowerAfter before text) : IsLowered c := by
  induction text generalizing before with
  | nil => cases hc
  | cons d rest ih =>
      rw [lowerAfter] at hc
      rcases List.mem_append.mp hc with hc | hc
      · split at hc
        next =>
          obtain ⟨-, hfinal, hsmall, -⟩ := isLowered_special
          rw [List.mem_singleton] at hc
          rw [hc]
          split
          next => exact hfinal
          next => exact hsmall
        next => exact isLowered_of_mem_lowerChar hc
      · exact ih hc

theorem lowerAfter_of_isLowered (before : List Char) {text : List Char}
    (htext : ∀ c ∈ text, IsLowered c) : lowerAfter before text = text := by
  induction text generalizing before with
  | nil => rfl
  | cons c rest ih =>
      obtain ⟨hc, hrest⟩ := List.forall_mem_cons.mp htext
      rw [lowerAfter, if_neg hc.ne_sigma, hc, ih _ hrest, List.singleton_append]

/-- Nothing is left to lower-case after one pass. -/
theorem lower_lower (text : List Char) : lower (lower text) = lower text :=
  lowerAfter_of_isLowered [] fun _ hc => isLowered_of_mem_lowerAfter hc

theorem not_isAsciiUpper_of_mem_lower {text : List Char} {c : Char} (hc : c ∈ lower text) :
    isAsciiUpper c = false :=
  (isLowered_of_mem_lowerAfter hc).not_isAsciiUpper

/-- Letters and digits of ASCII, and hyphens, are lower-cased one by one. -/
theorem lowerAfter_eq_map (before : List Char) {text : List Char}
    (htext : ∀ c ∈ text, isAsciiAlnum c = true ∨ c = '-') :
    lowerAfter before text = text.map Char.toLower := by
  induction text generalizing before with
  | nil => rfl
  | cons c rest ih =>
      obtain ⟨hc, hrest⟩ := List.forall_mem_cons.mp htext
      have hlower : lowerChar c = [c.toLower] := by
        rcases hc with hc | rfl
        · exact (isPlain_of_isAsciiAlnum hc).lowerChar
        · rfl
      have hsigma : c ≠ 'Σ' := by
        rintro rfl
        exact absurd hc (by decide)
      rw [lowerAfter, if_neg hsigma, hlower, ih _ hrest, List.map_cons, List.singleton_append]

end ClientPlan.Text
