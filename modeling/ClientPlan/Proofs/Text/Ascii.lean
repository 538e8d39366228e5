import Mathlib.Logic.Basic
import Mathlib.Tactic.MkIffOfInductiveProp
import ClientPlan.Text.Blank
import ClientPlan.Text.Case

/-! # ASCII letters and digits

On ASCII letters and digits the full case mappings are the simple ones, and they keep letters
letters and digits digits.
-/

namespace ClientPlan.Text

theorem forall_ascii {p : Char → Prop} (hp : ∀ n < 128, p (Char.ofNat n)) {c : Char}
    (hc : c.toNat < 128) : p c := by
  have h := hp c.toNat hc
  rwa [Char.ofNat_toNat] at h

theorem toNat_ofNat_of_isValidChar {code : Nat} (hcode : code.isValidChar) :
    (Char.ofNat code).toNat = code :=
  congrArg Char.toNat (dif_pos hcode : Char.ofNat code = Char.ofNatAux code hcode)

theorem toNat_lt_of_isAsciiAlnum {c : Char} (hc : isAsciiAlnum c = true) : c.toNat < 128 := by
  have hval : c.toNat = c.val.toNat := rfl
  simp [isAsciiAlnum, isAsciiUpper, isAsciiLower, isAsciiDigit, Char.le_def,
    UInt32.le_iff_toNat_le] at hc
  omega

/-- How a character behaves that is no mark and whose case is the simple one. -/
@[mk_iff]
structure IsPlain (c : Char) : Prop where
  upperChar : upperChar c = [c.toUpper]
  lowerChar : lowerChar c = [c.toLower]
  isAsciiAlnum_toUpper : isAsciiAlnum c.toUpper = true
  isAsciiAlnum_toLower : isAsciiAlnum c.toLower = true
  isAsciiDigit_toUpper : isAsciiDigit c.toUpper = isAsciiDigit c
  isAsciiUpper_toLower : isAsciiUpper c.toLower = false
  toLower_eq : isAsciiUpper c = false → c.toLower = c
  toLower_toUpper : isAsciiUpper c = false → c.toUpper.toLower = c
  toUpper_eq : isAsciiDigit c = true → c.toUpper = c
  isBlank : isBlank c = false
  ne_hyphen : c ≠ '-'
  ne_underscore : c ≠ '_'

instance (c : Char) : Decidable (IsPlain c) :=
  decidable_of_iff' _ (isPlain_iff c)

/-- Letters and digits are plain, which is checked on every code below 128. -/
theorem isPlain_of_isAsciiAlnum {c : Char} (hc : isAsciiAlnum c = true) : IsPlain c := by
  have hall : ∀ n < 128, isAsciiAlnum (Char.ofNat n) = true → IsPlain (Char.ofNat n) := by
    decide +kernel
  have hplain : isAsciiAlnum c = true → IsPlain c :=
    forall_ascii (p := fun c => isAsciiAlnum c = true → IsPlain c) hall
      (toNat_lt_of_isAsciiAlnum hc)
  exact hplain hc

theorem isAsciiDigit_toLower {c : Char} (hc : isAsciiAlnum c = true) :
    isAsciiDigit c.toLower = isAsciiDigit c := by
  have hall : ∀ n < 128, isAsciiDigit (Char.ofNat n).toLower = isAsciiDigit (Char.ofNat n) := by
    decide +kernel
  exact forall_ascii (p := fun c => isAsciiDigit c.toLower = isAsciiDigit c) hall
    (toNat_lt_of_isAsciiAlnum hc)

end ClientPlan.Text
