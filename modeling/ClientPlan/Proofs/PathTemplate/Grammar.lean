import Mathlib.Data.List.TakeWhile
import ClientPlan.Proofs.Segments

/-! # The grammar of placeholders

A placeholder is a name in braces, or a call that holds a name behind a value mark. A text that
begins with a placeholder is read as one. Where several calls fit, the one with the earliest value
mark is read, and of these the one with the longest name.
-/

namespace ClientPlan.PathTemplate

open Text

/-! ## What a placeholder is -/

/-- An encoded form, by the parts that may vary. -/
structure Encoded where
  /-- What stands before the value mark. -/
  before : List Char
  value : List Char
  /-- What stands between the value and the closing parenthesis. -/
  after : List Char

namespace Encoded

/-- The form behind its opening parenthesis. -/
def arguments (form : Encoded) : List Char :=
  form.before ++ valueMark ++ form.value ++ form.after ++ [')', '}']

/-- A value is not empty, and holds neither commas nor closing braces. -/
def IsValue (value : List Char) : Prop :=
  value ≠ [] ∧ ∀ c ∈ value, c ≠ ',' ∧ c ≠ '}'

/-- Only a value may hold closing parentheses. -/
structure WellFormed (form : Encoded) : Prop where
  before : ')' ∉ form.before
  value : IsValue form.value
  after : ')' ∉ form.after

/-- Of the forms that a text can be read as, this one has the earliest value mark and behind it the
longest value. -/
structure IsFirst (form : Encoded) (text : List Char) : Prop where
  wellFormed : form.WellFormed
  begins : form.arguments <+: text
  first : ∀ other : Encoded, other.WellFormed → other.arguments <+: text →
    form.before.length < other.before.length ∨
      form.before.length = other.before.length ∧ other.value.length ≤ form.value.length

/-- The placeholder in this form. -/
def placeholder (form : Encoded) : Placeholder :=
  ⟨encodedStart ++ form.arguments, form.value⟩

end Encoded

namespace Placeholder

/-- The placeholder of a name in braces. -/
def braced (name : List Char) : Placeholder :=
  ⟨'{' :: name ++ ['}'], name⟩

/-- A name that may stand in braces: not empty, and without braces and slashes. -/
def IsBracedName (name : List Char) : Prop :=
  name ≠ [] ∧ ∀ c ∈ name, c ≠ '{' ∧ c ≠ '}' ∧ c ≠ '/'

/-- The grammar of placeholders. -/
inductive WellFormed : Placeholder → Prop
  | encoded {form : Encoded} (hform : form.WellFormed) : WellFormed form.placeholder
  | braced {name : List Char} (hname : IsBracedName name) : WellFormed (.braced name)

/-- The placeholder that a text begins with, where the first of several encoded forms counts. -/
inductive Opens : Placeholder → List Char → Prop
  | encoded {form : Encoded} {text : List Char} (hform : form.IsFirst text) :
      Opens form.placeholder (encodedStart ++ text)
  | braced {name rest : List Char} (hname : IsBracedName name) :
      Opens (.braced name) ((Placeholder.braced name).source ++ rest)

end Placeholder

/-! ## Reading encoded forms -/

section

variable {text : List Char}

theorem encodedTail?_eq_some_iff {tail : List Char} :
    encodedTail? text = some tail ↔
      ∃ after, ')' ∉ after ∧ tail = after ++ [')', '}'] ∧ tail <+: text := by
  constructor
  · intro htail
    have hbegin := prefix_of_encodedTail? htail
    unfold encodedTail? at htail
    split at htail
    next rest hclose =>
      obtain rfl := Option.some.inj htail
      refine ⟨_, ?_, rfl, hbegin⟩
      intro hmem
      simpa using List.mem_takeWhile_imp hmem
    next => cases htail
  · rintro ⟨after, hafter, rfl, rest, rfl⟩
    have hopen : ∀ c ∈ after, decide (c ≠ ')') = true := by
      intro c hc
      rw [decide_eq_true_eq]
      rintro rfl
      exact hafter hc
    rw [encodedTail?, List.append_assoc, List.dropWhile_append_of_pos hopen,
      List.takeWhile_append_of_pos hopen]
    simp

theorem encodedName?_eq_none_iff {length : Nat} :
    encodedName? text length = none ↔ ∀ n < length, encodedTail? (text.drop (n + 1)) = none := by
  induction length with
  | zero => simp [encodedName?]
  | succ length ih =>
      rw [encodedName?]
      split
      next tail htail =>
        simp only [reduceCtorEq, false_iff, not_forall]
        exact ⟨length, Nat.lt_succ_self _, by rw [htail]; exact Option.some_ne_none _⟩
      next hnone =>
        rw [ih, Nat.forall_lt_succ_right]
        exact (and_iff_left hnone).symm

theorem exists_of_encodedName?_eq_some {length : Nat} {inner tail : List Char}
    (hname : encodedName? text length = some (inner, tail)) :
    ∃ n < length, inner = text.take (n + 1) ∧ encodedTail? (text.drop (n + 1)) = some tail ∧
      ∀ m < length, n < m → encodedTail? (text.drop (m + 1)) = none := by
  induction length with
  | zero => cases hname
  | succ length ih =>
      rw [encodedName?] at hname
      split at hname
      next found htail =>
        obtain ⟨rfl, rfl⟩ := Prod.mk.inj (Option.some.inj hname)
        exact ⟨length, Nat.lt_succ_self _, rfl, htail, fun m hm hlt => by omega⟩
      next hnone =>
        obtain ⟨n, hn, hinner, htail, hlater⟩ := ih hname
        refine ⟨n, by omega, hinner, htail, ?_⟩
        intro m hm hlt
        rcases Nat.lt_succ_iff_lt_or_eq.mp hm with hm | rfl
        · exact hlater m hm hlt
        · exact hnone

section

variable {value after : List Char}

theorem isValueChar_of_isValue (hvalue : Encoded.IsValue value) :
    ∀ c ∈ value, isValueChar c = true := by
  intro c hc
  obtain ⟨hcomma, hbrace⟩ := hvalue.2 c hc
  simp [isValueChar, hcomma, hbrace]

theorem isValue_take {n : Nat} (hn : n < (text.takeWhile isValueChar).length) :
    Encoded.IsValue (text.take (n + 1)) ∧ (text.take (n + 1)).length = n + 1 := by
  have hle := (List.takeWhile_prefix isValueChar (l := text)).length_le
  have hlength : (text.take (n + 1)).length = n + 1 := by
    rw [List.length_take]
    omega
  have hbegin : text.take (n + 1) <+: text.takeWhile isValueChar :=
    List.prefix_of_prefix_length_le (List.take_prefix _ _) (List.takeWhile_prefix _) (by omega)
  refine ⟨⟨?_, ?_⟩, hlength⟩
  · intro hnil
    rw [hnil] at hlength
    cases hlength
  · intro c hc
    have hchar := List.mem_takeWhile_imp (hbegin.subset hc)
    simpa [isValueChar] using hchar

/-- A value and what closes it are met when as many characters are tried as the value has. -/
theorem exists_tail_of_prefix (hvalue : Encoded.IsValue value) (hafter : ')' ∉ after)
    (hbegin : value ++ after ++ [')', '}'] <+: text) :
    ∃ n < (text.takeWhile isValueChar).length, n + 1 = value.length ∧
      encodedTail? (text.drop (n + 1)) = some (after ++ [')', '}']) := by
  obtain ⟨rest, rfl⟩ := hbegin
  obtain ⟨n, hn⟩ := Nat.exists_eq_add_one_of_ne_zero (List.length_pos_iff.mpr hvalue.1).ne'
  refine ⟨n, ?_, hn.symm, ?_⟩
  · rw [List.append_assoc, List.append_assoc,
      List.takeWhile_append_of_pos (isValueChar_of_isValue hvalue), List.length_append]
    omega
  · rw [encodedTail?_eq_some_iff, ← hn]
    refine ⟨after, hafter, rfl, rest, ?_⟩
    simp

theorem not_prefix_of_encodedName?_eq_none
    (hnone : encodedName? text (text.takeWhile isValueChar).length = none)
    (hvalue : Encoded.IsValue value) (hafter : ')' ∉ after) :
    ¬ value ++ after ++ [')', '}'] <+: text := by
  intro hbegin
  obtain ⟨n, hn, _, htail⟩ := exists_tail_of_prefix hvalue hafter hbegin
  rw [encodedName?_eq_none_iff.mp hnone n hn] at htail
  cases htail

/-- Among the values that may be closed, the longest is read. -/
theorem exists_of_encodedName?_takeWhile {inner tail : List Char}
    (hread : encodedName? text (text.takeWhile isValueChar).length = some (inner, tail)) :
    Encoded.IsValue inner ∧
      (∃ after, ')' ∉ after ∧ tail = after ++ [')', '}'] ∧ inner ++ tail <+: text) ∧
      ∀ value after : List Char, Encoded.IsValue value → ')' ∉ after →
        value ++ after ++ [')', '}'] <+: text → value.length ≤ inner.length := by
  have hbegin := prefix_of_encodedName? hread
  obtain ⟨n, hn, rfl, htail, hlater⟩ := exists_of_encodedName?_eq_some hread
  obtain ⟨after, hafter, rfl, _⟩ := encodedTail?_eq_some_iff.mp htail
  obtain ⟨hinner, hlength⟩ := isValue_take hn
  refine ⟨hinner, ⟨after, hafter, rfl, hbegin⟩, ?_⟩
  intro value other hvalue hother hprefix
  obtain ⟨m, hm, hvalueLength, hmTail⟩ := exists_tail_of_prefix hvalue hother hprefix
  by_contra hlonger
  rw [hlater m hm (by omega)] at hmTail
  cases hmTail

end

/-! ## Reading argument lists -/

namespace Encoded

/-- The arguments as they are read. -/
def read (form : Encoded) : EncodedArguments :=
  ⟨form.before ++ valueMark, form.value, form.after ++ [')', '}']⟩

theorem source_read (form : Encoded) : form.read.source = form.arguments := by
  simp only [EncodedArguments.source, read, arguments, List.append_assoc]

/-- The form with one character more before its value mark. -/
def cons (c : Char) (form : Encoded) : Encoded :=
  { form with before := c :: form.before }

theorem IsFirst.cons {c : Char} {form : Encoded} (hform : form.IsFirst text) (hc : c ≠ ')')
    (hnone : ∀ other : Encoded, other.WellFormed → other.before = [] →
      ¬ other.arguments <+: c :: text) : (form.cons c).IsFirst (c :: text) where
  wellFormed := ⟨by simpa [Encoded.cons, eq_comm] using ⟨hc, hform.wellFormed.before⟩,
    hform.wellFormed.value, hform.wellFormed.after⟩
  begins := List.cons_prefix_cons.mpr ⟨rfl, hform.begins⟩
  first := by
    rintro ⟨before, value, after⟩ hother hbegin
    cases before with
    | nil => exact absurd hbegin (hnone _ hother rfl)
    | cons d before =>
        have hlater : WellFormed ⟨before, value, after⟩ :=
          ⟨fun hmem => hother.before (List.mem_cons_of_mem _ hmem), hother.value, hother.after⟩
        have hfirst := hform.first _ hlater (List.cons_prefix_cons.mp hbegin).2
        simpa [Encoded.cons] using hfirst

end Encoded

theorem not_prefix_of_markedArguments?_eq_none (hnone : markedArguments? text = none)
    {form : Encoded} (hform : form.WellFormed) (hbefore : form.before = []) :
    ¬ form.arguments <+: text := by
  intro hbegin
  rw [Encoded.arguments, hbefore, List.nil_append, List.append_assoc, List.append_assoc] at hbegin
  obtain ⟨rest, rfl⟩ := hbegin
  unfold markedArguments? at hnone
  rw [List.append_assoc, dropWord?_append] at hnone
  dsimp only at hnone
  split at hnone
  next => cases hnone
  next hname =>
    refine not_prefix_of_encodedName?_eq_none hname hform.value hform.after ⟨rest, ?_⟩
    simp only [List.append_assoc]

theorem exists_of_markedArguments?_eq_some {found : EncodedArguments}
    (hread : markedArguments? text = some found) :
    ∃ form : Encoded, form.IsFirst text ∧ found = form.read := by
  unfold markedArguments? at hread
  split at hread
  next rest hmark =>
    split at hread
    next inner tail hname =>
      obtain rfl := Option.some.inj hread
      obtain ⟨hinner, ⟨after, hafter, rfl, hbegin⟩, hlongest⟩ :=
        exists_of_encodedName?_takeWhile hname
      obtain rfl := eq_append_of_dropWord? hmark
      refine ⟨⟨[], inner, after⟩, ⟨⟨List.not_mem_nil, hinner, hafter⟩, ?_, ?_⟩, rfl⟩
      · simpa [Encoded.arguments, List.append_assoc, List.prefix_append_right_inj] using hbegin
      · rintro ⟨before, value, other⟩ hother hprefix
        cases before with
        | cons c before => exact .inl (Nat.succ_pos _)
        | nil =>
            rw [Encoded.arguments, List.nil_append, List.append_assoc, List.append_assoc,
              List.prefix_append_right_inj, ← List.append_assoc] at hprefix
            exact .inr ⟨rfl, hlongest value other hother.value hother.after hprefix⟩
    next => cases hread
  next => cases hread

theorem not_prefix_of_encodedArguments?_eq_none (hnone : encodedArguments? text = none)
    {form : Encoded} (hform : form.WellFormed) : ¬ form.arguments <+: text := by
  induction text generalizing form with
  | nil =>
      intro hbegin
      simp [Encoded.arguments] at hbegin
  | cons c rest ih =>
      intro hbegin
      rw [encodedArguments?] at hnone
      split at hnone
      next => cases hnone
      next hmarked =>
        obtain ⟨before, value, after⟩ := form
        cases before with
        | nil => exact not_prefix_of_markedArguments?_eq_none hmarked hform rfl hbegin
        | cons d before =>
            obtain ⟨hd, hbefore⟩ := List.ne_and_not_mem_of_not_mem_cons hform.before
            obtain ⟨rfl, hlater⟩ := List.cons_prefix_cons.mp hbegin
            rw [if_neg hd.symm] at hnone
            split at hnone
            next => cases hnone
            next hrest =>
              have hform : Encoded.WellFormed ⟨before, value, after⟩ :=
                ⟨hbefore, hform.value, hform.after⟩
              exact ih hrest hform hlater

theorem exists_of_encodedArguments?_eq_some {found : EncodedArguments}
    (hread : encodedArguments? text = some found) :
    ∃ form : Encoded, form.IsFirst text ∧ found = form.read := by
  induction text generalizing found with
  | nil => cases hread
  | cons c rest ih =>
      rw [encodedArguments?] at hread
      split at hread
      next marked hmarked =>
        obtain rfl := Option.some.inj hread
        exact exists_of_markedArguments?_eq_some hmarked
      next hmarked =>
        split at hread
        next => cases hread
        next hc =>
          split at hread
          next later hlater =>
            obtain rfl := Option.some.inj hread
            obtain ⟨form, hform, rfl⟩ := ih hlater
            refine ⟨form.cons c, hform.cons hc ?_, rfl⟩
            intro other hother hbefore
            exact not_prefix_of_markedArguments?_eq_none hmarked hother hbefore
          next => cases hread

/-! ## Reading placeholders -/

theorem opens_of_encodedForm?_eq_some {found : Placeholder}
    (hread : encodedForm? text = some found) : found.Opens text := by
  unfold encodedForm? at hread
  split at hread
  next rest hstart =>
    obtain rfl := eq_append_of_dropWord? hstart
    split at hread
    next arguments harguments =>
      obtain rfl := Option.some.inj hread
      obtain ⟨form, hform, rfl⟩ := exists_of_encodedArguments?_eq_some harguments
      have hopens := Placeholder.Opens.encoded hform
      rw [Encoded.placeholder, ← form.source_read] at hopens
      simpa only [EncodedArguments.source, Encoded.read, List.append_assoc] using hopens
    next => cases hread
  next => cases hread

theorem not_prefix_of_encodedForm?_eq_none (hnone : encodedForm? text = none) {form : Encoded}
    (hform : form.WellFormed) : ¬ form.placeholder.source <+: text := by
  rintro ⟨rest, rfl⟩
  unfold encodedForm? at hnone
  rw [Encoded.placeholder, List.append_assoc, dropWord?_append] at hnone
  dsimp only at hnone
  split at hnone
  next => cases hnone
  next harguments =>
    exact not_prefix_of_encodedArguments?_eq_none harguments hform (List.prefix_append _ _)

theorem isNameChar_iff {c : Char} : isNameChar c = true ↔ c ≠ '{' ∧ c ≠ '}' ∧ c ≠ '/' := by
  simp [isNameChar, and_assoc]

theorem opens_of_documentForm?_eq_some {found : Placeholder}
    (hread : documentForm? text = some found) : found.Opens text := by
  obtain ⟨⟨rest, rfl⟩, _⟩ := documentForm?_source hread
  unfold documentForm? at hread
  split at hread
  next after htext =>
    split at hread
    next hclose =>
      dsimp only at hread
      split at hread
      next => cases hread
      next hinner =>
        obtain rfl := Option.some.inj hread
        refine Placeholder.Opens.braced ⟨by simpa using hinner, ?_⟩
        intro c hc
        exact isNameChar_iff.mp (List.mem_takeWhile_imp hc)
    next => cases hread
  next => cases hread

theorem not_prefix_of_documentForm?_eq_none (hnone : documentForm? text = none) {name : List Char}
    (hname : Placeholder.IsBracedName name) : ¬ (Placeholder.braced name).source <+: text := by
  rintro ⟨rest, rfl⟩
  have hchars : ∀ c ∈ name, isNameChar c = true := fun c hc => isNameChar_iff.mpr (hname.2 c hc)
  have hstop : isNameChar '}' = false := by decide
  simp [Placeholder.braced, documentForm?, List.takeWhile_append_of_pos hchars,
    List.dropWhile_append_of_pos hchars, hstop, hname.1] at hnone

theorem opens_of_placeholder?_eq_some {found : Placeholder}
    (hread : placeholder? text = some found) : found.Opens text := by
  unfold placeholder? at hread
  split at hread
  next encoded hencoded =>
    obtain rfl := Option.some.inj hread
    exact opens_of_encodedForm?_eq_some hencoded
  next => exact opens_of_documentForm?_eq_some hread

theorem not_prefix_of_placeholder?_eq_none (hnone : placeholder? text = none) {found : Placeholder}
    (hfound : found.WellFormed) : ¬ found.source <+: text := by
  unfold placeholder? at hnone
  split at hnone
  next => cases hnone
  next hencoded =>
    cases hfound with
    | encoded hform => exact not_prefix_of_encodedForm?_eq_none hencoded hform
    | braced hname => exact not_prefix_of_documentForm?_eq_none hnone hname

end

/-! ## A text begins with one placeholder at most -/

theorem append_cons_inj {separator : Char} {first second rest other : List Char}
    (hfirst : separator ∉ first) (hsecond : separator ∉ second)
    (heq : first ++ separator :: rest = second ++ separator :: other) :
    first = second ∧ rest = other := by
  have hsplit := splitOnce_append hfirst rest
  rw [heq, splitOnce_append hsecond] at hsplit
  obtain ⟨rfl, rfl⟩ := Prod.mk.inj (Option.some.inj hsplit)
  exact ⟨rfl, rfl⟩

theorem Encoded.IsFirst.unique {text : List Char} {form other : Encoded}
    (hform : form.IsFirst text) (hother : other.IsFirst text) : form = other := by
  obtain ⟨rest, hrest⟩ := hform.begins
  obtain ⟨after, hafter⟩ := hother.begins
  have hsame := hrest.trans hafter.symm
  -- Either is first, so value marks stand at one place and values are of one length.
  have hless := hform.first other hother.wellFormed hother.begins
  have hgreater := hother.first form hform.wellFormed hform.begins
  obtain ⟨before, value, closing⟩ := form
  obtain ⟨otherBefore, otherValue, otherClosing⟩ := other
  simp only [Encoded.arguments, List.append_assoc] at hsame hless hgreater
  obtain ⟨rfl, hvalues⟩ := List.append_inj hsame (by omega)
  obtain ⟨rfl, hclosings⟩ := List.append_inj (List.append_cancel_left hvalues) (by omega)
  obtain ⟨rfl, _⟩ := append_cons_inj hform.wellFormed.after hother.wellFormed.after hclosings
  rfl

namespace Placeholder

theorem IsBracedName.not_mem {name : List Char} (hname : IsBracedName name) : '}' ∉ name :=
  fun hmem => (hname.2 _ hmem).2.1 rfl

theorem Opens.wellFormed {text : List Char} {found : Placeholder} (hfound : found.Opens text) :
    found.WellFormed := by
  cases hfound with
  | encoded hform => exact .encoded hform.wellFormed
  | braced hname => exact .braced hname

theorem Opens.unique {text : List Char} {found other : Placeholder} (hfound : found.Opens text)
    (hother : other.Opens text) : found = other := by
  cases hfound with
  | @encoded form rest hform =>
      generalize htext : encodedStart ++ rest = text at hother
      cases hother with
      | encoded hother =>
          rw [List.append_cancel_left htext] at hform
          rw [hform.unique hother]
      | braced => cases htext
  | @braced name rest hname =>
      generalize htext : (Placeholder.braced name).source ++ rest = text at hother
      cases hother with
      | encoded => cases htext
      | braced hother =>
          simp only [Placeholder.braced, List.cons_append, List.append_assoc, List.nil_append,
            List.cons.injEq, true_and] at htext
          rw [(append_cons_inj hname.not_mem hother.not_mem htext).1]

end Placeholder

end ClientPlan.PathTemplate
