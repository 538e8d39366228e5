import Mathlib.Data.Bool.AllAny
import ClientPlan.Proofs.Code.TemplateLiteral

/-! # String literals

What the text behind an opening quote stands for, up to the quote that ends it. A text that is put
between quotes as it is reads back as itself exactly where it has no quote, no backslash and no line
break: once a backslash has been read, what is read runs behind what is written, and the quote in
the text, which belongs to no longer escape, is met too late.
-/

namespace ClientPlan.Code

open TemplateLiteral Text

/-- The marks in which a literal may be set. -/
def isQuote (c : Char) : Bool :=
  c = '\'' || c = '"'

theorem length_lt_of_escape? {rest after : List Char} {found : List UInt16}
    (hescape : escape? rest = some (found, after)) : after.length < rest.length + 1 := by
  obtain ⟨source, rfl, _⟩ := takes_of_escape? hescape
  rw [List.length_append]
  omega

/-- What the text behind an opening quote stands for up to the closing one, and the text behind
that. A line ends no literal, unless its end is escaped. -/
def literal? (quote : Char) (text : List Char) : Option (List UInt16 × List Char) :=
  match text with
  | [] => none
  | c :: rest =>
    if c = quote then some ([], rest)
    else if c = '\n' || c = '\r' then none
    else if c = '\\' then
      match hescape : escape? rest with
      | some (found, after) =>
          have : after.length < rest.length + 1 := length_lt_of_escape? hescape
          (literal? quote after).map fun value => (found ++ value.1, value.2)
      | none => none
    else (literal? quote rest).map fun value => (charUnits c ++ value.1, value.2)
termination_by text.length

/-- A text that a literal holds as it is. -/
def IsPlainText (quote : Char) (text : List Char) : Prop :=
  ∀ c ∈ text, c ≠ quote ∧ c ≠ '\\' ∧ c ≠ '\n' ∧ c ≠ '\r'

instance (quote : Char) (text : List Char) : Decidable (IsPlainText quote text) :=
  List.decidableBAll _ text

/-! ## Code units -/

theorem ofNat_unit_inj {first second : Nat} (hfirst : first < 0x10000) (hsecond : second < 0x10000)
    (heq : UInt16.ofNat first = .ofNat second) : first = second := by
  rw [← UInt16.toNat_ofNat_of_lt' hfirst, ← UInt16.toNat_ofNat_of_lt' hsecond, heq]

theorem charUnits_append_inj {c d : Char} {first second : List UInt16}
    (heq : charUnits c ++ first = charUnits d ++ second) : c = d ∧ first = second := by
  have hc : c.toNat < 0xD800 ∨ (0xDFFF < c.toNat ∧ c.toNat < 0x110000) := c.valid
  have hd : d.toNat < 0xD800 ∨ (0xDFFF < d.toNat ∧ d.toNat < 0x110000) := d.valid
  unfold charUnits codeUnits at heq
  -- Units of a pair are no characters, and so both characters have as many units.
  split at heq <;> split at heq
  all_goals simp only [List.cons_append, List.nil_append, List.cons.injEq] at heq
  · exact ⟨Char.toNat_inj.mp (ofNat_unit_inj (by omega) (by omega) heq.1), heq.2⟩
  · have hunit := ofNat_unit_inj (by omega) (by omega) heq.1
    omega
  · have hunit := ofNat_unit_inj (by omega) (by omega) heq.1
    omega
  · obtain ⟨hhigh, hlow, hrest⟩ := heq
    have hhigh := ofNat_unit_inj (by omega) (by omega) hhigh
    have hlow := ofNat_unit_inj (by omega) (by omega) hlow
    exact ⟨Char.toNat_inj.mp (by omega), hrest⟩

theorem units_eq_nil_iff {text : List Char} : units text = [] ↔ text = [] := by
  constructor
  · intro hunits
    have hlength := length_le_length_units text
    rw [hunits] at hlength
    exact List.eq_nil_of_length_eq_zero (Nat.le_zero.mp hlength)
  · rintro rfl
    rfl

theorem units_injective : Function.Injective units := by
  intro first second heq
  induction first generalizing second with
  | nil => exact (units_eq_nil_iff.mp heq.symm).symm
  | cons c first ih =>
      cases second with
      | nil => exact units_eq_nil_iff.mp heq
      | cons d second =>
          rw [units_cons, units_cons] at heq
          obtain ⟨rfl, hrest⟩ := charUnits_append_inj heq
          rw [ih hrest]

/-! ## One character of a literal -/

section

variable {quote : Char}

theorem literal?_quote (rest : List Char) : literal? quote (quote :: rest) = some ([], rest) := by
  rw [literal?, if_pos rfl]

theorem literal?_plain {c : Char} (hc : c ≠ quote ∧ c ≠ '\\' ∧ c ≠ '\n' ∧ c ≠ '\r')
    (rest : List Char) :
    literal? quote (c :: rest) =
      (literal? quote rest).map fun value => (charUnits c ++ value.1, value.2) := by
  rw [literal?, if_neg hc.1, if_neg (by simp [hc.2.2]), if_neg hc.2.1]

/-- How a literal goes on that is read to its end. -/
theorem literal?_cases {c : Char} {rest after : List Char} {value : List UInt16}
    (hread : literal? quote (c :: rest) = some (value, after)) :
    (c = quote ∧ value = [] ∧ after = rest) ∨
      (c = '\\' ∧ ∃ found next later, escape? rest = some (found, next) ∧
        literal? quote next = some (later, after) ∧ value = found ++ later) ∨
      ((c ≠ quote ∧ c ≠ '\\' ∧ c ≠ '\n' ∧ c ≠ '\r') ∧ ∃ later,
        literal? quote rest = some (later, after) ∧ value = charUnits c ++ later) := by
  rw [literal?] at hread
  split at hread
  next hc =>
    obtain ⟨rfl, rfl⟩ := Prod.mk.inj (Option.some.inj hread)
    exact .inl ⟨hc, rfl, rfl⟩
  next hc =>
    split at hread
    next => cases hread
    next hline =>
      rw [Bool.or_eq_true, decide_eq_true_eq, decide_eq_true_eq, not_or] at hline
      split at hread
      next hback =>
        split at hread
        next found next hescape =>
          obtain ⟨⟨later, _⟩, hlater, hpair⟩ := Option.map_eq_some_iff.mp hread
          obtain ⟨rfl, rfl⟩ := Prod.mk.inj hpair
          exact .inr (.inl ⟨hback, found, next, later, hescape, hlater, rfl⟩)
        next => cases hread
      next hback =>
        obtain ⟨⟨later, _⟩, hlater, hpair⟩ := Option.map_eq_some_iff.mp hread
        obtain ⟨rfl, rfl⟩ := Prod.mk.inj hpair
        exact .inr (.inr ⟨⟨hc, hback, hline⟩, later, hlater, rfl⟩)

end

theorem literal?_of_isPlainText {quote : Char} {text : List Char} (htext : IsPlainText quote text)
    (after : List Char) : literal? quote (text ++ quote :: after) = some (units text, after) := by
  induction text with
  | nil => exact literal?_quote after
  | cons c text ih =>
      obtain ⟨hc, htext⟩ := List.forall_mem_cons.mp htext
      rw [List.cons_append, literal?_plain hc, ih htext, Option.map_some, units_cons]

/-! ## What an escape takes up -/

/-- Marks that an escape holds only where it stands for them. -/
def loneMarks : List Char :=
  ['\'', '"', ':', '?']

theorem mem_loneMarks_of_isQuote {quote : Char} (hquote : isQuote quote = true) :
    quote ∈ loneMarks := by
  rw [isQuote, Bool.or_eq_true, decide_eq_true_eq, decide_eq_true_eq] at hquote
  rcases hquote with rfl | rfl <;> decide

theorem loneMark_cases {mark : Char} (hmark : mark ∈ loneMarks) :
    Json.hexValue? mark = none ∧ controlEscapes.lookup mark = none ∧ isAsciiDigit mark = false ∧
      isLineTerminator mark = false ∧ mark ∉ ['x', 'u', '{', '}', '\\'] := by
  have hall : ∀ mark ∈ loneMarks, Json.hexValue? mark = none ∧
      controlEscapes.lookup mark = none ∧ isAsciiDigit mark = false ∧
        isLineTerminator mark = false ∧ mark ∉ ['x', 'u', '{', '}', '\\'] :=
    List.all_iff_forall_prop.mp (by decide +kernel)
  exact hall mark hmark

/-- The text of an escape by number. -/
def IsNumeric (text : List Char) : Prop :=
  ∀ c ∈ text, (Json.hexValue? c).isSome = true ∨ c ∈ ['x', 'u', '{', '}']

theorem isNumeric_cons {c : Char} {text : List Char} (hc : c ∈ ['x', 'u', '{', '}'])
    (htext : IsNumeric text) : IsNumeric (c :: text) :=
  List.forall_mem_cons.mpr ⟨.inr hc, htext⟩

theorem IsNumeric.not_mem {text : List Char} (htext : IsNumeric text) {mark : Char}
    (hmark : mark ∈ loneMarks) : mark ∉ text := by
  obtain ⟨hhex, _, _, _, hother⟩ := loneMark_cases hmark
  intro hmem
  rcases htext mark hmem with hsome | hletter
  · rw [hhex] at hsome
    cases hsome
  · simp_all

theorem isNumeric_of_hexNumber? {digits : List Char} {code : Nat}
    (hnumber : hexNumber? digits = some code) : IsNumeric digits := by
  have hall : ∀ start, digits.foldlM (fun code c => (Json.hexValue? c).map (16 * code + ·)) start =
      some code → IsNumeric digits := by
    clear hnumber
    induction digits with
    | nil => exact fun _ _ _ hc => absurd hc List.not_mem_nil
    | cons d digits ih =>
        intro start hstart
        rw [List.foldlM_cons] at hstart
        obtain ⟨next, hnext, hrest⟩ := Option.bind_eq_some_iff.mp hstart
        obtain ⟨value, hvalue, _⟩ := Option.map_eq_some_iff.mp hnext
        exact List.forall_mem_cons.mpr ⟨.inl (by rw [hvalue]; rfl), ih next hrest⟩
  exact hall 0 hnumber

theorem exists_source_of_hexEscape? {width : Nat} {text rest : List Char} {found : List UInt16}
    (hescape : hexEscape? width text = some (found, rest)) :
    ∃ source, text = source ++ rest ∧ IsNumeric source := by
  unfold hexEscape? at hescape
  split at hescape
  next => cases hescape
  next =>
    obtain ⟨code, hnumber, hpair⟩ := Option.map_eq_some_iff.mp hescape
    obtain ⟨_, rfl⟩ := Prod.mk.inj hpair
    exact ⟨text.take width, (List.take_append_drop width text).symm,
      isNumeric_of_hexNumber? hnumber⟩

theorem exists_source_of_codePointEscape? {text rest : List Char} {found : List UInt16}
    (hescape : codePointEscape? text = some (found, rest)) :
    ∃ source, text = source ++ rest ∧ IsNumeric source := by
  unfold codePointEscape? at hescape
  split at hescape
  next digits after hsplit =>
    obtain ⟨rfl, _⟩ := eq_append_of_splitOnce hsplit
    split at hescape
    next => cases hescape
    next =>
      split at hescape
      next code hnumber =>
        split at hescape
        next =>
          obtain ⟨_, rfl⟩ := Prod.mk.inj (Option.some.inj hescape)
          refine ⟨digits ++ ['}'], by simp, List.forall_mem_append.mpr ⟨?_, ?_⟩⟩
          · exact isNumeric_of_hexNumber? hnumber
          · exact isNumeric_cons (by decide) fun _ hc => absurd hc List.not_mem_nil
        next => cases hescape
      next => cases hescape
  next => cases hescape

theorem not_mem_lineBreak {c mark : Char} (hc : mark ≠ c) (hbreak : '\n' ≠ mark)
    {text source : List Char}
    (htext : c :: text = source ++
      if c = '\r' then (dropWord? ['\n'] text).getD text else text) : mark ∉ source := by
  have hone : c :: text = source ++ text → mark ∉ source := by
    intro hsource
    rw [← List.append_cancel_right (List.singleton_append.trans hsource), List.mem_singleton]
    exact hc
  split at htext
  next =>
    cases hdrop : dropWord? ['\n'] text with
    | none =>
        rw [hdrop, Option.getD_none] at htext
        exact hone htext
    | some rest =>
        rw [hdrop, Option.getD_some, eq_append_of_dropWord? hdrop, ← List.cons_append] at htext
        rw [← List.append_cancel_right htext]
        simp [hc, hbreak.symm]
  next => exact hone htext

/-- An escape stands for no more than it is long, and for the mark that it holds, if it holds
one. -/
theorem exists_source_of_escape? {text rest : List Char} {found : List UInt16}
    (hescape : escape? text = some (found, rest)) :
    ∃ source, text = source ++ rest ∧ found.length ≤ (units source).length ∧
      ∀ mark ∈ loneMarks, mark ∈ source → found = charUnits mark := by
  obtain ⟨source, htext, hlength⟩ := takes_of_escape? hescape
  refine ⟨source, htext, hlength, fun mark hmark hmem => ?_⟩
  have hnumeric : ∀ {before}, text = before ++ rest → IsNumeric before →
      found = charUnits mark := by
    intro before hbefore hnumeric
    rw [List.append_cancel_right (htext.symm.trans hbefore)] at hmem
    exact absurd hmem (hnumeric.not_mem hmark)
  obtain ⟨_, hcontrol, hdigit, hline, _⟩ := loneMark_cases hmark
  cases text with
  | nil => cases hescape
  | cons c text =>
      rw [escape?] at hescape
      -- Digits behind an x, digits or braces behind a u, a line break, a zero, any other character.
      split at hescape
      next hx =>
        obtain ⟨before, rfl, hbefore⟩ := exists_source_of_hexEscape? hescape
        exact hnumeric (List.cons_append).symm (isNumeric_cons (by simp [hx]) hbefore)
      split at hescape
      next hu =>
        split at hescape
        next after hbrace =>
          obtain ⟨before, rfl, hbefore⟩ := exists_source_of_codePointEscape? hescape
          rw [eq_append_of_dropWord? hbrace] at hnumeric
          exact @hnumeric (c :: '{' :: before) rfl
            (isNumeric_cons (by simp [hu]) (isNumeric_cons (by decide) hbefore))
        next =>
          obtain ⟨before, rfl, hbefore⟩ := exists_source_of_hexEscape? hescape
          exact hnumeric (List.cons_append).symm (isNumeric_cons (by simp [hu]) hbefore)
      have hfree : '\n' ≠ mark := by
        rintro rfl
        exact Bool.noConfusion hline
      split at hescape
      next hbreak =>
        obtain ⟨-, rfl⟩ := Prod.mk.inj (Option.some.inj hescape)
        have hc : mark ≠ c := by
          rintro rfl
          rw [hline] at hbreak
          cases hbreak
        exact absurd hmem (not_mem_lineBreak hc hfree htext)
      split at hescape
      next hzero =>
        split at hescape
        next =>
          obtain ⟨-, rfl⟩ := Prod.mk.inj (Option.some.inj hescape)
          rw [List.append_cancel_right (htext.symm.trans List.singleton_append.symm),
            List.mem_singleton] at hmem
          rw [hmem, hzero] at hdigit
          cases hdigit
        next => cases hescape
      next =>
        obtain ⟨rfl, rfl⟩ := Prod.mk.inj (Option.some.inj hescape)
        rw [List.append_cancel_right (htext.symm.trans List.singleton_append.symm),
          List.mem_singleton] at hmem
        rw [← hmem, hcontrol]
        rfl

/-! ## Reading behind what is written -/

/-- The unit of a mark. -/
def markUnit (mark : Char) : UInt16 :=
  .ofNat mark.toNat

section

variable {mark : Char} (hmark : mark ∈ loneMarks)

include hmark

theorem charUnits_loneMark : charUnits mark = [markUnit mark] := by
  have hall : ∀ mark ∈ loneMarks, charUnits mark = [markUnit mark] :=
    List.all_iff_forall_prop.mp (by decide)
  exact hall mark hmark

theorem markUnit_not_mem_charUnits {c : Char} (hc : mark ≠ c) : markUnit mark ∉ charUnits c := by
  have hsmall : ∀ mark ∈ loneMarks, mark.toNat < 128 :=
    List.all_iff_forall_prop.mp (by decide)
  have hmark := hsmall mark hmark
  have hvalid : c.toNat < 0xD800 ∨ (0xDFFF < c.toNat ∧ c.toNat < 0x110000) := c.valid
  unfold charUnits codeUnits
  split
  · rw [List.mem_singleton]
    intro hunit
    exact hc (Char.toNat_inj.mp (ofNat_unit_inj (by omega) (by omega) hunit))
  · rw [List.mem_cons, List.mem_singleton]
    rintro (hunit | hunit)
    all_goals
      have hunit := ofNat_unit_inj (by omega) (by omega) hunit
      omega

theorem markUnit_not_mem_units {text : List Char} (htext : mark ∉ text) :
    markUnit mark ∉ units text := by
  intro hmem
  obtain ⟨c, hc, hunit⟩ := List.mem_flatMap.mp hmem
  exact markUnit_not_mem_charUnits hmark (fun heq => htext (heq ▸ hc)) hunit

end

/-- Where no more is read than was written, some of what was written lags behind. -/
theorem exists_lag_of_prefix {written found : List UInt16} (hlength : found.length ≤ written.length)
    {rest later : List UInt16} (hbegin : written ++ rest <+: found ++ later) :
    ∃ lag, written = found ++ lag ∧ lag ++ rest <+: later := by
  have hfound : found <+: written :=
    List.prefix_of_prefix_length_le (List.prefix_append found later)
      ((List.prefix_append written rest).trans hbegin) hlength
  obtain ⟨lag, rfl⟩ := hfound
  rw [List.append_assoc, List.prefix_append_right_inj] at hbegin
  exact ⟨lag, rfl, hbegin⟩

theorem mem_of_prefix_cons {unit : UInt16} {written later : List UInt16} (hne : written ≠ [])
    (hbegin : written <+: unit :: later) : unit ∈ written := by
  obtain ⟨first, written, rfl⟩ := List.exists_cons_of_ne_nil hne
  rw [(List.cons_prefix_cons.mp hbegin).1]
  exact List.mem_cons_self

/-- What is read before a mark that it does not hold is a part of the text before the mark. -/
theorem exists_behind_of_append_eq {mark : Char} {text source rest next : List Char}
    (hsource : mark ∉ source) (heq : text ++ mark :: rest = source ++ next) :
    ∃ behind, text = source ++ behind ∧ next = behind ++ mark :: rest := by
  rcases List.append_eq_append_iff.mp heq with ⟨more, rfl, hmore⟩ | hbehind
  · cases more with
    | nil => exact ⟨[], by simp, hmore.symm⟩
    | cons c more =>
        obtain ⟨rfl, -⟩ := List.cons.inj hmore
        exact absurd (List.mem_append_right _ List.mem_cons_self) hsource
  · exact hbehind

/-- What is read of a literal never catches up with the text in it: not while some text lags behind,
and not if an escape is about to make it lag. The mark is what follows the text; only an escape that
stands for it can hold it. -/
theorem not_prefix_of_literal? {quote mark : Char} (hmark : mark ∈ loneMarks) {text : List Char}
    (htext : mark ∉ text) {lag : List UInt16} (hlag : markUnit mark ∉ lag)
    (hlater : lag ≠ [] ∨ '\\' ∈ text) {rest after : List Char} {value : List UInt16}
    (hread : literal? quote (text ++ mark :: rest) = some (value, after)) :
    ¬ lag ++ units text <+: value := by
  intro hbegin
  cases text with
  | nil =>
      have hne : lag ≠ [] := hlater.resolve_right List.not_mem_nil
      have hback : mark ≠ '\\' := by
        have hother := (loneMark_cases hmark).2.2.2.2
        simp_all
      rw [units_eq_nil_iff.mpr rfl, List.append_nil] at hbegin
      rcases literal?_cases hread with ⟨-, rfl, -⟩ | ⟨hc, -⟩ | ⟨-, later, -, rfl⟩
      · exact hne (List.prefix_nil.mp hbegin)
      · exact hback hc
      · rw [charUnits_loneMark hmark] at hbegin
        exact hlag (mem_of_prefix_cons hne hbegin)
  | cons c text =>
      obtain ⟨hc, hfree⟩ := List.ne_and_not_mem_of_not_mem_cons htext
      have hunit := markUnit_not_mem_charUnits hmark hc
      have hpos := length_charUnits_pos c
      rw [units_cons, ← List.append_assoc] at hbegin
      have hwritten : markUnit mark ∉ lag ++ charUnits c :=
        List.not_mem_append hlag hunit
      rcases literal?_cases hread with ⟨-, rfl, -⟩ | hescape | ⟨hplain, later, hrest, rfl⟩
      · have hle := hbegin.length_le
        rw [List.length_append, List.length_append, List.length_nil] at hle
        omega
      · obtain ⟨rfl, found, next, later, hescape, hnext, rfl⟩ := hescape
        obtain ⟨source, hsource, hlength, hlone⟩ := exists_source_of_escape? hescape
        by_cases hmem : mark ∈ source
        · rw [hlone mark hmark hmem, charUnits_loneMark hmark] at hbegin
          have hne : lag ++ charUnits '\\' ≠ [] := by
            simp [List.ne_nil_of_length_pos hpos]
          exact hwritten (mem_of_prefix_cons hne ((List.prefix_append _ _).trans hbegin))
        · obtain ⟨behind, rfl, rfl⟩ := exists_behind_of_append_eq hmem hsource
          obtain ⟨hheld, hbehind⟩ := not_or.mp (mt List.mem_append.mpr hfree)
          rw [units_append, ← List.append_assoc] at hbegin
          obtain ⟨lag', hlag', hbegin⟩ := exists_lag_of_prefix
            (by rw [List.length_append]; omega) hbegin
          have hlength' := congrArg List.length hlag'
          simp only [List.length_append] at hlength'
          have hne : lag' ≠ [] := List.ne_nil_of_length_pos (by omega)
          refine not_prefix_of_literal? hmark hbehind ?_ (.inl hne) hnext hbegin
          intro hmem'
          have hmem' := List.mem_append_right found hmem'
          rw [← hlag'] at hmem'
          exact (List.mem_append.mp hmem').elim hwritten (markUnit_not_mem_units hmark hheld)
      · obtain ⟨lag', hlag', hbegin⟩ := exists_lag_of_prefix
          (by rw [List.length_append]; omega) hbegin
        have hlength := congrArg List.length hlag'
        simp only [List.length_append] at hlength
        refine not_prefix_of_literal? hmark hfree ?_ ?_ hrest hbegin
        · intro hmem
          have hmem := List.mem_append_right (charUnits c) hmem
          rw [← hlag'] at hmem
          exact hwritten hmem
        · refine hlater.imp (fun hne => ?_) fun hmem => ?_
          · have hpos := List.length_pos_iff.mpr hne
            exact List.ne_nil_of_length_pos (by omega)
          · exact (List.mem_cons.mp hmem).resolve_left (Ne.symm hplain.2.1)
  termination_by text.length
  decreasing_by
    all_goals simp_all only [List.length_append, List.length_cons]
    all_goals omega

/-! ## Texts that are read as they are -/

theorem isPlainText_of_literal?_of_not_mem {quote : Char} {text : List Char}
    (hquote : quote ∉ text) (hback : '\\' ∉ text) {rest after : List Char} {value : List UInt16}
    (hread : literal? quote (text ++ quote :: rest) = some (value, after)) :
    IsPlainText quote text := by
  induction text generalizing value with
  | nil => exact fun _ hc => absurd hc List.not_mem_nil
  | cons c text ih =>
      obtain ⟨hc, hquote⟩ := List.ne_and_not_mem_of_not_mem_cons hquote
      obtain ⟨hcback, hback⟩ := List.ne_and_not_mem_of_not_mem_cons hback
      rcases literal?_cases hread with ⟨rfl, -⟩ | ⟨rfl, -⟩ | ⟨hplain, later, hrest, -⟩
      · exact absurd rfl hc
      · exact absurd rfl hcback
      · exact List.forall_mem_cons.mpr ⟨hplain, ih hquote hback hrest⟩

/-- A text before a mark, up to the first such mark. -/
theorem exists_first_mark (mark : Char) (text rest : List Char) :
    ∃ first second, text ++ mark :: rest = first ++ mark :: second ∧ mark ∉ first ∧
      first <+: text := by
  obtain ⟨first, second, heq, hfirst⟩ :=
    List.eq_append_cons_of_mem (List.mem_append_right text (List.mem_cons_self (a := mark)
      (l := rest)))
  obtain ⟨behind, rfl, -⟩ := exists_behind_of_append_eq hfirst heq
  exact ⟨first, second, heq, hfirst, List.prefix_append first behind⟩

/-- A text between quotes that stands for itself is plain. -/
theorem isPlainText_of_literal? {quote : Char} (hquote : isQuote quote = true)
    {text rest after : List Char}
    (hread : literal? quote (text ++ quote :: rest) = some (units text, after)) :
    IsPlainText quote text := by
  obtain ⟨first, second, heq, hfirst, tail, rfl⟩ := exists_first_mark quote text rest
  rw [heq] at hread
  have hback : '\\' ∉ first := by
    intro hmem
    apply not_prefix_of_literal? (mem_loneMarks_of_isQuote hquote) hfirst List.not_mem_nil
      (.inr hmem) hread
    rw [List.nil_append, units_append]
    exact List.prefix_append _ _
  have hplain := isPlainText_of_literal?_of_not_mem hfirst hback hread
  rw [literal?_of_isPlainText hplain, units_append] at hread
  have htail : units tail = [] :=
    List.append_right_eq_self.mp (congrArg Prod.fst (Option.some.inj hread)).symm
  rwa [units_eq_nil_iff.mp htail, List.append_nil]

/-- A literal does not stand for a text that it is only a part of: for its opening quote, or
whatever comes before what is read, with the text up to some mark behind the literal. -/
theorem value_ne_of_literal? {quote mark : Char} (hmark : mark ∈ loneMarks)
    {before text rest after : List Char} (hne : before ≠ []) (hbefore : mark ∉ before)
    {value : List UInt16} (hread : literal? quote (text ++ mark :: rest) = some (value, after)) :
    value ≠ units (before ++ text) := by
  rintro rfl
  obtain ⟨first, second, heq, hfirst, tail, rfl⟩ := exists_first_mark mark text rest
  rw [heq] at hread
  apply not_prefix_of_literal? hmark hfirst (markUnit_not_mem_units hmark hbefore)
    (.inl (mt units_eq_nil_iff.mp hne)) hread
  rw [← units_append, ← List.append_assoc, units_append (before ++ first)]
  exact List.prefix_append _ _

end ClientPlan.Code
