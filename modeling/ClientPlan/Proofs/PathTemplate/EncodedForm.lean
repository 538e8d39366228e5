import ClientPlan.Proofs.PathTemplate.Factors
import ClientPlan.Proofs.PathTemplate.Unescape

/-! # Placeholders in the encoded form

A path means the same whether its placeholders are written in braces or as calls that hold their
names, and whether the quotes of the calls are escaped or not.
-/

namespace ClientPlan.PathTemplate

open Client Text

/-- How a quote is written. -/
inductive Quote where
  | plain
  | escaped

def Quote.chars : Quote → List Char
  | plain => ['"']
  | escaped => quoteEntity

/-- What stands before the label of a call. -/
def labelMark : List Char :=
  "\x7bname: ".toList

/-- A placeholder behind literal text, with what its call holds beside the name. -/
structure Slot where
  literal : List Char
  name : List Char
  opening : Quote
  label : List Char
  closing : Quote
  /-- What stands between the name and the end of the arguments. -/
  others : List Char

namespace Slot

/-- What both forms ask of their parts. -/
structure WellFormed (slot : Slot) : Prop where
  literal : '{' ∉ slot.literal ∧ '}' ∉ slot.literal
  name : slot.name ≠ [] ∧ ∀ c ∈ slot.name, c ∉ [',', '{', '}', '(', ')', '/']
  label : ')' ∉ slot.label ∧ ¬ valueMark <:+: slot.label
  others : slot.others = [] ∨ [',', ' '] <+: slot.others ∧ ')' ∉ slot.others

/-- The placeholder in braces. -/
def documentForm (slot : Slot) : List Char :=
  slot.literal ++ '{' :: (slot.name ++ ['}'])

/-- The arguments of the call. -/
def arguments (slot : Slot) : List Char :=
  labelMark ++ (slot.opening.chars ++ (slot.label ++ (slot.closing.chars ++
    ([',', ' '] ++ (valueMark ++ (slot.name ++ (slot.others ++ ['}'])))))))

/-- The placeholder as a call. -/
def encodedForm (slot : Slot) : List Char :=
  slot.literal ++ (encodedStart ++ (slot.arguments ++ [')', '}']))

/-- The slot with its texts unescaped. -/
def unescaped (slot : Slot) : Slot where
  literal := PathTemplate.unescaped slot.literal
  name := PathTemplate.unescaped slot.name
  opening := .plain
  label := PathTemplate.unescaped slot.label
  closing := .plain
  others := PathTemplate.unescaped slot.others

/-! ## Unescaping -/

theorem unescaped_append_quote (text : List Char) (quote : Quote) (rest : List Char) :
    PathTemplate.unescaped (text ++ (quote.chars ++ rest)) =
      PathTemplate.unescaped text ++ '"' :: PathTemplate.unescaped rest := by
  cases quote with
  | plain => exact unescaped_cut (by decide) (by decide) text rest
  | escaped =>
      rw [Quote.chars, quoteEntity_eq, List.cons_append, unescaped_append_cons (by decide),
        ← List.cons_append, ← quoteEntity_eq, unescaped_quoteEntity_append]

section

variable {slot : Slot} (hslot : slot.WellFormed)

include hslot

theorem WellFormed.eq_nil_or_cons :
    slot.others = [] ∨ ∃ rest, slot.others = ',' :: ' ' :: rest := by
  rcases hslot.others with hnil | ⟨⟨rest, hrest⟩, _⟩
  · exact .inl hnil
  · exact .inr ⟨rest, hrest.symm⟩

theorem WellFormed.unescaped : slot.unescaped.WellFormed where
  literal := ⟨not_mem_unescaped (by decide) (by decide) hslot.literal.1,
    not_mem_unescaped (by decide) (by decide) hslot.literal.2⟩
  name := by
    refine ⟨unescaped_ne_nil hslot.name.1, fun c hc => ?_⟩
    rcases mem_of_mem_unescaped hc with rfl | rfl | hname
    · decide
    · decide
    · exact hslot.name.2 c hname
  label := by
    refine ⟨not_mem_unescaped (by decide) (by decide) hslot.label.1, fun hoccurs => ?_⟩
    exact hslot.label.2 (infix_of_infix_unescaped (by decide) (by decide) hoccurs)
  others := by
    rcases hslot.others with hnil | ⟨⟨rest, hrest⟩, hnot⟩
    · exact .inl (by rw [Slot.unescaped, hnil]; rfl)
    · refine .inr ⟨⟨PathTemplate.unescaped rest, ?_⟩, ?_⟩
      · rw [Slot.unescaped, ← hrest]
        exact (unescaped_append_of_not_mem (by decide) rest).symm
      · exact not_mem_unescaped (by decide) (by decide) hnot

/-- The name ends at a comma or at a brace, and so it is unescaped on its own. -/
theorem unescaped_name_append (rest : List Char) :
    PathTemplate.unescaped (slot.name ++ (slot.others ++ '}' :: rest)) =
      PathTemplate.unescaped slot.name ++
        (PathTemplate.unescaped slot.others ++ '}' :: PathTemplate.unescaped rest) := by
  rw [← List.append_assoc, unescaped_cut (by decide) (by decide), ← List.append_assoc]
  congr 1
  rcases hslot.eq_nil_or_cons with hnil | ⟨others, hothers⟩
  · rw [hnil, List.append_nil]
    exact (List.append_nil _).symm
  · rw [hothers, unescaped_append_cons (by decide)]

theorem unescaped_arguments_append (rest : List Char) :
    PathTemplate.unescaped (slot.arguments ++ rest) =
      slot.unescaped.arguments ++ PathTemplate.unescaped rest := by
  have hlabel : '&' ∉ labelMark := by decide
  have hcomma : '&' ∉ [',', ' '] := by decide
  have hvalue : '&' ∉ valueMark := by decide
  have hopening : ∀ text, PathTemplate.unescaped (slot.opening.chars ++ text) =
      '"' :: PathTemplate.unescaped text := unescaped_append_quote [] slot.opening
  simp only [arguments, List.append_assoc]
  rw [unescaped_append_of_not_mem hlabel, hopening, unescaped_append_quote,
    unescaped_append_of_not_mem hcomma, unescaped_append_of_not_mem hvalue, List.singleton_append,
    unescaped_name_append hslot]
  rfl

theorem unescaped_encodedForm_append (rest : List Char) :
    PathTemplate.unescaped (slot.encodedForm ++ rest) =
      slot.unescaped.encodedForm ++ PathTemplate.unescaped rest := by
  have hstart : encodedStart = '$' :: encodedStart.tail := by decide
  have hplain : '&' ∉ encodedStart := by decide
  have hclose : '&' ∉ [')', '}'] := by decide
  simp only [encodedForm, List.append_assoc]
  rw [hstart, List.cons_append, unescaped_append_cons (by decide), ← List.cons_append, ← hstart,
    unescaped_append_of_not_mem hplain, unescaped_arguments_append hslot,
    unescaped_append_of_not_mem hclose]
  rfl

end

theorem unescaped_documentForm_append (slot : Slot) (rest : List Char) :
    PathTemplate.unescaped (slot.documentForm ++ rest) =
      slot.unescaped.documentForm ++ PathTemplate.unescaped rest := by
  have hopen : Cuts '{' ∧ '{' ≠ '&' := by decide
  have hclose : Cuts '}' ∧ '}' ≠ '&' := by decide
  simp only [documentForm, List.append_assoc, List.cons_append, List.nil_append,
    unescaped_cut hopen.1 hopen.2, unescaped_cut hclose.1 hclose.2]
  rfl

/-! ## Reading -/

/-- The form that the call has once it is unescaped. -/
def encoded (slot : Slot) : Encoded where
  before := labelMark ++ '"' :: (slot.label ++ '"' :: [',', ' '])
  value := slot.name
  after := slot.others ++ ['}']

theorem arguments_unescaped (slot : Slot) :
    slot.unescaped.arguments ++ [')', '}'] = slot.unescaped.encoded.arguments := by
  simp only [arguments, encoded, Encoded.arguments, Slot.unescaped, Quote.chars, List.append_assoc,
    List.cons_append, List.nil_append]

end Slot

/-- A word that holds no separator and does not occur before it begins behind it or not at all. -/
theorem not_prefix_of_suffix_append_cons {word first second : List Char} {c : Char}
    (hword : word ≠ []) (hc : c ∉ word) (hfirst : ¬ word <:+: first)
    (hsecond : ∀ start, start <:+ second → start ≠ [] → ∀ later, ¬ word <+: start ++ later) :
    ∀ start, start <:+ first ++ c :: second → start ≠ [] → ∀ later, ¬ word <+: start ++ later := by
  rintro start ⟨before, hbefore⟩ hne later hbegin
  rcases List.append_eq_append_iff.mp hbefore with ⟨middle, rfl, rfl⟩ | ⟨middle, rfl, hmiddle⟩
  · rw [List.append_assoc, List.cons_append] at hbegin
    have hinside := prefix_of_prefix_append_cons hc hbegin
    exact hfirst (hinside.isInfix.trans (List.suffix_append before middle).isInfix)
  · cases middle with
    | nil =>
        obtain rfl : start = c :: second := hmiddle.symm
        have hnil : word <+: [] := prefix_of_prefix_append_cons hc hbegin
        exact hword (List.prefix_nil.mp hnil)
    | cons d middle =>
        obtain ⟨_, rfl⟩ := List.cons.inj hmiddle
        exact hsecond start (List.suffix_append _ _) hne later hbegin

/-- A form is read where a text begins with it, if no value mark stands before its own and a value
cannot go on behind its own. -/
theorem Encoded.isFirst_of_unmarked {form : Encoded} (hform : form.WellFormed)
    (hunmarked : ∀ start, start <:+ form.before → start ≠ [] →
      ∀ later, ¬ valueMark <+: start ++ later)
    {stop : Char} (hstop : stop = ',' ∨ stop = '}') {others : List Char}
    (hafter : form.after = stop :: others) (rest : List Char) :
    form.IsFirst (form.arguments ++ rest) where
  wellFormed := hform
  begins := List.prefix_append _ _
  first := by
    rintro other hother ⟨more, hmore⟩
    simp only [Encoded.arguments, List.append_assoc, hafter, List.cons_append,
      List.nil_append] at hmore
    rcases Nat.lt_trichotomy form.before.length other.before.length with hlt | heq | hgt
    · exact .inl hlt
    · obtain ⟨_, hvalues⟩ := List.append_inj hmore heq.symm
      have hnot : stop ∉ other.value := by
        intro hmem
        obtain ⟨hcomma, hbrace⟩ := hother.value.2 stop hmem
        exact hstop.elim hcomma hbrace
      -- A longer value would hold what stands behind the value of the form.
      have hvalue : other.value <+: form.value :=
        prefix_of_prefix_append_cons hnot ⟨_, List.append_cancel_left hvalues⟩
      exact .inr ⟨heq, hvalue.length_le⟩
    · exfalso
      obtain ⟨middle, hbefore⟩ : other.before <+: form.before :=
        List.prefix_of_prefix_length_le ⟨_, hmore⟩ (List.prefix_append _ _) hgt.le
      have hne : middle ≠ [] := by
        rintro rfl
        rw [← hbefore, List.append_nil] at hgt
        exact Nat.lt_irrefl _ hgt
      rw [← hbefore, List.append_assoc] at hmore
      exact hunmarked middle ⟨_, hbefore⟩ hne _ ⟨_, List.append_cancel_left hmore⟩

namespace Slot

section

variable {slot : Slot} (hslot : slot.WellFormed)

include hslot

theorem WellFormed.not_prefix_of_suffix_before :
    ∀ start, start <:+ slot.encoded.before → start ≠ [] →
      ∀ later, ¬ valueMark <+: start ++ later := by
  have hmark : valueMark ≠ [] ∧ '"' ∉ valueMark ∧ ¬ valueMark <:+: labelMark := by
    decide +kernel
  refine not_prefix_of_suffix_append_cons hmark.1 hmark.2.1 hmark.2.2 ?_
  refine not_prefix_of_suffix_append_cons hmark.1 hmark.2.1 hslot.label.2 ?_
  intro start hsuffix hne later hbegin
  -- What begins behind the label begins with a comma or a blank.
  obtain ⟨c, rest, rfl⟩ := List.exists_cons_of_ne_nil hne
  have hmem : c ∈ [',', ' '] := hsuffix.subset List.mem_cons_self
  have hhead : valueMark = 'v' :: valueMark.tail := by decide
  rw [hhead, List.cons_append] at hbegin
  obtain ⟨rfl, _⟩ := List.cons_prefix_cons.mp hbegin
  revert hmem
  decide

theorem WellFormed.encoded : slot.encoded.WellFormed where
  before := by
    have hmark : ')' ∉ labelMark := by decide
    simp [Slot.encoded, hmark, hslot.label.1]
  value := by
    refine ⟨hslot.name.1, fun c hc => ?_⟩
    have hnot := hslot.name.2 c hc
    exact ⟨by rintro rfl; exact hnot (by decide), by rintro rfl; exact hnot (by decide)⟩
  after := by
    rcases hslot.others with hnil | ⟨_, hnot⟩
    · simp [Slot.encoded, hnil]
    · simp [Slot.encoded, hnot]

theorem WellFormed.isFirst_encoded (rest : List Char) :
    slot.encoded.IsFirst (slot.encoded.arguments ++ rest) := by
  have hunmarked := hslot.not_prefix_of_suffix_before
  rcases hslot.eq_nil_or_cons with hnil | ⟨others, hothers⟩
  · have hafter : slot.encoded.after = '}' :: [] := by
      rw [Slot.encoded, hnil]
      rfl
    exact Encoded.isFirst_of_unmarked hslot.encoded hunmarked (.inr rfl) hafter rest
  · have hafter : slot.encoded.after = ',' :: (' ' :: others ++ ['}']) := by
      rw [Slot.encoded, hothers]
      rfl
    exact Encoded.isFirst_of_unmarked hslot.encoded hunmarked (.inl rfl) hafter rest

theorem WellFormed.isBracedName : Placeholder.IsBracedName slot.name := by
  refine ⟨hslot.name.1, fun c hc => ?_⟩
  have hnot := hslot.name.2 c hc
  refine ⟨?_, ?_, ?_⟩
  all_goals
    rintro rfl
    exact hnot (by decide)

end

/-- The name that is asked for. -/
def wanted (slot : Slot) : String :=
  String.ofList (trim slot.name)

/-- The placeholder that is read in the document form. -/
def braced (slot : Slot) : Placeholder :=
  .braced slot.name

/-- The placeholder that is read in the encoded form. -/
def call (slot : Slot) : Placeholder :=
  slot.encoded.placeholder

/-- A slot with its placeholder as a part of a path. -/
def part (found : Slot → Placeholder) (slot : Slot) : Part :=
  ⟨slot.literal, found slot⟩

/-- A slot as it is written when it is unescaped. -/
def source (found : Slot → Placeholder) (slot : Slot) : List Char :=
  slot.literal ++ (found slot).source

end Slot

theorem free_of_not_mem {literal rest : List Char} (hliteral : '{' ∉ literal)
    (hrest : ¬ encodedStart.tail <+: rest) : Free literal rest := by
  rintro start ⟨before, rfl⟩ hne found hfound hbegin
  obtain ⟨c, later, rfl⟩ := List.exists_cons_of_ne_nil hne
  cases hfound with
  | braced hname =>
      obtain ⟨rfl, _⟩ := List.cons_prefix_cons.mp hbegin
      simp at hliteral
  | @encoded form hform =>
      have hstart : encodedStart = '$' :: encodedStart.tail := by decide
      rw [Encoded.placeholder, hstart, List.cons_append, List.cons_append,
        List.cons_prefix_cons] at hbegin
      have htail := (List.prefix_append _ _).trans hbegin.2
      cases later with
      | nil => exact hrest htail
      | cons d later =>
          have hbrace : encodedStart.tail = '{' :: encodedStart.tail.tail := by decide
          rw [hbrace, List.cons_append, List.cons_prefix_cons] at htail
          obtain ⟨rfl, _⟩ := htail
          simp at hliteral

/-- A form of placeholders, by the text of a slot and the placeholder that is read in it. -/
structure IsForm (form : Slot → List Char) (found : Slot → Placeholder) : Prop where
  inner : ∀ slot, (found slot).inner = slot.name
  unescaped_append : ∀ slot : Slot, slot.WellFormed → ∀ rest,
    unescaped (form slot ++ rest) = slot.unescaped.source found ++ unescaped rest
  free : ∀ slot : Slot, slot.WellFormed → ∀ rest, Free slot.literal ((found slot).source ++ rest)
  opens : ∀ slot : Slot, slot.WellFormed → ∀ rest, (found slot).Opens ((found slot).source ++ rest)

theorem isForm_documentForm : IsForm Slot.documentForm Slot.braced where
  inner _ := rfl
  unescaped_append slot _ := slot.unescaped_documentForm_append
  free slot hslot rest := by
    refine free_of_not_mem hslot.literal.1 fun hbegin => ?_
    -- The name would hold the parenthesis that a call opens.
    have hstart : encodedStart.tail = '{' :: encodedStart.tail.tail := by decide
    have hinside : '}' ∉ encodedStart.tail.tail ∧ '(' ∈ encodedStart.tail.tail := by decide
    rw [Slot.braced, Placeholder.braced, hstart, List.cons_append, List.cons_append,
      List.append_assoc, List.cons_prefix_cons] at hbegin
    have hname := prefix_of_prefix_append_cons hinside.1 hbegin.2
    exact hslot.name.2 '(' (hname.subset hinside.2) (by decide)
  opens slot hslot rest := .braced hslot.isBracedName

theorem isForm_encodedForm : IsForm Slot.encodedForm Slot.call where
  inner _ := rfl
  unescaped_append slot hslot rest := by
    rw [Slot.unescaped_encodedForm_append hslot, Slot.encodedForm, Slot.arguments_unescaped]
    rfl
  free slot hslot rest := by
    refine free_of_not_mem hslot.literal.1 fun hbegin => ?_
    have hstart : encodedStart = '$' :: encodedStart.tail := by decide
    have hbrace : encodedStart.tail = '{' :: encodedStart.tail.tail := by decide
    rw [Slot.call, Encoded.placeholder, hstart, hbrace] at hbegin
    cases (List.cons_prefix_cons.mp hbegin).1
  opens slot hslot rest := by
    have hopens := Placeholder.Opens.encoded (hslot.isFirst_encoded rest)
    rwa [← List.append_assoc] at hopens

section

variable {form : Slot → List Char} {found : Slot → Placeholder} (hform : IsForm form found)
variable {slots : List Slot} (hslots : ∀ slot ∈ slots, slot.WellFormed)

include hform hslots

theorem IsForm.unescaped_flatMap_append (last : List Char) :
    unescaped (slots.flatMap form ++ last) =
      (slots.map Slot.unescaped).flatMap (Slot.source found) ++ unescaped last := by
  induction slots with
  | nil => rfl
  | cons slot slots ih =>
      obtain ⟨hslot, hslots⟩ := List.forall_mem_cons.mp hslots
      rw [List.flatMap_cons, List.append_assoc, hform.unescaped_append slot hslot, ih hslots,
        List.map_cons, List.flatMap_cons, List.append_assoc]

theorem IsForm.factors {last : List Char} (hlast : Free last []) :
    Factors (slots.flatMap (Slot.source found) ++ last) (slots.map (Slot.part found)) last := by
  induction slots with
  | nil => exact .last hlast
  | cons slot slots ih =>
      obtain ⟨hslot, hslots⟩ := List.forall_mem_cons.mp hslots
      rw [List.flatMap_cons, List.append_assoc, Slot.source, List.append_assoc]
      exact .part (hform.free slot hslot _) (hform.opens slot hslot _) (ih hslots)

end

theorem placeholderNames_map_literal (literal : List Char) :
    placeholderNames (literal.map .literal) = [] := by
  simp [placeholderNames, List.filterMap_map]

theorem placeholderNames_parts (parts : List Part) (last : List Char) :
    placeholderNames (parts.flatMap Part.segments ++ last.map .literal) = names parts := by
  have happend : ∀ first second, placeholderNames (first ++ second) =
      placeholderNames first ++ placeholderNames second := fun _ _ => List.filterMap_append
  induction parts with
  | nil => exact placeholderNames_map_literal last
  | cons part parts ih =>
      rw [List.flatMap_cons, List.append_assoc, happend, ih, Part.segments, happend,
        placeholderNames_map_literal, names_cons]
      rfl

/-- The template of slots, in whatever form they are written. -/
theorem IsForm.rewrite_eq {form : Slot → List Char} {found : Slot → Placeholder}
    (hform : IsForm form found) {slots : List Slot} {raw : String} {last : List Char}
    (hfactors : Factors raw.toList (slots.map (Slot.part found)) last)
    (resolve : String → Option String) :
    rewrite raw resolve =
      { pieces := slots.flatMap (fun slot => slot.literal.map .literal ++
            [.hole ((resolve slot.wanted).getD slot.wanted)]) ++ last.map .literal
        unresolved := (slots.map Slot.wanted).filter fun name => (resolve name).isNone } := by
  have hwanted : ∀ slot, (found slot).name = slot.wanted := by
    intro slot
    rw [Placeholder.name, hform.inner, Slot.wanted]
  have hnames : names (slots.map (Slot.part found)) = slots.map Slot.wanted := by
    rw [names, List.map_map]
    exact List.map_congr_left fun slot _ => hwanted slot
  rw [rewrite, hfactors.segments_eq, placeholderNames_parts, hnames]
  congr 1
  simp only [List.map_append, List.map_flatMap, List.flatMap_map, Slot.part, Part.segments,
    List.map_map, List.map_cons, List.map_nil, pieceOf, hwanted]
  rfl

/-- A path whose placeholders are written as calls has the template of the path in which they are
written in braces. -/
theorem build_encodedForm {slots : List Slot} (hslots : ∀ slot ∈ slots, slot.WellFormed)
    {last : List Char} (hlast : '{' ∉ last ∧ '}' ∉ last) (params : List Parameter)
    (dialect : Dialect) :
    build (String.ofList (slots.flatMap Slot.encodedForm ++ last)) params dialect =
      build (String.ofList (slots.flatMap Slot.documentForm ++ last)) params dialect := by
  have hunescaped : ∀ slot ∈ slots.map Slot.unescaped, slot.WellFormed := by
    intro slot hslot
    obtain ⟨raw, hraw, rfl⟩ := List.mem_map.mp hslot
    exact (hslots raw hraw).unescaped
  have hfree : Free (unescaped last) [] :=
    free_of_not_mem (not_mem_unescaped (by decide) (by decide) hlast.1) (by decide)
  have hfactors {form : Slot → List Char} {found : Slot → Placeholder}
      (hform : IsForm form found) :
      Factors (unescape (String.ofList (slots.flatMap form ++ last))).toList
        ((slots.map Slot.unescaped).map (Slot.part found)) (unescaped last) := by
    rw [toList_unescape, String.toList_ofList, hform.unescaped_flatMap_append hslots]
    exact hform.factors hunescaped hfree
  rw [build, build, isForm_encodedForm.rewrite_eq (hfactors isForm_encodedForm),
    isForm_documentForm.rewrite_eq (hfactors isForm_documentForm)]

/-- Two placeholders, the first behind a sign that could begin a call. -/
def unitPath : List Slot :=
  [{ literal := ['/', 'c', '$']
     name := ['i', 'd']
     opening := .escaped
     label := quoteEntity
     closing := .plain
     others := [',', ' '] ++ valueMark ++ ['{'] },
    { literal := ['/']
      name := [' ', 'n', 'o']
      opening := .plain
      label := []
      closing := .escaped
      others := [] }]

/-- The number in the first placeholder. -/
def courseNumber : Parameter where
  rawName := "id"
  location := .path
  required := true
  dataType := "number"
  baseType := some "integer"
  isInteger := true
  isNumber := false
  identifier := "id"
  isNumeric := true

theorem build_encodedForm_unitPath :
    let raw := "/c$\x7bid\x7d/\x7b no\x7d/"
    raw.toList = unitPath.flatMap Slot.documentForm ++ ['/'] ∧
      build (String.ofList (unitPath.flatMap Slot.encodedForm ++ ['/'])) [courseNumber] .value =
        build raw [courseNumber] .value ∧
      build raw [courseNumber] .value =
        { pieces := [.literal '/', .literal 'c', .literal '$', .hole "idValue", .literal '/',
            .hole "no", .literal '/']
          unresolved := ["no"] } := by
  have hslots : ∀ slot ∈ unitPath, slot.WellFormed := by
    simp only [unitPath, List.forall_mem_cons, List.not_mem_nil, false_implies, implies_true,
      and_true]
    constructor
    all_goals exact ⟨by decide, by simp, by decide +kernel, by decide +kernel⟩
  have hlast : '{' ∉ ['/'] ∧ '}' ∉ ['/'] := by decide
  have hraw : "/c$\x7bid\x7d/\x7b no\x7d/".toList =
      unitPath.flatMap Slot.documentForm ++ ['/'] := by decide +kernel
  have htemplate := build_encodedForm hslots hlast [courseNumber] .value
  rw [← hraw, String.ofList_toList] at htemplate
  exact ⟨hraw, htemplate, by decide +kernel⟩

end ClientPlan.PathTemplate
