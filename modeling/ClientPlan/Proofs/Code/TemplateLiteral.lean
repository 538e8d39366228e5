import Mathlib.Data.List.Flatten
import ClientPlan.Json.Token
import ClientPlan.Proofs.Code.Identifier
import ClientPlan.Proofs.Text.Replace

/-! # Template literals

What the text between the backticks of a template literal stands for, in UTF-16 code units, when the
literal interpolates variables and nothing else.
-/

namespace ClientPlan.Code.TemplateLiteral

open Text

/-- The code units of a code point. -/
def codeUnits (code : Nat) : List UInt16 :=
  if code < 0x10000 then [.ofNat code]
  else [.ofNat (0xD800 + (code - 0x10000) / 0x400), .ofNat (0xDC00 + (code - 0x10000) % 0x400)]

def charUnits (c : Char) : List UInt16 :=
  codeUnits c.toNat

def units (text : List Char) : List UInt16 :=
  text.flatMap charUnits

/-- A part of a literal: text that stands for itself or is escaped, or a variable. -/
inductive Part where
  | text (units : List UInt16)
  | hole (name : String)
  deriving DecidableEq, Repr

def Part.value (env : String → List UInt16) : Part → List UInt16
  | text units => units
  | .hole name => env name

/-! ## Escapes -/

def hexNumber? (digits : List Char) : Option Nat :=
  digits.foldlM (fun code c => (Json.hexValue? c).map (16 * code + ·)) 0

/-- A code unit by the number of digits that name it. -/
def hexEscape? (width : Nat) (text : List Char) : Option (List UInt16 × List Char) :=
  if text.length < width then none
  else (hexNumber? (text.take width)).map fun code => (codeUnits code, text.drop width)

/-- A code point by its digits, up to a brace. -/
def codePointEscape? (text : List Char) : Option (List UInt16 × List Char) :=
  match splitOnce '}' text with
  | some (digits, rest) =>
      if digits.isEmpty then none
      else
        match hexNumber? digits with
        | some code => if code ≤ 0x10FFFF then some (codeUnits code, rest) else none
        | none => none
  | none => none

def isLineTerminator (c : Char) : Bool :=
  c = '\n' || c = '\r' || c = '\u2028' || c = '\u2029'

/-- The letters that stand for control characters. -/
def controlEscapes : List (Char × UInt16) :=
  [('b', 8), ('t', 9), ('n', 10), ('v', 11), ('f', 12), ('r', 13)]

/-- What the text after a backslash stands for, and the text behind it. A line break stands for
nothing, and a digit only where it is a zero before no other. -/
def escape? : List Char → Option (List UInt16 × List Char)
  | [] => none
  | c :: rest =>
    if c = 'x' then hexEscape? 2 rest
    else if c = 'u' then
      match dropWord? ['{'] rest with
      | some rest => codePointEscape? rest
      | none => hexEscape? 4 rest
    else if isLineTerminator c then
      some ([], if c = '\r' then (dropWord? ['\n'] rest).getD rest else rest)
    else if isAsciiDigit c then
      if c = '0' && !rest.head?.any isAsciiDigit then some ([0], rest) else none
    else some (((controlEscapes.lookup c).map fun code => [code]).getD (charUnits c), rest)

/-! ## Parts -/

/-- The variable that an interpolation holds, and the text behind it. -/
def interpolated? (text : List Char) : Option (Part × List Char) :=
  match splitOnce '}' text with
  | some (name, rest) =>
      if IsIdentifier (String.ofList name) then some (.hole (String.ofList name), rest) else none
  | none => none

/-- The first part of a text, and the text behind it. A carriage return is read as a line feed, with
the one that follows it. -/
def part? : List Char → Option (Part × List Char)
  | [] => none
  | c :: rest =>
    if c = '\x60' then none
    else if c = '\\' then (escape? rest).map fun found => (.text found.1, found.2)
    else if c = '\r' then some (.text [10], (dropWord? ['\n'] rest).getD rest)
    else
      match if c = '$' then dropWord? ['{'] rest else none with
      | some rest => interpolated? rest
      | none => some (.text (charUnits c), rest)

/-! ## How much of a text a part takes up -/

theorem units_append (first second : List Char) :
    units (first ++ second) = units first ++ units second :=
  List.flatMap_append

theorem units_cons (c : Char) (text : List Char) : units (c :: text) = charUnits c ++ units text :=
  List.flatMap_cons

theorem units_singleton (c : Char) : units [c] = charUnits c := by
  rw [units_cons, units, List.flatMap_nil, List.append_nil]

theorem length_codeUnits_le (code : Nat) : (codeUnits code).length ≤ 2 := by
  unfold codeUnits
  split <;> simp

theorem length_charUnits_pos (c : Char) : 0 < (charUnits c).length := by
  unfold charUnits codeUnits
  split <;> simp

theorem length_le_length_units (text : List Char) : text.length ≤ (units text).length := by
  induction text with
  | nil => exact Nat.zero_le _
  | cons c text ih =>
      have hc := length_charUnits_pos c
      rw [units_cons, List.length_append, List.length_cons]
      omega

theorem length_units_hole (name : List Char) :
    (units ('$' :: '{' :: (name ++ ['}']))).length = (units name).length + 3 := by
  have hopening : (units ['$', '{']).length = 2 := rfl
  have hclosing : (units ['}']).length = 1 := rfl
  have hsource : '$' :: '{' :: (name ++ ['}']) = ['$', '{'] ++ (name ++ ['}']) := rfl
  rw [hsource, units_append, units_append, List.length_append, List.length_append]
  omega

/-- What is read before the rest of a text, and yields no more than it is long. -/
def Takes (text rest : List Char) (size : Nat) : Prop :=
  ∃ source, text = source ++ rest ∧ size ≤ (units source).length

theorem takes_of_hexEscape? {width : Nat} (hwidth : 2 ≤ width) {text rest : List Char}
    {found : List UInt16} (hescape : hexEscape? width text = some (found, rest)) :
    Takes text rest found.length := by
  unfold hexEscape? at hescape
  split at hescape
  next => cases hescape
  next hlength =>
    obtain ⟨code, _, hpair⟩ := Option.map_eq_some_iff.mp hescape
    obtain ⟨rfl, rfl⟩ := Prod.mk.inj hpair
    refine ⟨text.take width, (List.take_append_drop width text).symm, ?_⟩
    have htake := length_le_length_units (text.take width)
    rw [List.length_take] at htake
    have hunits := length_codeUnits_le code
    omega

theorem takes_of_codePointEscape? {text rest : List Char} {found : List UInt16}
    (hescape : codePointEscape? text = some (found, rest)) : Takes text rest found.length := by
  unfold codePointEscape? at hescape
  split at hescape
  next digits after hsplit =>
    obtain ⟨rfl, _⟩ := eq_append_of_splitOnce hsplit
    split at hescape
    next => cases hescape
    next hdigits =>
      split at hescape
      next code _ =>
        split at hescape
        next =>
          obtain ⟨rfl, rfl⟩ := Prod.mk.inj (Option.some.inj hescape)
          refine ⟨digits ++ ['}'], by simp, ?_⟩
          have htake := length_le_length_units (digits ++ ['}'])
          have hunits := length_codeUnits_le code
          have hpos := List.length_pos_iff.mpr (mt List.isEmpty_iff.mpr hdigits)
          rw [List.length_append, List.length_singleton] at htake
          omega
        next => cases hescape
      next => cases hescape
  next => cases hescape

theorem Takes.cons {text rest : List Char} {size : Nat} (htakes : Takes text rest size) (c : Char) :
    Takes (c :: text) rest size := by
  obtain ⟨source, rfl, hsize⟩ := htakes
  refine ⟨c :: source, rfl, ?_⟩
  rw [units_cons, List.length_append]
  omega

theorem takes_char {c : Char} {size : Nat} (hsize : size ≤ (charUnits c).length)
    (text : List Char) : Takes (c :: text) text size :=
  ⟨[c], rfl, by rwa [units_singleton]⟩

theorem takes_dropWord? (word text : List Char) :
    Takes text ((dropWord? word text).getD text) 0 := by
  cases hdrop : dropWord? word text with
  | none => exact ⟨[], rfl, Nat.zero_le _⟩
  | some rest => exact ⟨word, eq_append_of_dropWord? hdrop, Nat.zero_le _⟩

theorem takes_of_escape? {text rest : List Char} {found : List UInt16}
    (hescape : escape? text = some (found, rest)) : Takes text rest found.length := by
  cases text with
  | nil => cases hescape
  | cons c text =>
      rw [escape?] at hescape
      -- Digits behind an x, digits or braces behind a u, a line break, a zero, any other character.
      split at hescape
      next => exact (takes_of_hexEscape? (by decide) hescape).cons c
      split at hescape
      next =>
        split at hescape
        next after hbrace =>
          rw [eq_append_of_dropWord? hbrace]
          exact ((takes_of_codePointEscape? hescape).cons '{').cons c
        next => exact (takes_of_hexEscape? (by decide) hescape).cons c
      split at hescape
      next =>
        obtain ⟨rfl, rfl⟩ := Prod.mk.inj (Option.some.inj hescape)
        split
        next => exact (takes_dropWord? ['\n'] text).cons c
        next => exact takes_char (Nat.zero_le _) text
      split at hescape
      next =>
        split at hescape
        next =>
          obtain ⟨rfl, rfl⟩ := Prod.mk.inj (Option.some.inj hescape)
          exact takes_char (length_charUnits_pos c) text
        next => cases hescape
      next =>
        obtain ⟨rfl, rfl⟩ := Prod.mk.inj (Option.some.inj hescape)
        apply takes_char
        cases controlEscapes.lookup c with
        | none => exact Nat.le_refl _
        | some code => exact length_charUnits_pos c

/-- Values as long as the interpolations of the variables, by which names are known from what is no
name and from any character that begins an interpolation. -/
def probe (name : String) : List UInt16 :=
  List.replicate ((units name.toList).length + 3) (if IsIdentifier name then 0 else 1)

theorem length_probe (name : String) : (probe name).length = (units name.toList).length + 3 :=
  List.length_replicate

theorem head?_probe (name : String) (rest : List UInt16) :
    (probe name ++ rest).head? = some (if IsIdentifier name then 0 else 1) := by
  rw [probe, List.replicate_succ, List.cons_append, List.head?_cons]

theorem exists_source_of_interpolated? {text rest : List Char} {part : Part}
    (hhole : interpolated? text = some (part, rest)) :
    ∃ name, text = name ++ '}' :: rest ∧ '}' ∉ name ∧ IsIdentifier (String.ofList name) ∧
      part = .hole (String.ofList name) := by
  unfold interpolated? at hhole
  split at hhole
  next name after hsplit =>
    split at hhole
    next hname =>
      obtain ⟨rfl, rfl⟩ := Prod.mk.inj (Option.some.inj hhole)
      obtain ⟨htext, hfree⟩ := eq_append_of_splitOnce hsplit
      exact ⟨name, htext, hfree, hname, rfl⟩
    next => cases hhole
  next => cases hhole

/-- Some text from which a part is read: under the probe the part yields no more than that is long,
and less if there is a backslash. -/
structure ReadFrom (source : List Char) (part : Part) : Prop where
  ne_nil : source ≠ []
  length_le : (part.value probe).length ≤ (units source).length
  length_lt : '\\' ∈ source → (part.value probe).length < (units source).length

theorem readFrom_escape {source : List Char} {found : List UInt16}
    (hsize : found.length ≤ (units source).length) : ReadFrom ('\\' :: source) (.text found) := by
  have hlength : (units ('\\' :: source)).length = 1 + (units source).length := by
    rw [units_cons, List.length_append]
    rfl
  refine ⟨List.cons_ne_nil _ _, ?_, fun _ => ?_⟩ <;> rw [Part.value, hlength] <;> omega

theorem readFrom_of_not_mem {source : List Char} (hback : '\\' ∉ source) {part : Part}
    (hne : source ≠ []) (hsize : (part.value probe).length ≤ (units source).length) :
    ReadFrom source part :=
  ⟨hne, hsize, fun hmem => absurd hmem hback⟩

theorem readFrom_char {c : Char} (hback : c ≠ '\\') : ReadFrom [c] (.text (charUnits c)) := by
  apply readFrom_of_not_mem (by simpa using Ne.symm hback) (List.cons_ne_nil _ _)
  exact Nat.le_of_eq (by rw [units_singleton, Part.value])

theorem readFrom_return (after : List Char) (hafter : '\\' ∉ after) :
    ReadFrom ('\r' :: after) (.text [10]) := by
  apply readFrom_of_not_mem (by simp [hafter]) (List.cons_ne_nil _ _)
  rw [units_cons, List.length_append]
  exact Nat.le_add_right _ _

theorem readFrom_hole {name : String} (hname : IsIdentifier name) :
    ReadFrom ('$' :: '{' :: (name.toList ++ ['}'])) (.hole name) := by
  have hfree : '\\' ∉ name.toList := hname.not_mem (by decide)
  apply readFrom_of_not_mem (by simp [hfree]) (List.cons_ne_nil _ _)
  exact Nat.le_of_eq (by rw [length_units_hole, Part.value, length_probe])

theorem exists_source_of_part? {text rest : List Char} {part : Part}
    (hpart : part? text = some (part, rest)) :
    ∃ source, text = source ++ rest ∧ ReadFrom source part := by
  cases text with
  | nil => cases hpart
  | cons c text =>
      rw [part?] at hpart
      split at hpart
      next => cases hpart
      split at hpart
      next hback =>
        obtain ⟨⟨found, after⟩, hescape, hpair⟩ := Option.map_eq_some_iff.mp hpart
        obtain ⟨rfl, rfl⟩ := Prod.mk.inj hpair
        obtain ⟨source, rfl, hsize⟩ := takes_of_escape? hescape
        exact ⟨'\\' :: source, by rw [hback, List.cons_append], readFrom_escape hsize⟩
      next hback =>
      split at hpart
      next hreturn =>
        obtain ⟨rfl, rfl⟩ := Prod.mk.inj (Option.some.inj hpart)
        cases hdrop : dropWord? ['\n'] text with
        | none => exact ⟨['\r'], by rw [hreturn]; rfl, readFrom_return [] List.not_mem_nil⟩
        | some after =>
            refine ⟨['\r', '\n'], ?_, readFrom_return ['\n'] (by decide)⟩
            rw [hreturn, eq_append_of_dropWord? hdrop]
            rfl
      split at hpart
      next after hopen =>
        split at hopen
        next hdollar =>
          obtain ⟨name, rfl, _, hname, rfl⟩ := exists_source_of_interpolated? hpart
          refine ⟨_, ?_, readFrom_hole hname⟩
          rw [eq_append_of_dropWord? hopen, hdollar, String.toList_ofList]
          simp
        next => cases hopen
      next =>
        obtain ⟨rfl, rfl⟩ := Prod.mk.inj (Option.some.inj hpart)
        exact ⟨[c], rfl, readFrom_char hback⟩

/-! ## All parts of a text -/

/-- The parts of a text, where each is read. -/
def parts? (text : List Char) : Option (List Part) :=
  if text = [] then some []
  else
    match hpart : part? text with
    | some (part, rest) =>
        have : rest.length < text.length := by
          obtain ⟨source, rfl, hsource⟩ := exists_source_of_part? hpart
          have hpos := List.length_pos_iff.mpr hsource.ne_nil
          rw [List.length_append]
          omega
        (parts? rest).map (part :: ·)
    | none => none
termination_by text.length

theorem parts?_nil : parts? [] = some [] := by
  rw [parts?, if_pos rfl]

theorem parts?_of_part? {text rest : List Char} {part : Part}
    (hpart : part? text = some (part, rest)) : parts? text = (parts? rest).map (part :: ·) := by
  have hne : text ≠ [] := by
    rintro rfl
    cases hpart
  rw [parts?, if_neg hne]
  split
  next found after hfound =>
    obtain ⟨rfl, rfl⟩ := Prod.mk.inj (Option.some.inj (hpart.symm.trans hfound))
    rfl
  next hfound => exact absurd (hpart.symm.trans hfound) (by simp)

theorem exists_of_parts?_eq_some {text : List Char} (hne : text ≠ []) {parts : List Part}
    (hparts : parts? text = some parts) :
    ∃ part rest tail, part? text = some (part, rest) ∧ parts? rest = some tail ∧
      parts = part :: tail := by
  cases hpart : part? text with
  | none =>
      rw [parts?, if_neg hne] at hparts
      split at hparts
      next found after hfound => exact absurd (hpart.symm.trans hfound) (by simp)
      next => cases hparts
  | some found =>
      obtain ⟨part, rest⟩ := found
      rw [parts?_of_part? hpart] at hparts
      obtain ⟨tail, htail, rfl⟩ := Option.map_eq_some_iff.mp hparts
      exact ⟨part, rest, tail, rfl, htail, rfl⟩

/-- Under the probe a text yields no more than it is long, and less where it has a backslash. -/
theorem length_of_parts? {text : List Char} {parts : List Part}
    (hparts : parts? text = some parts) :
    (parts.flatMap (Part.value probe)).length ≤ (units text).length ∧
      ('\\' ∈ text → (parts.flatMap (Part.value probe)).length < (units text).length) := by
  fun_induction parts? text generalizing parts with
  | case1 =>
      obtain rfl := Option.some.inj hparts
      simp [units]
  | case2 text _ part rest hpart _ ih =>
      obtain ⟨tail, htail, rfl⟩ := Option.map_eq_some_iff.mp hparts
      obtain ⟨source, rfl, hsource⟩ := exists_source_of_part? hpart
      obtain ⟨hrest, hrestStrict⟩ := ih htail
      rw [units_append, List.length_append, List.flatMap_cons, List.length_append,
        List.mem_append]
      refine ⟨Nat.add_le_add hsource.length_le hrest, ?_⟩
      rintro (hmem | hmem)
      · exact Nat.add_lt_add_of_lt_of_le (hsource.length_lt hmem) hrest
      · exact Nat.add_lt_add_of_le_of_lt hsource.length_le (hrestStrict hmem)
  | case3 => cases hparts

/-- The code units that a literal with the given body yields, unless it ends before its end, has an
escape that stands for nothing, or an interpolation holds anything but the name of a variable. -/
def evaluate (env : String → List UInt16) (body : String) : Option (List UInt16) :=
  (parts? body.toList).map fun parts => parts.flatMap (Part.value env)

/-! ## The first part by the first character -/

theorem part?_of_ne {c : Char} (hquote : c ≠ '\x60') (hback : c ≠ '\\') (hreturn : c ≠ '\r')
    {rest : List Char} (hopen : c = '$' → dropWord? ['{'] rest = none) :
    part? (c :: rest) = some (.text (charUnits c), rest) := by
  have hnone : (if c = '$' then dropWord? ['{'] rest else none) = none := by
    split
    next hdollar => exact hopen hdollar
    next => rfl
  rw [part?, if_neg hquote, if_neg hback, if_neg hreturn, hnone]

theorem part?_open (rest : List Char) : part? ('$' :: '{' :: rest) = interpolated? rest := rfl

theorem part?_return (rest : List Char) :
    part? ('\r' :: rest) = some (.text [10], (dropWord? ['\n'] rest).getD rest) := rfl

theorem interpolated?_of_isIdentifier {name : String} (hname : IsIdentifier name) (rest : List Char) :
    interpolated? (name.toList ++ '}' :: rest) = some (.hole name, rest) := by
  have hfree : '}' ∉ name.toList := hname.not_mem (by decide)
  rw [interpolated?, splitOnce_append hfree]
  simp only [String.ofList_toList, hname, if_true]

end ClientPlan.Code.TemplateLiteral
