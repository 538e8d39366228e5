import Mathlib.Data.List.TakeWhile
import ClientPlan.Proofs.Code.StringLiteral

/-! # Tokens

The words, string literals and punctuators that declarations are made of, and the tokens of a line.
Other text is not read: numbers, comments, template literals, and words with an escape in them.
-/

namespace ClientPlan.Code

open TemplateLiteral Text

/-- A token of a declaration. -/
inductive Token where
  /-- An identifier or a keyword. -/
  | word (name : String)
  /-- A string literal, by the code units that it stands for. -/
  | literal (value : List UInt16)
  /-- A punctuator. -/
  | mark (text : String)
  deriving DecidableEq, Repr

/-- The punctuators, each before those that it begins with. A closing angle bracket is read on its
own, whatever follows. -/
def marks : List String :=
  ["...", "<<=", "===", "!==", "**=", "&&=", "||=", "??=",
    "<=", "<<", "==", "=>", "!=", "+=", "++", "-=", "--", "*=", "**", "%=", "&=", "&&", "|=", "||",
    "^=", "?.", "??",
    "\x7b", "\x7d", "(", ")", "[", "]", ".", ";", ",", "<", ">", "=", "!", "+", "-", "*", "%", "&",
    "|", "^", "~", "?", ":", "@"]

/-- White space that ends no line. -/
def spaces : List Char :=
  [' ', '\t', '\x0b', '\x0c', '\u0085', '\u00a0', '\u1680', '\u2000', '\u2001', '\u2002', '\u2003',
    '\u2004', '\u2005', '\u2006', '\u2007', '\u2008', '\u2009', '\u200a', '\u200b', '\u202f',
    '\u205f', '\u3000', '\ufeff']

/-- The first punctuator of a text that begins with one, and the text behind it. -/
def mark? (text : List Char) : Option (String × List Char) :=
  marks.findSome? fun mark => (dropWord? mark.toList text).map fun rest => (mark, rest)

/-- The token that a text begins with, and the text behind it. -/
def token? : List Char → Option (Token × List Char)
  | [] => none
  | c :: rest =>
    if isIdentifierStart c then
      some (.word (String.ofList ((c :: rest).takeWhile isIdentifierPart)),
        (c :: rest).dropWhile isIdentifierPart)
    else if isQuote c then
      (literal? c rest).map fun found => (.literal found.1, found.2)
    else (mark? (c :: rest)).map fun found => (.mark found.1, found.2)

/-- A word of the language: an identifier, or a keyword. -/
@[mk_iff]
structure IsIdentifierName (name : String) : Prop where
  start : name.toList.head?.any isIdentifierStart = true
  parts : name.toList.all isIdentifierPart = true

instance (name : String) : Decidable (IsIdentifierName name) :=
  decidable_of_iff' _ (isIdentifierName_iff name)

theorem IsIdentifier.isIdentifierName {name : String} (hname : IsIdentifier name) :
    IsIdentifierName name :=
  ⟨hname.start, hname.parts⟩

/-! ## Where a token ends -/

theorem isIdentifierPart_of_isIdentifierStart {c : Char} (hc : isIdentifierStart c = true) :
    isIdentifierPart c = true := by
  rw [isIdentifierPart, hc, Bool.true_or]

theorem exists_mark_of_mark? {text rest : List Char} {mark : String}
    (hmark : mark? text = some (mark, rest)) :
    mark ∈ marks ∧ text = mark.toList ++ rest := by
  obtain ⟨found, hfound, hdrop⟩ := List.exists_of_findSome?_eq_some hmark
  obtain ⟨after, hafter, hpair⟩ := Option.map_eq_some_iff.mp hdrop
  obtain ⟨rfl, rfl⟩ := Prod.mk.inj hpair
  exact ⟨hfound, eq_append_of_dropWord? hafter⟩

theorem length_lt_of_literal? {quote : Char} {text after : List Char} {value : List UInt16}
    (hread : literal? quote text = some (value, after)) : after.length < text.length := by
  cases text with
  | nil =>
      rw [literal?] at hread
      cases hread
  | cons c text =>
      rw [List.length_cons]
      rcases literal?_cases hread with ⟨-, -, rfl⟩ | ⟨-, found, next, later, hescape, hnext, -⟩ |
        ⟨-, later, hrest, -⟩
      · exact Nat.lt_succ_self _
      · obtain ⟨source, rfl, -⟩ := takes_of_escape? hescape
        have hlength := length_lt_of_literal? hnext
        rw [List.length_append]
        omega
      · have hlength := length_lt_of_literal? hrest
        omega
  termination_by text.length
  decreasing_by
    all_goals simp_all only [List.length_append, List.length_cons]
    all_goals omega

theorem length_lt_of_token? {text rest : List Char} {token : Token}
    (htoken : token? text = some (token, rest)) : rest.length < text.length := by
  cases text with
  | nil => cases htoken
  | cons c text =>
      rw [token?] at htoken
      split at htoken
      next hstart =>
        obtain ⟨-, rfl⟩ := Prod.mk.inj (Option.some.inj htoken)
        rw [List.dropWhile_cons_of_pos (isIdentifierPart_of_isIdentifierStart hstart)]
        exact Nat.lt_succ_of_le (List.length_dropWhile_le _ text)
      split at htoken
      next =>
        obtain ⟨⟨value, after⟩, hliteral, hpair⟩ := Option.map_eq_some_iff.mp htoken
        obtain ⟨-, rfl⟩ := Prod.mk.inj hpair
        exact Nat.lt_succ_of_lt (length_lt_of_literal? hliteral)
      next =>
        obtain ⟨⟨mark, after⟩, hmark, hpair⟩ := Option.map_eq_some_iff.mp htoken
        obtain ⟨-, rfl⟩ := Prod.mk.inj hpair
        obtain ⟨hmem, htext⟩ := exists_mark_of_mark? hmark
        have hpos : ∀ mark ∈ marks, 0 < mark.toList.length := by decide
        have hlength := congrArg List.length htext
        have hpos := hpos mark hmem
        rw [List.length_append] at hlength
        exact hlength ▸ Nat.lt_add_of_pos_left hpos

/-- The tokens of a line. -/
def tokens? (text : List Char) : Option (List Token) :=
  match text with
  | [] => some []
  | c :: rest =>
    if c ∈ spaces then tokens? rest
    else
      match htoken : token? (c :: rest) with
      | some (token, after) =>
          have : after.length < rest.length + 1 := length_lt_of_token? htoken
          (tokens? after).map (token :: ·)
      | none => none
termination_by text.length

/-! ## Token by token -/

theorem tokens?_nil : tokens? [] = some [] := by
  rw [tokens?]

theorem tokens?_space (rest : List Char) : tokens? (' ' :: rest) = tokens? rest := by
  rw [tokens?, if_pos (by decide)]

theorem tokens?_of_token? {c : Char} {rest after : List Char} {token : Token} (hc : c ∉ spaces)
    (htoken : token? (c :: rest) = some (token, after)) :
    tokens? (c :: rest) = (tokens? after).map (token :: ·) := by
  rw [tokens?, if_neg hc]
  split
  next hfound =>
    obtain ⟨rfl, rfl⟩ := Prod.mk.inj (Option.some.inj (htoken.symm.trans hfound))
    rfl
  next hnone => exact absurd (htoken.symm.trans hnone) (by simp)

/-- How a line begins that has tokens. -/
theorem tokens?_cases {c : Char} {rest : List Char} {tokens : List Token}
    (htokens : tokens? (c :: rest) = some tokens) :
    (c ∈ spaces ∧ tokens? rest = some tokens) ∨
      (c ∉ spaces ∧ ∃ token after tail, token? (c :: rest) = some (token, after) ∧
        tokens? after = some tail ∧ tokens = token :: tail) := by
  by_cases hc : c ∈ spaces
  · rw [tokens?, if_pos hc] at htokens
    exact .inl ⟨hc, htokens⟩
  · refine .inr ⟨hc, ?_⟩
    cases htoken : token? (c :: rest) with
    | none =>
        rw [tokens?, if_neg hc] at htokens
        split at htokens
        next hfound => exact absurd (htoken.symm.trans hfound) (by simp)
        next => cases htokens
    | some found =>
        obtain ⟨token, after⟩ := found
        rw [tokens?_of_token? hc htoken] at htokens
        obtain ⟨tail, htail, rfl⟩ := Option.map_eq_some_iff.mp htokens
        exact ⟨token, after, tail, rfl, htail, rfl⟩

/-! ## Words -/

theorem token?_word {name : String} (hname : IsIdentifierName name) {rest : List Char}
    (hrest : ∀ c ∈ rest.head?, isIdentifierPart c = false) :
    token? (name.toList ++ rest) = some (.word name, rest) := by
  have hparts : ∀ c ∈ name.toList, isIdentifierPart c = true := List.all_eq_true.mp hname.parts
  have htake : (name.toList ++ rest).takeWhile isIdentifierPart = name.toList := by
    rw [List.takeWhile_append_of_pos hparts]
    cases rest with
    | nil => simp
    | cons c rest => simp [hrest c rfl]
  have hdrop : (name.toList ++ rest).dropWhile isIdentifierPart = rest := by
    rw [List.dropWhile_append_of_pos hparts]
    cases rest with
    | nil => rfl
    | cons c rest => simp [hrest c rfl]
  have hstart := hname.start
  cases htext : name.toList with
  | nil =>
      rw [htext] at hstart
      cases hstart
  | cons c tail =>
      rw [htext] at hstart htake hdrop
      rw [List.cons_append] at htake hdrop ⊢
      rw [token?, if_pos (by simpa using hstart), htake, hdrop, ← htext, String.ofList_toList]

theorem not_mem_spaces_of_isIdentifierStart {c : Char} (hc : isIdentifierStart c = true) :
    c ∉ spaces := by
  have hall : ∀ c ∈ spaces, isIdentifierStart c = false :=
    List.all_iff_forall_prop.mp (by decide +kernel)
  intro hmem
  rw [hall c hmem] at hc
  cases hc

theorem tokens?_word {name : String} (hname : IsIdentifierName name) {rest : List Char}
    (hrest : ∀ c ∈ rest.head?, isIdentifierPart c = false) :
    tokens? (name.toList ++ rest) = (tokens? rest).map (.word name :: ·) := by
  have htoken := token?_word hname hrest
  have hstart := hname.start
  cases htext : name.toList with
  | nil =>
      rw [htext] at hstart
      cases hstart
  | cons c tail =>
      rw [htext] at htoken hstart
      exact tokens?_of_token? (not_mem_spaces_of_isIdentifierStart (by simpa using hstart)) htoken

theorem tokens?_word_cons {name : String} (hname : IsIdentifierName name) {c : Char}
    (hc : isIdentifierPart c = false) (rest : List Char) :
    tokens? (name.toList ++ c :: rest) = (tokens? (c :: rest)).map (.word name :: ·) :=
  tokens?_word hname fun d hd => by rwa [← Option.some.inj hd]

/-! ## Literals -/

theorem isQuote_apart {quote : Char} (hquote : isQuote quote = true) :
    quote ∉ spaces ∧ isIdentifierStart quote = false := by
  rw [isQuote, Bool.or_eq_true, decide_eq_true_eq, decide_eq_true_eq] at hquote
  rcases hquote with rfl | rfl <;> decide

theorem tokens?_literal {quote : Char} (hquote : isQuote quote = true) {text : List Char}
    (htext : IsPlainText quote text) (rest : List Char) :
    tokens? (quote :: (text ++ quote :: rest)) =
      (tokens? rest).map (.literal (units text) :: ·) := by
  obtain ⟨hspace, hstart⟩ := isQuote_apart hquote
  apply tokens?_of_token? hspace
  rw [token?, if_neg (by simp [hstart]), if_pos hquote, literal?_of_isPlainText htext]
  rfl

theorem exists_literal?_of_token? {c : Char} {rest after : List Char} {value : List UInt16}
    (htoken : token? (c :: rest) = some (.literal value, after)) :
    isQuote c = true ∧ literal? c rest = some (value, after) := by
  rw [token?] at htoken
  split at htoken
  next => cases htoken
  next =>
    split at htoken
    next hquote =>
      obtain ⟨⟨found, behind⟩, hliteral, hpair⟩ := Option.map_eq_some_iff.mp htoken
      obtain ⟨hvalue, rfl⟩ := Prod.mk.inj hpair
      obtain rfl := Token.literal.inj hvalue
      exact ⟨hquote, hliteral⟩
    next =>
      obtain ⟨found, -, hpair⟩ := Option.map_eq_some_iff.mp htoken
      exact absurd (congrArg Prod.fst hpair) (by simp)

/-- A text between quotes is read as itself where it is plain, and nowhere else. -/
theorem tokens?_quoted_iff {quote : Char} (hquote : isQuote quote = true) {text rest : List Char}
    {tokens : List Token} :
    tokens? (quote :: (text ++ quote :: rest)) = some (.literal (units text) :: tokens) ↔
      IsPlainText quote text ∧ tokens? rest = some tokens := by
  constructor
  · intro htokens
    have hplain : IsPlainText quote text := by
      rcases tokens?_cases htokens with ⟨hspace, -⟩ | ⟨-, token, after, tail, htoken, -, heq⟩
      · exact absurd hspace (isQuote_apart hquote).1
      · obtain ⟨rfl, -⟩ := List.cons.inj heq
        exact isPlainText_of_literal? hquote (exists_literal?_of_token? htoken).2
    rw [tokens?_literal hquote hplain] at htokens
    obtain ⟨tail, htail, heq⟩ := Option.map_eq_some_iff.mp htokens
    obtain ⟨-, rfl⟩ := List.cons.inj heq
    exact ⟨hplain, htail⟩
  · rintro ⟨hplain, hrest⟩
    rw [tokens?_literal hquote hplain, hrest]
    rfl

/-! ## Punctuators -/

theorem mark_cases {mark : String} (hmark : mark ∈ marks) :
    ∃ c tail, mark.toList = c :: tail ∧ c ∉ spaces ∧ isIdentifierStart c = false ∧
      isQuote c = false := by
  have hall : ∀ mark ∈ marks, mark.toList.head?.any (fun c =>
      decide (c ∉ spaces ∧ isIdentifierStart c = false ∧ isQuote c = false)) = true := by
    decide +kernel
  have hfirst := hall mark hmark
  cases htext : mark.toList with
  | nil =>
      rw [htext] at hfirst
      cases hfirst
  | cons c tail =>
      rw [htext] at hfirst
      exact ⟨c, tail, rfl, of_decide_eq_true hfirst⟩

theorem tokens?_mark {text rest : List Char} {mark : String}
    (hmark : mark? text = some (mark, rest)) :
    tokens? text = (tokens? rest).map (.mark mark :: ·) := by
  obtain ⟨hmem, htext⟩ := exists_mark_of_mark? hmark
  obtain ⟨c, tail, hmark', hspace, hstart, hquote⟩ := mark_cases hmem
  rw [hmark', List.cons_append] at htext
  rw [htext] at hmark ⊢
  apply tokens?_of_token? hspace
  rw [token?, if_neg (by simp [hstart]), if_neg (by simp [hquote]), hmark]
  rfl

/-! ## Text before a break -/

/-- A character that no word or punctuator goes on with. -/
def IsBreak (c : Char) : Prop :=
  isIdentifierPart c = false ∧ ∀ mark ∈ marks, c ∉ mark.toList.tail

instance (c : Char) : Decidable (IsBreak c) :=
  @instDecidableAnd _ _ _ (List.decidableBAll _ marks)

theorem findSome?_congr_of_mem {α β : Type} {f g : α → Option β} {list : List α}
    (hall : ∀ a ∈ list, f a = g a) : list.findSome? f = list.findSome? g := by
  induction list with
  | nil => rfl
  | cons a list ih =>
      obtain ⟨ha, hall⟩ := List.forall_mem_cons.mp hall
      rw [List.findSome?_cons, List.findSome?_cons, ha, ih hall]

theorem dropWord?_append_of_not_mem {word text : List Char} {c : Char} (hc : c ∉ word)
    (rest : List Char) :
    dropWord? word (text ++ c :: rest) = (dropWord? word text).map (· ++ c :: rest) := by
  induction word generalizing text with
  | nil => rfl
  | cons w word ih =>
      obtain ⟨hw, hc⟩ := List.ne_and_not_mem_of_not_mem_cons hc
      cases text with
      | nil => exact if_neg (Ne.symm hw)
      | cons d text =>
          rw [List.cons_append, dropWord?, dropWord?]
          split
          next => exact ih hc
          next => rfl

section

variable {c : Char} (hc : IsBreak c)

include hc

theorem mark?_append {text : List Char} (htext : text ≠ []) (rest : List Char) :
    mark? (text ++ c :: rest) = (mark? text).map fun found => (found.1, found.2 ++ c :: rest) := by
  have hword : ∀ mark ∈ marks, dropWord? mark.toList (text ++ c :: rest) =
      (dropWord? mark.toList text).map (· ++ c :: rest) := by
    intro mark hmark
    obtain ⟨d, tail, hmark', -⟩ := mark_cases hmark
    have hfree := hc.2 mark hmark
    obtain ⟨e, text, rfl⟩ := List.exists_cons_of_ne_nil htext
    rw [hmark', List.tail_cons] at hfree
    rw [hmark', List.cons_append, dropWord?, dropWord?]
    split
    next => exact dropWord?_append_of_not_mem hfree rest
    next => rfl
  rw [mark?, mark?, List.map_findSome?]
  refine findSome?_congr_of_mem fun mark hmark => ?_
  rw [hword mark hmark, Function.comp_apply, Option.map_map, Option.map_map]
  rfl

theorem takeWhile_append_break (text rest : List Char) :
    (text ++ c :: rest).takeWhile isIdentifierPart = text.takeWhile isIdentifierPart := by
  induction text with
  | nil => simp [hc.1]
  | cons d text ih =>
      rw [List.cons_append, List.takeWhile_cons, List.takeWhile_cons, ih]

theorem dropWhile_append_break (text rest : List Char) :
    (text ++ c :: rest).dropWhile isIdentifierPart =
      text.dropWhile isIdentifierPart ++ c :: rest := by
  induction text with
  | nil => simp [hc.1]
  | cons d text ih =>
      rw [List.cons_append, List.dropWhile_cons, List.dropWhile_cons, ih]
      split <;> rfl

theorem token?_append {text after : List Char} {token : Token}
    (htoken : token? text = some (token, after)) (hvalue : ∀ value, token ≠ .literal value)
    (rest : List Char) : token? (text ++ c :: rest) = some (token, after ++ c :: rest) := by
  cases text with
  | nil => cases htoken
  | cons d text =>
      rw [token?] at htoken
      rw [List.cons_append, token?, ← List.cons_append]
      split at htoken
      next hstart =>
        obtain ⟨rfl, rfl⟩ := Prod.mk.inj (Option.some.inj htoken)
        rw [if_pos hstart, takeWhile_append_break hc, dropWhile_append_break hc]
      next hstart =>
        rw [if_neg hstart]
        split at htoken
        next =>
          obtain ⟨found, -, hpair⟩ := Option.map_eq_some_iff.mp htoken
          exact absurd (congrArg Prod.fst hpair).symm (hvalue _)
        next hquote =>
          obtain ⟨⟨mark, behind⟩, hmark, hpair⟩ := Option.map_eq_some_iff.mp htoken
          obtain ⟨rfl, rfl⟩ := Prod.mk.inj hpair
          rw [if_neg hquote, mark?_append hc (List.cons_ne_nil _ _), hmark]
          rfl

/-- The tokens of a text without literals are the same before a break. -/
theorem tokens?_append {text : List Char} {tokens : List Token}
    (htokens : tokens? text = some tokens) (hvalue : ∀ value, .literal value ∉ tokens)
    (rest : List Char) :
    tokens? (text ++ c :: rest) = (tokens? (c :: rest)).map (tokens ++ ·) := by
  match text, htokens with
  | [], htokens =>
      rw [tokens?_nil] at htokens
      obtain rfl := Option.some.inj htokens
      simp
  | d :: text, htokens =>
      rcases tokens?_cases htokens with ⟨hspace, hrest⟩ |
        ⟨hspace, token, after, tail, htoken, htail, rfl⟩
      · rw [List.cons_append, tokens?, if_pos hspace]
        exact tokens?_append hrest hvalue rest
      · have htoken' := token?_append hc htoken
          (fun value heq => hvalue value (heq ▸ List.mem_cons_self)) rest
        have htail := tokens?_append htail
          (fun value hmem => hvalue value (List.mem_cons_of_mem _ hmem)) rest
        rw [List.cons_append] at htoken' ⊢
        rw [tokens?_of_token? hspace htoken', htail, Option.map_map]
        rfl
  termination_by text.length
  decreasing_by
    · exact Nat.lt_succ_self _
    · exact length_lt_of_token? htoken

end

/-! ## Line breaks -/

theorem exists_source_of_token? {text after : List Char} {token : Token}
    (htoken : token? text = some (token, after)) (hvalue : ∀ value, token ≠ .literal value) :
    ∃ source, text = source ++ after ∧ '\n' ∉ source := by
  cases text with
  | nil => cases htoken
  | cons c text =>
      rw [token?] at htoken
      split at htoken
      next =>
        obtain ⟨-, rfl⟩ := Prod.mk.inj (Option.some.inj htoken)
        refine ⟨_, List.takeWhile_append_dropWhile.symm, fun hmem => ?_⟩
        exact absurd (List.mem_takeWhile_imp hmem) (by decide)
      split at htoken
      next =>
        obtain ⟨found, -, hpair⟩ := Option.map_eq_some_iff.mp htoken
        exact absurd (congrArg Prod.fst hpair).symm (hvalue _)
      next =>
        obtain ⟨⟨mark, behind⟩, hmark, hpair⟩ := Option.map_eq_some_iff.mp htoken
        obtain ⟨-, rfl⟩ := Prod.mk.inj hpair
        obtain ⟨hmem, htext⟩ := exists_mark_of_mark? hmark
        have hall : ∀ mark ∈ marks, '\n' ∉ mark.toList := by decide
        exact ⟨mark.toList, htext, hall mark hmem⟩

/-- A text without literals is on one line. -/
theorem newline_not_mem_of_tokens? {text : List Char} {tokens : List Token}
    (htokens : tokens? text = some tokens) (hvalue : ∀ value, .literal value ∉ tokens) :
    '\n' ∉ text := by
  match text, htokens with
  | [], _ => exact List.not_mem_nil
  | c :: text, htokens =>
      rcases tokens?_cases htokens with ⟨hspace, hrest⟩ |
        ⟨-, token, after, tail, htoken, htail, rfl⟩
      · apply List.not_mem_cons_of_ne_of_not_mem
        · rintro rfl
          exact absurd hspace (by decide)
        · exact newline_not_mem_of_tokens? hrest hvalue
      · have hafter := newline_not_mem_of_tokens? htail
          fun value hmem => hvalue value (List.mem_cons_of_mem _ hmem)
        obtain ⟨source, htext, hsource⟩ := exists_source_of_token? htoken
          fun value heq => hvalue value (heq ▸ List.mem_cons_self)
        rw [htext]
        exact List.not_mem_append hsource hafter
  termination_by text.length
  decreasing_by
    · exact Nat.lt_succ_self _
    · exact length_lt_of_token? htoken

/-! ## The name that a line begins with -/

/-- What a token says as the name of a property. -/
def Token.name? : Token → Option (List UInt16)
  | word name => some (units name.toList)
  | literal value => some value
  | mark _ => none

theorem exists_first_token {text : List Char} {first : Token} {tokens : List Token}
    (htokens : tokens? text = some (first :: tokens)) :
    ∃ blanks c rest after, text = blanks ++ c :: rest ∧ (∀ b ∈ blanks, b ∈ spaces) ∧
      token? (c :: rest) = some (first, after) := by
  induction text with
  | nil =>
      rw [tokens?_nil] at htokens
      cases htokens
  | cons c text ih =>
      rcases tokens?_cases htokens with ⟨hspace, hrest⟩ | ⟨-, token, after, tail, htoken, -, heq⟩
      · obtain ⟨blanks, d, rest, after, rfl, hblanks, htoken⟩ := ih hrest
        exact ⟨c :: blanks, d, rest, after, rfl, List.forall_mem_cons.mpr ⟨hspace, hblanks⟩, htoken⟩
      · obtain ⟨rfl, -⟩ := List.cons.inj heq
        exact ⟨[], c, text, after, rfl, List.forall_mem_nil _, htoken⟩

theorem isIdentifierName_of_token? {c : Char} {rest after : List Char} {name : String}
    (htoken : token? (c :: rest) = some (.word name, after)) : IsIdentifierName name := by
  rw [token?] at htoken
  split at htoken
  next hstart =>
    obtain ⟨hword, -⟩ := Prod.mk.inj (Option.some.inj htoken)
    obtain rfl := Token.word.inj hword
    constructor
    · rw [String.toList_ofList,
        List.takeWhile_cons_of_pos (isIdentifierPart_of_isIdentifierStart hstart)]
      simpa using hstart
    · rw [String.toList_ofList]
      exact List.all_takeWhile
  next =>
    split at htoken
    all_goals
      obtain ⟨found, -, hpair⟩ := Option.map_eq_some_iff.mp htoken
      exact absurd (congrArg Prod.fst hpair) (by simp)

/-- The first token of a text says the name that the text begins with, before the mark of an
optional member or that of a type, only where the name is a word. -/
theorem isIdentifierName_of_tokens? {name : String} {mark : Char} (hmark : mark ∈ [':', '?'])
    {rest : List Char} {first : Token} {tokens : List Token}
    (htokens : tokens? (name.toList ++ mark :: rest) = some (first :: tokens))
    (hname : first.name? = some (units name.toList)) : IsIdentifierName name := by
  obtain ⟨blanks, c, behind, after, htext, hblanks, htoken⟩ := exists_first_token htokens
  cases first with
  | word word =>
      have hword := units_injective (Option.some.inj hname)
      rw [← String.toList_inj.mp hword]
      exact isIdentifierName_of_token? htoken
  | literal value =>
      obtain ⟨hquote, hliteral⟩ := exists_literal?_of_token? htoken
      have hlone : mark ∈ loneMarks ∧ mark ∉ spaces ∧ isQuote mark = false := by
        have hall : ∀ mark ∈ [':', '?'],
            mark ∈ loneMarks ∧ mark ∉ spaces ∧ isQuote mark = false :=
          List.all_iff_forall_prop.mp (by decide)
        exact hall mark hmark
      have hbefore : mark ∉ blanks ++ [c] := by
        rw [List.mem_append, List.mem_singleton]
        rintro (hmem | rfl)
        · exact hlone.2.1 (hblanks mark hmem)
        · rw [hlone.2.2] at hquote
          cases hquote
      have hsplit : blanks ++ c :: behind = (blanks ++ [c]) ++ behind := by simp
      obtain ⟨text, hname', rfl⟩ := exists_behind_of_append_eq hbefore (htext.trans hsplit)
      have hvalue := Option.some.inj hname
      rw [hname'] at hvalue
      exact absurd hvalue (value_ne_of_literal? hlone.1 (by simp) hbefore hliteral)
  | mark text => cases hname

end ClientPlan.Code
