import ClientPlan.Code.Model
import ClientPlan.Proofs.Code.DeclarationReading

/-! # The text of declarations

When the text that is written for a declaration is read as what it was written for.
-/

namespace ClientPlan.Code

open Client TemplateLiteral Text

/-! ## Lines -/

theorem toList_unlines (lines : List String) :
    (unlines lines).toList = lines.flatMap fun line => line.toList ++ ['\n'] := by
  rw [unlines, String.toList_join, List.flatMap_map]
  simp only [String.toList_append]
  rfl

theorem splitOn_unlines (lines : List String) :
    splitOn '\n' (unlines lines).toList =
      (lines.flatMap fun line => splitOn '\n' line.toList) ++ [[]] := by
  rw [toList_unlines]
  induction lines with
  | nil => rfl
  | cons line lines ih =>
      rw [List.flatMap_cons, List.append_assoc, List.singleton_append, splitOn_append_cons, ih,
        List.flatMap_cons, List.append_assoc]

theorem splitOn_of_length {text : List Char} (hlength : (splitOn '\n' text).length ≤ 1) :
    splitOn '\n' text = [text] := by
  by_cases hmem : '\n' ∈ text
  · obtain ⟨first, rest, rfl, -⟩ := List.eq_append_cons_of_mem hmem
    rw [splitOn_append_cons, List.length_append] at hlength
    have hfirst := List.length_pos_iff.mpr (List.splitOn_ne_nil '\n' first)
    have hrest := List.length_pos_iff.mpr (List.splitOn_ne_nil '\n' rest)
    rw [← splitOn_eq] at hfirst hrest
    omega
  · exact splitOn_of_not_mem hmem

theorem length_le_length_flatMap_splitOn (lines : List String) :
    lines.length ≤ (lines.flatMap fun line => splitOn '\n' line.toList).length := by
  induction lines with
  | nil => exact Nat.zero_le _
  | cons line lines ih =>
      have hline := List.length_pos_iff.mpr (List.splitOn_ne_nil '\n' line.toList)
      rw [← splitOn_eq] at hline
      rw [List.flatMap_cons, List.length_append, List.length_cons]
      omega

/-- A text that has no more lines than were written has the lines that were written. -/
theorem splitOn_unlines_of_length {lines : List String}
    (hlength : (splitOn '\n' (unlines lines).toList).length ≤ lines.length + 1) :
    splitOn '\n' (unlines lines).toList = lines.map String.toList ++ [[]] := by
  rw [splitOn_unlines, List.length_append, List.length_singleton] at hlength
  rw [splitOn_unlines]
  congr 1
  induction lines with
  | nil => rfl
  | cons line lines ih =>
      have hline := List.length_pos_iff.mpr (List.splitOn_ne_nil '\n' line.toList)
      rw [← splitOn_eq] at hline
      have hrest := length_le_length_flatMap_splitOn lines
      rw [List.flatMap_cons, List.length_append, List.length_cons] at hlength
      rw [List.flatMap_cons, List.map_cons, splitOn_of_length (by omega), ih (by omega),
        List.singleton_append]

theorem splitOn_unlines_of_not_mem {lines : List String}
    (hbreak : ∀ line ∈ lines, '\n' ∉ line.toList) :
    splitOn '\n' (unlines lines).toList = lines.map String.toList ++ [[]] := by
  rw [splitOn_unlines]
  congr 1
  induction lines with
  | nil => rfl
  | cons line lines ih =>
      obtain ⟨hline, hbreak⟩ := List.forall_mem_cons.mp hbreak
      rw [List.flatMap_cons, List.map_cons, splitOn_of_not_mem hline, ih hbreak,
        List.singleton_append]

/-- A line has those tokens. -/
def LexesTo (line : String) (tokens : List Token) : Prop :=
  tokens? line.toList = some tokens

theorem mapM_tokens?_eq_some_iff {lines : List String} {tokens : List (List Token)} :
    (lines.map String.toList ++ [[]]).mapM tokens? = some tokens ↔
      ∃ found, List.Forall₂ LexesTo lines found ∧ tokens = found ++ [[]] := by
  have hlines : ∀ found, (lines.map String.toList).mapM tokens? = some found ↔
      List.Forall₂ LexesTo lines found := fun found => by
    rw [mapM_eq_some_iff, List.forall₂_map_left_iff]
    rfl
  have hlast : [[]].mapM tokens? = some [[]] := by
    rw [List.mapM_cons, tokens?_nil]
    rfl
  rw [List.mapM_append, hlast]
  constructor
  · intro hread
    obtain ⟨found, hfound, hread⟩ := Option.bind_eq_some_iff.mp hread
    exact ⟨found, (hlines found).mp hfound, (Option.some.inj hread).symm⟩
  · rintro ⟨found, hfound, rfl⟩
    rw [(hlines found).mpr hfound]
    rfl

theorem reading?_of_lexesTo {lines : List String} {tokens : List (List Token)}
    (hlines : List.Forall₂ LexesTo lines tokens) (hbreak : ∀ line ∈ lines, '\n' ∉ line.toList) :
    reading? (unlines lines) = declaration? (tokens ++ [[]]) := by
  rw [reading?, splitOn_unlines_of_not_mem hbreak,
    mapM_tokens?_eq_some_iff.mpr ⟨tokens, hlines, rfl⟩]
  rfl

theorem exists_lexesTo_of_reading? {lines : List String} {reading : DeclarationReading}
    (hread : reading? (unlines lines) = some reading) :
    ∃ tokens, declaration? tokens = some reading ∧
      (tokens.length ≤ lines.length + 1 →
        ∃ found, List.Forall₂ LexesTo lines found ∧ tokens = found ++ [[]]) := by
  obtain ⟨tokens, htokens, hread⟩ := Option.bind_eq_some_iff.mp hread
  refine ⟨tokens, hread, fun hlength => ?_⟩
  rw [(mapM_eq_some_iff.mp htokens).length_eq.symm] at hlength
  rw [splitOn_unlines_of_length hlength] at htokens
  exact mapM_tokens?_eq_some_iff.mp htokens

/-! ## Declarations of types -/

theorem not_mem_intercalate {c : Char} {separator : List Char} (hseparator : c ∉ separator)
    {parts : List (List Char)} (hparts : ∀ part ∈ parts, c ∉ part) :
    c ∉ separator.intercalate parts := by
  induction parts with
  | nil => simp
  | cons part parts ih =>
      obtain ⟨hpart, hparts⟩ := List.forall_mem_cons.mp hparts
      cases parts with
      | nil => simpa using hpart
      | cons next parts =>
          rw [List.intercalate_cons_cons]
          exact List.not_mem_append (List.not_mem_append hpart hseparator) (ih hparts)

theorem tokens?_typeLine {name : String} (hname : IsIdentifierName name) (body : List Char) :
    tokens? ("export type ".toList ++ (name.toList ++ (" = ".toList ++ body))) =
      (tokens? body).map ([Token.word "export", .word "type", .word name, .mark "="] ++ ·) := by
  have hwords : "export type ".toList ++ (name.toList ++ (" = ".toList ++ body)) =
      "export".toList ++ ' ' :: ("type".toList ++ ' ' ::
        (name.toList ++ ' ' :: '=' :: ' ' :: body)) :=
    rfl
  have hmark : mark? ('=' :: ' ' :: body) = some ("=", ' ' :: body) := rfl
  rw [hwords, tokens?_word_cons (by decide) (by decide), tokens?_space,
    tokens?_word_cons (by decide) (by decide), tokens?_space, tokens?_word_cons hname (by decide),
    tokens?_space, tokens?_mark hmark, tokens?_space, Option.map_map, Option.map_map,
    Option.map_map]
  rfl

/-- A value between quotes. -/
def quotedChars (value : String) : List Char :=
  '\'' :: (value.toList ++ ['\''])

theorem tokens?_bar (rest : List Char) :
    tokens? (" | ".toList ++ rest) = (tokens? rest).map (.mark "|" :: ·) := by
  have hbar : " | ".toList ++ rest = ' ' :: '|' :: ' ' :: rest := rfl
  have hmark : mark? ('|' :: ' ' :: rest) = some ("|", ' ' :: rest) := rfl
  rw [hbar, tokens?_space, tokens?_mark hmark, tokens?_space]

theorem tokens?_semicolon : tokens? [';'] = some [.mark ";"] := by
  have hmark : mark? [';'] = some (";", []) := rfl
  rw [tokens?_mark hmark, tokens?_nil]
  rfl

/-- The tokens of literals for some values, with bars between them. -/
def unionTokens (values : List String) : List Token :=
  ((values.map fun value => units value.toList).map Token.literal).intersperse (.mark "|")

/-- Values between quotes are read as themselves where all of them are plain, and nowhere else. -/
theorem tokens?_values_iff {values : List String} (hne : values ≠ []) :
    tokens? (" | ".toList.intercalate (values.map quotedChars) ++ [';']) =
        some (unionTokens values ++ [Token.mark ";"]) ↔
      ∀ value ∈ values, IsPlainText '\'' value.toList := by
  have hquote : isQuote '\'' = true := by decide
  induction values with
  | nil => exact absurd rfl hne
  | cons value values ih =>
      cases values with
      | nil =>
          have htext : " | ".toList.intercalate ([value].map quotedChars) ++ [';'] =
              '\'' :: (value.toList ++ '\'' :: [';']) := by
            simp [quotedChars]
          have htokens : unionTokens [value] ++ [Token.mark ";"] =
              Token.literal (units value.toList) :: [Token.mark ";"] := rfl
          rw [htext, htokens, tokens?_quoted_iff hquote, List.forall_mem_singleton]
          exact and_iff_left tokens?_semicolon
      | cons next values =>
          have htext : " | ".toList.intercalate ((value :: next :: values).map quotedChars) ++
              [';'] = '\'' :: (value.toList ++ '\'' :: (" | ".toList ++
                (" | ".toList.intercalate ((next :: values).map quotedChars) ++ [';']))) := by
            simp [quotedChars]
          have htokens : unionTokens (value :: next :: values) ++ [Token.mark ";"] =
              Token.literal (units value.toList) ::
                Token.mark "|" :: (unionTokens (next :: values) ++ [Token.mark ";"]) := rfl
          rw [htext, htokens, tokens?_quoted_iff hquote, tokens?_bar, List.forall_mem_cons,
            Option.map_eq_some_iff]
          refine and_congr_right fun _ => Iff.trans ?_ (ih (List.cons_ne_nil next values))
          simp

theorem toList_typeLine (name body : String) :
    ("export type " ++ name ++ " = " ++ body ++ ";").toList =
      "export type ".toList ++ (name.toList ++ (" = ".toList ++ (body.toList ++ [';']))) := by
  rw [String.toList_append, String.toList_append, String.toList_append, String.toList_append,
    List.append_assoc, List.append_assoc, List.append_assoc]
  rfl

theorem newline_not_mem_typeLine {name : String} (hname : IsIdentifier name) {body : String}
    (hbody : '\n' ∉ body.toList) :
    '\n' ∉ ("export type " ++ name ++ " = " ++ body ++ ";").toList := by
  have hname := hname.not_mem (c := '\n') (by decide)
  rw [toList_typeLine]
  refine List.not_mem_append (by decide) (List.not_mem_append hname ?_)
  exact List.not_mem_append (by decide) (List.not_mem_append hbody (by decide))

theorem exists_tokens_of_reading?_singleton {line : String} {reading : DeclarationReading}
    (hread : reading? (unlines [line]) = some reading)
    (hkind : ∀ name parents members, reading ≠ .interface name parents members) :
    ∃ tokens, tokens? line.toList = some tokens ∧ typeLine? tokens = some reading := by
  obtain ⟨lines, hlines, hlength⟩ := exists_lexesTo_of_reading? hread
  obtain ⟨tokens, rfl, htype⟩ := exists_line_of_declaration? hlines hkind
  obtain ⟨found, hfound, heq⟩ := hlength (Nat.le_refl _)
  obtain rfl : [tokens] = found :=
    List.append_cancel_right (show [tokens] ++ [[]] = found ++ [[]] from heq)
  obtain ⟨hline, -⟩ := List.forall₂_cons.mp hfound
  exact ⟨tokens, hline, htype⟩

theorem reading?_singleton {line : String} {tokens : List Token}
    (htokens : tokens? line.toList = some tokens) (hbreak : '\n' ∉ line.toList) :
    reading? (unlines [line]) = typeLine? tokens :=
  reading?_of_lexesTo (.cons htokens .nil) (List.forall_mem_singleton.mpr hbreak)

/-- A union is read as the values it was written for where all values are plain, and nowhere
else. -/
theorem reading?_union_iff {name : String} {values : List String} (hne : values ≠ []) :
    reading? (unlines (Declaration.union name values).lines) =
        some (.union name (values.map fun value => units value.toList)) ↔
      IsIdentifier name ∧ ∀ value ∈ values, IsPlainText '\'' value.toList := by
  have hquoted : (values.map fun value => "'" ++ value ++ "'").map String.toList =
      values.map quotedChars := by
    rw [List.map_map]
    refine List.map_congr_left fun value _ => ?_
    rw [Function.comp_apply, String.toList_append, String.toList_append]
    rfl
  have hline := toList_typeLine name
    (" | ".intercalate (values.map fun value => "'" ++ value ++ "'"))
  rw [String.toList_intercalate, hquoted] at hline
  have hunits : (values.map fun value => units value.toList) ≠ [] := by simpa using hne
  rw [Declaration.lines]
  constructor
  · intro hread
    obtain ⟨tokens, htokens, htype⟩ := exists_tokens_of_reading?_singleton hread
      (fun _ _ _ heq => by cases heq)
    obtain ⟨name', type, rfl, hname, hvalues⟩ := exists_type_of_typeLine? htype
    obtain ⟨values', hvalues, heq⟩ := hvalues.resolve_right fun halias => by cases halias.2
    obtain ⟨rfl, rfl⟩ := DeclarationReading.union.inj heq
    obtain ⟨-, rfl⟩ := eq_intersperse_of_separated? (fun _ _ => value?_eq_some) hvalues
    refine ⟨hname, (tokens?_values_iff hne).mp ?_⟩
    rw [hline, tokens?_typeLine hname.isIdentifierName] at htokens
    obtain ⟨body, hbody, heq⟩ := Option.map_eq_some_iff.mp htokens
    rw [hbody, List.append_cancel_left heq]
    rfl
  · rintro ⟨hname, hplain⟩
    have htokens := tokens?_typeLine hname.isIdentifierName
      (" | ".toList.intercalate (values.map quotedChars) ++ [';'])
    rw [(tokens?_values_iff hne).mpr hplain, ← hline] at htokens
    rw [reading?_singleton htokens]
    · exact typeLine?_union hname hunits
    · apply newline_not_mem_typeLine hname
      rw [String.toList_intercalate, hquoted]
      refine not_mem_intercalate (by decide) (List.forall_mem_map.mpr fun value hvalue => ?_)
      have hvalue : '\n' ∉ value.toList := fun hmem => (hplain value hvalue _ hmem).2.2.1 rfl
      simp [quotedChars, hvalue]

theorem value_not_mem_of_isType {tokens : List Token} (htype : isType tokens = true)
    (value : List UInt16) : .literal value ∉ tokens := fun hmem =>
  Bool.false_ne_true (isOfType_of_isType htype _ hmem)

/-- An alias is read as the type it was written for where that is the text of a type. -/
theorem reading?_alias_iff {name type : String} :
    (∃ tokens, tokens? type.toList = some tokens ∧
        reading? (unlines (Declaration.alias name type).lines) = some (.alias name tokens)) ↔
      IsIdentifier name ∧ IsTypeText type := by
  rw [Declaration.lines, isTypeText_iff]
  constructor
  · rintro ⟨tokens, htokens, hread⟩
    obtain ⟨line, -, htype⟩ := exists_tokens_of_reading?_singleton hread
      (fun _ _ _ heq => by cases heq)
    obtain ⟨name', type', -, hname, hunion | ⟨htype, heq⟩⟩ := exists_type_of_typeLine? htype
    · obtain ⟨_, -, heq⟩ := hunion
      cases heq
    · obtain ⟨rfl, rfl⟩ := DeclarationReading.alias.inj heq
      exact ⟨hname, tokens, htokens, htype⟩
  · rintro ⟨hname, tokens, htokens, htype⟩
    refine ⟨tokens, htokens, ?_⟩
    have hline := tokens?_typeLine hname.isIdentifierName (type.toList ++ [';'])
    have hvalue := value_not_mem_of_isType htype
    rw [tokens?_append (c := ';') (by decide +kernel) htokens hvalue, tokens?_semicolon,
      ← toList_typeLine] at hline
    rw [reading?_singleton hline]
    · exact typeLine?_alias hname htype
    · exact newline_not_mem_typeLine hname (newline_not_mem_of_tokens? htokens hvalue)

/-! ## Lines of properties -/

/-- The line of a property of a model, before it is written. -/
def propertyLine (property : Property) : PropertyLine where
  readonly := property.useReadonlyModifier
  name := property.name
  optional := property.optional
  type := property.dataType
  nullable := property.nullable

/-- What is read as a property says the same as the property. -/
structure MemberReading.Describes (member : MemberReading) (property : Property) : Prop where
  readonly : member.readonly = property.useReadonlyModifier
  name : member.name = units property.name.toList
  optional : member.optional = property.optional
  type : tokens? property.dataType.toList = some member.type
  nullable : member.nullable = property.nullable

/-- The line of a property behind its name. -/
def typedChars (property : Property) : List Char :=
  (if property.optional then ['?'] else []) ++ ':' :: ' ' :: (property.dataType.toList ++
    ((if property.nullable then " | null".toList else []) ++ [';']))

theorem toList_text (property : Property) :
    (propertyLine property).text.toList = "  ".toList ++
      ((if property.useReadonlyModifier then "readonly ".toList else []) ++
        (property.name.toList ++ typedChars property)) := by
  obtain ⟨name, type, optional, nullable, readonly⟩ := property
  simp only [propertyLine, PropertyLine.text, typedChars, String.toList_append]
  cases readonly <;> cases optional <;> cases nullable <;> simp

theorem exists_mark_typedChars (property : Property) :
    ∃ mark ∈ [':', '?'], ∃ rest, typedChars property = mark :: rest := by
  unfold typedChars
  cases property.optional with
  | true => exact ⟨'?', by decide, _, rfl⟩
  | false => exact ⟨':', by decide, _, rfl⟩

theorem tokens?_text (property : Property) :
    tokens? (propertyLine property).text.toList =
      (tokens? (property.name.toList ++ typedChars property)).map
        ((if property.useReadonlyModifier then [Token.word "readonly"] else []) ++ ·) := by
  have hspaces : ∀ rest, tokens? ("  ".toList ++ rest) = tokens? rest := fun rest => by
    have htwo : "  ".toList ++ rest = ' ' :: ' ' :: rest := rfl
    rw [htwo, tokens?_space, tokens?_space]
  rw [toList_text, hspaces]
  cases property.useReadonlyModifier with
  | false => simp
  | true =>
      have hword : ∀ rest, "readonly ".toList ++ rest = "readonly".toList ++ ' ' :: rest :=
        fun _ => rfl
      rw [if_pos rfl, hword, tokens?_word_cons (by decide) (by decide), tokens?_space]
      rfl

theorem tokens?_typedChars {property : Property} {type : List Token}
    (htokens : tokens? property.dataType.toList = some type) (htype : isType type = true) :
    tokens? (typedChars property) =
      some ((if property.optional then [Token.mark "?"] else []) ++ Token.mark ":" ::
        (type ++ ((if property.nullable then [Token.mark "|", .word "null"] else []) ++
          [Token.mark ";"]))) := by
  have hvalue := value_not_mem_of_isType htype
  have hend : ∀ nullable : Bool, tokens? (property.dataType.toList ++
      ((if nullable then " | null".toList else []) ++ [';'])) =
        some (type ++ ((if nullable then [Token.mark "|", .word "null"] else []) ++
          [Token.mark ";"])) := by
    intro nullable
    cases nullable with
    | false =>
        have happend := tokens?_append (c := ';') (by decide +kernel) htokens hvalue []
        rw [tokens?_semicolon] at happend
        exact happend
    | true =>
        have happend := tokens?_append (c := ' ') (by decide +kernel) htokens hvalue
          "| null;".toList
        have hnull : tokens? (' ' :: "| null;".toList) =
            some [.mark "|", .word "null", .mark ";"] := by
          decide +kernel
        rw [hnull] at happend
        exact happend
  have hcolon : ∀ rest, tokens? (':' :: ' ' :: rest) = (tokens? rest).map (.mark ":" :: ·) :=
    fun rest => by
      have hmark : mark? (':' :: ' ' :: rest) = some (":", ' ' :: rest) := rfl
      rw [tokens?_mark hmark, tokens?_space]
  unfold typedChars
  cases property.optional with
  | false =>
      rw [if_neg Bool.false_ne_true, if_neg Bool.false_ne_true, List.nil_append, hcolon, hend]
      rfl
  | true =>
      have hmark : ∀ rest, mark? ('?' :: ':' :: rest) = some ("?", ':' :: rest) := fun _ => rfl
      rw [if_pos rfl, if_pos rfl, List.singleton_append, tokens?_mark (hmark _), hcolon, hend]
      rfl

/-- The line of a property is read as what it was written for where its name is a word and its type
the text of one, and nowhere else: a name that is no word is never read as itself. -/
theorem exists_member_iff (property : Property) :
    (∃ line member, tokens? (propertyLine property).text.toList = some line ∧
        member? line = some member ∧ member.Describes property) ↔
      IsIdentifierName property.name ∧ IsTypeText property.dataType := by
  rw [isTypeText_iff]
  constructor
  · rintro ⟨line, member, hline, hmember, hdescribes⟩
    obtain ⟨htype, first, rest, hname, rfl⟩ := exists_tokens_of_member? hmember
    refine ⟨?_, member.type, hdescribes.type, htype⟩
    rw [tokens?_text, hdescribes.readonly] at hline
    obtain ⟨tokens, htokens, heq⟩ := Option.map_eq_some_iff.mp hline
    rw [List.append_cancel_left heq] at htokens
    obtain ⟨mark, hmark, more, htyped⟩ := exists_mark_typedChars property
    rw [htyped] at htokens
    exact isIdentifierName_of_tokens? hmark htokens (hname.trans (congrArg some hdescribes.name))
  · rintro ⟨hname, type, htokens, htype⟩
    let member : MemberReading :=
      { readonly := property.useReadonlyModifier
        name := units property.name.toList
        optional := property.optional
        type := type
        nullable := property.nullable }
    refine ⟨member.tokens (.word property.name), member, ?_, member?_tokens rfl htype, ?_⟩
    · obtain ⟨mark, hmark, more, htyped⟩ := exists_mark_typedChars property
      have hapart : isIdentifierPart mark = false := by
        have hall : ∀ mark ∈ [':', '?'], isIdentifierPart mark = false :=
          List.all_iff_forall_prop.mp (by decide)
        exact hall mark hmark
      have htyped' := tokens?_typedChars htokens htype
      rw [htyped] at htyped'
      rw [tokens?_text, htyped, tokens?_word_cons hname hapart, htyped']
      simp [member, MemberReading.tokens]
    · exact ⟨rfl, rfl, rfl, htokens, rfl⟩

/-! ## Interfaces -/

theorem tokens?_names {names : List String} (hne : names ≠ [])
    (hnames : ∀ name ∈ names, IsIdentifier name) (rest : List Char) :
    tokens? (", ".toList.intercalate (names.map String.toList) ++ ' ' :: rest) =
      (tokens? (' ' :: rest)).map ((names.map Token.word).intersperse (.mark ",") ++ ·) := by
  induction names with
  | nil => exact absurd rfl hne
  | cons name names ih =>
      obtain ⟨hname, hnames⟩ := List.forall_mem_cons.mp hnames
      have hname := hname.isIdentifierName
      cases names with
      | nil =>
          rw [List.map_cons, List.map_nil, List.intercalate_singleton,
            tokens?_word_cons hname (by decide)]
          rfl
      | cons next names =>
          have hcomma : ∀ rest, ", ".toList ++ rest = ',' :: ' ' :: rest := fun _ => rfl
          have hmark : ∀ rest, mark? (',' :: ' ' :: rest) = some (",", ' ' :: rest) :=
            fun _ => rfl
          have hrest := ih (List.cons_ne_nil _ _) hnames
          rw [List.map_cons] at hrest
          rw [List.map_cons, List.map_cons, List.intercalate_cons_cons, List.append_assoc,
            List.append_assoc, hcomma, tokens?_word_cons hname (by decide), tokens?_mark (hmark _),
            tokens?_space, hrest, Option.map_map, Option.map_map]
          rfl

/-- The head of an interface. -/
def headLine (name : String) (parents : List String) : String :=
  "export interface " ++ name ++
    (if parents.isEmpty then "" else " extends " ++ ", ".intercalate parents) ++ " \x7b"

theorem toList_headLine (name : String) (parents : List String) :
    (headLine name parents).toList = "export interface ".toList ++ (name.toList ++
      ((if parents = [] then [] else " extends ".toList ++
        ", ".toList.intercalate (parents.map String.toList)) ++ " \x7b".toList)) := by
  have hparents : (if parents.isEmpty then "" else " extends " ++ ", ".intercalate parents).toList =
      if parents = [] then [] else " extends ".toList ++
        ", ".toList.intercalate (parents.map String.toList) := by
    cases parents with
    | nil => rw [List.isEmpty_nil, if_pos rfl, if_pos rfl, String.toList_empty]
    | cons parent parents =>
        rw [List.isEmpty_cons, if_neg Bool.false_ne_true, if_neg (List.cons_ne_nil _ _),
          String.toList_append, String.toList_intercalate]
  unfold headLine
  rw [String.toList_append, String.toList_append, String.toList_append, hparents,
    List.append_assoc, List.append_assoc]

theorem tokens?_brace : tokens? [' ', '\x7b'] = some [.mark "\x7b"] := by
  have hmark : mark? ['\x7b'] = some ("\x7b", []) := rfl
  rw [tokens?_space, tokens?_mark hmark, tokens?_nil]
  rfl

/-- The end of a head, behind the name of the interface. -/
theorem tokens?_parents {name : String} (hname : IsIdentifier name) {parents : List String}
    (hparents : ∀ parent ∈ parents, IsIdentifier parent) :
    tokens? (name.toList ++ ((if parents = [] then [] else " extends ".toList ++
      ", ".toList.intercalate (parents.map String.toList)) ++ [' ', '\x7b'])) =
        some (Token.word name :: (parentTokens parents ++ [Token.mark "\x7b"])) := by
  have hname := hname.isIdentifierName
  unfold parentTokens
  by_cases hnone : parents = []
  · rw [if_pos hnone, if_pos hnone, List.nil_append, tokens?_word_cons hname (by decide),
      tokens?_brace]
    rfl
  · have hextends : ∀ rest, " extends ".toList ++ rest =
        ' ' :: ("extends".toList ++ ' ' :: rest) := fun _ => rfl
    rw [if_neg hnone, if_neg hnone, List.append_assoc, hextends,
      tokens?_word_cons hname (by decide), tokens?_space,
      tokens?_word_cons (by decide) (by decide), tokens?_space, tokens?_names hnone hparents,
      tokens?_brace]
    rfl

theorem tokens?_headLine {name : String} (hname : IsIdentifier name) {parents : List String}
    (hparents : ∀ parent ∈ parents, IsIdentifier parent) :
    tokens? (headLine name parents).toList =
      some ([Token.word "export", .word "interface", .word name] ++
        (parentTokens parents ++ [Token.mark "\x7b"])) := by
  have hwords : ∀ rest, "export interface ".toList ++ rest =
      "export".toList ++ ' ' :: ("interface".toList ++ ' ' :: rest) := fun _ => rfl
  have hbrace : " \x7b".toList = [' ', '\x7b'] := rfl
  rw [toList_headLine, hwords, hbrace, tokens?_word_cons (by decide) (by decide), tokens?_space,
    tokens?_word_cons (by decide) (by decide), tokens?_space, tokens?_parents hname hparents]
  rfl

theorem newline_not_mem_headLine {name : String} (hname : IsIdentifier name)
    {parents : List String} (hparents : ∀ parent ∈ parents, IsIdentifier parent) :
    '\n' ∉ (headLine name parents).toList := by
  have hname := hname.not_mem (c := '\n') (by decide)
  have hnames : '\n' ∉ ", ".toList.intercalate (parents.map String.toList) :=
    not_mem_intercalate (by decide) (List.forall_mem_map.mpr fun parent hparent =>
      (hparents parent hparent).not_mem (by decide))
  rw [toList_headLine]
  refine List.not_mem_append (by decide) (List.not_mem_append hname ?_)
  refine List.not_mem_append ?_ (by decide)
  split
  · exact List.not_mem_nil
  · exact List.not_mem_append (by decide) hnames

theorem newline_not_mem_text {property : Property} (hname : IsIdentifierName property.name)
    (htype : IsTypeText property.dataType) : '\n' ∉ (propertyLine property).text.toList := by
  have hname : '\n' ∉ property.name.toList := fun hmem =>
    absurd (List.all_eq_true.mp hname.parts _ hmem) (by decide)
  obtain ⟨tokens, htokens, htype⟩ := isTypeText_iff.mp htype
  have htype := newline_not_mem_of_tokens? htokens (value_not_mem_of_isType htype)
  rw [toList_text, typedChars]
  refine List.not_mem_append (by decide) (List.not_mem_append ?_ (List.not_mem_append hname ?_))
  · split <;> decide
  · cases property.optional <;> cases property.nullable <;> simp [htype]

/-- The lines of properties are read as what they were written for under the same conditions. -/
theorem forall₂_members_iff {properties : List Property} :
    (∃ bodies members,
        List.Forall₂ LexesTo (properties.map fun property => (propertyLine property).text) bodies ∧
        List.Forall₂ (fun body member => member? body = some member) bodies members ∧
        List.Forall₂ MemberReading.Describes members properties) ↔
      ∀ property ∈ properties, IsIdentifierName property.name ∧ IsTypeText property.dataType := by
  induction properties with
  | nil => exact iff_of_true ⟨[], [], .nil, .nil, .nil⟩ (List.forall_mem_nil _)
  | cons property properties ih =>
      rw [List.forall_mem_cons, ← ih, ← exists_member_iff]
      constructor
      · rintro ⟨bodies, members, hbodies, hmembers, hdescribes⟩
        obtain ⟨member, members, hdescribe, hothers, rfl⟩ :=
          List.forall₂_cons_right_iff.mp hdescribes
        obtain ⟨body, bodies, hmember, hrest, rfl⟩ := List.forall₂_cons_right_iff.mp hmembers
        obtain ⟨hbody, hbodies⟩ := List.forall₂_cons.mp hbodies
        exact ⟨⟨body, member, hbody, hmember, hdescribe⟩, bodies, members, hbodies, hrest, hothers⟩
      · rintro ⟨⟨body, member, hbody, hmember, hdescribe⟩, bodies, members, hbodies, hmembers,
          hdescribes⟩
        exact ⟨body :: bodies, member :: members, .cons hbody hbodies, .cons hmember hmembers,
          .cons hdescribe hdescribes⟩

theorem lines_interface (name : String) (parents : List String) (properties : List Property) :
    (Declaration.interface name parents (properties.map propertyLine)).lines =
      headLine name parents ::
        ((properties.map fun property => (propertyLine property).text) ++ ["\x7d"]) := by
  rw [Declaration.lines, List.map_map]
  rfl

/-- An interface is read as what it was written for where its name and those of its parents are
identifiers, the names of its properties words, and the types of these texts of types. -/
theorem reading?_interface_iff {name : String} {parents : List String}
    {properties : List Property} :
    (∃ members, List.Forall₂ MemberReading.Describes members properties ∧
        reading?
            (unlines (Declaration.interface name parents (properties.map propertyLine)).lines) =
          some (.interface name parents members)) ↔
      IsIdentifier name ∧ (∀ parent ∈ parents, IsIdentifier parent) ∧
        ∀ property ∈ properties, IsIdentifierName property.name ∧ IsTypeText property.dataType := by
  rw [lines_interface]
  constructor
  · rintro ⟨members, hdescribes, hread⟩
    obtain ⟨tokens, htokens, hlength⟩ := exists_lexesTo_of_reading? hread
    obtain ⟨head, bodies, rfl, hname, hparents, hmembers⟩ := declaration?_eq_interface htokens
    -- As many members are read as there are properties, and so no line has another line in it.
    have hcount := hmembers.length_eq.trans hdescribes.length_eq
    obtain ⟨found, hfound, heq⟩ := hlength (by simp [hcount])
    have heq : (head :: (bodies ++ [[Token.mark "\x7d"]])) ++ [[]] = found ++ [[]] := by
      rw [← heq]
      simp
    obtain rfl := List.append_cancel_right heq
    obtain ⟨-, hfound⟩ := List.forall₂_cons.mp hfound
    have hbodies := List.forall₂_take properties.length hfound
    rw [List.take_left' (by simp), List.take_left' hcount] at hbodies
    exact ⟨hname, hparents, forall₂_members_iff.mp ⟨bodies, members, hbodies, hmembers, hdescribes⟩⟩
  · rintro ⟨hname, hparents, hproperties⟩
    obtain ⟨bodies, members, hbodies, hmembers, hdescribes⟩ := forall₂_members_iff.mpr hproperties
    have hbrace : LexesTo "\x7d" [.mark "\x7d"] := by
      unfold LexesTo
      decide +kernel
    have hlines := List.Forall₂.cons (R := LexesTo) (tokens?_headLine hname hparents)
      (List.rel_append hbodies (.cons hbrace .nil))
    refine ⟨members, hdescribes, ?_⟩
    rw [reading?_of_lexesTo hlines]
    · rw [List.cons_append, List.append_assoc]
      exact declaration?_interface hname hparents hmembers
    · refine List.forall_mem_cons.mpr ⟨newline_not_mem_headLine hname hparents, ?_⟩
      refine List.forall_mem_append.mpr ⟨List.forall_mem_map.mpr fun property hproperty => ?_, ?_⟩
      · obtain ⟨hword, htype⟩ := hproperties property hproperty
        exact newline_not_mem_text hword htype
      · exact List.forall_mem_singleton.mpr (by decide)

end ClientPlan.Code
