import ClientPlan.Proofs.Code.Token
import ClientPlan.Proofs.Text.Split
import ClientPlan.Proofs.Traversal

/-! # Reading declarations

What the text of a declaration declares: a union of string literals, an alias of a type, or an
interface, which stands on a line for its head and one for each property. Types are names that may
have types as arguments.
-/

namespace ClientPlan.Code

open TemplateLiteral Text

/-- What the line of a property says. -/
structure MemberReading where
  readonly : Bool
  name : List UInt16
  optional : Bool
  /-- The tokens of the type, without that of a null. -/
  type : List Token
  nullable : Bool
  deriving DecidableEq, Repr

/-- What a declaration says. -/
inductive DeclarationReading where
  | union (name : String) (values : List (List UInt16))
  | alias (name : String) (type : List Token)
  | interface (name : String) (parents : List String) (members : List MemberReading)
  deriving DecidableEq, Repr

/-! ## Types -/

/-- How far a type is read. -/
inductive TypePlace where
  /-- A name has to come. -/
  | start
  /-- A name has been read, and arguments may come. -/
  | name
  /-- The arguments of a name have been read. -/
  | arguments
  deriving DecidableEq, Repr

/-- The reserved words that are types. -/
def typeWords : List String :=
  ["false", "null", "this", "true", "void"]

/-- Whether tokens complete a type that has been read up to some place, inside of so many open lists
of arguments. -/
def completesType (opened : Nat) (place : TypePlace) : List Token → Bool
  | [] => opened = 0 && place ≠ .start
  | .word name :: rest =>
      place = .start && (name ∉ reservedWords || name ∈ typeWords) &&
        completesType opened .name rest
  | .literal _ :: _ => false
  | .mark text :: rest =>
      if text = "<" then place = .name && completesType (opened + 1) .start rest
      else if text = "," then place ≠ .start && 0 < opened && completesType opened .start rest
      else if text = ">" then
        place ≠ .start && 0 < opened && completesType (opened - 1) .arguments rest
      else false

/-- The tokens of a type. -/
def isType (tokens : List Token) : Bool :=
  completesType 0 .start tokens

/-- The text of a type. -/
def IsTypeText (text : String) : Prop :=
  (tokens? text.toList).any isType = true

instance (text : String) : Decidable (IsTypeText text) :=
  inferInstanceAs (Decidable (_ = _))

/-! ## The reader -/

/-- Items with a separator between them, one at least. -/
def separated? {α : Type} (separator : Token) (item? : Token → Option α) :
    List Token → Option (List α)
  | [] => none
  | [token] => (item? token).map ([·])
  | token :: mark :: rest =>
      if mark = separator then do
        let item ← item? token
        let items ← separated? separator item? rest
        return item :: items
      else none

/-- The name that a token is. -/
def Token.word? : Token → Option String
  | word name => some name
  | _ => none

/-- The value of a token that is a literal. -/
def Token.value? : Token → Option (List UInt16)
  | literal value => some value
  | _ => none

/-- Whether a property is read-only, and its line from the name on. The word alone is a name. -/
def splitModifier : List Token → Bool × List Token
  | first :: second :: rest =>
      if first = .word "readonly" ∧ second.name?.isSome then (true, second :: rest)
      else (false, first :: second :: rest)
  | line => (false, line)

/-- The reading of the line of a property. -/
def member? (line : List Token) : Option MemberReading :=
  match splitModifier line with
  | (_, []) => none
  | (readonly, first :: rest) => do
      let name ← first.name?
      let optional := rest.head? = some (.mark "?")
      let typed ← (if optional then rest.tail else rest).dropPrefix? [.mark ":"]
      let typed ← typed.dropSuffix? [.mark ";"]
      let bare? := typed.dropSuffix? [.mark "|", .word "null"]
      let type := bare?.getD typed
      if isType type then
        some
          { readonly := readonly
            name := name
            optional := optional
            type := type
            nullable := bare?.isSome }
      else none

/-- The reading of a line that declares a type. -/
def typeLine? (line : List Token) : Option DeclarationReading := do
  let named ← line.dropPrefix? [.word "export", .word "type"]
  match named with
  | .word name :: .mark "=" :: rest =>
      let type ← rest.dropSuffix? [.mark ";"]
      if IsIdentifier name then
        match separated? (.mark "|") Token.value? type with
        | some values => some (.union name values)
        | none => if isType type then some (.alias name type) else none
      else none
  | _ => none

/-- The names that an interface extends, from the end of its head. -/
def parents? : List Token → Option (List String)
  | [] => some []
  | keyword :: rest =>
      if keyword = .word "extends" then separated? (.mark ",") Token.word? rest else none

/-- The reading of an interface, from its head and its members. -/
def interface? (head : List Token) (members : List MemberReading) : Option DeclarationReading := do
  let named ← head.dropPrefix? [.word "export", .word "interface"]
  match named with
  | .word name :: rest =>
      let rest ← rest.dropSuffix? [.mark "\x7b"]
      let parents ← parents? rest
      if IsIdentifier name ∧ ∀ parent ∈ parents, IsIdentifier parent then
        some (.interface name parents members)
      else none
  | _ => none

/-- The reading of a declaration from the tokens of its lines. Behind the last line there is an
empty one. -/
def declaration? : List (List Token) → Option DeclarationReading
  | [line, []] => typeLine? line
  | head :: rest => do
      let body ← rest.dropSuffix? [[.mark "\x7d"], []]
      interface? head (← body.mapM member?)
  | [] => none

/-- The reading of the text of a declaration. -/
def reading? (text : String) : Option DeclarationReading := do
  declaration? (← (splitOn '\n' text.toList).mapM tokens?)

/-! ## What a type holds -/

/-- The tokens that types are made of. -/
def Token.isOfType : Token → Bool
  | word _ => true
  | literal _ => false
  | mark text => text ∈ ["<", ",", ">"]

theorem isOfType_of_completesType {opened : Nat} {place : TypePlace} {tokens : List Token}
    (htokens : completesType opened place tokens = true) :
    ∀ token ∈ tokens, token.isOfType = true := by
  fun_induction completesType opened place tokens with
  | case1 => exact List.forall_mem_nil _
  | case2 opened place name rest ih =>
      rw [Bool.and_eq_true] at htokens
      exact List.forall_mem_cons.mpr ⟨rfl, ih htokens.2⟩
  | case3 => cases htokens
  | case4 opened place rest ih =>
      rw [Bool.and_eq_true] at htokens
      exact List.forall_mem_cons.mpr ⟨by decide, ih htokens.2⟩
  | case5 opened place rest _ ih =>
      rw [Bool.and_eq_true] at htokens
      exact List.forall_mem_cons.mpr ⟨by decide, ih htokens.2⟩
  | case6 opened place rest _ _ ih =>
      rw [Bool.and_eq_true] at htokens
      exact List.forall_mem_cons.mpr ⟨by decide, ih htokens.2⟩
  | case7 => cases htokens

theorem isOfType_of_isType {tokens : List Token} (htype : isType tokens = true) :
    ∀ token ∈ tokens, token.isOfType = true :=
  isOfType_of_completesType htype

theorem isTypeText_iff {text : String} :
    IsTypeText text ↔ ∃ tokens, tokens? text.toList = some tokens ∧ isType tokens = true := by
  rw [IsTypeText, Option.any_eq_true]

/-! ## Ends and separators -/

section

variable {α : Type} [BEq α] [LawfulBEq α] {list start ending rest : List α}

theorem dropSuffix?_append (list ending : List α) :
    (list ++ ending).dropSuffix? ending = some list :=
  List.dropSuffix?_eq_some_iff.mpr ⟨ending, rfl, beq_self_eq_true ending⟩

theorem eq_append_of_dropSuffix? (hdrop : list.dropSuffix? ending = some rest) :
    list = rest ++ ending := by
  obtain ⟨last, hlist, heq⟩ := List.dropSuffix?_eq_some_iff.mp hdrop
  rw [hlist, eq_of_beq heq]

theorem eq_append_of_dropPrefix? (hdrop : list.dropPrefix? start = some rest) :
    list = start ++ rest := by
  obtain ⟨first, hlist, heq⟩ := List.dropPrefix?_eq_some_iff.mp hdrop
  rw [hlist, eq_of_beq heq]

theorem dropPrefix?_append (start rest : List α) :
    (start ++ rest).dropPrefix? start = some rest :=
  List.dropPrefix?_eq_some_iff.mpr ⟨start, rfl, beq_self_eq_true start⟩

end

section

variable {α : Type} {separator : Token} {item? : Token → Option α} {form : α → Token}

theorem separated?_intersperse (hitem : ∀ item, item? (form item) = some item) {items : List α}
    (hne : items ≠ []) :
    separated? separator item? ((items.map form).intersperse separator) = some items := by
  induction items with
  | nil => exact absurd rfl hne
  | cons first items ih =>
      cases items with
      | nil =>
          simp only [List.map_cons, List.map_nil, List.intersperse_singleton, separated?, hitem,
            Option.map_some]
      | cons second items =>
          have hrest := ih (List.cons_ne_nil _ _)
          rw [List.map_cons] at hrest
          rw [List.map_cons, List.map_cons, List.intersperse_cons_cons, separated?, if_pos rfl,
            hitem, hrest]
          rfl

theorem eq_intersperse_of_separated? (hitem : ∀ token item, item? token = some item →
    token = form item) {tokens : List Token} {items : List α}
    (hread : separated? separator item? tokens = some items) :
    items ≠ [] ∧ tokens = (items.map form).intersperse separator := by
  fun_induction separated? separator item? tokens generalizing items with
  | case1 => cases hread
  | case2 token =>
      obtain ⟨item, hfirst, rfl⟩ := Option.map_eq_some_iff.mp hread
      rw [hitem token item hfirst]
      exact ⟨List.cons_ne_nil _ _, rfl⟩
  | case3 token rest ih =>
      obtain ⟨item, hfirst, hbind⟩ := Option.bind_eq_some_iff.mp hread
      obtain ⟨tail, htail, heq⟩ := Option.bind_eq_some_iff.mp hbind
      obtain rfl := Option.some.inj heq
      obtain ⟨hne, rfl⟩ := ih htail
      obtain ⟨second, tail, rfl⟩ := List.exists_cons_of_ne_nil hne
      rw [hitem token item hfirst]
      exact ⟨List.cons_ne_nil _ _, rfl⟩
  | case4 => cases hread

end

/-! ## Members -/

/-- The tokens of the line of a property, given the token of its name. -/
def MemberReading.tokens (member : MemberReading) (name : Token) : List Token :=
  (if member.readonly then [Token.word "readonly"] else []) ++
    name :: ((if member.optional then [Token.mark "?"] else []) ++
      Token.mark ":" :: (member.type ++
        (if member.nullable then [Token.mark "|", .word "null"] else []) ++ [Token.mark ";"]))

theorem splitModifier_tokens (member : MemberReading) {name : Token}
    (hname : name.name?.isSome = true) :
    splitModifier (member.tokens name) =
      (member.readonly, { member with readonly := false }.tokens name) := by
  obtain ⟨readonly, value, optional, type, nullable⟩ := member
  cases readonly with
  | true => simp [MemberReading.tokens, splitModifier, hname]
  | false => cases optional <;> simp [MemberReading.tokens, splitModifier, Token.name?]

theorem dropSuffix?_null_of_isType {type : List Token} (htype : isType type = true) :
    type.dropSuffix? [.mark "|", .word "null"] = none := by
  cases hdrop : type.dropSuffix? [.mark "|", .word "null"] with
  | none => rfl
  | some bare =>
      have hmem : .mark "|" ∈ type := by
        rw [eq_append_of_dropSuffix? hdrop]
        simp
      exact absurd (isOfType_of_isType htype _ hmem) (by decide)

/-- The line of a property is read as what it says. -/
theorem member?_tokens {member : MemberReading} {name : Token}
    (hname : name.name? = some member.name) (htype : isType member.type = true) :
    member? (member.tokens name) = some member := by
  have hsome : name.name?.isSome = true := by
    rw [hname]
    rfl
  have hsplit := splitModifier_tokens member hsome
  have hbare := dropSuffix?_null_of_isType htype
  have hnull := dropSuffix?_append member.type [.mark "|", .word "null"]
  have hend := fun typed => dropSuffix?_append typed [Token.mark ";"]
  have hnullEnd := hend (member.type ++ [Token.mark "|", .word "null"])
  obtain ⟨readonly, value, optional, type, nullable⟩ := member
  rw [member?, hsplit]
  cases optional <;> cases nullable <;>
    simp_all [MemberReading.tokens, List.dropPrefix?]

theorem eq_append_of_splitModifier {line rest : List Token} {readonly : Bool}
    (hsplit : splitModifier line = (readonly, rest)) :
    line = (if readonly then [Token.word "readonly"] else []) ++ rest := by
  unfold splitModifier at hsplit
  split at hsplit
  next first second tail =>
    split at hsplit
    next hfirst =>
      obtain ⟨rfl, rfl⟩ := Prod.mk.inj hsplit
      rw [hfirst.1]
      rfl
    next =>
      obtain ⟨rfl, rfl⟩ := Prod.mk.inj hsplit
      rfl
  next =>
    obtain ⟨rfl, rfl⟩ := Prod.mk.inj hsplit
    rfl

/-- The name of a property is the first token of its line, or stands behind the modifier. -/
theorem exists_tokens_of_member? {line : List Token} {member : MemberReading}
    (hread : member? line = some member) :
    isType member.type = true ∧ ∃ name rest, name.name? = some member.name ∧
      line = (if member.readonly then [Token.word "readonly"] else []) ++ name :: rest := by
  unfold member? at hread
  split at hread
  next => cases hread
  next readonly first rest hsplit =>
    obtain ⟨name, hname, hread⟩ := Option.bind_eq_some_iff.mp hread
    obtain ⟨marked, -, hread⟩ := Option.bind_eq_some_iff.mp hread
    obtain ⟨typed, -, hread⟩ := Option.bind_eq_some_iff.mp hread
    dsimp only at hread
    split at hread
    next htype =>
      obtain rfl := Option.some.inj hread
      exact ⟨htype, first, rest, hname, eq_append_of_splitModifier hsplit⟩
    next => cases hread

/-! ## Lines of declarations -/

theorem value?_literal (value : List UInt16) : (Token.literal value).value? = some value := rfl

theorem word?_word (name : String) : (Token.word name).word? = some name := rfl

theorem value?_eq_some {token : Token} {value : List UInt16} (hvalue : token.value? = some value) :
    token = .literal value := by
  cases token with
  | literal found => rw [Option.some.inj hvalue]
  | word name => cases hvalue
  | mark text => cases hvalue

/-- How a line begins and ends that declares a type. -/
theorem exists_type_of_typeLine? {line : List Token} {reading : DeclarationReading}
    (hread : typeLine? line = some reading) :
    ∃ name type,
      line = [Token.word "export", .word "type", .word name, .mark "="] ++
        (type ++ [Token.mark ";"]) ∧
      IsIdentifier name ∧
      ((∃ values, separated? (.mark "|") Token.value? type = some values ∧
          reading = .union name values) ∨
        (isType type = true ∧ reading = .alias name type)) := by
  obtain ⟨named, hnamed, hread⟩ := Option.bind_eq_some_iff.mp hread
  split at hread
  next name rest =>
    obtain ⟨type, htype, hread⟩ := Option.bind_eq_some_iff.mp hread
    have hline := eq_append_of_dropPrefix? hnamed
    rw [eq_append_of_dropSuffix? htype] at hline
    split at hread
    next hname =>
      refine ⟨name, type, hline, hname, ?_⟩
      split at hread
      next values hvalues => exact .inl ⟨values, hvalues, (Option.some.inj hread).symm⟩
      next =>
        split at hread
        next htype => exact .inr ⟨htype, (Option.some.inj hread).symm⟩
        next => cases hread
    next => cases hread
  next => cases hread

theorem typeLine?_append {name : String} (hname : IsIdentifier name) (type : List Token) :
    typeLine? ([Token.word "export", .word "type", .word name, .mark "="] ++
      (type ++ [Token.mark ";"])) =
      match separated? (.mark "|") Token.value? type with
      | some values => some (.union name values)
      | none => if isType type then some (.alias name type) else none := by
  have hstart := dropPrefix?_append [Token.word "export", .word "type"]
    (Token.word name :: Token.mark "=" :: (type ++ [Token.mark ";"]))
  have hend := dropSuffix?_append type [Token.mark ";"]
  rw [List.cons_append, List.cons_append, List.nil_append] at hstart
  simp only [List.cons_append, List.nil_append, typeLine?, hstart, hend, hname, if_true,
    Option.bind_eq_bind, Option.bind_some]

theorem typeLine?_union {name : String} (hname : IsIdentifier name) {values : List (List UInt16)}
    (hne : values ≠ []) :
    typeLine? ([Token.word "export", .word "type", .word name, .mark "="] ++
      ((values.map Token.literal).intersperse (Token.mark "|") ++ [Token.mark ";"])) =
        some (.union name values) := by
  rw [typeLine?_append hname, separated?_intersperse value?_literal hne]

theorem typeLine?_alias {name : String} (hname : IsIdentifier name) {type : List Token}
    (htype : isType type = true) :
    typeLine? ([Token.word "export", .word "type", .word name, .mark "="] ++
      (type ++ [Token.mark ";"])) =
      some (.alias name type) := by
  have hnone : separated? (.mark "|") Token.value? type = none := by
    cases hvalues : separated? (.mark "|") Token.value? type with
    | none => rfl
    | some values =>
        obtain ⟨hne, rfl⟩ := eq_intersperse_of_separated? (fun _ _ => value?_eq_some) hvalues
        obtain ⟨value, values, rfl⟩ := List.exists_cons_of_ne_nil hne
        have hmem : Token.literal value ∈
            (List.map Token.literal (value :: values)).intersperse (.mark "|") := by
          cases values <;> simp
        exact absurd (isOfType_of_isType htype _ hmem) (by simp [Token.isOfType])
  rw [typeLine?_append hname, hnone]
  exact if_pos htype

theorem exists_names_of_interface? {head : List Token} {members : List MemberReading}
    {reading : DeclarationReading} (hread : interface? head members = some reading) :
    ∃ name parents, reading = .interface name parents members ∧ IsIdentifier name ∧
      ∀ parent ∈ parents, IsIdentifier parent := by
  obtain ⟨named, -, hread⟩ := Option.bind_eq_some_iff.mp hread
  split at hread
  next name rest =>
    obtain ⟨rest, -, hread⟩ := Option.bind_eq_some_iff.mp hread
    obtain ⟨parents, -, hread⟩ := Option.bind_eq_some_iff.mp hread
    split at hread
    next hnames => exact ⟨name, parents, (Option.some.inj hread).symm, hnames⟩
    next => cases hread
  next => cases hread

/-- The tokens of the end of a head, behind the name of the interface. -/
def parentTokens (parents : List String) : List Token :=
  if parents = [] then []
  else .word "extends" :: (parents.map Token.word).intersperse (.mark ",")

theorem parents?_parentTokens (parents : List String) :
    parents? (parentTokens parents) = some parents := by
  unfold parentTokens
  split
  next hnil => rw [hnil, parents?]
  next hne => rw [parents?, if_pos rfl, separated?_intersperse word?_word hne]

theorem interface?_of_isIdentifier {name : String} (hname : IsIdentifier name)
    {parents : List String} (hparents : ∀ parent ∈ parents, IsIdentifier parent)
    (members : List MemberReading) :
    interface? ([Token.word "export", .word "interface", .word name] ++
      (parentTokens parents ++ [Token.mark "\x7b"])) members =
        some (.interface name parents members) := by
  have hstart := dropPrefix?_append [Token.word "export", .word "interface"]
    (Token.word name :: (parentTokens parents ++ [Token.mark "\x7b"]))
  have hend := dropSuffix?_append (parentTokens parents) [Token.mark "\x7b"]
  rw [List.cons_append, List.cons_append, List.nil_append] at hstart
  simp only [List.cons_append, List.nil_append, interface?, hstart, hend, parents?_parentTokens,
    Option.bind_eq_bind, Option.bind_some]
  exact if_pos ⟨hname, hparents⟩

/-! ## Declarations by their lines -/

theorem declaration?_eq_interface {tokens : List (List Token)} {name : String}
    {parents : List String} {members : List MemberReading}
    (hread : declaration? tokens = some (.interface name parents members)) :
    ∃ head bodies, tokens = head :: (bodies ++ [[Token.mark "\x7d"], []]) ∧ IsIdentifier name ∧
      (∀ parent ∈ parents, IsIdentifier parent) ∧
      List.Forall₂ (fun body member => member? body = some member) bodies members := by
  unfold declaration? at hread
  split at hread
  next line =>
    obtain ⟨_, _, -, -, ⟨_, -, heq⟩ | ⟨-, heq⟩⟩ := exists_type_of_typeLine? hread
    all_goals cases heq
  next head rest _ =>
    obtain ⟨bodies, hbodies, hread⟩ := Option.bind_eq_some_iff.mp hread
    obtain ⟨found, hfound, hread⟩ := Option.bind_eq_some_iff.mp hread
    obtain ⟨name', parents', heq, hname, hparents⟩ := exists_names_of_interface? hread
    obtain ⟨rfl, rfl, rfl⟩ := DeclarationReading.interface.inj heq
    refine ⟨head, bodies, ?_, hname, hparents, mapM_eq_some_iff.mp hfound⟩
    rw [eq_append_of_dropSuffix? hbodies]
  next => cases hread

theorem declaration?_interface {name : String} (hname : IsIdentifier name)
    {parents : List String} (hparents : ∀ parent ∈ parents, IsIdentifier parent)
    {bodies : List (List Token)} {members : List MemberReading}
    (hmembers : List.Forall₂ (fun body member => member? body = some member) bodies members) :
    declaration? (([Token.word "export", .word "interface", .word name] ++
      (parentTokens parents ++ [Token.mark "\x7b"])) :: (bodies ++ [[Token.mark "\x7d"], []])) =
        some (.interface name parents members) := by
  have hbodies := dropSuffix?_append bodies [[Token.mark "\x7d"], []]
  have hhead := interface?_of_isIdentifier hname hparents members
  rw [declaration?, hbodies]
  · rw [Option.bind_eq_bind, Option.bind_some, mapM_eq_some_iff.mpr hmembers]
    exact hhead
  · -- There are three lines at least.
    cases bodies <;> simp

theorem exists_line_of_declaration? {tokens : List (List Token)} {reading : DeclarationReading}
    (hread : declaration? tokens = some reading)
    (hkind : ∀ name parents members, reading ≠ .interface name parents members) :
    ∃ line, tokens = [line, []] ∧ typeLine? line = some reading := by
  unfold declaration? at hread
  split at hread
  next line => exact ⟨line, rfl, hread⟩
  next head rest _ =>
    obtain ⟨bodies, -, hread⟩ := Option.bind_eq_some_iff.mp hread
    obtain ⟨members, -, hread⟩ := Option.bind_eq_some_iff.mp hread
    obtain ⟨name, parents, heq, -, -⟩ := exists_names_of_interface? hread
    exact absurd heq (hkind name parents members)
  next => cases hread

end ClientPlan.Code
