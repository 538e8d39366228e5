import ClientPlan.Proofs.Code.ApiFile
import ClientPlan.Proofs.Code.BlockReading
import ClientPlan.Proofs.Plan.Imports

/-! # Reading functions and interfaces

The lines of a file of a tag are told apart by how they begin and end, whatever names, types and
summaries stand in them. So the text of a function tells its form and name, the parameters that it
takes, the constants that it declares and the address that it calls; and the text of an interface
tells its name and its members.
-/

namespace ClientPlan.Code

open Client
open Plan (isWordChar)

/-! ## Lines -/

/-- The forms of functions. -/
inductive Shape where
  /-- A resource function of a file. -/
  | function
  /-- A resource method of a class. -/
  | method
  /-- A method of a class that sends a request. -/
  | request
  deriving DecidableEq, Inhabited, Repr

/-- The line that closes a function. -/
def Shape.close : Shape → String
  | function => "\x7d"
  | _ => "  \x7d"

/-- What opens the call in a function, up to the type of the response. -/
def Shape.call : Shape → String
  | request => "return this.http.request<"
  | _ => "return httpResource<"

/-- What stands behind the template literal of the address. -/
def Shape.behindAddress : Shape → String
  | request => ", \x7b"
  | _ => ","

/-- The line that opens a function. -/
structure Signature where
  shape : Shape
  name : String
  /-- What stands behind the bracket. -/
  rest : String
  deriving DecidableEq, Inhabited, Repr

/-- A signature has the name that a function of its form takes from an operation. -/
def Signature.Names (signature : Signature) (op : Operation) : Prop :=
  signature.name =
    match signature.shape with
    | .request => op.operationId
    | _ => op.operationId ++ "Resource"

instance (signature : Signature) (op : Operation) : Decidable (signature.Names op) :=
  inferInstanceAs (Decidable (_ = _))

/-- The signature of a method from the characters of a line: two blanks, a name and a bracket. -/
def methodSignature? (shape : Shape) : List Char → Option Signature
  | ' ' :: ' ' :: named =>
    match named.dropWhile isWordChar with
    | '(' :: rest =>
      some ⟨shape, String.ofList (named.takeWhile isWordChar), String.ofList rest⟩
    | _ => none
  | _ => none

/-- The signature on a line. How the line ends tells the form of the function. -/
def signature? (line : String) : Option Signature :=
  match line.toList.getLast? with
  | some '(' =>
    (line.toList.dropPrefix? "export function ".toList).map fun named =>
      ⟨.function, String.ofList named.dropLast, ""⟩
  | some '{' =>
    if "> \x7b".toList <:+ line.toList then methodSignature? .request line.toList
    else if ") \x7b".toList <:+ line.toList then methodSignature? .method line.toList
    else none
  | _ => none

/-- The name of the interface that a line declares. -/
def interfaceName? (line : String) : Option String := do
  let named ← line.toList.dropPrefix? "export interface ".toList
  let name ← named.dropSuffix? " \x7b".toList
  return String.ofList name

/-- The characters of a line from the first one that is not blank. -/
def unindented (line : String) : List Char :=
  line.toList.dropWhile (· = ' ')

/-- What a line that declares a constant says of it. -/
def const? (line : String) : Option String :=
  ((unindented line).dropPrefix? "const ".toList).map String.ofList

/-- Whether a line opens the call of a function. -/
def opensCall (shape : Shape) (line : String) : Bool :=
  shape.call.toList.isPrefixOf (unindented line)

/-! ## Functions -/

/-- A parameter of a function, or a member of an interface, as it is declared. -/
def Param.declaration (param : Param) : String :=
  param.name ++ (if param.optional then "?: " else ": ") ++ param.type

/-- The lines of a body declare some constants, each on a line of its own, and hold one call to an
address. -/
structure IsBody (shape : Shape) (consts : List Const) (url : String) (body : List String) :
    Prop where
  consts : body.filterMap const? = consts.map fun item => item.name ++ " = " ++ item.value ++ ";"
  call : (body.filter (opensCall shape)).length = 1
  address : ∃ line ∈ body, ∃ before,
    line = before ++ "`" ++ url ++ "`" ++ shape.behindAddress

namespace Block

/-- The lines between a signature and the body. A function of a file has its parameters there, each
on a line of its own. -/
def paramLines (block : Block Signature) : List String :=
  match block.head.shape with
  | .function => block.inner.takeWhile (· ≠ ") \x7b")
  | _ => []

/-- The lines of the body of a function. -/
def body (block : Block Signature) : List String :=
  match block.head.shape with
  | .function => (block.inner.dropWhile (· ≠ ") \x7b")).tail
  | _ => block.inner

/-- A function takes parameters. A method has them on the line of its signature, with commas between
them and maybe one behind the last. -/
def Takes (block : Block Signature) (params : List Param) : Prop :=
  match block.head.shape with
  | .function => block.paramLines = params.map fun param => "  " ++ param.declaration ++ ","
  | _ => ∃ comma ∈ ["", ", "], ∃ result,
      block.head.rest = ", ".intercalate (params.map Param.declaration) ++ comma ++ ")" ++ result

end Block

/-- The form of a function. -/
def Caller.shape : Caller → Shape
  | function _ => .function
  | member (.resource _) => .method
  | member (.request _) => .request

/-- A block is the text of a function. -/
structure Block.IsFunction (block : Block Signature) (caller : Caller) : Prop where
  shape : block.head.shape = caller.shape
  name : block.head.name = caller.name
  params : block.Takes caller.params
  body : IsBody caller.shape caller.consts caller.url block.body

/-- A block is the text of an interface. -/
structure Block.IsInterface (block : Block String) (item : QueryInterface) : Prop where
  name : block.head = item.name
  members : block.inner = item.members.map fun member => "  " ++ member.declaration ++ ";"

/-- The reader of functions. -/
def functionReader : BlockReader Signature where
  head? := signature?
  close signature := signature.shape.close

/-- The reader of interfaces. -/
def interfaceReader : BlockReader String where
  head? := interfaceName?
  close _ := "\x7d"

/-! ## Lines that open nothing -/

section

variable {line : String} {rest : List Char}

/-- A line with another mark than an opening one at its end is no signature. -/
theorem signature?_append {ending : String}
    (hend : ending.toList.getLast?.any (fun c => c ≠ '(' && c ≠ '{') = true) (text : String) :
    signature? (text ++ ending) = none := by
  rw [signature?, String.toList_append, List.getLast?_append]
  cases hlast : ending.toList.getLast? with
  | none =>
      rw [hlast] at hend
      cases hend
  | some c =>
      rw [hlast, Option.any_some, Bool.and_eq_true, decide_eq_true_eq, decide_eq_true_eq] at hend
      rw [Option.some_or]
      split
      next hbracket => exact absurd (Option.some.inj hbracket) hend.1
      next hbrace => exact absurd (Option.some.inj hbrace) hend.2
      next => rfl

theorem signature?_of_toList (hmethod : ∀ shape, methodSignature? shape line.toList = none)
    (hfunction : line.toList.dropPrefix? "export function ".toList = none) :
    signature? line = none := by
  rw [signature?, hfunction, hmethod, hmethod, ite_self, ite_self]
  split <;> rfl

/-- A line with three blanks at its beginning is no signature. -/
theorem signature?_of_blanks (hline : line.toList = ' ' :: ' ' :: ' ' :: rest) :
    signature? line = none := by
  refine signature?_of_toList (fun shape => ?_) ?_ <;> rw [hline] <;> rfl

theorem interfaceName?_of_head {c : Char} (hline : line.toList = c :: rest) (hc : c ≠ 'e') :
    interfaceName? line = none := by
  have hword : "export interface ".toList = 'e' :: "xport interface ".toList := rfl
  rw [interfaceName?, hline, hword, List.dropPrefix?, if_neg (by simpa using hc)]
  rfl

theorem unindented_append {blanks : String} (hblanks : blanks.toList.all (· = ' ') = true)
    (line : String) : unindented (blanks ++ line) = unindented line := by
  rw [unindented, unindented, String.toList_append]
  exact List.dropWhile_append_of_pos (List.all_eq_true.mp hblanks)

theorem const?_indent (line : String) : const? ("  " ++ line) = const? line := by
  rw [const?, const?, unindented_append rfl]

theorem opensCall_indent (shape : Shape) (line : String) :
    opensCall shape ("  " ++ line) = opensCall shape line := by
  rw [opensCall, opensCall, unindented_append rfl]

end

/-- A body may be indented. -/
theorem IsBody.indent {shape : Shape} {consts : List Const} {url : String} {body : List String}
    (hbody : IsBody shape consts url body) : IsBody shape consts url (body.map ("  " ++ ·)) where
  consts := by
    rw [List.filterMap_map, ← hbody.consts]
    exact List.filterMap_congr fun line _ => const?_indent line
  call := by
    rw [List.filter_map, List.length_map, ← hbody.call]
    exact congrArg List.length (List.filter_congr fun line _ => opensCall_indent shape line)
  address := by
    obtain ⟨line, hline, before, rfl⟩ := hbody.address
    refine ⟨_, List.mem_map_of_mem hline, "  " ++ before, ?_⟩
    simp only [String.append_assoc]

/-! ## Signatures -/

section

variable {name : String} (hname : ∀ c ∈ name.toList, isWordChar c = true)

include hname

theorem methodSignature?_eq (shape : Shape) (rest : String) :
    methodSignature? shape ("  " ++ (name ++ "(" ++ rest)).toList = some ⟨shape, name, rest⟩ := by
  have hchars : ("  " ++ (name ++ "(" ++ rest)).toList =
      ' ' :: ' ' :: (name.toList ++ '(' :: rest.toList) := by
    rw [String.toList_append, String.toList_append, String.toList_append, List.append_assoc]
    rfl
  have hbracket : isWordChar '(' = false := by decide
  rw [hchars, methodSignature?, List.dropWhile_append_of_pos hname,
    List.dropWhile_cons_of_neg (by simp [hbracket]), List.takeWhile_append_of_pos hname,
    List.takeWhile_cons_of_neg (by simp [hbracket]), List.append_nil]
  simp only [String.ofList_toList]

/-- The end of the line tells a method that sends a request from a resource. -/
theorem signature?_method {shape : Shape} {front ending : String}
    (hend : shape = .request ∧ ending = "> \x7b" ∨ shape = .method ∧ ending = ") \x7b") :
    signature? ("  " ++ (name ++ "(" ++ (front ++ ending))) =
      some ⟨shape, name, front ++ ending⟩ := by
  have hread (shape : Shape) := methodSignature?_eq hname shape (front ++ ending)
  have hsuffix : ending.toList <:+ ("  " ++ (name ++ "(" ++ (front ++ ending))).toList := by
    rw [← String.append_assoc, ← String.append_assoc, String.toList_append]
    exact List.suffix_append _ _
  -- From here on the line counts by its name and its end only.
  generalize "  " ++ (name ++ "(" ++ (front ++ ending)) = line at hread hsuffix
  have hlast : line.toList.getLast? = some '{' := by
    obtain ⟨chars, hchars⟩ := hsuffix
    rw [← hchars, List.getLast?_append]
    rcases hend with ⟨-, rfl⟩ | ⟨-, rfl⟩ <;> rfl
  rw [signature?, hlast]
  rcases hend with ⟨rfl, rfl⟩ | ⟨rfl, rfl⟩
  · exact (if_pos hsuffix).trans (hread .request)
  · have hother : ¬ "> \x7b".toList <:+ line.toList := fun hother =>
      absurd (List.suffix_of_suffix_length_le hother hsuffix (by decide)) (by decide)
    exact ((if_neg hother).trans (if_pos hsuffix)).trans (hread .method)

end

example : signature? "  addPet(body: Pet, ): Observable<Pet> \x7b" =
    some ⟨.request, "addPet", "body: Pet, ): Observable<Pet> \x7b"⟩ := by
  rfl

theorem signature?_function (name : String) :
    signature? ("export function " ++ name ++ "(") = some ⟨.function, name, ""⟩ := by
  rw [signature?, String.toList_append, List.getLast?_append, String.toList_append,
    List.append_assoc, List.dropPrefix?_append_of_beq _ (beq_self_eq_true _)]
  have hname : (name.toList ++ "(".toList).dropLast = name.toList := List.dropLast_concat
  rw [Option.map_some, hname, String.ofList_toList]
  rfl

end ClientPlan.Code
