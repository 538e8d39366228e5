import ClientPlan.Proofs.Code.FunctionText

/-! # Reading files

The functions and the interfaces that are read in a file of a tag are those that the file declares,
in order, and nothing else in it opens one.
-/

namespace ClientPlan.Code

open BlockReader
open Plan (isWordChar)

/-! ## Lines between functions and interfaces -/

/-- A line opens neither a function nor an interface. -/
structure OpensNothing (line : String) : Prop where
  function : signature? line = none
  interface : interfaceName? line = none

theorem interfaceName?_indent (line : String) : interfaceName? ("  " ++ line) = none :=
  interfaceName?_of_head String.toList_append (by decide)

theorem Import.opensNothing (item : Import) : OpensNothing item.text := by
  refine ⟨signature?_append (by decide) _, ?_⟩
  have hword : "import " = "i" ++ "mport " := rfl
  unfold Import.text
  rw [hword]
  simp only [String.append_assoc]
  exact interfaceName?_of_head String.toList_append (by decide)

/-- The line that opens a class. -/
def classLine (name : String) : String :=
  "export class " ++ name ++ " \x7b"

theorem opensNothing_class (name : String) : OpensNothing (classLine name) := by
  have hchars : (classLine name).toList = "export class ".toList ++ (name ++ " \x7b").toList := by
    rw [classLine, String.append_assoc, String.toList_append]
  refine ⟨signature?_of_toList (fun shape => ?_) ?_, ?_⟩
  · rw [hchars]
    rfl
  · rw [hchars]
    rfl
  · rw [interfaceName?, hchars]
    rfl

/-! ## Interfaces -/

namespace QueryInterface

theorem interfaceName?_head (name : String) :
    interfaceName? ("export interface " ++ name ++ " \x7b") = some name := by
  have hsuffix : (name.toList ++ " \x7b".toList).dropSuffix? " \x7b".toList = some name.toList :=
    List.dropSuffix?_eq_some_iff.mpr ⟨_, rfl, beq_self_eq_true _⟩
  rw [interfaceName?, String.toList_append, String.toList_append, List.append_assoc,
    List.dropPrefix?_append_of_beq _ (beq_self_eq_true _)]
  simp only [Option.bind_eq_bind, Option.bind_some, hsuffix, String.ofList_toList]
  rfl

variable (item : QueryInterface)

theorem holds_lines : interfaceReader.Holds Block.IsInterface item.lines [item] := by
  let members := item.members.map fun member => "  " ++ member.text ++ ";"
  have hitem : Block.IsInterface ⟨item.name, members⟩ item :=
    { name := rfl
      members := List.map_congr_left fun member _ => by rw [Param.text_eq] }
  have hmembers : ∀ line ∈ members, interfaceName? line = none ∧ line ≠ "\x7d" := by
    refine List.forall_mem_map.mpr fun member _ => ?_
    have hchars : ("  " ++ member.text ++ ";").toList =
        "  ".toList ++ (member.text ++ ";").toList := by
      rw [String.append_assoc, String.toList_append]
    exact ⟨interfaceName?_of_head hchars (by decide), ne_of_blank hchars (by decide)⟩
  have hblock : interfaceReader.Holds Block.IsInterface
      (("export interface " ++ item.name ++ " \x7b") :: (members ++ ["\x7d"])) [item] :=
    holds_block hitem (interfaceName?_head item.name) rfl hmembers rfl
  have hopen : interfaceReader.Holds Block.IsInterface [""] [] :=
    holds_nil (List.forall_mem_singleton.mpr rfl)
  exact hopen.append hblock

/-- The lines of an interface open no function. -/
theorem signature?_of_mem_lines : ∀ line ∈ item.lines, signature? line = none := by
  have hhead : ("export interface " ++ item.name ++ " \x7b").toList =
      "export interface ".toList ++ (item.name ++ " \x7b").toList := by
    rw [String.append_assoc, String.toList_append]
  refine List.forall_mem_append.mpr ⟨List.forall_mem_append.mpr ⟨?_, ?_⟩, ?_⟩
  · refine List.forall_mem_cons.mpr ⟨rfl, List.forall_mem_singleton.mpr ?_⟩
    refine signature?_of_toList (fun shape => ?_) ?_ <;> rw [hhead] <;> rfl
  · exact List.forall_mem_map.mpr fun member _ => signature?_append (by decide) _
  · exact List.forall_mem_singleton.mpr rfl

end QueryInterface

/-! ## Functions open no interface -/

theorem interfaceName?_of_mem_indented {lines : List String} :
    ∀ line ∈ "" :: lines.map ("  " ++ ·), interfaceName? line = none :=
  List.forall_mem_cons.mpr
    ⟨rfl, List.forall_mem_map.mpr fun line _ => interfaceName?_indent line⟩

theorem brace_not_mem_indented {lines : List String} : "\x7d" ∉ "" :: lines.map ("  " ++ ·) := by
  intro hmem
  rcases List.mem_cons.mp hmem with hline | hline
  · exact absurd hline (by decide)
  · obtain ⟨line, -, hline⟩ := List.mem_map.mp hline
    exact ne_of_blank String.toList_append (by decide) hline

theorem Member.interfaceName?_of_mem_lines (item : Member) :
    ∀ line ∈ item.lines, interfaceName? line = none := by
  cases item <;> exact interfaceName?_of_mem_indented

theorem Resource.interfaceName?_of_mem_functionLines (item : Resource) :
    ∀ line ∈ item.functionLines, interfaceName? line = none := by
  have hcomment : ∀ line ∈ summaryComment item.summary, interfaceName? line = none := by
    intro line hline
    unfold summaryComment at hline
    split at hline
    next text =>
      rw [List.mem_ite_nil_left, List.mem_singleton] at hline
      rw [hline.2, String.append_assoc]
      exact interfaceName?_of_head String.toList_append (by decide)
    next => exact absurd hline List.not_mem_nil
  have hhead : interfaceName? ("export function " ++ item.name ++ "(") = none := by
    rw [interfaceName?, String.append_assoc, String.toList_append]
    rfl
  have hbody : ∀ line ∈ item.body, interfaceName? line = none := by
    rw [item.body_eq]
    refine List.forall_mem_append.mpr ⟨?_, List.forall_mem_singleton.mpr rfl⟩
    intro line hline
    obtain ⟨_, rest, hrest⟩ := item.steps_lines line hline
    exact interfaceName?_of_head hrest (by decide)
  unfold Resource.functionLines
  simp only [List.forall_mem_append, List.forall_mem_singleton]
  refine ⟨⟨⟨⟨⟨rfl, hcomment⟩, hhead⟩, ?_⟩, rfl⟩, hbody⟩
  intro line hline
  obtain ⟨_, rest, hrest⟩ := item.paramLines_lines line hline
  exact interfaceName?_of_head hrest (by decide)

/-! ## Files -/

namespace ServiceFile

variable (file : ServiceFile)

/-- The lines in front of the class. -/
def front : List String :=
  [header,
    Import.text ⟨"Injectable" :: (if file.injected then ["inject"] else []), "@angular/core"⟩,
    Import.text ⟨"HttpClient" :: (if file.fetches then ["httpResource"] else []),
      "@angular/common/http"⟩,
    Import.text ⟨["Observable"], "rxjs"⟩] ++
    file.imports.map Import.text ++ file.interfaces.flatMap QueryInterface.lines ++
    ["", "@Injectable(" ++ braced "providedIn: 'root'" ++ ")"]

/-- The line by which the class has the HTTP client. -/
def clientLine : String :=
  if file.injected then "  private readonly http = inject(HttpClient);"
  else "  constructor(private readonly http: HttpClient) \x7b\x7d"

/-- The lines of the class. -/
def inner : List String :=
  [file.clientLine] ++ file.members.flatMap Member.lines ++ [""]

theorem lines_eq :
    file.lines = file.front ++ classLine file.className :: (file.inner ++ ["\x7d"]) := by
  simp only [lines, front, inner, clientLine, classLine, List.append_assoc, List.cons_append,
    List.nil_append]

/-- The class is closed behind its methods, which are indented. -/
theorem brace_not_mem_inner : "\x7d" ∉ file.inner := by
  intro hmem
  simp only [inner, List.mem_append, List.mem_singleton, List.mem_flatMap] at hmem
  rcases hmem with (hline | ⟨item, -, hline⟩) | hline
  · unfold clientLine at hline
    cases hinjected : file.injected <;> rw [hinjected] at hline <;> exact absurd hline (by decide)
  · cases item <;> exact brace_not_mem_indented hline
  · exact absurd hline (by decide)

end ServiceFile

section

variable {α β : Type} {reader : BlockReader α} {IsBlock : Block α → β → Prop}
  (hnothing : ∀ line, OpensNothing line → reader.head? line = none)

include hnothing

/-- The lines in front of the class hold what the interfaces hold. -/
theorem ServiceFile.holds_front {file : ServiceFile} {ofInterface : QueryInterface → List β}
    (hinterfaces : ∀ item ∈ file.interfaces, reader.Holds IsBlock item.lines (ofInterface item)) :
    reader.Holds IsBlock file.front (file.interfaces.flatMap ofInterface) := by
  have hnil {lines : List String} (hlines : ∀ line ∈ lines, OpensNothing line) :
      reader.Holds IsBlock lines [] :=
    holds_nil fun line hline => hnothing line (hlines line hline)
  have hfront : reader.Holds IsBlock file.front
      ([] ++ [] ++ file.interfaces.flatMap ofInterface ++ []) := by
    refine (((hnil ?_).append (hnil ?_)).append (Holds.flatMap hinterfaces)).append (hnil ?_)
    · simp only [List.forall_mem_cons, List.not_mem_nil, false_imp_iff, implies_true, and_true]
      exact ⟨⟨rfl, rfl⟩, Import.opensNothing _, Import.opensNothing _, Import.opensNothing _⟩
    · exact List.forall_mem_map.mpr fun item _ => item.opensNothing
    · simp only [List.forall_mem_cons, List.not_mem_nil, false_imp_iff, implies_true, and_true]
      exact ⟨⟨rfl, rfl⟩, rfl, rfl⟩
  simpa using hfront

/-- The lines of the class hold what its methods hold. -/
theorem ServiceFile.holds_inner {file : ServiceFile} {ofMember : Member → List β}
    (hmembers : ∀ item ∈ file.members, reader.Holds IsBlock item.lines (ofMember item)) :
    reader.Holds IsBlock file.inner (file.members.flatMap ofMember) := by
  have hclient : reader.Holds IsBlock [file.clientLine] [] := by
    refine holds_nil (List.forall_mem_singleton.mpr (hnothing _ ?_))
    unfold ServiceFile.clientLine
    cases file.injected <;> exact ⟨rfl, rfl⟩
  have hend : reader.Holds IsBlock [""] [] :=
    holds_nil (List.forall_mem_singleton.mpr (hnothing _ ⟨rfl, rfl⟩))
  have hinner := (hclient.append (Holds.flatMap hmembers)).append hend
  rwa [List.nil_append, List.append_nil] at hinner

/-- A service file holds what its interfaces and its methods hold. -/
theorem ServiceFile.holds_lines {file : ServiceFile} {ofInterface : QueryInterface → List β}
    {ofMember : Member → List β}
    (hinterfaces : ∀ item ∈ file.interfaces, reader.Holds IsBlock item.lines (ofInterface item))
    (hmembers : ∀ item ∈ file.members, reader.Holds IsBlock item.lines (ofMember item)) :
    reader.Holds IsBlock file.lines
      (file.interfaces.flatMap ofInterface ++ file.members.flatMap ofMember) := by
  have hopen : reader.Holds IsBlock [classLine file.className] [] :=
    holds_nil (List.forall_mem_singleton.mpr (hnothing _ (opensNothing_class _)))
  have hclose : reader.Holds IsBlock ["\x7d"] [] :=
    holds_nil (List.forall_mem_singleton.mpr (hnothing _ ⟨rfl, rfl⟩))
  have hclass := hopen.append ((holds_inner hnothing hmembers).append hclose)
  rw [List.nil_append, List.append_nil] at hclass
  rw [file.lines_eq]
  exact (holds_front hnothing hinterfaces).append hclass

/-- A resource file holds what its functions hold with their interfaces. -/
theorem ResourceFile.holds_lines {file : ResourceFile}
    {ofFunction : Option QueryInterface × Resource → List β}
    (hfunctions : ∀ item ∈ file.functions, reader.Holds IsBlock
      (item.1.elim [] QueryInterface.lines ++ item.2.functionLines) (ofFunction item)) :
    reader.Holds IsBlock file.lines (file.functions.flatMap ofFunction) := by
  have hnil {lines : List String} (hlines : ∀ line ∈ lines, OpensNothing line) :
      reader.Holds IsBlock lines [] :=
    holds_nil fun line hline => hnothing line (hlines line hline)
  have hlines : reader.Holds IsBlock file.lines
      ([] ++ [] ++ file.functions.flatMap ofFunction) := by
    unfold ResourceFile.lines
    refine ((hnil ?_).append (hnil ?_)).append (Holds.flatMap hfunctions)
    · simp only [List.forall_mem_cons, List.not_mem_nil, false_imp_iff, implies_true, and_true]
      exact ⟨⟨rfl, rfl⟩, Import.opensNothing _, Import.opensNothing _⟩
    · exact List.forall_mem_map.mpr fun item _ => item.opensNothing
  simpa using hlines

end

theorem Member.holds_lines {item : Member} (hname : ∀ c ∈ item.name.toList, isWordChar c = true) :
    functionReader.Holds Block.IsFunction item.lines [.member item] := by
  cases item with
  | resource item => exact Resource.holds_methodLines hname
  | request item => exact Request.holds_lines hname

/-- The functions that are read in some lines are those that stand in a class at their end. -/
def InClass (name : String) (lines : List String) : Prop :=
  ∃ front inner, lines = front ++ classLine name :: (inner ++ ["\x7d"]) ∧ "\x7d" ∉ inner ∧
    functionReader.blocks lines = functionReader.blocks inner

theorem ServiceFile.inClass {file : ServiceFile}
    (hnames : ∀ item ∈ file.members, ∀ c ∈ item.name.toList, isWordChar c = true) :
    InClass file.className file.lines := by
  have hnothing : ∀ line, OpensNothing line → functionReader.head? line = none :=
    fun _ hline => hline.function
  have hfront : functionReader.Holds Block.IsFunction file.front
      (file.interfaces.flatMap fun _ => []) :=
    holds_front hnothing fun item _ => holds_nil item.signature?_of_mem_lines
  rw [List.flatMap_eq_nil_iff.mpr fun _ _ => rfl] at hfront
  have hinner : functionReader.Holds Block.IsFunction file.inner
      (file.members.flatMap fun item => [Caller.member item]) :=
    holds_inner hnothing fun item hitem => Member.holds_lines (hnames item hitem)
  refine ⟨file.front, file.inner, file.lines_eq, ?_, ?_⟩
  · exact file.brace_not_mem_inner
  · have hopen : functionReader.head? (classLine file.className) = none :=
      (opensNothing_class file.className).function
    rw [file.lines_eq, hfront.blocks_append, hfront.blocks_eq_nil, List.nil_append, blocks, hopen]
    have hclose : functionReader.blocks ["\x7d"] = [] := rfl
    change functionReader.blocks (file.inner ++ ["\x7d"]) = _
    rw [hinner.blocks_append, hclose, List.append_nil]

namespace ApiFile

variable (file : ApiFile)

/-- The functions that are read in a file are those that it declares, in order. -/
theorem forall₂_functions
    (hnames : ∀ caller ∈ file.callers, ∀ c ∈ caller.name.toList, isWordChar c = true) :
    List.Forall₂ Block.IsFunction (functionReader.blocks file.lines) file.callers := by
  cases file with
  | service file =>
      have hlines : functionReader.Holds Block.IsFunction file.lines
          (file.interfaces.flatMap (fun _ => []) ++
            file.members.flatMap fun item => [Caller.member item]) := by
        refine ServiceFile.holds_lines (fun _ hline => hline.function) ?_ ?_
        · exact fun item _ => holds_nil item.signature?_of_mem_lines
        · exact fun item hitem => Member.holds_lines (hnames _ (List.mem_map_of_mem hitem))
      rw [List.flatMap_eq_nil_iff.mpr fun _ _ => rfl, List.nil_append, ← List.map_eq_flatMap]
        at hlines
      exact hlines.forall₂
  | resources file =>
      have hlines : functionReader.Holds Block.IsFunction file.lines
          (file.functions.flatMap fun item => [Caller.function item.2]) := by
        refine ResourceFile.holds_lines (fun _ hline => hline.function) ?_
        intro item _
        refine Holds.append (holds_nil ?_) item.2.holds_functionLines
        cases item.1 with
        | none => exact List.forall_mem_nil _
        | some interface => exact interface.signature?_of_mem_lines
      rw [← List.map_eq_flatMap] at hlines
      exact hlines.forall₂

/-- The interfaces that are read in a file are those that it declares, in order. -/
theorem forall₂_interfaces :
    List.Forall₂ Block.IsInterface (interfaceReader.blocks file.lines) file.interfaces := by
  cases file with
  | service file =>
      have hlines : interfaceReader.Holds Block.IsInterface file.lines
          (file.interfaces.flatMap (fun item => [item]) ++ file.members.flatMap fun _ => []) := by
        refine ServiceFile.holds_lines (fun _ hline => hline.interface) ?_ ?_
        · exact fun item _ => item.holds_lines
        · exact fun item _ => holds_nil item.interfaceName?_of_mem_lines
      rw [List.flatMap_eq_nil_iff.mpr fun _ _ => rfl, List.append_nil, List.flatMap_singleton']
        at hlines
      exact hlines.forall₂
  | resources file =>
      have hlines : interfaceReader.Holds Block.IsInterface file.lines
          (file.functions.flatMap fun item => item.1.toList) := by
        refine ResourceFile.holds_lines (fun _ hline => hline.interface) ?_
        intro item _
        have hfunction := item.2.interfaceName?_of_mem_functionLines
        rw [← List.append_nil item.1.toList]
        refine Holds.append ?_ (holds_nil hfunction)
        cases item.1 with
        | none => exact holds_nil (List.forall_mem_nil _)
        | some interface => exact interface.holds_lines
      rw [← List.filterMap_eq_flatMap_toList] at hlines
      exact hlines.forall₂

end ApiFile

end ClientPlan.Code
