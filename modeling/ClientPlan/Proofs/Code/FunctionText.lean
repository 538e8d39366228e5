import ClientPlan.Proofs.Code.FunctionReading

/-! # The text of functions

The lines of a resource function, of a resource method and of a method that sends a request hold the
one function that they were written for, with its parameters, its constants and its address.
-/

namespace ClientPlan.Code

open Client
open Plan (isWordChar)

/-! ## Bodies -/

section

variable {shape : Shape} {line : String}

/-- A line that begins with another letter declares no constant and opens no call. -/
theorem const?_of_head {c : Char} {rest : List Char} (hline : unindented line = c :: rest)
    (hc : c ≠ 'c') : const? line = none := by
  have hword : "const ".toList = 'c' :: "onst ".toList := rfl
  rw [const?, hline, hword, List.dropPrefix?, if_neg (by simpa using hc)]
  rfl

theorem opensCall_of_head {c : Char} {rest : List Char} (hline : unindented line = c :: rest)
    (hc : c ≠ 'r') : opensCall shape line = false := by
  obtain ⟨word, hword⟩ : ∃ word, shape.call.toList = 'r' :: word := by
    cases shape <;> exact ⟨_, rfl⟩
  rw [opensCall, hline, hword, List.isPrefixOf, beq_false_of_ne hc.symm, Bool.false_and]

section

variable {blanks : String} (hblanks : blanks.toList.all (· = ' ') = true)

include hblanks

theorem unindented_const (item : Const) :
    unindented (blanks ++ item.text) =
      "const ".toList ++ (item.name ++ " = " ++ item.value ++ ";").toList := by
  have htext : item.text = "const " ++ (item.name ++ " = " ++ item.value ++ ";") := by
    simp only [Const.text, String.append_assoc]
  rw [unindented_append hblanks, unindented, htext, String.toList_append]
  rfl

theorem filterMap_consts (consts : List Const) :
    (consts.map fun item => blanks ++ item.text).filterMap const? =
      consts.map fun item => item.name ++ " = " ++ item.value ++ ";" := by
  rw [List.filterMap_map, ← List.filterMap_eq_map]
  refine List.filterMap_congr fun item _ => ?_
  rw [Function.comp_apply, const?, unindented_const hblanks,
    List.dropPrefix?_append_of_beq _ (beq_self_eq_true _), Option.map_some, String.ofList_toList]
  rfl

theorem filter_consts (consts : List Const) :
    (consts.map fun item => blanks ++ item.text).filter (opensCall shape) = [] := by
  rw [List.filter_eq_nil_iff, List.forall_mem_map]
  intro item _
  rw [opensCall_of_head (unindented_const hblanks item) (by decide)]
  exact Bool.false_ne_true

/-- A body declares its constants in one place, and opens the call before or behind it. -/
theorem isBody_of_consts {first last : List String} {consts : List Const} {url : String}
    (hconst : ∀ line ∈ first ++ last, const? line = none)
    (hcall : ((first ++ last).filter (opensCall shape)).length = 1)
    (haddress : ∃ line ∈ first ++ last, ∃ before,
      line = before ++ "`" ++ url ++ "`" ++ shape.behindAddress) :
    IsBody shape consts url (first ++ (consts.map fun item => blanks ++ item.text) ++ last) where
  consts := by
    obtain ⟨hfirst, hlast⟩ := List.forall_mem_append.mp hconst
    rw [List.filterMap_append, List.filterMap_append, filterMap_consts hblanks,
      List.filterMap_eq_nil_iff.mpr hfirst, List.filterMap_eq_nil_iff.mpr hlast,
      List.nil_append, List.append_nil]
  call := by
    rw [List.filter_append] at hcall
    rw [List.filter_append, List.filter_append, filter_consts hblanks, List.append_nil, hcall]
  address := by
    obtain ⟨line, hline, hwritten⟩ := haddress
    refine ⟨line, ?_, hwritten⟩
    rcases List.mem_append.mp hline with hfirst | hlast
    · exact List.mem_append_left _ (List.mem_append_left _ hfirst)
    · exact List.mem_append_right _ hlast

end

end

/-! ## The body of a resource -/

/-- Both forms of resources open the call and close the address alike. -/
theorem Shape.of_ne_request {shape : Shape} (hshape : shape ≠ .request) :
    shape.call = "return httpResource<" ∧ shape.behindAddress = "," := by
  cases shape with
  | request => exact absurd rfl hshape
  | function => exact ⟨rfl, rfl⟩
  | method => exact ⟨rfl, rfl⟩

namespace Resource

variable (item : Resource)

/-- The lines of the body behind the constants. -/
def answer : List String :=
  ["    return \x7b", "      url: `" ++ item.url ++ "`,"] ++
    (if item.query.isSome then ["      params: " ++ braced "...(params?.() ?? \x7b\x7d)" ++ ","]
      else []) ++
    ["    \x7d;", "  \x7d);"]

/-- The lines of the body but for the brace that closes it. -/
def steps : List String :=
  ["  return httpResource<" ++ item.response ++ ">(() => \x7b"] ++
    item.consts.map (fun const => "    " ++ const.text) ++ item.answer

theorem body_eq : item.body = item.steps ++ ["\x7d"] := by
  simp only [body, steps, answer, List.append_assoc]
  rfl

theorem answer_lines (shape : Shape) : ∀ line ∈ item.answer,
    const? line = none ∧ opensCall shape line = false ∧ signature? line = none ∧
      ∃ rest, line.toList = ' ' :: ' ' :: rest := by
  intro line hline
  simp only [answer, List.mem_append, List.mem_cons, List.not_mem_nil, or_false,
    List.mem_ite_nil_right] at hline
  rcases hline with ((rfl | rfl) | ⟨_, rfl⟩) | rfl | rfl
  · exact ⟨rfl, by cases shape <;> rfl, rfl, _, rfl⟩
  · obtain ⟨rest, hchars⟩ : ∃ rest, ("      url: `" ++ item.url ++ "`,").toList =
        "      url: `".toList ++ rest := by
      rw [String.toList_append, String.toList_append, List.append_assoc]
      exact ⟨_, rfl⟩
    have hunindented : unindented ("      url: `" ++ item.url ++ "`,") =
        "url: `".toList ++ rest := by
      rw [unindented, hchars]
      rfl
    exact ⟨const?_of_head hunindented (by decide), opensCall_of_head hunindented (by decide),
      signature?_append (by decide) _, _, hchars⟩
  · exact ⟨rfl, by cases shape <;> rfl, rfl, _, rfl⟩
  · exact ⟨rfl, by cases shape <;> rfl, rfl, _, rfl⟩
  · exact ⟨rfl, by cases shape <;> rfl, rfl, _, rfl⟩

theorem toList_open : ∃ rest, ("  return httpResource<" ++ item.response ++ ">(() => \x7b").toList =
    "  return httpResource<".toList ++ rest := by
  rw [String.toList_append, String.toList_append, List.append_assoc]
  exact ⟨_, rfl⟩

theorem isBody_steps {shape : Shape} (hshape : shape ≠ .request) :
    IsBody shape item.consts item.url item.steps := by
  obtain ⟨rest, hopen⟩ := item.toList_open
  have hunindented : unindented ("  return httpResource<" ++ item.response ++ ">(() => \x7b") =
      "return httpResource<".toList ++ rest := by
    rw [unindented, hopen]
    rfl
  obtain ⟨hcall, hbehind⟩ := Shape.of_ne_request hshape
  refine isBody_of_consts rfl ?_ ?_ ?_
  · refine List.forall_mem_append.mpr ⟨List.forall_mem_singleton.mpr ?_, ?_⟩
    · exact const?_of_head hunindented (by decide)
    · exact fun line hline => (item.answer_lines shape line hline).1
  · have hopens : opensCall shape ("  return httpResource<" ++ item.response ++ ">(() => \x7b") =
        true := by
      rw [opensCall, hunindented, hcall, List.isPrefixOf_iff_prefix]
      exact List.prefix_append _ _
    have hnone : item.answer.filter (opensCall shape) = [] :=
      List.filter_eq_nil_iff.mpr fun line hline =>
        Bool.not_eq_true _ ▸ (item.answer_lines shape line hline).2.1
    rw [List.filter_append, hnone, List.append_nil, List.filter_cons_of_pos hopens]
    rfl
  · refine ⟨"      url: `" ++ item.url ++ "`,", ?_, "      url: ", ?_⟩
    · simp [answer]
    · rw [hbehind]
      simp only [String.append_assoc]
      rfl

theorem steps_lines : ∀ line ∈ item.steps,
    signature? line = none ∧ ∃ rest, line.toList = ' ' :: ' ' :: rest := by
  obtain ⟨rest, hopen⟩ := item.toList_open
  refine List.forall_mem_append.mpr ⟨List.forall_mem_append.mpr ⟨?_, ?_⟩, ?_⟩
  · refine List.forall_mem_singleton.mpr ⟨signature?_of_toList (fun shape => ?_) ?_, _, hopen⟩ <;>
      rw [hopen] <;> rfl
  · refine List.forall_mem_map.mpr fun const _ => ?_
    have hchars : ("    " ++ const.text).toList = "    ".toList ++ const.text.toList :=
      String.toList_append
    exact ⟨signature?_of_blanks hchars, _, hchars⟩
  · exact fun line hline => (item.answer_lines .function line hline).2.2

end Resource

/-! ## The body of a request -/

namespace Request

variable (item : Request)

/-- The line that opens the call. -/
def callLine : String :=
  "  return this.http.request<" ++ item.response ++ ">('" ++ item.verb ++ "', `" ++ item.url ++
    "`, \x7b"

/-- The lines of the body behind that one. -/
def answer : List String :=
  (if item.body.isSome then ["    body,"] else []) ++
    (if item.query.isSome then ["    params: " ++ braced "...(params ?? \x7b\x7d)" ++ ","]
      else []) ++
    ["  \x7d);"]

/-- The lines of the body but for the brace that closes it. -/
def steps : List String :=
  item.consts.map (fun const => "  " ++ const.text) ++ item.callLine :: item.answer

theorem answer_lines : ∀ line ∈ item.answer, const? line = none ∧
    opensCall .request line = false ∧ ∃ rest, line.toList = ' ' :: ' ' :: rest := by
  intro line hline
  simp only [answer, List.mem_append, List.mem_singleton, List.mem_ite_nil_right] at hline
  rcases hline with (⟨_, rfl⟩ | ⟨_, rfl⟩) | rfl <;> exact ⟨rfl, rfl, _, rfl⟩

theorem toList_callLine : ∃ rest, item.callLine.toList =
    "  return this.http.request<".toList ++ rest := by
  have hline : item.callLine = "  return this.http.request<" ++ (item.response ++ (">('" ++
      (item.verb ++ ("', `" ++ (item.url ++ "`, \x7b"))))) := by
    unfold callLine
    simp only [String.append_assoc]
  rw [hline, String.toList_append]
  exact ⟨_, rfl⟩

theorem isBody_steps : IsBody .request item.consts item.url item.steps := by
  obtain ⟨rest, hcall⟩ := item.toList_callLine
  have hunindented : unindented item.callLine = "return this.http.request<".toList ++ rest := by
    rw [unindented, hcall]
    rfl
  change IsBody _ _ _ ([] ++ item.consts.map (fun const => "  " ++ const.text) ++ _)
  refine isBody_of_consts rfl ?_ ?_ ?_
  · refine List.forall_mem_cons.mpr ⟨const?_of_head hunindented (by decide), ?_⟩
    exact fun line hline => (item.answer_lines line hline).1
  · have hopens : opensCall .request item.callLine = true := by
      rw [opensCall, hunindented, List.isPrefixOf_iff_prefix]
      exact List.prefix_append _ _
    have hnone : item.answer.filter (opensCall .request) = [] :=
      List.filter_eq_nil_iff.mpr fun line hline =>
        Bool.not_eq_true _ ▸ (item.answer_lines line hline).2.1
    rw [List.nil_append, List.filter_cons_of_pos hopens, hnone]
    rfl
  · refine ⟨item.callLine, List.mem_cons_self, "  return this.http.request<" ++ item.response ++
      ">('" ++ item.verb ++ "', ", ?_⟩
    unfold callLine Shape.behindAddress
    simp only [String.append_assoc]
    rfl

theorem steps_lines : ∀ line ∈ item.steps, ∃ rest, line.toList = ' ' :: ' ' :: rest := by
  refine List.forall_mem_append.mpr ⟨List.forall_mem_map.mpr fun const _ => ?_, ?_⟩
  · exact ⟨_, String.toList_append⟩
  · obtain ⟨rest, hcall⟩ := item.toList_callLine
    refine List.forall_mem_cons.mpr ⟨⟨_, hcall⟩, ?_⟩
    exact fun line hline => (item.answer_lines line hline).2.2

end Request

/-! ## Functions -/

theorem signature?_summaryComment {summary : Option String} (blanks : String) :
    ∀ line ∈ summaryComment summary, signature? (blanks ++ line) = none := by
  intro line hline
  unfold summaryComment at hline
  split at hline
  next text =>
    rw [List.mem_ite_nil_left, List.mem_singleton] at hline
    rw [hline.2, ← String.append_assoc]
    exact signature?_append (by decide) _
  next => exact absurd hline List.not_mem_nil

theorem Param.text_eq (param : Param) : param.text = param.declaration := by
  rw [text, declaration]
  cases param.optional <;> simp only [String.append_assoc] <;> rfl

/-- The parameters of a method have commas between them, and one behind the last unless that is the
one of the query parameters. -/
theorem exists_comma (params : List Param) (last : Option Param) :
    ∃ comma ∈ ["", ", "], inlineParams params ++ last.elim "" Param.text =
      ", ".intercalate ((params ++ last.toList).map Param.declaration) ++ comma := by
  induction params with
  | nil =>
      refine ⟨"", List.mem_cons_self, ?_⟩
      cases last with
      | none => rfl
      | some param =>
          simp [inlineParams, Param.text_eq]
  | cons param params ih =>
      have hcons : inlineParams (param :: params) ++ last.elim "" Param.text =
          param.declaration ++ ", " ++ (inlineParams params ++ last.elim "" Param.text) := by
        rw [inlineParams, List.map_cons, String.join_cons, Param.text_eq, String.append_assoc]
        rfl
      rw [hcons, List.cons_append, List.map_cons]
      cases hrest : params ++ last.toList with
      | nil =>
          obtain ⟨rfl, hlast⟩ := List.append_eq_nil_iff.mp hrest
          rw [Option.toList_eq_nil_iff.mp hlast]
          exact ⟨", ", List.mem_cons_of_mem _ List.mem_cons_self, by simp [inlineParams]⟩
      | cons next rest =>
          obtain ⟨comma, hcomma, heq⟩ := ih
          refine ⟨comma, hcomma, ?_⟩
          rw [heq, hrest, List.map_cons, String.intercalate_cons_cons]
          simp only [String.append_assoc]

/-- What stands behind the bracket of a method: parameters, the last of them without a comma, and
the end of the line. -/
def methodRest (params : List Param) (last : Option Param) (result : String) : String :=
  inlineParams params ++ last.elim "" Param.text ++ (")" ++ result)

theorem takes_method {block : Block Signature} (hshape : block.head.shape ≠ .function)
    {params : List Param} {last : Option Param} {result : String}
    (hrest : block.head.rest = methodRest params last result) :
    block.Takes (params ++ last.toList) := by
  obtain ⟨comma, hcomma, heq⟩ := exists_comma params last
  rw [methodRest, heq, ← String.append_assoc] at hrest
  unfold Block.Takes
  split
  next hfunction => exact absurd hfunction hshape
  next => exact ⟨comma, hcomma, result, hrest⟩

/-- A method of a class is its comment, its signature and its body, all of them indented. -/
theorem holds_method {block : Block Signature} {caller : Caller} (hcaller : block.IsFunction caller)
    (hshape : block.head.shape ≠ .function) {comment steps : List String} {line : String}
    (hcomment : ∀ line ∈ comment, signature? ("  " ++ line) = none)
    (hline : signature? ("  " ++ line) = some block.head)
    (hsteps : ∀ line ∈ steps, ∃ rest, line.toList = ' ' :: ' ' :: rest)
    (hinner : block.inner = steps.map ("  " ++ ·)) :
    functionReader.Holds Block.IsFunction
      ("" :: (comment ++ [line] ++ (steps ++ ["\x7d"])).map ("  " ++ ·)) [caller] := by
  have hclose : functionReader.close block.head = "  \x7d" := by
    change block.head.shape.close = "  \x7d"
    unfold Shape.close
    split
    next hfunction => exact absurd hfunction hshape
    next => rfl
  have hblock : functionReader.Holds Block.IsFunction
      (("  " ++ line) :: (steps.map ("  " ++ ·) ++ ["  \x7d"])) [caller] := by
    rw [← hinner]
    refine BlockReader.holds_block hcaller hline hclose ?_ rfl
    rw [hinner]
    refine List.forall_mem_map.mpr fun line hline => ?_
    obtain ⟨later, hlater⟩ := hsteps line hline
    have hchars : ("  " ++ line).toList = ' ' :: ' ' :: ' ' :: ' ' :: later := by
      rw [String.toList_append, hlater]
      rfl
    refine ⟨signature?_of_blanks hchars, fun heq => ?_⟩
    rw [heq] at hchars
    exact absurd hchars (by simp)
  have hopen : functionReader.Holds Block.IsFunction ("" :: comment.map ("  " ++ ·)) [] :=
    BlockReader.holds_nil (List.forall_mem_cons.mpr ⟨rfl, List.forall_mem_map.mpr hcomment⟩)
  simpa using hopen.append hblock

theorem Resource.holds_methodLines {item : Resource}
    (hname : ∀ c ∈ item.name.toList, isWordChar c = true) :
    functionReader.Holds Block.IsFunction item.methodLines [.member (.resource item)] := by
  have hcaller : Block.IsFunction
      ⟨⟨.method, item.name, methodRest item.pathParams (item.queryParam? callType) " \x7b"⟩,
        item.steps.map ("  " ++ ·)⟩ (.member (.resource item)) :=
    { shape := rfl
      name := rfl
      params := takes_method Shape.noConfusion rfl
      body := IsBody.indent (item.isBody_steps Shape.noConfusion) }
  unfold Resource.methodLines
  rw [item.body_eq]
  refine holds_method hcaller Shape.noConfusion (signature?_summaryComment "  ") ?_
    (fun line hline => (item.steps_lines line hline).2) rfl
  have hline (params : String) : item.name ++ "(" ++ inlineParams item.pathParams ++ params ++
      ") \x7b" = item.name ++ "(" ++ (inlineParams item.pathParams ++ params ++ ") \x7b") := by
    simp only [String.append_assoc]
  rw [hline]
  exact signature?_method hname (.inr ⟨rfl, rfl⟩)

namespace Request

variable {item : Request}

/-- What stands behind the bracket of the signature, but for the end of the line. -/
def signatureRest (item : Request) : String :=
  inlineParams (item.pathParams ++ item.body.toList) ++ item.queryParam?.elim "" Param.text ++
    "): Observable<" ++ item.response

theorem signatureRest_eq : item.signatureRest ++ "> \x7b" =
    methodRest (item.pathParams ++ item.body.toList) item.queryParam?
      (": Observable<" ++ item.response ++ "> \x7b") := by
  have hbracket : ")" ++ (": Observable<" ++ (item.response ++ "> \x7b")) =
      "): Observable<" ++ (item.response ++ "> \x7b") := by
    rw [← String.append_assoc]
    rfl
  unfold signatureRest methodRest
  simp only [String.append_assoc, hbracket]

theorem lines_eq : item.lines = "" :: (item.comment ++
    [item.name ++ "(" ++ (item.signatureRest ++ "> \x7b")] ++ (item.steps ++ ["\x7d"])).map
      ("  " ++ ·) := by
  unfold lines steps callLine answer signatureRest
  simp only [List.append_assoc, String.append_assoc, List.nil_append, List.cons_append]

theorem signature?_comment : ∀ line ∈ item.comment, signature? ("  " ++ line) = none := by
  intro line hline
  unfold comment at hline
  split at hline
  next =>
    rw [List.mem_singleton.mp hline]
    rfl
  next => exact signature?_summaryComment "  " line hline

theorem holds_lines (hname : ∀ c ∈ item.name.toList, isWordChar c = true) :
    functionReader.Holds Block.IsFunction item.lines [.member (.request item)] := by
  have hcaller : Block.IsFunction
      ⟨⟨.request, item.name, item.signatureRest ++ "> \x7b"⟩, item.steps.map ("  " ++ ·)⟩
      (.member (.request item)) :=
    { shape := rfl
      name := rfl
      params := takes_method Shape.noConfusion signatureRest_eq
      body := item.isBody_steps.indent }
  rw [lines_eq]
  exact holds_method hcaller Shape.noConfusion signature?_comment
    (signature?_method hname (.inl ⟨rfl, rfl⟩)) item.steps_lines rfl

end Request

theorem ne_of_blank {line other : String} {rest : List Char} (hline : line.toList = ' ' :: rest)
    (hother : other.toList.head? ≠ some ' ') : line ≠ other := by
  rintro rfl
  rw [hline] at hother
  exact hother rfl

namespace Resource

variable (item : Resource)

/-- The lines of the parameters of a resource function. -/
def paramLines : List String :=
  (item.pathParams ++ (item.queryParam? signalType).toList).map fun param =>
    "  " ++ param.text ++ ","

theorem paramLines_lines : ∀ line ∈ item.paramLines,
    signature? line = none ∧ ∃ rest, line.toList = ' ' :: rest := by
  refine List.forall_mem_map.mpr fun param _ => ⟨signature?_append (by decide) _, ?_⟩
  rw [String.append_assoc, String.toList_append]
  exact ⟨_, rfl⟩

theorem isFunction_function : Block.IsFunction
    ⟨⟨.function, item.name, ""⟩, item.paramLines ++ ") \x7b" :: item.steps⟩ (.function item) := by
  have hparams : ∀ line ∈ item.paramLines, decide (line ≠ ") \x7b") = true := by
    intro line hline
    obtain ⟨_, rest, hrest⟩ := item.paramLines_lines line hline
    exact decide_eq_true (ne_of_blank hrest (by decide))
  have hbody : ((item.paramLines ++ ") \x7b" :: item.steps).dropWhile
      fun line => decide (line ≠ ") \x7b")).tail = item.steps := by
    rw [List.dropWhile_append_of_pos hparams, List.dropWhile_cons_of_neg (by simp), List.tail_cons]
  have htakes : (item.paramLines ++ ") \x7b" :: item.steps).takeWhile
      (fun line => decide (line ≠ ") \x7b")) =
        (item.pathParams ++ (item.queryParam? signalType).toList).map fun param =>
          "  " ++ param.declaration ++ "," := by
    rw [List.takeWhile_append_of_pos hparams, List.takeWhile_cons_of_neg (by simp),
      List.append_nil, paramLines]
    exact List.map_congr_left fun param _ => by rw [Param.text_eq]
  have hsteps : IsBody .function item.consts item.url item.steps :=
    item.isBody_steps Shape.noConfusion
  exact
    { shape := rfl
      name := rfl
      params := htakes
      body := by
        change IsBody .function item.consts item.url (List.tail _)
        rw [hbody]
        exact hsteps }

theorem holds_functionLines :
    functionReader.Holds Block.IsFunction item.functionLines [.function item] := by
  have hinner : ∀ line ∈ item.paramLines ++ ") \x7b" :: item.steps,
      signature? line = none ∧ line ≠ "\x7d" := by
    refine List.forall_mem_append.mpr ⟨?_, List.forall_mem_cons.mpr ⟨⟨rfl, by decide⟩, ?_⟩⟩
    · intro line hline
      obtain ⟨hnone, rest, hrest⟩ := item.paramLines_lines line hline
      exact ⟨hnone, ne_of_blank hrest (by decide)⟩
    · intro line hline
      obtain ⟨hnone, rest, hrest⟩ := item.steps_lines line hline
      exact ⟨hnone, ne_of_blank hrest (by decide)⟩
  have hcomment : ∀ line ∈ summaryComment item.summary, signature? line = none := by
    intro line hline
    have hnone := signature?_summaryComment "" line hline
    rwa [String.empty_append] at hnone
  have hopen : functionReader.Holds Block.IsFunction ("" :: summaryComment item.summary) [] :=
    BlockReader.holds_nil (List.forall_mem_cons.mpr ⟨rfl, hcomment⟩)
  have hblock : functionReader.Holds Block.IsFunction
      (("export function " ++ item.name ++ "(") ::
        (item.paramLines ++ ") \x7b" :: item.steps ++ ["\x7d"])) [.function item] :=
    BlockReader.holds_block item.isFunction_function (signature?_function item.name) rfl hinner rfl
  unfold functionLines
  rw [item.body_eq]
  simpa [paramLines] using hopen.append hblock

end Resource

end ClientPlan.Code
