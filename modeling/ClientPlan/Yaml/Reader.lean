import ClientPlan.Yaml.Layout

/-! # Reading YAML

The tokens of a text are assembled into a node. A text holds one document at most; a text without
any is an empty scalar. -/

namespace ClientPlan.Yaml

open Source

/-- A collection that is being read, its elements the latest first. -/
inductive Frame where
  | blockList (items : List Node)
  /-- A list of entries that are not indented more than the key before them. -/
  | bareList (items : List Node)
  | blockMapping (members : List (Node × Node))
  /-- A block mapping after one of its keys. -/
  | blockMember (members : List (Node × Node)) (key : Node)
  | flowList (items : List Node)
  /-- A mapping in braces; `marked` tells that the key to come is marked as one. -/
  | flowMapping (members : List (Node × Node)) (marked : Bool)
  /-- A mapping in braces after one of its keys. -/
  | flowMember (members : List (Node × Node)) (key : Node) (marked : Bool)
  /-- A pair that is an item of a list in brackets. -/
  | pair
  | pairMember (key : Node)
  | pairEnd (key value : Node)
  deriving Inhabited

/-- What stands before a node: the number of its anchor, and whether it has a tag of the text's
own. -/
structure Label where
  anchor : Option Nat := none
  tagged : Bool := false
  deriving Inhabited

/-- Where a node may be a block, and where its entries need no indentation of their own. -/
inductive Placement where
  | flow
  | block
  | blockOrBare
  deriving DecidableEq, Inhabited

/-- What is read next: a node, more of the innermost collection, or nothing. -/
inductive Wanted where
  | node (placement : Placement)
  | more
  | nothing (root : Node)
  deriving Inhabited

/-- What has been read. -/
structure Assembly where
  /-- The collections that are being read, the innermost first. -/
  frames : List (Frame × Label) := []
  /-- The number of each anchor's name; later entries come first. -/
  names : List (String × Nat) := []
  /-- The anchored nodes, each with the number of its name, in the order in which they begin. -/
  anchored : Array (Nat × Node) := #[]
  /-- What the handles of tags stand for. -/
  handles : List (String × String) := []
  wanted : Wanted
  deriving Inhabited

/-- A scalar without a text. -/
def emptyNode : Node :=
  .scalar { text := "", style := .plain }

/-- A key and the values of a mapping in order. -/
def closedMapping (members : List (Node × Node)) : Node :=
  .mapping members.reverse true

namespace Assembly

/-- Finishes a node: notes what its anchor stands for, and marks it where it has a tag. -/
def finish (assembly : Assembly) (label : Label) (node : Node) : Assembly × Node :=
  let node := if label.tagged then .tagged node else node
  match label.anchor with
  | some place =>
    ({ assembly with
        anchored := assembly.anchored.modify place fun entry => (entry.1, node) }, node)
  | none => (assembly, node)

/-- The frame with one more node. -/
def extend (node : Node) : Frame → Frame
  | .blockList items => .blockList (node :: items)
  | .bareList items => .bareList (node :: items)
  | .blockMapping members => .blockMember members node
  | .blockMember members key => .blockMapping ((key, node) :: members)
  | .flowList items => .flowList (node :: items)
  | .flowMapping members marked => .flowMember members node marked
  | .flowMember members key _ => .flowMapping ((key, node) :: members) false
  | .pair => .pairMember node
  | .pairMember key => .pairEnd key node
  | .pairEnd key value => .pairEnd key value

/-- Puts a node into the innermost collection. -/
def put (assembly : Assembly) (node : Node) : Assembly :=
  match assembly.frames with
  | [] => { assembly with wanted := .nothing node }
  | (frame, label) :: outer =>
    { assembly with frames := (extend node frame, label) :: outer, wanted := .more }

/-- Puts a finished node with its label into the innermost collection. -/
def putLabelled (assembly : Assembly) (label : Label) (node : Node) : Assembly :=
  let (assembly, node) := assembly.finish label node
  assembly.put node

/-- Begins a collection. -/
def push (assembly : Assembly) (frame : Frame) (label : Label) : Assembly :=
  { assembly with frames := (frame, label) :: assembly.frames, wanted := .more }

/-- Closes the innermost collection, which is the given node. -/
def close (assembly : Assembly) (node : Node) : Assembly :=
  match assembly.frames with
  | [] => assembly.put node
  | (_, label) :: outer => { assembly with frames := outer }.putLabelled label node

/-- Replaces the innermost collection. -/
def replace (assembly : Assembly) (frame : Frame) : Assembly :=
  match assembly.frames with
  | [] => assembly
  | (_, label) :: outer => { assembly with frames := (frame, label) :: outer }

/-- Wants a node unless one of the given tokens comes next, which leave it empty. -/
def wantUnless (assembly : Assembly) (placement : Placement) (ends : List Token)
    (tokens : List Token) : Assembly × List Token :=
  if tokens.head?.any ends.contains then (assembly.put emptyNode, tokens)
  else ({ assembly with wanted := .node placement }, tokens)

/-- The number for one more anchor. It counts the names so far, so that a name that occurs again
may share its number with the next new one. -/
def declare (assembly : Assembly) (name : Option String) : Assembly × Option Nat :=
  match name with
  | none => (assembly, none)
  | some name =>
    let number := (assembly.names.map Prod.fst).eraseDups.length
    ({ assembly with
        names := (name, number) :: assembly.names
        anchored := assembly.anchored.push (number, .unreadable) },
      some assembly.anchored.size)

/-- What the handle of a tag stands for. -/
def handle? (assembly : Assembly) (handle : String) : Option String :=
  assembly.handles.lookup handle <|>
    [("!", "!"), ("!!", "tag:yaml.org,2002:")].lookup handle

/-- The full tag. -/
def fullTag? (assembly : Assembly) (handle suffix : String) : Option String :=
  if handle.isEmpty then some suffix else (assembly.handle? handle).map (· ++ suffix)

end Assembly

/-- The anchor and the tag before a node, in either order, and the tokens after them. -/
def properties : List Token → Option String × Option (String × String) × List Token
  | .anchor name :: .tag handle suffix :: rest => (some name, some (handle, suffix), rest)
  | .anchor name :: rest => (some name, none, rest)
  | .tag handle suffix :: .anchor name :: rest => (some name, some (handle, suffix), rest)
  | .tag handle suffix :: rest => (none, some (handle, suffix), rest)
  | tokens => (none, none, tokens)

/-- Whether a tag is one of the text's own. -/
def isOwnTag (tag : Option String) : Bool :=
  tag.any fun tag => tag.toList.head? = some '!'

/-- The type that a full tag gives to a scalar. -/
def scalarTag (tag : String) : ScalarTag :=
  match tag with
  | "tag:yaml.org,2002:null" => .null
  | "tag:yaml.org,2002:bool" => .bool
  | "tag:yaml.org,2002:int" => .int
  | "tag:yaml.org,2002:float" => .float
  | _ => .other

/-- A scalar under a tag. A single exclamation mark is no tag of a scalar. -/
def scalarNode (text : String) (style : ScalarStyle) (tag : Option String) : Node :=
  match tag with
  | none => .scalar { text, style }
  | some "!" => .scalar { text, style }
  | some tag =>
    if isOwnTag (some tag) then .tagged (.scalar { text, style })
    else .scalar { text, style, tag := some (scalarTag tag) }

/-- Reads a node, or the beginning of a collection. -/
def readNode (assembly : Assembly) (placement : Placement) (tokens : List Token) :
    Option (Assembly × List Token) :=
  match tokens with
  | .alias name :: rest => (assembly.names.lookup name).map fun number =>
      (assembly.put (.alias number), rest)
  | _ => do
    let (anchor, tag, rest) := properties tokens
    let tag ←
      match tag with
      | none => some none
      | some (handle, suffix) => (assembly.fullTag? handle suffix).map some
    let (assembly, number) := assembly.declare anchor
    let label : Label := ⟨number, isOwnTag tag⟩
    match rest, placement with
    | .blockEntry :: _, .blockOrBare => return (assembly.push (.bareList []) label, rest)
    | .scalar text style :: rest, _ =>
      return (assembly.putLabelled ⟨number, false⟩ (scalarNode text style tag), rest)
    | .flowListStart :: rest, _ => return (assembly.push (.flowList []) label, rest)
    | .flowMappingStart :: rest, _ => return (assembly.push (.flowMapping [] false) label, rest)
    | rest, placement =>
      match rest, placement == .flow with
      | .blockListStart :: rest, false => return (assembly.push (.blockList []) label, rest)
      | .blockMappingStart :: rest, false =>
        return (assembly.push (.blockMapping []) label, rest)
      | _, _ =>
        if anchor.isNone && tag.isNone then none
        else if tag = some "!" then return (assembly.putLabelled label emptyNode, rest)
        else return (assembly.putLabelled ⟨number, false⟩ (scalarNode "" .plain tag), rest)

/-- The tokens after the comma that must stand between two elements in brackets. -/
def afterComma? (first : Bool) (last : Token) (tokens : List Token) : Option (List Token) :=
  if first || tokens.head? = some last then some tokens
  else
    match tokens with
    | .flowEntry :: rest => some rest
    | _ => none

/-- Goes on with a list in brackets. -/
def readFlowItem (assembly : Assembly) (items : List Node) (tokens : List Token) :
    Option (Assembly × List Token) := do
  match ← afterComma? items.isEmpty .flowListEnd tokens with
  | .key :: rest => return (assembly.push .pair {}, rest)
  | .flowListEnd :: rest => return (assembly.close (.list items.reverse true), rest)
  | rest => return ({ assembly with wanted := .node .flow }, rest)

/-- Goes on with a mapping in braces. -/
def readFlowKey (assembly : Assembly) (members : List (Node × Node)) (tokens : List Token) :
    Option (Assembly × List Token) := do
  match ← afterComma? members.isEmpty .flowMappingEnd tokens with
  | .key :: rest =>
    return (assembly.replace (.flowMapping members true)).wantUnless .flow
      [.value, .flowEntry, .flowMappingEnd] rest
  | .flowMappingEnd :: rest => return (assembly.close (closedMapping members), rest)
  | rest => return ({ assembly with wanted := .node .flow }, rest)

/-- Goes on with the innermost collection. -/
def readMore (assembly : Assembly) (frame : Frame) (tokens : List Token) :
    Option (Assembly × List Token) :=
  match frame, tokens with
  | .blockList _, .blockEntry :: rest =>
    some (assembly.wantUnless .block [.blockEntry, .blockEnd] rest)
  | .blockList items, .blockEnd :: rest => some (assembly.close (.list items.reverse true), rest)
  | .blockList _, _ => none
  | .bareList _, .blockEntry :: rest =>
    some (assembly.wantUnless .block [.blockEntry, .key, .value, .blockEnd] rest)
  | .bareList items, rest => some (assembly.close (.list items.reverse true), rest)
  | .blockMapping _, .key :: rest =>
    some (assembly.wantUnless .blockOrBare [.key, .value, .blockEnd] rest)
  | .blockMapping members, .blockEnd :: rest =>
    some (assembly.close (closedMapping members), rest)
  | .blockMapping _, _ => none
  | .blockMember _ _, .value :: rest =>
    some (assembly.wantUnless .blockOrBare [.key, .value, .blockEnd] rest)
  | .blockMember _ _, rest => some (assembly.put emptyNode, rest)
  | .flowList items, rest => readFlowItem assembly items rest
  | .flowMapping members _, rest => readFlowKey assembly members rest
  | .flowMember _ _ true, .value :: rest =>
    some (assembly.wantUnless .flow [.flowEntry, .flowMappingEnd] rest)
  | .flowMember _ _ _, rest => some (assembly.put emptyNode, rest)
  | .pair, token :: rest =>
    if [Token.value, .flowEntry, .flowListEnd].contains token then
      some (assembly.put emptyNode, rest)
    else some ({ assembly with wanted := .node .flow }, token :: rest)
  | .pair, [] => none
  | .pairMember _, .value :: rest =>
    some (assembly.wantUnless .flow [.flowEntry, .flowListEnd] rest)
  | .pairMember _, rest => some (assembly.put emptyNode, rest)
  | .pairEnd key value, rest => some (assembly.close (.mapping [(key, value)] true), rest)

/-- Assembles a node; what is left are the tokens after it. -/
def assemble? : Nat → Assembly → List Token → Option (Assembly × Node × List Token)
  | 0, _, _ => none
  | fuel + 1, assembly, tokens =>
    match assembly.wanted with
    | .nothing root => some (assembly, root, tokens)
    | .node placement => do
      let (assembly, rest) ← readNode assembly placement tokens
      assemble? fuel assembly rest
    | .more =>
      match assembly.frames with
      | [] => none
      | (frame, _) :: _ => do
        let (assembly, rest) ← readMore assembly frame tokens
        assemble? fuel assembly rest

/-- The handles that the directives at the start of some tokens declare, and the tokens after the
directives. A version is declared once at most, and so is each handle. -/
def directives? (versioned : Bool) (handles : List (String × String)) :
    List Token → Option (List (String × String) × List Token)
  | .version major minor :: rest =>
    if versioned || major ≠ 1 || (minor ≠ 1 && minor ≠ 2) then none
    else directives? true handles rest
  | .tagHandle handle expansion :: rest =>
    if (handles.lookup handle).isSome then none
    else directives? versioned ((handle, expansion) :: handles) rest
  | rest => some (handles, rest)

/-- Whether a token cannot belong to the content of a document. -/
def endsDocument : Token → Bool
  | .version _ _ => true
  | .tagHandle _ _ => true
  | .documentStart => true
  | .documentEnd => true
  | _ => false

/-- What is read of a document that begins with the given tokens, and the tokens of its content. -/
def beginDocument? (tokens : List Token) : Option (Assembly × List Token) := do
  let (handles, rest) ← directives? false [] tokens
  match rest with
  | .documentStart :: rest =>
    let wanted : Wanted :=
      if rest.head?.all endsDocument then .nothing emptyNode else .node .block
    return ({ handles := handles, wanted := wanted }, rest)
  | _ =>
    if tokens.isEmpty then return ({ wanted := .nothing emptyNode }, [])
    else if tokens.head?.any endsDocument then none
    else return ({ wanted := .node .block }, rest)

/-- The nodes that the numbers of anchors stand for. Of several nodes under one number, the last to
begin counts. -/
def Assembly.anchors (assembly : Assembly) : Array Node :=
  assembly.anchored.foldl (fun anchors entry => anchors.set! entry.1 entry.2)
    (Array.replicate assembly.anchored.size .unreadable)

/-- The node that a text holds, and the nodes that its aliases stand for. -/
def read? (text : List Char) : Option (Node × Array Node) := do
  let tokens := (← tokens? text).toList
  let (assembly, rest) ← beginDocument? tokens
  let (assembly, root, rest) ← assemble? (6 * tokens.length + 6) assembly rest
  if rest.all (· = .documentEnd) then return (root, assembly.anchors) else none

end ClientPlan.Yaml
