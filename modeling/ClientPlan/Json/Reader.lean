import ClientPlan.Json.Token

/-! # Reading JSON

The tokens of a text are assembled into a node. Where the text is no JSON any more, everything
that is still open stays open, and what was read up to there is kept. -/

namespace ClientPlan.Json

open Source

/-- A list or an object that is being read, its elements the latest first. -/
inductive Frame where
  | list (items : List Node)
  | mapping (members : List (Node × Node))
  /-- An object after one of its keys. -/
  | member (members : List (Node × Node)) (key : Node)

/-- What may come next. -/
inductive Expected where
  | value
  /-- A value, or the end of a list just begun. -/
  | valueOrEnd
  | key
  /-- A key, or the end of an object just begun. -/
  | keyOrEnd
  | colon
  /-- A comma, or the end of the innermost list or object. -/
  | commaOrEnd
  /-- Nothing. -/
  | nothing
  deriving DecidableEq

/-- What has been read: the open lists and objects, the innermost first, the finished top value,
and what may come next. -/
structure Reading where
  frames : List Frame := []
  top : Option Node := none
  expected : Expected := .value

/-- Puts a finished value into the innermost open list or object. -/
def Reading.put (reading : Reading) (node : Node) : Reading :=
  match reading.frames with
  | [] => ⟨[], some node, .nothing⟩
  | .list items :: frames => ⟨.list (node :: items) :: frames, none, .commaOrEnd⟩
  | .mapping members :: frames => ⟨.mapping members :: frames, none, .commaOrEnd⟩
  | .member members key :: frames =>
    ⟨.mapping ((key, node) :: members) :: frames, none, .commaOrEnd⟩

/-- The innermost open list or object as a node, with a key that waits for its value. -/
def Frame.node (closed : Bool) : Frame → Node
  | .list items => .list items.reverse closed
  | .mapping members => .mapping members.reverse closed
  | .member members key => .mapping ((key, .unreadable) :: members).reverse closed

/-- Closes the innermost open list or object. -/
def Reading.close (reading : Reading) : Option Reading :=
  match reading.frames with
  | frame :: frames => some (Reading.put ⟨frames, none, .nothing⟩ (frame.node true))
  | [] => none

/-- Begins a member of the innermost open object with its key. -/
def Reading.beginMember (reading : Reading) (key : Node) : Option Reading :=
  match reading.frames with
  | .mapping members :: frames => some ⟨.member members key :: frames, none, .colon⟩
  | _ => none

/-- The node of a string that may be impossible to keep. -/
def stringNode (value : Option String) : Node :=
  (value.map Node.text).getD .unreadable

/-- Reads one token, unless it may not come next. -/
def Reading.step (reading : Reading) (token : Token) : Option Reading :=
  match reading.expected, token with
  | .value, .leaf node => some (reading.put node)
  | .valueOrEnd, .leaf node => some (reading.put node)
  | .value, .string value => some (reading.put (stringNode value))
  | .valueOrEnd, .string value => some (reading.put (stringNode value))
  | .value, .beginList => some ⟨.list [] :: reading.frames, none, .valueOrEnd⟩
  | .valueOrEnd, .beginList => some ⟨.list [] :: reading.frames, none, .valueOrEnd⟩
  | .value, .beginObject => some ⟨.mapping [] :: reading.frames, none, .keyOrEnd⟩
  | .valueOrEnd, .beginObject => some ⟨.mapping [] :: reading.frames, none, .keyOrEnd⟩
  | .key, .string value => reading.beginMember (stringNode value)
  | .keyOrEnd, .string value => reading.beginMember (stringNode value)
  | .colon, .colon => some { reading with expected := .value }
  | .valueOrEnd, .endList => reading.close
  | .keyOrEnd, .endObject => reading.close
  | .commaOrEnd, .comma =>
    match reading.frames with
    | .list _ :: _ => some { reading with expected := .value }
    | _ :: _ => some { reading with expected := .key }
    | [] => none
  | .commaOrEnd, .endList =>
    match reading.frames with
    | .list _ :: _ => reading.close
    | _ => none
  | .commaOrEnd, .endObject =>
    match reading.frames with
    | .mapping _ :: _ => reading.close
    | _ => none
  | _, _ => none

/-- Reads tokens until one may not come next, and tells whether all were read. -/
def Reading.run (reading : Reading) : List Token → Reading × Bool
  | [] => (reading, true)
  | token :: rest =>
    match reading.step token with
    | some next => next.run rest
    | none => (reading, false)

/-- The node read so far, with every open list and object left open. -/
def Reading.node (reading : Reading) : Node :=
  match reading.top, reading.frames with
  | some node, _ => node
  | none, [] => .unreadable
  | none, frame :: frames =>
    frames.foldl (fun inner outer =>
      match outer with
      | .list items => .list (inner :: items).reverse false
      | .mapping members => .mapping members.reverse false
      | .member members key => .mapping ((key, inner) :: members).reverse false)
      (frame.node false)

/-- The node that a text holds, and whether the text holds nothing else. -/
def read (text : List Char) : Node × Bool :=
  let (tokens, complete) := tokens text
  let (reading, all) := Reading.run {} tokens
  (reading.node, complete && all)

end ClientPlan.Json
