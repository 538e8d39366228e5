import ClientPlan.Yaml.Block
import ClientPlan.Yaml.Plain
import ClientPlan.Yaml.Quoted
import ClientPlan.Yaml.Token

/-! # Layout

A text is cut into tokens. Indentation opens and closes blocks, and a token that a colon follows on
the same line turns out to be a key: then the mark of the key, and of the mapping that it opens,
come before that token. -/

namespace ClientPlan.Yaml

/-- A place that may turn out to hold a key. -/
structure KeyCandidate where
  /-- The number of the token that would be the key. -/
  place : Nat
  position : Position
  /-- Without a colon, the text is malformed. -/
  required : Bool
  deriving Inhabited, Repr

/-- How far the text has been cut. -/
structure Layout where
  cursor : Cursor
  tokens : Array Token := #[]
  /-- The candidate of each level of brackets, the innermost first; the last level is outside of all
  brackets. -/
  candidates : List (Option KeyCandidate) := [none]
  /-- The columns of the open blocks, the innermost first. -/
  columns : List Nat := []
  /-- Whether a key may begin at this place. -/
  keyAllowed : Bool := true
  deriving Inhabited

namespace Layout

/-- Whether the place is inside brackets. -/
def inFlow (layout : Layout) : Bool :=
  match layout.candidates with
  | _ :: _ :: _ => true
  | _ => false

/-- Passes over white space and comments. -/
def toToken (layout : Layout) : Layout :=
  let isSpace := fun c =>
    c = ' ' || (c = '\t' && (layout.inFlow || !layout.keyAllowed))
  let cursor := (layout.cursor.skipWhile isSpace).skipComment
  match _h : cursor.lineBreak? with
  | some (_, next) =>
    toToken { layout with cursor := next, keyAllowed := layout.keyAllowed || !layout.inFlow }
  | none => { layout with cursor := cursor }
  termination_by layout.cursor.size
  decreasing_by
    have hnext := Cursor.size_lt_of_lineBreak? _h
    have hcomment := Cursor.size_skipComment_le (layout.cursor.skipWhile isSpace)
    have hspace := Cursor.size_skipWhile_le layout.cursor isSpace
    simp only [cursor] at hnext
    omega

/-- A candidate is given up on another line, or after more than 1024 characters; one that is
required may not be. -/
def expire? (position : Position) : Option KeyCandidate → Option (Option KeyCandidate)
  | none => some none
  | some found =>
    if found.position.line < position.line || found.position.index + 1024 < position.index then
      if found.required then none else some none
    else some (some found)

/-- Gives up the candidates that are too far away. -/
def expireAll? (layout : Layout) : Option Layout :=
  (layout.candidates.mapM (expire? layout.cursor.position)).map fun candidates =>
    { layout with candidates := candidates }

/-- Gives up the candidate of the innermost level. -/
def dropCandidate? (layout : Layout) : Option Layout :=
  match layout.candidates with
  | some found :: outer =>
    if found.required then none else some { layout with candidates := none :: outer }
  | _ => some layout

/-- Makes the next token a candidate, where a key may begin. -/
def noteCandidate? (layout : Layout) : Option Layout :=
  if layout.keyAllowed then do
    let layout ← layout.dropCandidate?
    let position := layout.cursor.position
    let found := {
      place := layout.tokens.size
      position := position
      required := !layout.inFlow && layout.columns.head? = some position.column }
    return { layout with candidates := some found :: layout.candidates.drop 1 }
  else some layout

/-- Opens a block at a column, unless one is open there or to the right. Its mark becomes the token
of the given number. -/
def openBlock (layout : Layout) (column place : Nat) (mark : Token) : Layout :=
  if layout.inFlow || layout.columns.head?.any (column ≤ ·) then layout
  else
    { layout with
      columns := column :: layout.columns
      tokens := layout.tokens.insertIdxIfInBounds place mark }

/-- Closes the blocks for whose columns `p` holds, from the innermost on. -/
def closeWhile (layout : Layout) (p : Nat → Bool) : Layout :=
  if layout.inFlow then layout
  else
    let closed := (layout.columns.takeWhile p).length
    { layout with
      columns := layout.columns.drop closed
      tokens := layout.tokens ++ Array.replicate closed Token.blockEnd }

/-- Adds a token and goes to the place after it. -/
def add (layout : Layout) (token : Token) (cursor : Cursor) : Layout :=
  { layout with tokens := layout.tokens.push token, cursor := cursor }

/-- Adds a token of the given width. -/
def addMark (layout : Layout) (token : Token) (width : Nat) : Layout :=
  layout.add token (layout.cursor.skip width)

/-- Tells whether a key may begin next. -/
def allowKey (layout : Layout) (allowed : Bool) : Layout :=
  { layout with keyAllowed := allowed }

/-- Closes all blocks, as before a directive or the mark of a document. -/
def closeAll? (layout : Layout) : Option Layout :=
  ((layout.closeWhile fun _ => true).allowKey false).dropCandidate?

/-- Reads the mark of the start or the end of a document. -/
def marker? (layout : Layout) (token : Token) : Option Layout :=
  layout.closeAll?.map (·.addMark token 3)

/-- Reads a directive. -/
def directive? (layout : Layout) : Option Layout := do
  let layout ← layout.closeAll?
  let (token, next) ← layout.cursor.directive?
  return layout.add token next

/-- Reads an opening bracket. -/
def openBracket? (layout : Layout) (token : Token) : Option Layout := do
  let layout ← layout.noteCandidate?
  return ({ layout with candidates := none :: layout.candidates }.allowKey true).addMark token 1

/-- Reads a closing bracket. -/
def closeBracket? (layout : Layout) (token : Token) : Option Layout := do
  let layout ← layout.dropCandidate?
  let candidates := if layout.inFlow then layout.candidates.drop 1 else layout.candidates
  return ({ layout with candidates := candidates }.allowKey false).addMark token 1

/-- Reads a comma inside brackets. -/
def flowEntry? (layout : Layout) : Option Layout :=
  layout.dropCandidate?.map fun layout => (layout.allowKey true).addMark .flowEntry 1

/-- Opens a block with the given mark at this place, where a key may begin. -/
def beginBlock? (layout : Layout) (mark : Token) : Option Layout :=
  if layout.inFlow then some layout
  else if layout.keyAllowed then
    some (layout.openBlock layout.cursor.column layout.tokens.size mark)
  else none

/-- Reads the dash of an entry. -/
def blockEntry? (layout : Layout) : Option Layout := do
  let layout ← layout.beginBlock? .blockListStart
  let layout ← layout.dropCandidate?
  return (layout.allowKey true).addMark .blockEntry 1

/-- Reads the question mark of a key. -/
def key? (layout : Layout) : Option Layout := do
  let layout ← layout.beginBlock? .blockMappingStart
  let layout ← layout.dropCandidate?
  return (layout.allowKey (!layout.inFlow)).addMark .key 1

/-- Reads the colon of a value. The candidate of the level, if there is one, becomes the key. -/
def value? (layout : Layout) : Option Layout :=
  match layout.candidates with
  | some found :: outer =>
    let layout := { layout with
      candidates := none :: outer
      tokens := layout.tokens.insertIdxIfInBounds found.place .key }
    let layout := layout.openBlock found.position.column found.place .blockMappingStart
    some ((layout.allowKey false).addMark .value 1)
  | _ => do
    let layout ← layout.beginBlock? .blockMappingStart
    return (layout.allowKey (!layout.inFlow)).addMark .value 1

/-- Reads the name after the indicator of an anchor or an alias. -/
def name? (layout : Layout) (token : String → Token) : Option Layout := do
  let layout ← layout.noteCandidate?
  let (name, next) ← (layout.cursor.skip 1).name?
  return (layout.allowKey false).add (token name) next

/-- Reads a tag. -/
def tag? (layout : Layout) : Option Layout := do
  let layout ← layout.noteCandidate?
  let (token, next) ← layout.cursor.tag? layout.inFlow
  return (layout.allowKey false).add token next

/-- Reads a block scalar. -/
def blockScalar? (layout : Layout) : Option Layout := do
  let layout ← layout.dropCandidate?
  let (text, next) ← block? layout.columns.head? layout.cursor
  let style := if layout.cursor.next? = some '|' then .literal else .quoted
  return (layout.allowKey true).add (.scalar (String.ofList text) style) next

/-- Reads a scalar in quotes. -/
def quotedScalar? (layout : Layout) (quote : Char) : Option Layout := do
  let layout ← layout.noteCandidate?
  let (text, next) ← quoted? quote layout.cursor
  return (layout.allowKey false).add (.scalar (String.ofList text) .quoted) next

/-- Reads a plain scalar. -/
def plainScalar? (layout : Layout) : Option Layout := do
  let layout ← layout.noteCandidate?
  let indent := layout.columns.head?.elim 0 (· + 1)
  let (text, next, afterBreak) ← plain? layout.inFlow indent layout.cursor
  return (layout.allowKey afterBreak).add (.scalar (String.ofList text) .plain) next

/-- Whether a plain scalar may begin with a character before the given text. -/
def beginsPlain (inFlow : Bool) (c : Char) (rest : List Char) : Bool :=
  if c = '-' then !rest.head?.any isBlank
  else if c = '?' || c = ':' then !inFlow && !endsWord rest
  else !(isBlank c || isBreak c || ",[]#&*!|>'\"%@`".toList.contains c || c = '{' || c = '}')

/-- Reads the token at this place, which begins with the given character. -/
def token? (layout : Layout) (c : Char) (rest : List Char) : Option Layout :=
  if layout.cursor.column = 0 && c = '%' then layout.directive?
  else if layout.cursor.atMarker then
    layout.marker? (if c = '-' then .documentStart else .documentEnd)
  else if c = '[' then layout.openBracket? .flowListStart
  else if c = '{' then layout.openBracket? .flowMappingStart
  else if c = ']' then layout.closeBracket? .flowListEnd
  else if c = '}' then layout.closeBracket? .flowMappingEnd
  else if c = ',' then layout.flowEntry?
  else if c = '-' && endsWord rest then layout.blockEntry?
  else if c = '?' && (layout.inFlow || endsWord rest) then layout.key?
  else if c = ':' && (layout.inFlow || endsWord rest) then layout.value?
  else if c = '*' then layout.name? .alias
  else if c = '&' then layout.name? .anchor
  else if c = '!' then layout.tag?
  else if (c = '|' || c = '>') && !layout.inFlow then layout.blockScalar?
  else if c = '\'' || c = '"' then layout.quotedScalar? c
  else if beginsPlain layout.inFlow c rest then layout.plainScalar?
  else none

/-- Cuts the rest of the text into tokens; each step passes over a character at least. -/
def run? : Nat → Layout → Option (Array Token)
  | 0, _ => none
  | fuel + 1, layout => do
    let layout ← layout.toToken.expireAll?
    match layout.cursor.rest with
    | [] => layout.closeAll?.map Layout.tokens
    | c :: rest =>
      let layout ← (layout.closeWhile (layout.cursor.column < ·)).token? c rest
      layout.run? fuel

end Layout

/-- A place at the start of a text. A byte order mark takes a column. -/
def Cursor.start (text : List Char) : Cursor :=
  let cursor : Cursor := { rest := text }
  if text.head? = some '\uFEFF' then cursor.skip 1 else cursor

/-- The tokens of a text, none where the text is malformed. -/
def tokens? (text : List Char) : Option (Array Token) :=
  if text.all isAllowed then Layout.run? (text.length + 1) { cursor := Cursor.start text }
  else none

end ClientPlan.Yaml
