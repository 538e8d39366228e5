import ClientPlan.Client.Parameter
import ClientPlan.PathTemplate.Placeholder

/-! # Path templates

The body of a template literal: the literal text of a raw path, with each placeholder replaced by
the interpolation of a variable. -/

namespace ClientPlan

open Text

/-- A piece of a path template: a character or an interpolated variable. -/
inductive PathTemplate.Piece where
  | literal (c : Char)
  | hole (variableName : String)
  deriving DecidableEq, Repr

/-- A path template, and the placeholders whose names were copied because nothing answers to
them. -/
structure PathTemplate where
  pieces : List PathTemplate.Piece
  unresolved : List String
  deriving DecidableEq, Repr

namespace PathTemplate

universe u

/-- A piece as it is written in the literal. -/
def Piece.chars : Piece → List Char
  | literal c => [c]
  | hole name => '$' :: '{' :: name.toList ++ ['}']

/-- The text of the template literal. -/
def text (template : PathTemplate) : String :=
  String.ofList (template.pieces.flatMap Piece.chars)

/-- The names of the placeholders, in order. -/
def placeholderNames (segments : List Segment) : List String :=
  segments.filterMap fun
    | .literal _ => none
    | .placeholder found => some found.name

/-- The piece that a segment becomes; a name without an answer stands for itself. -/
def pieceOf (resolve : String → Option String) : Segment → Piece
  | .literal c => .literal c
  | .placeholder found => .hole ((resolve found.name).getD found.name)

/-- Rewrites the placeholders of a raw path by the answers of `resolve`. -/
def rewrite (raw : String) (resolve : String → Option String) : PathTemplate :=
  let found := segments raw.toList
  { pieces := found.map (pieceOf resolve)
    unresolved := (placeholderNames found).filter fun name => (resolve name).isNone }

/-- Rewrites segments by a resolver with effects, which is asked once for each placeholder. -/
def rewriteSegmentsM {m : Type → Type u} [Monad m] (resolve : String → m (Option String)) :
    List Segment → m PathTemplate
  | [] => pure ⟨[], []⟩
  | .literal c :: rest => do
    let later ← rewriteSegmentsM resolve rest
    pure { later with pieces := .literal c :: later.pieces }
  | .placeholder found :: rest => do
    let answer ← resolve found.name
    let later ← rewriteSegmentsM resolve rest
    pure { pieces := .hole (answer.getD found.name) :: later.pieces
           unresolved :=
             if answer.isNone then found.name :: later.unresolved else later.unresolved }

/-- Rewrites the placeholders of a raw path by a resolver with effects, from left to right. -/
def rewriteM {m : Type → Type u} [Monad m] (raw : String) (resolve : String → m (Option String)) :
    m PathTemplate :=
  rewriteSegmentsM resolve (segments raw.toList)

/-- Undoes the escaping of quotes and apostrophes that some documents carry into paths. -/
def unescape (text : String) : String :=
  String.ofList (replace "&#39;".toList ['\''] (replace "&quot;".toList ['"'] text.toList))

/-- How a template refers to a parameter. -/
inductive Dialect where
  /-- Call sites: a numeric parameter is used as it is. -/
  | plain
  /-- Bodies that read signals: a numeric parameter is read into a constant first. -/
  | value
  deriving DecidableEq, Repr

/-- The variable that stands for a parameter. -/
def Dialect.variableFor (dialect : Dialect) (identifier : String) (isNumeric : Bool) : String :=
  if isNumeric then
    match dialect with
    | plain => identifier
    | value => identifier ++ "Value"
  else identifier ++ "Path"

/-- The path parameter that a placeholder names: the first with that wire name, else the first
with that identifier. -/
def parameter? (params : List Client.Parameter) (name : String) : Option Client.Parameter :=
  let inPath := params.filter fun param => param.location = .path
  match inPath.find? fun param => param.rawName = name with
  | some param => some param
  | none => inPath.find? fun param => param.identifier = name

/-- The variable that answers to the name of a placeholder. -/
def answer? (params : List Client.Parameter) (dialect : Dialect) (name : String) :
    Option String :=
  (parameter? params name).map fun param => dialect.variableFor param.identifier param.isNumeric

/-- The template of a raw path. -/
def build (raw : String) (params : List Client.Parameter) (dialect : Dialect) : PathTemplate :=
  rewrite (unescape raw) (answer? params dialect)

end PathTemplate

end ClientPlan
