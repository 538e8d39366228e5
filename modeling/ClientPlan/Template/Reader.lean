import ClientPlan.Template.Basic
import ClientPlan.Text.Blank
import ClientPlan.Text.Case
import ClientPlan.Text.Replace

/-! # Reading templates

A template is cut into text and marks, a dash at the edge of a mark drops the white space next to
it, and the marks of loops and conditions are put together. -/

namespace ClientPlan.Template

open Text

/-- A mark in a template. -/
inductive Mark where
  | comment
  | value (path : Path)
  | beginLoop (item : String) (list : Path)
  | beginBranch (condition : Condition)
  /-- Another branch, with a condition of its own or without. -/
  | otherwise (condition : Option Condition)
  | endLoop
  | endBranch
  deriving DecidableEq, Inhabited, Repr

/-- A piece of a template: text, or a mark and whether white space is dropped before and after
it. -/
inductive Piece where
  | text (text : List Char)
  | mark (mark : Mark) (dropsBefore dropsAfter : Bool)
  deriving DecidableEq, Inhabited, Repr

/-- The characters of names. -/
def isNameChar (c : Char) : Bool :=
  isAsciiAlnum c || c = '_'

/-- A path in a mark: names with points between them, the first of which begins with no digit. -/
def path? (word : List Char) : Option Path :=
  let steps := splitOn '.' word
  if steps.all (fun step => !step.isEmpty && step.all isNameChar) &&
      !(word.head?.any isAsciiDigit) then
    some (steps.map String.ofList)
  else none

/-- The blanks within marks. -/
def isMarkBlank (c : Char) : Bool :=
  c = ' ' || c = '\t' || c = '\n' || c = '\r'

/-- The words of a mark; `current` is the word that is being read, the latest character first. -/
def wordsAfter (current : List Char) : List Char → List (List Char)
  | [] => if current.isEmpty then [] else [current.reverse]
  | c :: rest =>
    if isMarkBlank c then
      if current.isEmpty then wordsAfter [] rest else current.reverse :: wordsAfter [] rest
    else wordsAfter (c :: current) rest

/-- The words between occurrences of a word. -/
def splitWords (word : String) : List String → List (List String)
  | [] => [[]]
  | w :: rest =>
    if w = word then [] :: splitWords word rest
    else
      match splitWords word rest with
      | [] => [[w]]
      | part :: parts => (w :: part) :: parts

/-- A value or its negation. -/
def negation? : List String → Option Condition
  | ["not", word] => (path? word.toList).map fun path => .not (.value path)
  | [word] => (path? word.toList).map .value
  | _ => none

/-- Joins conditions from left to right. -/
def joined? (join : Condition → Condition → Condition) :
    List (Option Condition) → Option Condition
  | [] => none
  | first :: rest => rest.foldl (fun left right => left.bind fun l => right.map (join l)) first

/-- A condition: `or` binds less than `and`, and `and` less than `not`. -/
def condition? (words : List String) : Option Condition :=
  joined? .or ((splitWords "or" words).map fun words =>
    joined? .and ((splitWords "and" words).map negation?))

/-- The mark between percent signs. -/
def statement? (inner : List Char) : Option Mark :=
  match (wordsAfter [] inner).map String.ofList with
  | ["for", item, "in", list] =>
    match path? item.toList with
    | some [item] => (path? list.toList).map (.beginLoop item)
    | _ => none
  | "if" :: words => (condition? words).map .beginBranch
  | "elif" :: words => (condition? words).map fun condition => .otherwise (some condition)
  | ["else"] => some (.otherwise none)
  | ["endfor"] => some .endLoop
  | ["endif"] => some .endBranch
  | _ => none

/-- The mark between doubled braces. -/
def print? (inner : List Char) : Option Mark :=
  match wordsAfter [] inner with
  | [word] => (path? word).map .value
  | _ => none

/-- The text before the first occurrence of two characters, and the text after them. -/
def splitPair (first second : Char) : List Char → Option (List Char × List Char)
  | a :: b :: rest =>
    if a = first && b = second then some ([], rest)
    else (splitPair first second (b :: rest)).map fun (before, after) => (a :: before, after)
  | _ => none

/-- The piece of a mark with the given inside, without the dashes at its edges. -/
def markPiece? (read : List Char → Option Mark) (inner : List Char) : Option Piece :=
  let before := inner.head? = some '-'
  let inner := if before then inner.drop 1 else inner
  let after := inner.getLast? = some '-'
  let inner := if after then inner.dropLast else inner
  (read inner).map fun mark => .mark mark before after

/-- The text before the next mark. -/
def plainText : List Char → List Char
  | '{' :: c :: rest =>
    if c = '{' || c = '%' || c = '#' then [] else '{' :: plainText (c :: rest)
  | c :: rest => c :: plainText rest
  | [] => []

/-- The pieces of a template, none where a mark is not closed or means nothing. -/
def pieces? : Nat → List Char → Option (List Piece)
  | 0, _ => none
  | _, [] => some []
  | fuel + 1, text =>
    let mark := fun close read rest => do
      let (inner, rest) ← splitPair close '}' rest
      let piece ← markPiece? read inner
      return piece :: (← pieces? fuel rest)
    match text with
    | '{' :: '{' :: rest => mark '}' print? rest
    | '{' :: '%' :: rest => mark '%' statement? rest
    | '{' :: '#' :: rest => mark '#' (fun _ => some .comment) rest
    | _ =>
      let plain := plainText text
      (pieces? fuel (text.drop plain.length)).map (.text plain :: ·)

/-- Drops the white space next to marks that ask for it; `afterDash` says that the last mark asks
for it. -/
def dropSpace (afterDash : Bool) : List Piece → List Piece
  | [] => []
  | .text text :: rest =>
    let text := if afterDash then trimStart text else text
    let text :=
      match rest with
      | .mark _ true _ :: _ => trimEnd text
      | _ => text
    .text text :: dropSpace false rest
  | .mark mark before after :: rest => .mark mark before after :: dropSpace after rest

/-- A loop or a condition that is being read, its parts the latest first. -/
inductive Frame where
  | loop (item : String) (list : Path) (body : List Node)
  /-- A loop after its body. -/
  | empty (item : String) (list : Path) (body parts : List Node)
  | arm (arms : List (Condition × List Node)) (condition : Condition) (parts : List Node)
  /-- A condition after its last arm. -/
  | otherwise (arms : List (Condition × List Node)) (parts : List Node)

/-- The frame with one more part. -/
def Frame.add (node : Node) : Frame → Frame
  | loop item list body => loop item list (node :: body)
  | empty item list body parts => empty item list body (node :: parts)
  | arm arms condition parts => arm arms condition (node :: parts)
  | otherwise arms parts => otherwise arms (node :: parts)

/-- The node of a loop or a condition that a mark closes. -/
def Frame.close? : Frame → Mark → Option Node
  | loop item list body, .endLoop => some (.loop item list body.reverse [])
  | empty item list body parts, .endLoop => some (.loop item list body.reverse parts.reverse)
  | arm arms condition parts, .endBranch =>
    some (.branch ((condition, parts.reverse) :: arms).reverse [])
  | otherwise arms parts, .endBranch => some (.branch arms.reverse parts.reverse)
  | _, _ => none

/-- What is read next after a mark between the parts of a loop or a condition. -/
def Frame.next? : Frame → Option Condition → Option Frame
  | loop item list body, none => some (empty item list body [])
  | arm arms condition parts, none => some (otherwise ((condition, parts.reverse) :: arms) [])
  | arm arms condition parts, some other =>
    some (arm ((condition, parts.reverse) :: arms) other [])
  | _, _ => none

/-- What is open, the innermost first, and the parts outside of it, the latest first. -/
structure Reading where
  frames : List Frame := []
  parts : List Node := []

/-- Adds a part to what is open. -/
def Reading.add (reading : Reading) (node : Node) : Reading :=
  match reading.frames with
  | [] => { reading with parts := node :: reading.parts }
  | frame :: outer => { reading with frames := frame.add node :: outer }

/-- Opens a loop or a condition. -/
def Reading.push (reading : Reading) (frame : Frame) : Reading :=
  { reading with frames := frame :: reading.frames }

/-- Reads a piece, unless it does not fit what is open. -/
def Reading.step? (reading : Reading) : Piece → Option Reading
  | .text text => some (reading.add (.text (String.ofList text)))
  | .mark .comment _ _ => some reading
  | .mark (.value path) _ _ => some (reading.add (.value path))
  | .mark (.beginLoop item list) _ _ => some (reading.push (.loop item list []))
  | .mark (.beginBranch condition) _ _ => some (reading.push (.arm [] condition []))
  | .mark (.otherwise condition) _ _ =>
    match reading.frames with
    | frame :: outer =>
      (frame.next? condition).map fun frame => { reading with frames := frame :: outer }
    | [] => none
  | .mark mark _ _ =>
    match reading.frames with
    | frame :: outer =>
      (frame.close? mark).map ({ reading with frames := outer } : Reading).add
    | [] => none

/-- The parts of a template, none where the text is no template. -/
def read? (text : String) : Option (List Node) := do
  let pieces ← pieces? (text.length + 1) text.toList
  let reading ← (dropSpace false pieces).foldlM Reading.step? {}
  if reading.frames.isEmpty then return reading.parts.reverse else none

end ClientPlan.Template
