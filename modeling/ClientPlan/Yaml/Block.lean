import ClientPlan.Yaml.Cursor

/-! # Block scalars

A scalar of indented lines. A literal one keeps its line breaks, a folded one joins neighbouring
lines that do not begin with a blank. -/

namespace ClientPlan.Yaml

open Text

/-- What becomes of the line breaks at the end of a block scalar. -/
inductive Chomping where
  | strip
  | clip
  | keep
  deriving DecidableEq, Inhabited, Repr

/-- The chomping indicator at a place. -/
def Cursor.chomping (cursor : Cursor) : Option Chomping × Cursor :=
  match cursor.next? with
  | some '+' => (some .keep, cursor.skip 1)
  | some '-' => (some .strip, cursor.skip 1)
  | _ => (none, cursor)

/-- The indentation indicator at a place; zero is none. -/
def Cursor.increment? (cursor : Cursor) : Option (Option Nat × Cursor) :=
  match cursor.next? with
  | some c =>
    if c = '0' then none
    else if isAsciiDigit c then some (some (c.toNat - 48), cursor.skip 1)
    else some (none, cursor)
  | none => some (none, cursor)

/-- The indicators of a block scalar, in either order, and the place after its first line. -/
def Cursor.header? (cursor : Cursor) : Option (Chomping × Option Nat × Cursor) := do
  let (before, cursor) := cursor.chomping
  let (increment, cursor) ← cursor.increment?
  let (chomping, cursor) := if before.isSome then (before, cursor) else cursor.chomping
  let next ← cursor.nextLine?
  return (chomping.getD .clip, increment, next)

/-- Passes over the blanks of the indentation, all of them where it is not known yet. -/
def Cursor.skipIndent (indent : Option Nat) (cursor : Cursor) : Cursor :=
  let blanks := (cursor.rest.takeWhile (· = ' ')).length
  cursor.skip (indent.elim blanks fun indent => min blanks (indent - cursor.column))

/-- Passes over lines without text. The outcome is their line breaks, the deepest column reached,
and the place where the text goes on; a tab may not stand for indentation. -/
def Cursor.emptyLines? (indent : Option Nat) (breaks : List Char) (deepest : Nat)
    (cursor : Cursor) : Option (List Char × Nat × Cursor) :=
  let next := cursor.skipIndent indent
  let deepest := max deepest next.column
  if next.next? = some '\t' && indent.all (next.column < ·) then none
  else
    match _h : next.lineBreak? with
    | some (c, line) => line.emptyLines? indent (c :: breaks) deepest
    | none => some (breaks.reverse, deepest, next)
  termination_by cursor.size
  decreasing_by
    have := Cursor.size_lt_of_lineBreak? _h
    simp only [next, Cursor.skipIndent, Cursor.size_skip] at this
    omega

/-- The text of a block scalar that has been read so far. -/
structure BlockText where
  /-- The parts of the text, the latest first. -/
  parts : List (List Char) := []
  /-- The break of the last line. -/
  lastBreak : List Char := []
  /-- The last line begins with a blank. -/
  afterBlank : Bool := false
  /-- The breaks of the empty lines after the last line. -/
  emptyLines : List Char := []

namespace BlockText

/-- What stands between the last line and the next. -/
def joint (text : BlockText) (isLiteral beforeBlank : Bool) : List Char :=
  if !isLiteral && text.lastBreak = ['\n'] && !text.afterBlank && !beforeBlank then
    if text.emptyLines.isEmpty then [' '] else text.emptyLines
  else text.lastBreak ++ text.emptyLines

/-- The whole text after its end is chomped. -/
def chomp (text : BlockText) (chomping : Chomping) : List Char :=
  let tail :=
    match chomping with
    | .strip => []
    | .clip => text.lastBreak
    | .keep => text.lastBreak ++ text.emptyLines
  text.parts.reverse.flatten ++ tail

end BlockText

/-- Reads the lines at the given indentation. -/
def Cursor.blockLines? (isLiteral : Bool) (indent : Nat) (text : BlockText) (cursor : Cursor) :
    Option (BlockText × Cursor) :=
  match _hrest : cursor.rest with
  | [] => some (text, cursor)
  | c :: rest =>
    if cursor.column = indent then
      let line := c :: rest.takeWhile fun c => !isBreak c
      let joint := text.joint isLiteral (isBlank c)
      let afterLine := cursor.skip line.length
      let (lastBreak, next) :=
        match afterLine.lineBreak? with
        | some (c, next) => ([c], next)
        | none => ([], afterLine)
      match next.emptyLines? (some indent) [] 0 with
      | none => none
      | some (breaks, _, after) =>
        if _hafter : after.size < cursor.size then
          after.blockLines? isLiteral indent
            ⟨line :: joint :: text.parts, lastBreak, isBlank c, breaks⟩
        else none
    else some (text, cursor)
  termination_by cursor.size

/-- The block scalar that begins at a place, inside a block at the given column if there is one. -/
def block? (outer : Option Nat) (cursor : Cursor) : Option (List Char × Cursor) := do
  let isLiteral := cursor.next? = some '|'
  let (chomping, increment, cursor) ← (cursor.skip 1).header?
  let indent := increment.map fun increment => outer.getD 0 + increment
  let (breaks, deepest, cursor) ← cursor.emptyLines? indent [] 0
  let least := max 1 (outer.elim 0 (· + 1))
  let (text, cursor) ← cursor.blockLines? isLiteral (indent.getD (max deepest least))
    { emptyLines := breaks }
  return (text.chomp chomping, cursor)

end ClientPlan.Yaml
