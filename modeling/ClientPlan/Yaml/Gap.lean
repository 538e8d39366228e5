import ClientPlan.Yaml.Cursor

/-! # Gaps

The white space between two words of a scalar. On one line it is kept; a single line break becomes
a blank, and of several line breaks the first is dropped. -/

namespace ClientPlan.Yaml

/-- White space between two words, the latest first. -/
structure Gap where
  /-- The blanks, where there is no line break. -/
  blanks : List Char := []
  breaks : List Char := []
  /-- The gap begins with a line break that is escaped. -/
  joined : Bool := false
  /-- The least column after a line break at which a tab stands. -/
  tabColumn : Option Nat := none
  deriving Inhabited, Repr

namespace Gap

/-- Whether the gap goes over the end of a line. -/
def breaksLine (gap : Gap) : Bool :=
  gap.joined || !gap.breaks.isEmpty

/-- Whether there is no gap at all. -/
def isEmpty (gap : Gap) : Bool :=
  !gap.breaksLine && gap.blanks.isEmpty

/-- What the gap contributes to the text of the scalar. -/
def text (gap : Gap) : List Char :=
  if gap.joined then gap.breaks.reverse
  else
    match gap.breaks.reverse with
    | [] => gap.blanks.reverse
    | ['\n'] => [' ']
    | '\n' :: more => more
    | breaks => breaks

/-- The gap with one more blank, at the given column. -/
def addBlank (gap : Gap) (c : Char) (column : Nat) : Gap :=
  if gap.breaksLine then
    if c = '\t' then { gap with tabColumn := some (min column (gap.tabColumn.getD column)) }
    else gap
  else { gap with blanks := c :: gap.blanks }

/-- The gap with one more line break. -/
def addBreak (gap : Gap) (c : Char) : Gap :=
  { gap with blanks := [], breaks := c :: gap.breaks }

/-- Whether a tab stands left of the given column. -/
def hasTabBefore (gap : Gap) (column : Nat) : Bool :=
  gap.tabColumn.any (· < column)

end Gap

/-- The gap that goes on at a place, after what is already known of it, and the place after it. -/
def Cursor.gapAfter (gap : Gap) (cursor : Cursor) : Gap × Cursor :=
  match h : cursor.lineBreak? with
  | some (c, next) =>
    have := Cursor.size_lt_of_lineBreak? h
    next.gapAfter (gap.addBreak c)
  | none =>
    match _hrest : cursor.rest with
    | c :: _ =>
      if isBlank c then (cursor.skip 1).gapAfter (gap.addBlank c cursor.column)
      else (gap, cursor)
    | [] => (gap, cursor)
  termination_by cursor.size
  decreasing_by
    · assumption
    · simp [Cursor.size, Cursor.skip, _hrest]

/-- The gap at a place, and the place after it. -/
def Cursor.gap (cursor : Cursor) : Gap × Cursor :=
  cursor.gapAfter {}

theorem Cursor.size_gapAfter_le (gap : Gap) (cursor : Cursor) :
    (cursor.gapAfter gap).2.size ≤ cursor.size := by
  fun_induction Cursor.gapAfter gap cursor with
  | case1 gap cursor c next h hlt ih => exact Nat.le_trans ih (Nat.le_of_lt hlt)
  | case2 gap cursor h c rest hrest hblank ih =>
    exact Nat.le_trans ih (by simp)
  | case3 => exact Nat.le_refl _
  | case4 => exact Nat.le_refl _

end ClientPlan.Yaml
