import ClientPlan.Yaml.Gap

/-! # Plain scalars

A scalar without quotes goes on over lines until an indicator, a comment, the mark of a document or
a line that is not indented enough. -/

namespace ClientPlan.Yaml

/-- The brackets and the comma: inside brackets, no plain scalar holds them. -/
def isFlowIndicator (c : Char) : Bool :=
  c = ',' || c = '[' || c = ']' || c = '{' || c = '}'

/-- Whether a colon may not stand before this text inside brackets. -/
def refusesColon : List Char → Bool
  | c :: _ => isFlowIndicator c || c = '?'
  | [] => false

/-- The next word of a plain scalar, none at all where a colon is refused. -/
def plainWord? (inFlow : Bool) : List Char → Option (List Char)
  | [] => some []
  | c :: rest =>
    if isBlank c || isBreak c then some []
    else if inFlow && c = ':' && refusesColon rest then none
    else if (c = ':' && endsWord rest) || (inFlow && isFlowIndicator c) then some []
    else (plainWord? inFlow rest).map (c :: ·)

/-- The text of a plain scalar, the place after it, and whether a line break comes before that
place. Lines that go on are indented to the given column at least, except inside brackets. The
words already read come the latest first, and `gap` is the white space after them. -/
def plainAfter (inFlow : Bool) (indent : Nat) (words : List (List Char)) (gap : Gap)
    (cursor : Cursor) : Option (List Char × Cursor × Bool) :=
  let finished := some (words.reverse.flatten, cursor, gap.breaksLine)
  if cursor.atMarker || cursor.next? == some '#' then finished
  else
    match plainWord? inFlow cursor.rest with
    | none => none
    | some [] => finished
    | some (c :: word) =>
      let words := (gap.text ++ c :: word) :: words
      let (gap, next) := (cursor.skip (word.length + 1)).gap
      if gap.isEmpty then some (words.reverse.flatten, next, false)
      else if gap.hasTabBefore indent then none
      else if !inFlow && next.column < indent then
        some (words.reverse.flatten, next, gap.breaksLine)
      else if _hnext : next.size < cursor.size then plainAfter inFlow indent words gap next
      else none
  termination_by cursor.size

/-- The plain scalar at a place. -/
def plain? (inFlow : Bool) (indent : Nat) (cursor : Cursor) :
    Option (List Char × Cursor × Bool) :=
  plainAfter inFlow indent [] {} cursor

end ClientPlan.Yaml
