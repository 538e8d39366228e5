import ClientPlan.Text.Case

/-! # Places in a YAML text

The classes of characters that the structure of a text hangs on, and a place in a text with its
line and column. -/

namespace ClientPlan.Yaml

open Text

/-- The characters that a text may hold. -/
def isAllowed (c : Char) : Bool :=
  let code := c.toNat
  code == 9 || code == 10 || code == 13 || (0x20 ≤ code && code ≤ 0x7E) || code == 0x85 ||
    (0xA0 ≤ code && code ≤ 0xFFFD) || 0x10000 ≤ code

/-- Blanks and tabs. -/
def isBlank (c : Char) : Bool :=
  c = ' ' || c = '\t'

/-- The characters that end a line. -/
def isBreak (c : Char) : Bool :=
  c = '\n' || c = '\r' || c = '\u0085' || c = '\u2028' || c = '\u2029'

/-- Whether nothing but white space can come next. -/
def endsWord : List Char → Bool
  | [] => true
  | c :: _ => isBlank c || isBreak c

/-- The characters of names: of anchors, handles and directives. -/
def isNameChar (c : Char) : Bool :=
  isAsciiAlnum c || c = '_' || c = '-'

/-- A place in a text. -/
structure Position where
  index : Nat := 0
  line : Nat := 0
  column : Nat := 0
  deriving DecidableEq, Inhabited, Repr

/-- The place some characters further on the same line. -/
def Position.after (position : Position) (count : Nat) : Position :=
  { position with index := position.index + count, column := position.column + count }

/-- The place after a line break of the given width. -/
def Position.nextLine (position : Position) (width : Nat) : Position :=
  ⟨position.index + width, position.line + 1, 0⟩

/-- A place in a text and the text from there on. -/
structure Cursor where
  position : Position := {}
  rest : List Char
  deriving Inhabited, Repr

namespace Cursor

/-- How many characters are left. -/
def size (cursor : Cursor) : Nat :=
  cursor.rest.length

/-- The column of the place. -/
def column (cursor : Cursor) : Nat :=
  cursor.position.column

/-- The next character. -/
def next? (cursor : Cursor) : Option Char :=
  cursor.rest.head?

/-- Passes over some characters of the line. -/
def skip (cursor : Cursor) (count : Nat) : Cursor :=
  ⟨cursor.position.after count, cursor.rest.drop count⟩

/-- The characters of the line for which `p` holds, and the place after them. -/
def span (cursor : Cursor) (p : Char → Bool) : List Char × Cursor :=
  let word := cursor.rest.takeWhile p
  (word, cursor.skip word.length)

/-- Passes over the characters of the line for which `p` holds. -/
def skipWhile (cursor : Cursor) (p : Char → Bool) : Cursor :=
  (cursor.span p).2

/-- Passes over a comment. -/
def skipComment (cursor : Cursor) : Cursor :=
  if cursor.next? = some '#' then cursor.skipWhile fun c => !isBreak c else cursor

/-- The line break at this place and the place after it. Line and paragraph separators stand for
themselves, every other break for a line feed. -/
def lineBreak? (cursor : Cursor) : Option (Char × Cursor) :=
  match cursor.rest with
  | '\r' :: '\n' :: rest => some ('\n', ⟨cursor.position.nextLine 2, rest⟩)
  | c :: rest =>
    if isBreak c then
      some (if c = '\u2028' || c = '\u2029' then c else '\n',
        ⟨cursor.position.nextLine 1, rest⟩)
    else none
  | [] => none

/-- The start of the next line, where blanks and a comment are all that is left of this one. -/
def nextLine? (cursor : Cursor) : Option Cursor :=
  let cursor := (cursor.skipWhile isBlank).skipComment
  match cursor.lineBreak? with
  | some (_, next) => some next
  | none => if cursor.rest.isEmpty then some cursor else none

/-- Whether a line begins here with the mark of the start or the end of a document. -/
def atMarker (cursor : Cursor) : Bool :=
  cursor.column = 0 &&
    (['-', '-', '-'].isPrefixOf cursor.rest || ['.', '.', '.'].isPrefixOf cursor.rest) &&
    endsWord (cursor.rest.drop 3)

@[simp] theorem size_skip (cursor : Cursor) (count : Nat) :
    (cursor.skip count).size = cursor.size - count := by
  simp [size, skip]

theorem size_skip_lt {cursor : Cursor} {c : Char} {rest : List Char}
    (hrest : cursor.rest = c :: rest) (count : Nat) :
    (cursor.skip (count + 1)).size < cursor.size := by
  rw [size_skip, size, hrest, List.length_cons]
  omega

theorem size_skipWhile_le (cursor : Cursor) (p : Char → Bool) :
    (cursor.skipWhile p).size ≤ cursor.size := by
  simp [skipWhile, span]

theorem size_skipComment_le (cursor : Cursor) : cursor.skipComment.size ≤ cursor.size := by
  unfold skipComment
  split
  · exact size_skipWhile_le _ _
  · exact Nat.le_refl _

theorem size_lt_of_lineBreak? {cursor next : Cursor} {c : Char}
    (h : cursor.lineBreak? = some (c, next)) : next.size < cursor.size := by
  unfold lineBreak? at h
  split at h
  next rest hrest =>
    obtain ⟨-, rfl⟩ := Prod.mk.inj (Option.some.inj h)
    simp only [size, hrest, List.length_cons]
    omega
  next d rest _ hrest =>
    split at h
    · obtain ⟨-, rfl⟩ := Prod.mk.inj (Option.some.inj h)
      simp [size, hrest]
    · exact absurd h (by simp)
  · exact absurd h (by simp)

end Cursor

end ClientPlan.Yaml
