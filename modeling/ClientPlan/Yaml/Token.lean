import ClientPlan.Source.ScalarType
import ClientPlan.Yaml.Cursor

/-! # YAML tokens

What the structure of a text is made of, and the tokens that stand on one line: names, tags and
directives. -/

namespace ClientPlan.Yaml

open Text

/-- A token of a YAML text. -/
inductive Token where
  /-- The version that a directive declares. -/
  | version (major minor : Nat)
  /-- What a directive declares a tag handle to stand for. -/
  | tagHandle (handle expansion : String)
  | documentStart
  | documentEnd
  | blockListStart
  | blockMappingStart
  | blockEnd
  | flowListStart
  | flowListEnd
  | flowMappingStart
  | flowMappingEnd
  | blockEntry
  | flowEntry
  | key
  | value
  | alias (name : String)
  | anchor (name : String)
  | tag (handle suffix : String)
  | scalar (text : String) (style : Source.ScalarStyle)
  deriving DecidableEq, Inhabited, Repr

/-- The characters that may follow a name without a blank. -/
def isNameEnd (c : Char) : Bool :=
  ['?', ':', ',', ']', '}', '%', '@', '`'].contains c

/-- The name of an anchor or an alias, and the place after it. -/
def Cursor.name? (cursor : Cursor) : Option (String × Cursor) :=
  let (name, next) := cursor.span isNameChar
  if name.isEmpty || !(endsWord next.rest || next.next?.any isNameEnd) then none
  else some (String.ofList name, next)

/-- The characters of tags; between angle brackets, brackets and the comma are among them. -/
def isUriChar (verbatim : Bool) (c : Char) : Bool :=
  isNameChar c || ";/?:@&=+$.!~*'()%".toList.contains c ||
    (verbatim && (c = ',' || c = '[' || c = ']'))

/-- How many octets a character has that begins with the given octet. -/
def octetWidth? (octet : Nat) : Option Nat :=
  if octet < 0x80 then some 1
  else if octet < 0xC0 then none
  else if octet < 0xE0 then some 2
  else if octet < 0xF0 then some 3
  else if octet < 0xF8 then some 4
  else none

/-- The bits that the first octet of a character contributes. -/
def leadBits (octet width : Nat) : Nat :=
  if width = 1 then octet else octet % Nat.pow 2 (7 - width)

/-- Replaces percent escapes by the characters they stand for, none where an escape is broken.
After an escape that begins a character, `missing` more octets complete `code`. -/
def unescapeUri? (missing code : Nat) : List Char → Option (List Char)
  | [] => if missing = 0 then some [] else none
  | '%' :: high :: low :: rest =>
    match Source.natural? 16 [high, low] with
    | none => none
    | some octet =>
      if missing = 0 then
        match octetWidth? octet with
        | none => none
        | some 1 => (unescapeUri? 0 0 rest).map (Char.ofNat octet :: ·)
        | some width => unescapeUri? (width - 1) (leadBits octet width) rest
      else if octet / 64 = 2 then
        let code := code * 64 + octet % 64
        if missing = 1 then
          let c := if code.isValidChar then Char.ofNat code else '\uFFFD'
          (unescapeUri? 0 0 rest).map (c :: ·)
        else unescapeUri? (missing - 1) code rest
      else none
  | c :: rest =>
    if c = '%' || missing ≠ 0 then none else (unescapeUri? 0 0 rest).map (c :: ·)

/-- The part of a tag at a place with its escapes undone, and the place after it. -/
def Cursor.uri? (verbatim : Bool) (cursor : Cursor) : Option (List Char × Cursor) :=
  let (escaped, next) := cursor.span (isUriChar verbatim)
  (unescapeUri? 0 0 escaped).map fun text => (text, next)

/-- The handle at a place: an exclamation mark, a name and, unless it is missing, another
exclamation mark. -/
def Cursor.handle? (cursor : Cursor) : Option (List Char × Cursor) :=
  if cursor.next? = some '!' then
    let (name, next) := (cursor.skip 1).span isNameChar
    if next.next? = some '!' then some ('!' :: name ++ ['!'], next.skip 1)
    else some ('!' :: name, next)
  else none

/-- Whether a handle ends with an exclamation mark of its own. -/
def isNamedHandle (handle : List Char) : Bool :=
  handle.length > 1 && handle.getLast? = some '!'

/-- The handle and the suffix of the tag at a place, and the place after it. -/
def Cursor.tagParts? (cursor : Cursor) : Option (List Char × List Char × Cursor) :=
  if (cursor.skip 1).next? = some '<' then do
    let (suffix, next) ← (cursor.skip 2).uri? true
    if suffix.isEmpty || next.next? ≠ some '>' then none
    else return ([], suffix, next.skip 1)
  else do
    let (handle, next) ← cursor.handle?
    let (suffix, next) ← next.uri? false
    if isNamedHandle handle then
      if suffix.isEmpty then none else return (handle, suffix, next)
    else
      let suffix := handle.drop 1 ++ suffix
      if suffix.isEmpty then return ([], ['!'], next) else return (['!'], suffix, next)

/-- The tag at a place and the place after it. A tag ends with white space, or with a comma inside
brackets. -/
def Cursor.tag? (inFlow : Bool) (cursor : Cursor) : Option (Token × Cursor) := do
  let (handle, suffix, next) ← cursor.tagParts?
  if endsWord next.rest || (inFlow && next.next? = some ',') then
    return (.tag (String.ofList handle) (String.ofList suffix), next)
  else none

/-- A number of at most nine digits, and the place after it. -/
def Cursor.number? (cursor : Cursor) : Option (Nat × Cursor) :=
  let (digits, next) := cursor.span isAsciiDigit
  if digits.isEmpty || digits.length > 9 then none else some (Source.digitsValue digits, next)

/-- The version in a directive. -/
def Cursor.version? (cursor : Cursor) : Option (Token × Cursor) := do
  let (major, next) ← (cursor.skipWhile isBlank).number?
  if next.next? ≠ some '.' then none
  let (minor, next) ← (next.skip 1).number?
  return (.version major minor, next)

/-- The handle and what it stands for in a directive. -/
def Cursor.tagHandle? (cursor : Cursor) : Option (Token × Cursor) := do
  let (handle, next) ← (cursor.skipWhile isBlank).handle?
  if handle ≠ ['!'] && !isNamedHandle handle then none
  if !next.next?.any isBlank then none
  let (expansion, next) ← (next.skipWhile isBlank).uri? true
  if expansion.isEmpty || !endsWord next.rest then none
  return (.tagHandle (String.ofList handle) (String.ofList expansion), next)

/-- The directive that begins at a place, and the start of the next line. -/
def Cursor.directive? (cursor : Cursor) : Option (Token × Cursor) := do
  let (name, next) := (cursor.skip 1).span isNameChar
  if !endsWord next.rest then none
  let (token, next) ←
    match String.ofList name with
    | "YAML" => next.version?
    | "TAG" => next.tagHandle?
    | _ => none
  let line ← next.nextLine?
  return (token, line)

end ClientPlan.Yaml
