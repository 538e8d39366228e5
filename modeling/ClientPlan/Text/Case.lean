import ClientPlan.Text.CaseTable

/-! # Letter case

Full case mappings: one character may become several. A text is lower-cased as a whole, because
a capital sigma at the end of a word has a small form of its own. -/

namespace ClientPlan.Text

/-- `A` to `Z`. -/
def isAsciiUpper (c : Char) : Bool :=
  'A' ≤ c && c ≤ 'Z'

/-- `a` to `z`. -/
def isAsciiLower (c : Char) : Bool :=
  'a' ≤ c && c ≤ 'z'

/-- `0` to `9`. -/
def isAsciiDigit (c : Char) : Bool :=
  '0' ≤ c && c ≤ '9'

/-- ASCII letters and digits. -/
def isAsciiAlnum (c : Char) : Bool :=
  isAsciiUpper c || isAsciiLower c || isAsciiDigit c

/-- The character moved by the first run that covers it. -/
def moveBy (runs : List CaseRun) (c : Char) : Char :=
  match runs.find? (·.covers c.toNat) with
  | some run => Char.ofNat (c.toNat + run.distance).toNat
  | none => c

/-- A mapping given by a table of expansions and, for all other characters, by runs. -/
def mapCase (expansions : List (Nat × List Nat)) (runs : List CaseRun) (c : Char) : List Char :=
  match expansions.lookup c.toNat with
  | some codes => codes.map Char.ofNat
  | none => [moveBy runs c]

/-- The upper case of a character. -/
def upperChar (c : Char) : List Char :=
  if c.toNat < 128 then [if isAsciiLower c then Char.ofNat (c.toNat - 32) else c]
  else mapCase upperExpansions upperRuns c

/-- The lower case of a character out of context. -/
def lowerChar (c : Char) : List Char :=
  if c.toNat < 128 then [if isAsciiUpper c then Char.ofNat (c.toNat + 32) else c]
  else mapCase lowerExpansions lowerRuns c

/-- Whether one of the ranges holds the character. -/
def inRanges (ranges : List (Nat × Nat)) (c : Char) : Bool :=
  ranges.any fun range => range.1 ≤ c.toNat && c.toNat ≤ range.2

/-- Whether the first character that is not looked through is cased. -/
def meetsCased (text : List Char) : Bool :=
  match text.dropWhile (inRanges caseIgnorableRanges) with
  | c :: _ => inRanges casedRanges c
  | [] => false

/-- Lower-cases a text, given what stands before it in reverse: a capital sigma is final where a
cased character comes before it and none after it. -/
def lowerAfter (before : List Char) : List Char → List Char
  | [] => []
  | c :: rest =>
    (if c = 'Σ' then [if meetsCased before && !meetsCased rest then 'ς' else 'σ']
      else lowerChar c) ++ lowerAfter (c :: before) rest

/-- The lower case of a text. -/
def lower (text : List Char) : List Char :=
  lowerAfter [] text

/-- The lower case of a string. -/
def lowered (text : String) : String :=
  String.ofList (lower text.toList)

/-- Upper-cases the first character of a text. -/
def upperFirst : List Char → List Char
  | [] => []
  | c :: rest => upperChar c ++ rest

/-- Lower-cases the first character of a text. -/
def lowerFirst : List Char → List Char
  | [] => []
  | c :: rest => lowerChar c ++ rest

end ClientPlan.Text
