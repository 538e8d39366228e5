import ClientPlan.Toml.Quoted
import ClientPlan.Toml.Word

/-! # Reading TOML

A text is read line by line: a header, or a key and its value. -/

namespace ClientPlan.Toml

open Text

/-- How many parts a key may have, and how deeply values may nest. -/
def depthLimit : Nat := 79

/-- The characters of keys without quotes. -/
def isKeyChar (c : Char) : Bool :=
  isAsciiAlnum c || c = '_' || c = '-'

/-- The characters of words. -/
def isWordChar (c : Char) : Bool :=
  isKeyChar c || c = '+' || c = '.' || c = ':'

/-- Passes over blanks. -/
def skipBlanks (text : List Char) : List Char :=
  text.dropWhile isBlank

/-- A part of a key, and the text after it. -/
def keyPart? (fuel : Nat) (text : List Char) : Option (String × List Char) :=
  match text with
  | c :: _ =>
    if c = '"' || c = '\'' then simpleString? fuel text
    else
      let name := text.takeWhile isKeyChar
      if name.isEmpty then none else some (String.ofList name, text.drop name.length)
  | [] => none

/-- The parts of a dotted key, the latest first, and the text after it. -/
def keyParts? (parts : List String) : Nat → List Char → Option (List String × List Char)
  | 0, _ => none
  | fuel + 1, text => do
    let (part, rest) ← keyPart? fuel (skipBlanks text)
    match skipBlanks rest with
    | '.' :: rest => keyParts? (part :: parts) fuel rest
    | rest => return (part :: parts, rest)

/-- A key as its last part and the steps before it, and the text after it. -/
def key? (fuel : Nat) (text : List Char) : Option (String × List String × List Char) :=
  match keyParts? [] fuel text with
  | some (last :: steps, rest) =>
    if steps.length < depthLimit then some (last, steps.reverse, rest) else none
  | _ => none

/-- The text after a comment, which ends before a line break. -/
def skipComment? (text : List Char) : Option (List Char) :=
  match text with
  | '#' :: rest =>
    let after := rest.dropWhile isStringChar
    if after.isEmpty || (afterNewLine? after).isSome then some after else none
  | _ => some text

/-- The start of the next line, where blanks and a comment are all that is left of this one. -/
def nextLine? (text : List Char) : Option (List Char) := do
  let rest ← skipComment? (skipBlanks text)
  if rest.isEmpty then return [] else afterNewLine? rest

/-- Passes over blanks, comments and line breaks. -/
def skipSpace? : Nat → List Char → Option (List Char)
  | 0, text => some text
  | fuel + 1, text => do
    let rest ← skipComment? (skipBlanks text)
    match afterNewLine? rest with
    | some next => skipSpace? fuel next
    | none => return rest

/-- The word that a text begins with. A blank may stand between a date and a time. -/
def wordOf (text : List Char) : List Char :=
  let word := text.takeWhile isWordChar
  match text.drop word.length with
  | ' ' :: c :: rest =>
    if isDate word && isAsciiDigit c then word ++ ' ' :: (c :: rest).takeWhile isWordChar
    else word
  | _ => word

mutual

/-- The value that a text begins with, and the text after it. -/
def value? : Nat → Nat → List Char → Option (Value × List Char)
  | 0, _, _ => none
  | fuel + 1, depth, text =>
    match text, depth with
    | '[' :: _, 0 => none
    | '{' :: _, 0 => none
    | '[' :: rest, depth + 1 => items? [] fuel depth rest
    | '{' :: rest, depth + 1 =>
      match skipBlanks rest with
      | '}' :: rest => some (.table .braces [], rest)
      | rest => pairs? [] fuel depth rest
    | '"' :: _, _ => (string? fuel text).map fun (text, rest) => (.string text, rest)
    | '\'' :: _, _ => (string? fuel text).map fun (text, rest) => (.string text, rest)
    | _, _ =>
      let word := wordOf text
      (word? word).map fun value => (value, text.drop word.length)

/-- The items of a list up to its closing bracket; the items already read come the latest first. -/
def items? (items : List Value) : Nat → Nat → List Char → Option (Value × List Char)
  | 0, _, _ => none
  | fuel + 1, depth, text => do
    match ← skipSpace? fuel text with
    | ']' :: rest => return (.array items.reverse, rest)
    | rest =>
      let (value, rest) ← value? fuel depth rest
      match ← skipSpace? fuel rest with
      | ',' :: rest => items? (value :: items) fuel depth rest
      | ']' :: rest => return (.array (value :: items).reverse, rest)
      | _ => none

/-- The pairs of a table up to its closing brace. -/
def pairs? (entries : Entries) : Nat → Nat → List Char → Option (Value × List Char)
  | 0, _, _ => none
  | fuel + 1, depth, text => do
    let (key, steps, rest) ← key? fuel text
    match rest with
    | '=' :: rest =>
      let (value, rest) ← value? fuel depth (skipBlanks rest)
      let entries ← addDotted? key value steps entries
      match skipBlanks rest with
      | ',' :: rest => pairs? entries fuel depth rest
      | '}' :: rest => return (.table .braces entries, rest)
      | _ => none
    | _ => none

end

/-- What has been read: all tables, and the steps to the one that the last header declared. -/
structure Reading where
  entries : Entries := []
  current : List String := []

/-- Reads the header of a table. -/
def Reading.header? (reading : Reading) (fuel : Nat) (text : List Char) :
    Option (Reading × List Char) := do
  let (repeated, text) :=
    match text with
    | '[' :: rest => (true, rest)
    | _ => (false, text)
  let (key, steps, rest) ← key? fuel text
  let rest ←
    match repeated, rest with
    | true, ']' :: ']' :: rest => some rest
    | false, ']' :: rest => some rest
    | _, _ => none
  let next ← nextLine? rest
  let declared := if repeated then declareNext? key else declare? key
  let entries ← below? declared steps reading.entries
  return (⟨entries, steps ++ [key]⟩, next)

/-- Reads a key and its value. -/
def Reading.pair? (reading : Reading) (fuel : Nat) (text : List Char) :
    Option (Reading × List Char) := do
  let (key, steps, rest) ← key? fuel text
  match rest with
  | '=' :: rest =>
    let (value, rest) ← value? fuel depthLimit (skipBlanks rest)
    let next ← nextLine? rest
    let entries ← below? (addDotted? key value steps) reading.current reading.entries
    return ({ reading with entries := entries }, next)
  | _ => none

/-- Reads the lines of a text; `size` bounds what a single value may take. -/
def Reading.run? (size : Nat) : Nat → Reading → List Char → Option Entries
  | 0, _, _ => none
  | fuel + 1, reading, text =>
    match skipBlanks text with
    | [] => some reading.entries
    | '#' :: _ => do Reading.run? size fuel reading (← nextLine? text)
    | '[' :: rest => do
      let (reading, next) ← reading.header? size rest
      reading.run? size fuel next
    | c :: rest =>
      match afterNewLine? (c :: rest) with
      | some next => reading.run? size fuel next
      | none => do
        let (reading, next) ← reading.pair? size (c :: rest)
        reading.run? size fuel next

/-- The table that a text holds, none where the text is malformed. A byte order mark may come
first. -/
def read? (text : List Char) : Option Entries :=
  let text := if text.head? = some '\uFEFF' then text.drop 1 else text
  Reading.run? (2 * text.length + 2) (text.length + 1) {} text

end ClientPlan.Toml
