import ClientPlan.Json.Token

/-! # TOML strings

Strings in quotes or apostrophes, one of them or three. Between quotes a backslash escapes; three
of them let a string go over lines. -/

namespace ClientPlan.Toml

/-- The characters of a string besides its end and line breaks. -/
def isStringChar (c : Char) : Bool :=
  c = '\t' || (32 ≤ c.toNat && c.toNat ≠ 127)

/-- Blanks and tabs. -/
def isBlank (c : Char) : Bool :=
  c = ' ' || c = '\t'

/-- The text after a line break. -/
def afterNewLine? : List Char → Option (List Char)
  | '\n' :: rest => some rest
  | '\r' :: '\n' :: rest => some rest
  | _ => none

/-- The character that the text after a backslash stands for, and the length of that text. -/
def escaped? : List Char → Option (Char × Nat)
  | [] => none
  | c :: rest =>
    match [('u', 4), ('U', 8)].lookup c with
    | some width =>
      if rest.length < width then none
      else
        ((rest.take width).foldlM (fun code c => (Json.hexValue? c).map (16 * code + ·)) 0).bind
          fun code => if code.isValidChar then some (Char.ofNat code, width + 1) else none
    | none =>
      ([('b', '\x08'), ('f', '\x0c'), ('n', '\n'), ('r', '\r'), ('t', '\t'), ('"', '"'),
        ('\\', '\\')].lookup c).map fun found => (found, 1)

/-- Passes over blanks and line breaks. -/
def skipLines : List Char → List Char
  | '\r' :: '\n' :: rest => skipLines rest
  | c :: rest => if isBlank c || c = '\n' then skipLines rest else c :: rest
  | [] => []

/-- The rest of a string on one line up to its quote, and the text after it. The characters already
read come the latest first. -/
def lineString? (quote : Char) (read : List Char) : Nat → List Char →
    Option (List Char × List Char)
  | 0, _ => none
  | _, [] => none
  | fuel + 1, c :: rest =>
    if c = quote then some (read.reverse, rest)
    else if quote = '"' && c = '\\' then
      match escaped? rest with
      | some (found, width) => lineString? quote (found :: read) fuel (rest.drop width)
      | none => none
    else if isStringChar c then lineString? quote (c :: read) fuel rest
    else none

/-- The rest of a string over lines up to its three quotes, and the text after them. Two more quotes
before the end belong to the string. -/
def blockString? (quote : Char) (read : List Char) : Nat → List Char →
    Option (List Char × List Char)
  | 0, _ => none
  | _, [] => none
  | fuel + 1, c :: rest =>
    let quotes := ((c :: rest).takeWhile (· = quote)).length
    if quotes ≥ 3 then
      if quotes > 5 then none
      else some ((List.replicate (quotes - 3) quote ++ read).reverse, (c :: rest).drop quotes)
    else if quote = '"' && c = '\\' then
      match afterNewLine? (rest.dropWhile isBlank) with
      | some next => blockString? quote read fuel (skipLines next)
      | none =>
        match escaped? rest with
        | some (found, width) => blockString? quote (found :: read) fuel (rest.drop width)
        | none => none
    else
      match afterNewLine? (c :: rest) with
      | some next => blockString? quote ('\n' :: read) fuel next
      | none =>
        if isStringChar c then blockString? quote (c :: read) fuel rest else none

/-- The string on one line that begins with the given quote, and the text after it. -/
def simpleString? (fuel : Nat) : List Char → Option (String × List Char)
  | '"' :: rest => (lineString? '"' [] fuel rest).map fun (text, rest) => (String.ofList text, rest)
  | '\'' :: rest =>
    (lineString? '\'' [] fuel rest).map fun (text, rest) => (String.ofList text, rest)
  | _ => none

/-- The string that a text begins with, on one line or over several, and the text after it. A line
break right after three quotes is no part of the string. -/
def string? (fuel : Nat) (text : List Char) : Option (String × List Char) :=
  match text with
  | '"' :: '"' :: '"' :: rest => block '"' rest
  | '\'' :: '\'' :: '\'' :: rest => block '\'' rest
  | _ => simpleString? fuel text
where
  block (quote : Char) (rest : List Char) : Option (String × List Char) :=
    (blockString? quote [] fuel ((afterNewLine? rest).getD rest)).map fun (text, rest) =>
      (String.ofList text, rest)

end ClientPlan.Toml
