import ClientPlan.Source.ScalarType
import ClientPlan.Yaml.Gap

/-! # Quoted scalars

A scalar in apostrophes, where an apostrophe is written twice, or in double quotes, where a
backslash escapes. -/

namespace ClientPlan.Yaml

/-- The character that an escape with one letter stands for. -/
def escape? (c : Char) : Option Char :=
  [('0', '\x00'), ('a', '\x07'), ('b', '\x08'), ('t', '\t'), ('\t', '\t'), ('n', '\n'),
    ('v', '\x0b'), ('f', '\x0c'), ('r', '\r'), ('e', '\x1b'), (' ', ' '), ('"', '"'), ('/', '/'),
    ('\\', '\\'), ('N', '\u0085'), ('_', '\u00a0'), ('L', '\u2028'), ('P', '\u2029')].lookup c

/-- How many hexadecimal digits follow the letter of an escape. -/
def escapeWidth? (c : Char) : Option Nat :=
  [('x', 2), ('u', 4), ('U', 8)].lookup c

/-- The character with the given hexadecimal number. -/
def hexChar? (digits : List Char) : Option Char :=
  (Source.natural? 16 digits).bind fun code =>
    if code.isValidChar then some (Char.ofNat code) else none

/-- The character that the text after a backslash stands for, and the length of that text. -/
def escaped? : List Char → Option (Char × Nat)
  | [] => none
  | c :: rest =>
    match escapeWidth? c with
    | some width =>
      if rest.length < width then none
      else (hexChar? (rest.take width)).map fun found => (found, width + 1)
    | none => (escape? c).map fun found => (found, 1)

/-- The text of a scalar up to its closing quote, and the place after that. The text already read
comes the latest first. -/
def quotedAfter (quote : Char) (text : List Char) (cursor : Cursor) :
    Option (List Char × Cursor) :=
  if cursor.atMarker then none
  else
    match _hrest : cursor.rest with
    | [] => none
    | c :: rest =>
      if quote = '\'' && c = '\'' && rest.head? = some '\'' then
        quotedAfter quote ('\'' :: text) (cursor.skip 2)
      else if c = quote then some (text.reverse, cursor.skip 1)
      else if quote = '"' && c = '\\' then
        match _hbreak : (cursor.skip 1).lineBreak? with
        | some (_, next) =>
          let gap := next.gapAfter { joined := true }
          quotedAfter quote (gap.1.text.reverse ++ text) gap.2
        | none =>
          match escaped? rest with
          | some (found, width) => quotedAfter quote (found :: text) (cursor.skip (width + 1))
          | none => none
      else if isBlank c || isBreak c then
        let gap := cursor.gap
        if _hgap : gap.2.size < cursor.size then
          quotedAfter quote (gap.1.text.reverse ++ text) gap.2
        else none
      else quotedAfter quote (c :: text) (cursor.skip 1)
  termination_by cursor.size
  decreasing_by
    · exact Cursor.size_skip_lt _hrest 1
    · have hnext := Cursor.size_lt_of_lineBreak? _hbreak
      have hgap := Cursor.size_gapAfter_le { joined := true } next
      rw [Cursor.size_skip] at hnext
      omega
    · exact Cursor.size_skip_lt _hrest _
    · exact _hgap
    · exact Cursor.size_skip_lt _hrest 0

/-- The text of the scalar between quotes that begins at a place. -/
def quoted? (quote : Char) (cursor : Cursor) : Option (List Char × Cursor) :=
  quotedAfter quote [] (cursor.skip 1)

end ClientPlan.Yaml
