import ClientPlan.Log.Record
import ClientPlan.Text.Blank
import ClientPlan.Text.Case
import ClientPlan.Text.Replace

/-! # Log filters

Which records are shown: for parts of the program by the beginnings of their names, where the
longest beginning counts. -/

namespace ClientPlan.Log

open Text

/-- The greatest rank that is shown for the parts whose names begin with the given text; rank zero
shows nothing. -/
structure Directive where
  target : String
  rank : Nat
  deriving DecidableEq, Inhabited, Repr

/-- Directives, of which a later one counts for the same target. -/
abbrev Filter := List Directive

namespace Filter

/-- The directive that counts for a part of the program: the last of those with the longest
target. -/
def directive? (filter : Filter) (target : String) : Option Directive :=
  (filter.filter fun directive => directive.target.toList.isPrefixOf target.toList).foldl
    (fun best directive =>
      if best.any fun found => directive.target.length < found.target.length then best
      else some directive) none

/-- Whether a record is shown. -/
def shows (filter : Filter) (record : Record) : Bool :=
  match filter.directive? record.target with
  | some directive => record.level.rank ≤ directive.rank
  | none => false

/-- A text in lower case, of ASCII letters only. -/
def asciiLower (text : String) : String :=
  String.ofList (text.toList.flatMap fun c => if c.toNat < 128 then lowerChar c else [c])

/-- The rank that a word or a digit means. -/
def rank? (word : String) : Option Nat :=
  [("off", 0), ("error", 1), ("warn", 2), ("info", 3), ("debug", 4), ("trace", 5), ("0", 0),
    ("1", 1), ("2", 2), ("3", 3), ("4", 4), ("5", 5)].lookup (asciiLower word)

/-- The characters of targets. -/
def isTargetChar (c : Char) : Bool :=
  isAsciiAlnum c || c = '_' || c = ':' || c = '-' || 128 ≤ c.toNat

/-- A directive: a rank for every target, a target with its rank, or a target of which everything is
shown. -/
def directiveOf? (text : String) : Option Directive :=
  match rank? text with
  | some rank => some ⟨"", rank⟩
  | none =>
    let target := text.toList.takeWhile isTargetChar
    if target.isEmpty then none
    else
      match text.toList.drop target.length with
      | [] => some ⟨String.ofList target, 5⟩
      | ['='] => some ⟨String.ofList target, 5⟩
      | '=' :: word => (rank? (String.ofList word)).map fun rank => ⟨String.ofList target, rank⟩
      | _ => none

/-- The directives of a list, and the elements that are none. Without a directive, errors are
shown. -/
def parse (text : String) : Filter × List String :=
  let items := (splitString ',' text).filter fun item => !item.isEmpty
  let directives := items.filterMap directiveOf?
  (if directives.isEmpty then [⟨"", 1⟩] else directives,
    items.filter fun item => (directiveOf? item).isNone)

/-- The parts of the program that a level alone is for. -/
def ownTargets : List String :=
  ["ngen", "ngen_core", "ngen_cli"]

/-- The filter that shows a rank of the own parts of the program. -/
def ofRank (rank : Nat) : Filter :=
  ownTargets.map fun target => ⟨target, rank⟩

/-- The words that are a level alone. -/
def levelRank? (word : String) : Option Nat :=
  [("error", 1), ("warn", 2), ("info", 3), ("debug", 4), ("trace", 5)].lookup (asciiLower word)

/-- The filter that a setting asks for, and the elements of the setting that mean nothing. A level
alone is for the own parts of the program, and so is the level `info` without a setting. -/
def ofSetting (setting : Option String) : Filter × List String :=
  match setting with
  | none => (ofRank 3, [])
  | some text =>
    match levelRank? text with
    | some rank => (ofRank rank, [])
    | none => if (trimmed text).isEmpty then (ofRank 3, []) else parse text

/-- The line about an element that means nothing. -/
def ignoredLine (item : String) : String :=
  "ignoring `" ++ item ++ "`: invalid filter directive"

end Filter

end ClientPlan.Log
