import Mathlib.Logic.Basic
import Mathlib.Tactic.MkIffOfInductiveProp
import ClientPlan.Code.Basic
import ClientPlan.PathTemplate.Basic
import ClientPlan.Text.Case
import ClientPlan.Proofs.Code.IdentifierTable

/-! # Identifiers of the generated language

Which names can be bound in generated code, and that a suffix keeps a name so. Files are modules, and
so the words that only strict code reserves are reserved.
-/

namespace ClientPlan.Code

open Client Text

def isIdentifierStart (c : Char) : Bool :=
  if c.toNat < 128 then isAsciiUpper c || isAsciiLower c || c = '$' || c = '_'
  else inRanges identifierStartRanges c

def isIdentifierPart (c : Char) : Bool :=
  isIdentifierStart c ||
    if c.toNat < 128 then isAsciiDigit c else inRanges identifierPartRanges c

/-- The words that are no identifiers: those of the grammar, then those of strict code. -/
def reservedWords : List String :=
  ["break", "case", "catch", "class", "const", "continue", "debugger", "default", "delete", "do",
    "else", "enum", "export", "extends", "false", "finally", "for", "function", "if", "import",
    "in", "instanceof", "new", "null", "return", "super", "switch", "this", "throw", "true", "try",
    "typeof", "var", "void", "while", "with",
    "await", "implements", "interface", "let", "package", "private", "protected", "public",
    "static", "yield"]

/-- An identifier, written without escapes. -/
@[mk_iff]
structure IsIdentifier (name : String) : Prop where
  start : name.toList.head?.any isIdentifierStart = true
  parts : name.toList.all isIdentifierPart = true
  not_reserved : name ∉ reservedWords

instance (name : String) : Decidable (IsIdentifier name) :=
  decidable_of_iff' _ (isIdentifier_iff name)

section

variable {name : String} (hname : IsIdentifier name)

include hname

theorem IsIdentifier.toList_ne_nil : name.toList ≠ [] := by
  intro hnil
  have hstart := hname.start
  rw [hnil] at hstart
  cases hstart

theorem IsIdentifier.not_mem {c : Char} (hc : isIdentifierPart c = false) : c ∉ name.toList := by
  intro hmem
  exact Bool.false_ne_true (hc.symm.trans (List.all_eq_true.mp hname.parts c hmem))

/-- A suffix in which no reserved word ends keeps an identifier one. -/
theorem IsIdentifier.append {suffix : String}
    (hparts : suffix.toList.all isIdentifierPart = true)
    (hwords : ∀ word ∈ reservedWords, ¬ suffix.toList <:+ word.toList) :
    IsIdentifier (name ++ suffix) where
  start := by
    have hstart := hname.start
    rw [String.toList_append]
    cases hchars : name.toList with
    | nil => exact absurd hchars hname.toList_ne_nil
    | cons c rest => rwa [hchars] at hstart
  parts := by
    rw [String.toList_append, List.all_append, hname.parts, hparts, Bool.and_self]
  not_reserved := by
    intro hword
    apply hwords _ hword
    rw [String.toList_append]
    exact List.suffix_append _ _

theorem IsIdentifier.variableFor (dialect : PathTemplate.Dialect) (isNumeric : Bool) :
    IsIdentifier (dialect.variableFor name isNumeric) := by
  unfold PathTemplate.Dialect.variableFor
  cases isNumeric with
  | false => exact hname.append (by decide) (by decide)
  | true =>
      cases dialect with
      | plain => exact hname
      | value => exact hname.append (by decide) (by decide)

end

end ClientPlan.Code
