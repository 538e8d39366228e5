import ClientPlan.Proofs.Code.DeclarationReading
import ClientPlan.Proofs.OpenApi.TypeForm

/-! # The text of types

What is written for the type of a schema is the text of a type, if the component in it has a name
that is an identifier.
-/

namespace ClientPlan.OpenApi.TypeForm

open Code

/-- The tokens of a type, as it is written. -/
def tokens : TypeForm → List Token
  | basic type => [.word type.word]
  | component name => [.word name]
  | list items => .word "Array" :: .mark "<" :: (items.tokens ++ [Token.mark ">"])
  | record values =>
      .word "Record" :: .mark "<" :: .word "string" :: .mark "," ::
        (values.tokens ++ [Token.mark ">"])

/-! ## The tokens of a written type -/

theorem mark?_opening {c : Char} (hc : isIdentifierStart c = true) (rest : List Char) :
    mark? ('<' :: c :: rest) = some ("<", c :: rest) := by
  have hless : '<' ≠ c := by
    rintro rfl
    exact absurd hc (by decide)
  have hequal : '=' ≠ c := by
    rintro rfl
    exact absurd hc (by decide)
  simp [mark?, marks, Text.dropWord?, hless, hequal]

section

variable {form : TypeForm} (hname : ∀ name, form.component? = some name → IsIdentifier name)

include hname

theorem exists_head_text :
    ∃ c rest, form.text.toList = c :: rest ∧ isIdentifierStart c = true := by
  cases form with
  | basic type => cases type <;> exact ⟨_, _, rfl, by decide⟩
  | component name =>
      have hstart := (hname name rfl).start
      obtain ⟨c, rest, htext⟩ := List.exists_cons_of_ne_nil (hname name rfl).toList_ne_nil
      rw [htext] at hstart
      exact ⟨c, rest, htext, by simpa using hstart⟩
  | list items => exact ⟨'A', _, toList_listText items.text, by decide⟩
  | record values => exact ⟨'R', _, toList_recordText values.text, by decide⟩

theorem tokens?_text_append {rest : List Char}
    (hrest : ∀ c ∈ rest.head?, isIdentifierPart c = false) :
    tokens? (form.text.toList ++ rest) = (tokens? rest).map (form.tokens ++ ·) := by
  have hclosing : ∀ rest, mark? ('>' :: rest) = some (">", rest) := fun _ => rfl
  have hend : ∀ rest : List Char, ∀ c ∈ ('>' :: rest).head?, isIdentifierPart c = false := by
    rintro rest c ⟨⟩
    decide
  induction form generalizing rest with
  | basic type => exact tokens?_word (by cases type <;> decide) hrest
  | component name => exact tokens?_word (hname name rfl).isIdentifierName hrest
  | list items ih =>
      have hopening : mark? ('<' :: (items.text.toList ++ '>' :: rest)) =
          some ("<", items.text.toList ++ '>' :: rest) := by
        have hitems : ∀ name, items.component? = some name → IsIdentifier name := hname
        obtain ⟨c, tail, htext, hc⟩ := exists_head_text hitems
        rw [htext]
        exact mark?_opening hc _
      change tokens? ((listText items.text).toList ++ rest) = _
      rw [toList_listText, List.append_assoc, List.cons_append, List.append_assoc,
        List.singleton_append, tokens?_word_cons (by decide) (by decide), tokens?_mark hopening,
        ih hname (hend rest), tokens?_mark (hclosing rest)]
      cases tokens? rest <;> simp [TypeForm.tokens]
  | record values ih =>
      have hopening : ∀ rest, mark? ('<' :: ("string".toList ++ rest)) =
          some ("<", "string".toList ++ rest) := fun _ => rfl
      have hcomma : ∀ rest, mark? (',' :: ' ' :: rest) = some (",", ' ' :: rest) := fun _ => rfl
      change tokens? ((recordText values.text).toList ++ rest) = _
      rw [toList_recordText, List.append_assoc, List.cons_append, List.append_assoc,
        List.cons_append, List.cons_append, List.append_assoc, List.singleton_append,
        tokens?_word_cons (by decide) (by decide), tokens?_mark (hopening _),
        tokens?_word_cons (by decide) (by decide), tokens?_mark (hcomma _), tokens?_space,
        ih hname (hend rest), tokens?_mark (hclosing rest)]
      cases tokens? rest <;> simp [TypeForm.tokens]

/-! ## A written type is a type -/

/-- A written type goes on as a type that has been read up to its end. -/
theorem completesType_tokens_append (opened : Nat) (rest : List Token) :
    ∃ place, place ≠ .start ∧
      completesType opened .start (form.tokens ++ rest) = completesType opened place rest := by
  induction form generalizing opened rest with
  | basic type =>
      have htype : type.word ∉ reservedWords ∨ type.word ∈ typeWords := by
        cases type <;> decide
      exact ⟨.name, by decide, by simp [tokens, completesType, htype]⟩
  | component name =>
      have hfree := (hname name rfl).not_reserved
      exact ⟨.name, by decide, by simp [tokens, completesType, hfree]⟩
  | list items ih =>
      obtain ⟨place, hplace, hitems⟩ := ih hname (opened + 1) (.mark ">" :: rest)
      have harray : "Array" ∉ reservedWords := by decide
      refine ⟨.arguments, by decide, ?_⟩
      simp [tokens, completesType, harray, hitems, hplace]
  | record values ih =>
      obtain ⟨place, hplace, hvalues⟩ := ih hname (opened + 1) (.mark ">" :: rest)
      have hrecord : "Record" ∉ reservedWords ∧ "string" ∉ reservedWords := by decide
      refine ⟨.arguments, by decide, ?_⟩
      simp [tokens, completesType, hrecord.1, hrecord.2, hvalues, hplace]

theorem isTypeText_text : IsTypeText form.text := by
  have htokens := @tokens?_text_append form hname [] (by simp)
  obtain ⟨place, hplace, htype⟩ := completesType_tokens_append hname 0 []
  rw [List.append_nil] at htokens htype
  rw [tokens?_nil] at htokens
  refine isTypeText_iff.mpr ⟨form.tokens ++ [], htokens, ?_⟩
  rw [List.append_nil, isType, htype]
  simp [completesType, hplace]

end

end ClientPlan.OpenApi.TypeForm
