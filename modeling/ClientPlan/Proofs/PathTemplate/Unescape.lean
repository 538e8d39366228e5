import ClientPlan.PathTemplate.Basic
import ClientPlan.Proofs.Text.Replace

/-! # Unescaping in parts

A path is unescaped part by part, wherever it is cut before a character that no entity goes on with.
-/

namespace ClientPlan.PathTemplate

open Text

/-- The entity of a quote. -/
def quoteEntity : List Char :=
  "&quot;".toList

/-- A text with its entities undone. -/
def unescaped (text : List Char) : List Char :=
  replace "&#39;".toList ['\''] (replace quoteEntity ['"'] text)

theorem toList_unescape (text : String) : (unescape text).toList = unescaped text.toList :=
  String.toList_ofList

theorem quoteEntity_eq : quoteEntity = '&' :: "quot;".toList := by
  decide

theorem apostropheEntity_eq : "&#39;".toList = '&' :: "#39;".toList := by
  decide

/-- What may stand behind a cut: a character with which no entity goes on. -/
def Cuts (c : Char) : Prop :=
  c ∉ "quot;".toList ∧ c ∉ "#39;".toList

instance (c : Char) : Decidable (Cuts c) :=
  inferInstanceAs (Decidable (_ ∧ _))

theorem unescaped_append_cons {c : Char} (hc : Cuts c) (first rest : List Char) :
    unescaped (first ++ c :: rest) = unescaped first ++ unescaped (c :: rest) := by
  obtain ⟨d, skip, hd, hreplace⟩ := exists_replaceAfter_cons quoteEntity '"' c rest
  have hcut : d ∉ ("&#39;".toList).tail := by
    rw [apostropheEntity_eq, List.tail_cons]
    rcases hd with rfl | rfl
    · decide
    · exact hc.2
  have hquot : c ∉ quoteEntity.tail := by
    rw [quoteEntity_eq, List.tail_cons]
    exact hc.1
  rw [← replace] at hreplace
  rw [unescaped, unescaped, unescaped, replace_append_cons hquot, hreplace,
    replace_append_cons hcut]

theorem unescaped_append_of_not_mem {plain : List Char} (hplain : '&' ∉ plain)
    (rest : List Char) : unescaped (plain ++ rest) = plain ++ unescaped rest := by
  rw [unescaped, unescaped, quoteEntity_eq, apostropheEntity_eq,
    replace_append_of_not_mem hplain, replace_append_of_not_mem hplain]

theorem unescaped_cut {c : Char} (hc : Cuts c) (hne : c ≠ '&') (first rest : List Char) :
    unescaped (first ++ c :: rest) = unescaped first ++ c :: unescaped rest := by
  have hnot : '&' ∉ [c] := fun hmem => hne (List.mem_singleton.mp hmem).symm
  rw [unescaped_append_cons hc]
  exact congrArg _ (unescaped_append_of_not_mem hnot rest)

theorem unescaped_quoteEntity_append (rest : List Char) :
    unescaped (quoteEntity ++ rest) = '"' :: unescaped rest := by
  have hquot : replace quoteEntity ['"'] (quoteEntity ++ rest) =
      '"' :: replace quoteEntity ['"'] rest := by
    rw [quoteEntity_eq, replace_word_append]
    rfl
  have hapostrophe : '&' ∉ ['"'] := by decide
  rw [unescaped, unescaped, hquot, apostropheEntity_eq]
  exact replace_append_of_not_mem hapostrophe _ _ _

/-! ## What an unescaped text holds -/

theorem mem_of_mem_unescaped {c : Char} {text : List Char} (hmem : c ∈ unescaped text) :
    c = '\'' ∨ c = '"' ∨ c ∈ text :=
  (mem_of_mem_replaceAfter hmem).imp_right mem_of_mem_replaceAfter

theorem not_mem_unescaped {c : Char} {text : List Char} (hapostrophe : c ≠ '\'') (hquote : c ≠ '"')
    (hc : c ∉ text) : c ∉ unescaped text := by
  intro hmem
  rcases mem_of_mem_unescaped hmem with rfl | rfl | hmem
  · exact hapostrophe rfl
  · exact hquote rfl
  · exact hc hmem

theorem unescaped_ne_nil {text : List Char} (htext : text ≠ []) : unescaped text ≠ [] :=
  replace_ne_nil (replace_ne_nil htext)

theorem infix_of_infix_unescaped {part text : List Char} (hquote : '"' ∉ part)
    (hapostrophe : '\'' ∉ part) (hoccurs : part <:+: unescaped text) : part <:+: text :=
  infix_of_infix_replaceAfter hquote (infix_of_infix_replaceAfter hapostrophe hoccurs)

end ClientPlan.PathTemplate
