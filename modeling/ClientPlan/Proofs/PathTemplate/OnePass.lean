import ClientPlan.Proofs.PathTemplate.Unescape

/-! # Unescaping in one pass

Entities are undone one kind after the other. The outcome is that of a single pass from left to
right: an entity has its ampersand at the beginning and no other, so neither replacement makes or
breaks an entity, whatever stands around it.
-/

namespace ClientPlan.PathTemplate

open Text

/-- The entity of an apostrophe. -/
def apostropheEntity : List Char :=
  "&#39;".toList

/-- A text with each entity undone where it stands, in one pass from left to right. -/
def onePass : List Char → List Char
  | '&' :: 'q' :: 'u' :: 'o' :: 't' :: ';' :: rest => '"' :: onePass rest
  | '&' :: '#' :: '3' :: '9' :: ';' :: rest => '\'' :: onePass rest
  | c :: rest => c :: onePass rest
  | [] => []

/-- What undoes the entities and keeps every other character is the one pass. -/
theorem eq_onePass {f : List Char → List Char} (hnil : f [] = [])
    (hquote : ∀ rest, f (quoteEntity ++ rest) = '"' :: f rest)
    (hapostrophe : ∀ rest, f (apostropheEntity ++ rest) = '\'' :: f rest)
    (hother : ∀ c rest, ¬ quoteEntity <+: c :: rest → ¬ apostropheEntity <+: c :: rest →
      f (c :: rest) = c :: f rest) (text : List Char) :
    f text = onePass text := by
  fun_induction onePass text with
  | case1 rest ih => exact (hquote rest).trans (congrArg _ ih)
  | case2 rest ih => exact (hapostrophe rest).trans (congrArg _ ih)
  | case3 c rest hnotQuote hnotApostrophe ih =>
      refine (hother c rest ?_ ?_).trans (congrArg _ ih)
      · rintro ⟨tail, htail⟩
        obtain ⟨rfl, rfl⟩ := List.cons.inj htail
        exact hnotQuote tail rfl rfl
      · rintro ⟨tail, htail⟩
        obtain ⟨rfl, rfl⟩ := List.cons.inj htail
        exact hnotApostrophe tail rfl rfl
  | case4 => exact hnil

/-- No text begins with both entities. -/
theorem not_both_begin {text : List Char} (hquote : quoteEntity <+: text) :
    ¬ apostropheEntity <+: text := by
  intro hapostrophe
  have hlength : apostropheEntity.length ≤ quoteEntity.length := by decide
  have hbegin : ¬ apostropheEntity <+: quoteEntity := by decide
  exact hbegin (List.prefix_of_prefix_length_le hapostrophe hquote hlength)

theorem not_quote_begins_apostropheEntity_append (rest : List Char) :
    ¬ quoteEntity <+: apostropheEntity ++ rest :=
  fun hquote => not_both_begin hquote (List.prefix_append _ _)

theorem not_apostrophe_begins_quoteEntity_append (rest : List Char) :
    ¬ apostropheEntity <+: quoteEntity ++ rest :=
  not_both_begin (List.prefix_append _ _)

/-! ## Both orders -/

theorem unescaped_eq_onePass (text : List Char) : unescaped text = onePass text := by
  have hboth : unescaped = replaceBoth '&' "quot;".toList "#39;".toList '"' '\'' := by
    funext text
    rw [unescaped, quoteEntity_eq, apostropheEntity_eq]
    rfl
  have hbegins := not_quote_begins_apostropheEntity_append
  rw [quoteEntity_eq, apostropheEntity, apostropheEntity_eq] at hbegins
  rw [hboth]
  refine eq_onePass rfl ?_ ?_ ?_ text
  · intro rest
    rw [quoteEntity_eq]
    exact replaceBoth_first_append (by decide) rest
  · intro rest
    rw [apostropheEntity, apostropheEntity_eq]
    exact replaceBoth_second_append (by decide) (hbegins rest)
  · intro c rest hquote hapostrophe
    rw [quoteEntity_eq] at hquote
    rw [apostropheEntity, apostropheEntity_eq] at hapostrophe
    exact replaceBoth_cons (by decide) hquote hapostrophe

/-- A text with the entities of apostrophes undone before those of quotes. -/
def unescapedInReverse (text : List Char) : List Char :=
  replace quoteEntity ['"'] (replace apostropheEntity ['\''] text)

theorem unescapedInReverse_eq_onePass (text : List Char) :
    unescapedInReverse text = onePass text := by
  have hboth : unescapedInReverse = replaceBoth '&' "#39;".toList "quot;".toList '\'' '"' := by
    funext text
    rw [unescapedInReverse, quoteEntity_eq, apostropheEntity, apostropheEntity_eq]
    rfl
  have hbegins := not_apostrophe_begins_quoteEntity_append
  rw [quoteEntity_eq, apostropheEntity, apostropheEntity_eq] at hbegins
  rw [hboth]
  refine eq_onePass rfl ?_ ?_ ?_ text
  · intro rest
    rw [quoteEntity_eq]
    exact replaceBoth_second_append (by decide) (hbegins rest)
  · intro rest
    rw [apostropheEntity, apostropheEntity_eq]
    exact replaceBoth_first_append (by decide) rest
  · intro c rest hquote hapostrophe
    rw [quoteEntity_eq] at hquote
    rw [apostropheEntity, apostropheEntity_eq] at hapostrophe
    exact replaceBoth_cons (by decide) hapostrophe hquote

/-! ## What is left of entities -/

theorem apostropheEntity_not_infix_unescaped (text : List Char) :
    ¬ apostropheEntity <:+: unescaped text :=
  not_infix_replaceAfter (by decide) (by decide) 0 _

theorem quoteEntity_not_infix_unescaped (text : List Char) :
    ¬ quoteEntity <:+: unescaped text := by
  intro hoccurs
  have hearlier := infix_of_infix_replaceAfter (by decide) hoccurs
  exact not_infix_replaceAfter (by decide) (by decide) 0 text hearlier

theorem unescaped_unescaped (text : List Char) : unescaped (unescaped text) = unescaped text := by
  have happlied : unescaped (unescaped text) =
      replace apostropheEntity ['\''] (replace quoteEntity ['"'] (unescaped text)) := rfl
  rw [happlied, replace_of_not_occurs (quoteEntity_not_infix_unescaped text),
    replace_of_not_occurs (apostropheEntity_not_infix_unescaped text)]

/-- Unescaping is one simultaneous pass. It leaves no entity, not even one that the replaced parts
would make together with their surroundings, so that unescaping again changes nothing, and the two
kinds of entity may be undone in either order. -/
theorem unescape_simultaneous (text : String) :
    unescape text = String.ofList (onePass text.toList) ∧
      ¬ quoteEntity <:+: (unescape text).toList ∧
      ¬ apostropheEntity <:+: (unescape text).toList ∧
      unescape (unescape text) = unescape text ∧
      unescape text = String.ofList (unescapedInReverse text.toList) := by
  have hlist := toList_unescape text
  refine ⟨?_, ?_, ?_, ?_, ?_⟩
  · rw [← unescaped_eq_onePass, ← hlist, String.ofList_toList]
  · rw [hlist]
    exact quoteEntity_not_infix_unescaped _
  · rw [hlist]
    exact apostropheEntity_not_infix_unescaped _
  · apply String.toList_inj.mp
    rw [toList_unescape, hlist, unescaped_unescaped]
  · rw [unescapedInReverse_eq_onePass, ← unescaped_eq_onePass, ← hlist, String.ofList_toList]

/-- A quote that stands inside a broken entity does not mend it. -/
example : unescape "&#3&quot;9;&&#39;quot;" = "&#3\"9;&'quot;" := by
  decide +kernel

end ClientPlan.PathTemplate
