import ClientPlan.Text.Replace

/-! # Replacing word by word

A text without some character of a word has no occurrence of the word, and replacing it changes
nothing. A character that no occurrence goes on with parts a text in two that are replaced on their
own.
-/

namespace ClientPlan.Text

theorem replace_of_not_mem {word text : List Char} {c : Char} (hword : c ∈ word) (htext : c ∉ text)
    (by_ : List Char) : replace word by_ text = text := by
  rw [replace]
  induction text with
  | nil => rfl
  | cons d rest ih =>
      have hrest : c ∉ rest := fun hmem => htext (List.mem_cons_of_mem _ hmem)
      rw [replaceAfter, if_neg, ih hrest]
      intro hprefix
      exact htext ((List.isPrefixOf_iff_prefix.mp hprefix).subset hword)

/-! ## Replacing in parts -/

theorem prefix_of_prefix_append_cons {word first rest : List Char} {c : Char} (hc : c ∉ word)
    (hbegin : word <+: first ++ c :: rest) : word <+: first := by
  induction first generalizing word with
  | nil =>
      rcases List.prefix_cons_iff.mp hbegin with rfl | ⟨tail, rfl, _⟩
      · exact List.nil_prefix
      · exact absurd List.mem_cons_self hc
  | cons d first ih =>
      rcases List.prefix_cons_iff.mp hbegin with rfl | ⟨tail, rfl, htail⟩
      · exact List.nil_prefix
      · have hnot : c ∉ tail := fun hmem => hc (List.mem_cons_of_mem _ hmem)
        exact List.cons_prefix_cons.mpr ⟨rfl, ih hnot htail⟩

/-- An occurrence does not reach over a character that the word does not go on with. -/
theorem prefix_cons_append_cons_iff {word first rest : List Char} {c d : Char}
    (hc : c ∉ word.tail) : word <+: d :: (first ++ c :: rest) ↔ word <+: d :: first := by
  cases word with
  | nil => simp
  | cons w tail =>
      rw [List.cons_prefix_cons, List.cons_prefix_cons]
      refine and_congr_right fun _ => ⟨prefix_of_prefix_append_cons hc, fun hbegin => ?_⟩
      exact hbegin.trans (List.prefix_append _ _)

theorem replaceAfter_append_cons {word : List Char} {c : Char} (hc : c ∉ word.tail)
    (by_ rest : List Char) {skip : Nat} {first : List Char} (hskip : skip ≤ first.length) :
    replaceAfter word by_ skip (first ++ c :: rest) =
      replaceAfter word by_ skip first ++ replace word by_ (c :: rest) := by
  induction first generalizing skip with
  | nil =>
      obtain rfl := Nat.le_zero.mp hskip
      rfl
  | cons d first ih =>
      cases skip with
      | succ skip => exact ih (Nat.le_of_succ_le_succ hskip)
      | zero =>
          rw [List.cons_append, replaceAfter, replaceAfter]
          simp only [List.isPrefixOf_iff_prefix, prefix_cons_append_cons_iff hc]
          split
          next hword =>
            have hle := hword.length_le
            rw [List.length_cons] at hle
            rw [ih (by omega), List.append_assoc]
          next => rw [ih (Nat.zero_le _), List.cons_append]

theorem replace_append_cons {word : List Char} {c : Char} (hc : c ∉ word.tail)
    (by_ first rest : List Char) :
    replace word by_ (first ++ c :: rest) =
      replace word by_ first ++ replace word by_ (c :: rest) :=
  replaceAfter_append_cons hc by_ rest (Nat.zero_le _)

theorem replace_append_of_not_mem {w : Char} {plain : List Char} (hplain : w ∉ plain)
    (tail by_ rest : List Char) :
    replace (w :: tail) by_ (plain ++ rest) = plain ++ replace (w :: tail) by_ rest := by
  induction plain with
  | nil => rfl
  | cons c plain ih =>
      obtain ⟨hc, hplain⟩ := List.ne_and_not_mem_of_not_mem_cons hplain
      rw [List.cons_append, replace, replaceAfter, if_neg, ← replace, ih hplain, List.cons_append]
      intro hbegin
      exact hc (List.cons_prefix_cons.mp (List.isPrefixOf_iff_prefix.mp hbegin)).1

theorem replaceAfter_eq_replace_drop (word by_ : List Char) (skip : Nat) (text : List Char) :
    replaceAfter word by_ skip text = replace word by_ (text.drop skip) := by
  induction text generalizing skip with
  | nil => rw [List.drop_nil, replace, replaceAfter, replaceAfter]
  | cons c rest ih =>
      cases skip with
      | zero => rfl
      | succ skip => exact ih skip

theorem replace_word_append (w : Char) (tail by_ rest : List Char) :
    replace (w :: tail) by_ (w :: tail ++ rest) = by_ ++ replace (w :: tail) by_ rest := by
  have hbegin : (w :: tail).isPrefixOf (w :: (tail ++ rest)) = true :=
    List.isPrefixOf_iff_prefix.mpr (List.prefix_append (w :: tail) rest)
  rw [List.cons_append, replace, replaceAfter, if_pos hbegin, replaceAfter_eq_replace_drop,
    List.length_cons, Nat.add_sub_cancel, List.drop_left]

/-! ## What a replaced text holds -/

section

variable {word : List Char} {replacement : Char}

/-- Each character that is looked at leaves one behind, itself or the replacement. -/
theorem exists_replaceAfter_cons (word : List Char) (replacement c : Char) (rest : List Char) :
    ∃ d skip, (d = replacement ∨ d = c) ∧
      replaceAfter word [replacement] 0 (c :: rest) =
        d :: replaceAfter word [replacement] skip rest := by
  rw [replaceAfter]
  split
  next => exact ⟨replacement, _, .inl rfl, rfl⟩
  next => exact ⟨c, _, .inr rfl, rfl⟩

theorem mem_of_mem_replaceAfter {c : Char} {skip : Nat} {text : List Char}
    (hmem : c ∈ replaceAfter word [replacement] skip text) : c = replacement ∨ c ∈ text := by
  induction text generalizing skip with
  | nil => cases hmem
  | cons d rest ih =>
      cases skip with
      | succ skip => exact (ih hmem).imp_right (List.mem_cons_of_mem _)
      | zero =>
          obtain ⟨first, skip, hfirst, heq⟩ := exists_replaceAfter_cons word replacement d rest
          rw [heq] at hmem
          rcases List.mem_cons.mp hmem with rfl | hrest
          · rcases hfirst with hc | hc
            · exact .inl hc
            · exact .inr (List.mem_cons.mpr (.inl hc))
          · exact (ih hrest).imp_right (List.mem_cons_of_mem _)

theorem replace_ne_nil {text : List Char} (htext : text ≠ []) :
    replace word [replacement] text ≠ [] := by
  obtain ⟨c, rest, rfl⟩ := List.exists_cons_of_ne_nil htext
  obtain ⟨d, skip, _, heq⟩ := exists_replaceAfter_cons word replacement c rest
  rw [replace, heq]
  exact List.cons_ne_nil _ _

variable {part : List Char} (hpart : replacement ∉ part)

include hpart

theorem prefix_of_prefix_replace {text : List Char}
    (hbegin : part <+: replace word [replacement] text) : part <+: text := by
  induction text generalizing part with
  | nil => exact hbegin
  | cons c rest ih =>
      rw [replace, replaceAfter] at hbegin
      split at hbegin
      all_goals
        rcases List.prefix_cons_iff.mp hbegin with rfl | ⟨tail, rfl, htail⟩
        · exact List.nil_prefix
      next => exact absurd List.mem_cons_self hpart
      next =>
        have hnot : replacement ∉ tail := fun hmem => hpart (List.mem_cons_of_mem _ hmem)
        exact List.cons_prefix_cons.mpr ⟨rfl, ih hnot htail⟩

/-- What does not hold the replacement stood in the text before. -/
theorem infix_of_infix_replaceAfter {skip : Nat} {text : List Char}
    (hoccurs : part <:+: replaceAfter word [replacement] skip text) : part <:+: text := by
  induction text generalizing skip with
  | nil => exact hoccurs
  | cons c rest ih =>
      cases skip with
      | succ skip => exact (ih hoccurs).trans (List.infix_cons (List.infix_refl _))
      | zero =>
          obtain ⟨d, skip, _, heq⟩ := exists_replaceAfter_cons word replacement c rest
          rw [heq] at hoccurs
          rcases List.infix_cons_iff.mp hoccurs with hbegin | hlater
          · rw [← heq] at hbegin
            exact (prefix_of_prefix_replace hpart hbegin).isInfix
          · exact (ih hlater).trans (List.infix_cons (List.infix_refl _))

end

/-! ## Words that do not occur -/

theorem replace_cons_of_not_begins {word rest : List Char} {c : Char}
    (hbegin : ¬ word <+: c :: rest) (by_ : List Char) :
    replace word by_ (c :: rest) = c :: replace word by_ rest := by
  rw [replace, replaceAfter, if_neg (mt List.isPrefixOf_iff_prefix.mp hbegin)]
  rfl

theorem replace_of_not_occurs {word text : List Char} (htext : ¬ word <:+: text)
    (by_ : List Char) : replace word by_ text = text := by
  induction text with
  | nil => rfl
  | cons c rest ih =>
      have hbegin : ¬ word <+: c :: rest := fun hword => htext hword.isInfix
      rw [replace_cons_of_not_begins hbegin, ih fun hrest => htext (List.infix_cons hrest)]

/-- A replacement that is no character of the word leaves no occurrence of it, not even across the
places that were replaced. -/
theorem not_infix_replaceAfter {word : List Char} {replacement : Char} (hne : word ≠ [])
    (hword : replacement ∉ word) (skip : Nat) (text : List Char) :
    ¬ word <:+: replaceAfter word [replacement] skip text := by
  intro hoccurs
  induction text generalizing skip with
  | nil => exact hne (List.infix_nil.mp hoccurs)
  | cons c rest ih =>
      cases skip with
      | succ skip => exact ih skip hoccurs
      | zero =>
          by_cases hbegin : word <+: c :: rest
          · rw [replaceAfter, if_pos (List.isPrefixOf_iff_prefix.mpr hbegin),
              List.singleton_append] at hoccurs
            rcases List.infix_cons_iff.mp hoccurs with hfirst | hlater
            · rcases List.prefix_cons_iff.mp hfirst with hnil | ⟨tail, rfl, _⟩
              · exact hne hnil
              · exact hword List.mem_cons_self
            · exact ih _ hlater
          · rw [← replace, replace_cons_of_not_begins hbegin] at hoccurs
            rcases List.infix_cons_iff.mp hoccurs with hfirst | hlater
            · rw [← replace_cons_of_not_begins hbegin] at hfirst
              exact hbegin (prefix_of_prefix_replace hword hfirst)
            · exact ih 0 hlater

/-! ## Two words that begin with the same mark

Each word has its mark at the beginning and nowhere else, so occurrences of the two never overlap,
and the replaced text has only those occurrences that stood there before. -/

section

variable {mark : Char} {first second : List Char} {a b : Char}

/-- The first word is replaced, then the second. -/
def replaceBoth (mark : Char) (first second : List Char) (a b : Char) (text : List Char) :
    List Char :=
  replace (mark :: second) [b] (replace (mark :: first) [a] text)

theorem replaceBoth_first_append (ha : a ≠ mark) (rest : List Char) :
    replaceBoth mark first second a b (mark :: first ++ rest) =
      a :: replaceBoth mark first second a b rest := by
  have hplain : mark ∉ [a] := fun hmem => ha (List.mem_singleton.mp hmem).symm
  rw [replaceBoth, replace_word_append, replace_append_of_not_mem hplain]
  rfl

theorem replaceBoth_second_append (hsecond : mark ∉ second) {rest : List Char}
    (hbegin : ¬ mark :: first <+: mark :: second ++ rest) :
    replaceBoth mark first second a b (mark :: second ++ rest) =
      b :: replaceBoth mark first second a b rest := by
  rw [List.cons_append] at hbegin
  rw [replaceBoth, List.cons_append, replace_cons_of_not_begins hbegin,
    replace_append_of_not_mem hsecond, ← List.cons_append, replace_word_append]
  rfl

theorem replaceBoth_cons {c : Char} {rest : List Char} (ha : a ∉ mark :: second)
    (hfirst : ¬ mark :: first <+: c :: rest) (hsecond : ¬ mark :: second <+: c :: rest) :
    replaceBoth mark first second a b (c :: rest) =
      c :: replaceBoth mark first second a b rest := by
  have hbegin : ¬ mark :: second <+: c :: replace (mark :: first) [a] rest := by
    intro hword
    rw [← replace_cons_of_not_begins hfirst] at hword
    exact hsecond (prefix_of_prefix_replace ha hword)
  rw [replaceBoth, replace_cons_of_not_begins hfirst, replace_cons_of_not_begins hbegin]
  rfl

end

/-! ## Reading off the beginning -/

/-- The first separator is the one behind a text without separators. -/
theorem splitOnce_append {separator : Char} {before : List Char} (hbefore : separator ∉ before)
    (rest : List Char) :
    splitOnce separator (before ++ separator :: rest) = some (before, rest) := by
  induction before with
  | nil => rw [List.nil_append, splitOnce, if_pos rfl]
  | cons c before ih =>
      obtain ⟨hc, hbefore⟩ := List.ne_and_not_mem_of_not_mem_cons hbefore
      rw [List.cons_append, splitOnce, if_neg (Ne.symm hc), ih hbefore]
      rfl

theorem eq_append_of_splitOnce {separator : Char} {text before rest : List Char}
    (hsplit : splitOnce separator text = some (before, rest)) :
    text = before ++ separator :: rest ∧ separator ∉ before := by
  induction text generalizing before with
  | nil => cases hsplit
  | cons c text ih =>
      rw [splitOnce] at hsplit
      split at hsplit
      next hc =>
        obtain ⟨rfl, rfl⟩ := Prod.mk.inj (Option.some.inj hsplit)
        exact ⟨by rw [hc, List.nil_append], List.not_mem_nil⟩
      next hc =>
        obtain ⟨⟨parsed, after⟩, hparts, hpair⟩ := Option.map_eq_some_iff.mp hsplit
        obtain ⟨rfl, rfl⟩ := Prod.mk.inj hpair
        obtain ⟨rfl, hfree⟩ := ih hparts
        exact ⟨rfl, List.not_mem_cons_of_ne_of_not_mem (Ne.symm hc) hfree⟩

theorem eq_append_of_dropWord? {word text rest : List Char} (hdrop : dropWord? word text = some rest) :
    text = word ++ rest := by
  induction word generalizing text with
  | nil => exact Option.some.inj hdrop
  | cons w word ih =>
      cases text with
      | nil => cases hdrop
      | cons c text =>
          rw [dropWord?] at hdrop
          split at hdrop
          next hc => rw [← hc, ih hdrop, List.cons_append]
          next => cases hdrop

theorem dropWord?_append (word rest : List Char) : dropWord? word (word ++ rest) = some rest := by
  induction word with
  | nil => rfl
  | cons w word ih => rw [List.cons_append, dropWord?, if_pos rfl, ih]

end ClientPlan.Text
