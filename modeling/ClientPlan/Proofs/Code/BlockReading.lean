import Mathlib.Data.List.Forall2

/-! # Reading blocks

Files are read by lines. A block opens at a line that has a head on it and goes on to the line that
closes it, and a text that is put together from parts has the blocks of its parts.
-/

namespace ClientPlan.Code

/-- The head of a block, and the lines between the one that it is read from and the one that closes
it. -/
structure Block (α : Type) where
  head : α
  inner : List String
  deriving DecidableEq, Repr

/-- How blocks of a kind open and close. -/
structure BlockReader (α : Type) where
  head? : String → Option α
  close : α → String

namespace BlockReader

variable {α : Type} (reader : BlockReader α)

/-- The blocks in some lines. What is never closed is no block. -/
def blocks : List String → List (Block α)
  | [] => []
  | line :: rest =>
    match reader.head? line with
    | none => blocks rest
    | some head =>
      if reader.close head ∈ rest then
        ⟨head, rest.takeWhile (· ≠ reader.close head)⟩ :: blocks rest
      else blocks rest

/-- The lines hold one block for each item, in order, whatever lines come after them. -/
def Holds {β : Type} (IsBlock : Block α → β → Prop) (lines : List String) (items : List β) :
    Prop :=
  ∃ found, List.Forall₂ IsBlock found items ∧
    ∀ rest, reader.blocks (lines ++ rest) = found ++ reader.blocks rest

section

variable {reader} {β : Type} {IsBlock : Block α → β → Prop}

theorem Holds.forall₂ {lines : List String} {items : List β}
    (hlines : reader.Holds IsBlock lines items) :
    List.Forall₂ IsBlock (reader.blocks lines) items := by
  obtain ⟨found, hfound, hread⟩ := hlines
  have hall := hread []
  rw [List.append_nil] at hall
  rw [hall, blocks, List.append_nil]
  exact hfound

/-- What stands behind the lines does not change what is read in them. -/
theorem Holds.blocks_append {lines : List String} {items : List β}
    (hlines : reader.Holds IsBlock lines items) (rest : List String) :
    reader.blocks (lines ++ rest) = reader.blocks lines ++ reader.blocks rest := by
  obtain ⟨found, -, hread⟩ := hlines
  have hall := hread []
  rw [List.append_nil, blocks, List.append_nil] at hall
  rw [hread, hall]

theorem Holds.blocks_eq_nil {lines : List String} (hlines : reader.Holds IsBlock lines []) :
    reader.blocks lines = [] :=
  List.forall₂_nil_right_iff.mp hlines.forall₂

/-- Lines that open nothing hold nothing. -/
theorem holds_nil {lines : List String} (hlines : ∀ line ∈ lines, reader.head? line = none) :
    reader.Holds IsBlock lines [] := by
  refine ⟨[], .nil, fun rest => ?_⟩
  induction lines with
  | nil => rfl
  | cons line lines ih =>
      obtain ⟨hline, hlines⟩ := List.forall_mem_cons.mp hlines
      rw [List.cons_append, blocks, hline]
      exact ih hlines

theorem Holds.append {first second : List String} {items others : List β}
    (hfirst : reader.Holds IsBlock first items) (hsecond : reader.Holds IsBlock second others) :
    reader.Holds IsBlock (first ++ second) (items ++ others) := by
  obtain ⟨found, hfound, hread⟩ := hfirst
  obtain ⟨later, hlater, hreadOn⟩ := hsecond
  refine ⟨found ++ later, List.rel_append hfound hlater, fun rest => ?_⟩
  rw [List.append_assoc, hread, hreadOn, List.append_assoc]

theorem Holds.flatMap {γ : Type} {parts : List γ} {lines : γ → List String} {items : γ → List β}
    (hparts : ∀ part ∈ parts, reader.Holds IsBlock (lines part) (items part)) :
    reader.Holds IsBlock (parts.flatMap lines) (parts.flatMap items) := by
  induction parts with
  | nil => exact holds_nil (List.forall_mem_nil _)
  | cons part parts ih =>
      obtain ⟨hpart, hparts⟩ := List.forall_mem_cons.mp hparts
      rw [List.flatMap_cons, List.flatMap_cons]
      exact hpart.append (ih hparts)

/-- A line with a head, the lines of its block and the line that closes it hold that block. -/
theorem holds_block {line closing : String} {block : Block α} {item : β}
    (hblock : IsBlock block item) (hline : reader.head? line = some block.head)
    (hclosing : reader.close block.head = closing)
    (hinner : ∀ line ∈ block.inner, reader.head? line = none ∧ line ≠ closing)
    (hend : reader.head? closing = none) :
    reader.Holds IsBlock (line :: (block.inner ++ [closing])) [item] := by
  subst hclosing
  refine ⟨[block], .cons hblock .nil, fun rest => ?_⟩
  have hmem : reader.close block.head ∈ block.inner ++ [reader.close block.head] ++ rest := by simp
  have hinside : ∀ line ∈ block.inner, decide (line ≠ reader.close block.head) = true :=
    fun line hline => decide_eq_true (hinner line hline).2
  -- Nothing opens inside, so reading goes on behind the block.
  obtain ⟨_, hnil, hread⟩ : reader.Holds IsBlock (block.inner ++ [reader.close block.head]) [] :=
    holds_nil fun line hline => by
      rcases List.mem_append.mp hline with hline | hline
      · exact (hinner line hline).1
      · rw [List.mem_singleton.mp hline, hend]
  cases hnil
  rw [List.cons_append, blocks, hline]
  simp only [if_pos hmem]
  rw [hread, List.append_assoc, List.takeWhile_append_of_pos hinside, List.singleton_append,
    List.takeWhile_cons_of_neg (by simp), List.append_nil]
  rfl

end

end BlockReader

end ClientPlan.Code
