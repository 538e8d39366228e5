import ClientPlan.PathTemplate.Basic
import ClientPlan.Proofs.PathTemplate.Grammar

/-! # Factors of a raw path

A raw path is in one way an alternation of literal text, in which no placeholder starts, and of
placeholders. Rewriting asks for the name of each placeholder once, in order, and writes the answers
between the literal texts.
-/

namespace ClientPlan.PathTemplate

open Text

universe u

/-- Literal text and the placeholder behind it. -/
structure Part where
  literal : List Char
  placeholder : Placeholder

/-- No placeholder starts inside literal text that the rest of the path follows. -/
def Free (literal rest : List Char) : Prop :=
  ∀ start, start <:+ literal → start ≠ [] →
    ∀ found : Placeholder, found.WellFormed → ¬ found.source <+: start ++ rest

/-- A text as parts and the literal text behind the last placeholder. -/
inductive Factors : List Char → List Part → List Char → Prop
  | last {text : List Char} (hfree : Free text []) : Factors text [] text
  | part {literal rest last : List Char} {found : Placeholder} {parts : List Part}
      (hfree : Free literal (found.source ++ rest)) (hopens : found.Opens (found.source ++ rest))
      (hrest : Factors rest parts last) :
      Factors (literal ++ (found.source ++ rest)) (⟨literal, found⟩ :: parts) last

/-- A part as it is written when a variable is interpolated for its placeholder. -/
def Part.interpolate (part : Part) (variableName : String) : List Char :=
  part.literal ++ ('$' :: '{' :: variableName.toList ++ ['}'])

/-- The text of parts and of what is behind them, with a variable for each placeholder. -/
def fill (parts : List Part) (variableNames : List String) (last : List Char) : String :=
  String.ofList ((List.zipWith Part.interpolate parts variableNames).flatten ++ last)

/-- The names of the placeholders of parts, in order. -/
def names (parts : List Part) : List String :=
  parts.map fun part => part.placeholder.name

/-- What stands for names that were answered so: the answer, or the name itself. -/
def variableNames (names : List String) (answers : List (Option String)) : List String :=
  List.zipWith (fun name answer => answer.getD name) names answers

/-- The names that had no answer, in order and with their repetitions. -/
def unanswered (names : List String) (answers : List (Option String)) : List String :=
  ((names.zip answers).filter fun asked => asked.2.isNone).map Prod.fst

/-! ## Existence -/

/-- The segments of a part. -/
def Part.segments (part : Part) : List Segment :=
  part.literal.map .literal ++ [.placeholder part.placeholder]

theorem segmentsAfter_eq_segments_drop (skip : Nat) (text : List Char) :
    segmentsAfter skip text = segments (text.drop skip) := by
  induction text generalizing skip with
  | nil => rw [List.drop_nil, segments, segmentsAfter, segmentsAfter]
  | cons c rest ih =>
      cases skip with
      | zero => rfl
      | succ skip => rw [segmentsAfter, ih, List.drop_succ_cons]

theorem segments_of_placeholder?_eq_none {c : Char} {rest : List Char}
    (hnone : placeholder? (c :: rest) = none) :
    segments (c :: rest) = .literal c :: segments rest := by
  simp only [segments, segmentsAfter, hnone]

theorem segments_of_placeholder?_eq_some {text : List Char} {found : Placeholder}
    (hread : placeholder? text = some found) :
    ∃ rest, text = found.source ++ rest ∧ rest.length < text.length ∧
      segments text = .placeholder found :: segments rest := by
  obtain ⟨⟨rest, htext⟩, hne⟩ := placeholder?_source hread
  have hlength := congrArg List.length htext
  have hpos := List.length_pos_iff.mpr hne
  rw [List.length_append] at hlength
  refine ⟨rest, htext.symm, by omega, ?_⟩
  cases text with
  | nil => simp [hne] at htext
  | cons c later =>
      simp only [segments, segmentsAfter, hread]
      -- What is skipped is the placeholder, whose first character is read.
      have hskip : later.drop (found.source.length - 1) = rest := by
        rw [← List.drop_succ_cons, Nat.sub_add_cancel hpos, ← htext, List.drop_left]
      rw [segmentsAfter_eq_segments_drop, hskip, segments]

theorem Free.nil (rest : List Char) : Free [] rest := by
  intro start hsuffix hne
  exact absurd (List.suffix_nil.mp hsuffix) hne

theorem Free.cons {c : Char} {literal rest : List Char} (hfree : Free literal rest)
    (hnone : placeholder? (c :: (literal ++ rest)) = none) : Free (c :: literal) rest := by
  intro start hsuffix hne found hfound
  rcases List.suffix_cons_iff.mp hsuffix with rfl | hsuffix
  · exact not_prefix_of_placeholder?_eq_none hnone hfound
  · exact hfree start hsuffix hne found hfound

/-- The factors of a text, which are its segments when the characters between placeholders are
taken together. -/
theorem exists_factors (text : List Char) :
    ∃ parts last, Factors text parts last ∧
      segments text = parts.flatMap Part.segments ++ last.map .literal := by
  induction hlength : text.length using Nat.strong_induction_on generalizing text with
  | _ length ih =>
    subst hlength
    cases text with
    | nil => exact ⟨[], [], .last (.nil _), rfl⟩
    | cons c rest =>
        cases hread : placeholder? (c :: rest) with
        | some found =>
            obtain ⟨later, htext, hshorter, hsegments⟩ := segments_of_placeholder?_eq_some hread
            obtain ⟨parts, last, hfactors, hlater⟩ := ih later.length hshorter later rfl
            have hopens := opens_of_placeholder?_eq_some hread
            refine ⟨⟨[], found⟩ :: parts, last, ?_, ?_⟩
            · rw [htext] at hopens ⊢
              exact .part (.nil _) hopens hfactors
            · rw [hsegments, hlater]
              rfl
        | none =>
            have hsegments := segments_of_placeholder?_eq_none hread
            have hshorter : rest.length < (c :: rest).length := Nat.lt_succ_self _
            obtain ⟨parts, last, hfactors, hlater⟩ := ih rest.length hshorter rest rfl
            rw [hlater] at hsegments
            cases hfactors with
            | last hfree =>
                refine ⟨[], c :: rest, .last (hfree.cons ?_), hsegments⟩
                rwa [List.append_nil]
            | @part literal after _ found later hfree hopens hafter =>
                refine ⟨⟨c :: literal, found⟩ :: later, last, ?_, hsegments⟩
                exact .part (hfree.cons hread) hopens hafter

/-! ## Uniqueness -/

/-- Literal text reaches to the first place where a placeholder starts. -/
theorem Free.length_le {literal rest other text : List Char} {found : Placeholder}
    (hfree : Free literal rest) (heq : literal ++ rest = other ++ text)
    (hopens : found.Opens text) (hsource : found.source <+: text) :
    literal.length ≤ other.length := by
  rcases List.append_eq_append_iff.mp heq with ⟨middle, rfl, _⟩ | ⟨middle, rfl, rfl⟩
  · rw [List.length_append]
    exact Nat.le_add_right _ _
  · by_cases hnil : middle = []
    · rw [hnil, List.append_nil]
    · exact absurd hsource (hfree middle (List.suffix_append _ _) hnil found hopens.wellFormed)

theorem Placeholder.WellFormed.source_ne_nil {found : Placeholder} (hfound : found.WellFormed) :
    found.source ≠ [] := by
  cases hfound with
  | encoded hform => simp [Encoded.placeholder, Encoded.arguments]
  | braced hname => exact List.cons_ne_nil _ _

theorem Free.ne_append {text other rest : List Char} {found : Placeholder} (hfree : Free text [])
    (hfound : found.WellFormed) : text ≠ other ++ (found.source ++ rest) := by
  rintro rfl
  refine hfree (found.source ++ rest) (List.suffix_append _ _) ?_ found hfound ?_
  · simp only [ne_eq, List.append_eq_nil_iff, hfound.source_ne_nil, false_and, not_false_eq_true]
  · rw [List.append_nil]
    exact List.prefix_append _ _

theorem Factors.unique {text last otherLast : List Char} {parts others : List Part}
    (hfactors : Factors text parts last) (hothers : Factors text others otherLast) :
    others = parts ∧ otherLast = last := by
  induction hfactors generalizing others otherLast with
  | last hfree =>
      cases hothers with
      | last => exact ⟨rfl, rfl⟩
      | part _ hopens _ => exact absurd rfl (hfree.ne_append hopens.wellFormed)
  | @part literal rest last found parts hfree hopens _ ih =>
      generalize htext : literal ++ (found.source ++ rest) = text at hothers
      cases hothers with
      | last hother => exact absurd htext.symm (hother.ne_append hopens.wellFormed)
      | part hother hotherOpens hlater =>
          have hle := hfree.length_le htext hotherOpens (List.prefix_append _ _)
          have hge := hother.length_le htext.symm hopens (List.prefix_append _ _)
          obtain ⟨rfl, hsource⟩ := List.append_inj htext (by omega)
          rw [← hsource] at hotherOpens
          obtain rfl := hopens.unique hotherOpens
          obtain rfl := List.append_cancel_left hsource
          obtain ⟨rfl, rfl⟩ := ih hlater
          exact ⟨rfl, rfl⟩

theorem Factors.segments_eq {text last : List Char} {parts : List Part}
    (hfactors : Factors text parts last) :
    segments text = parts.flatMap Part.segments ++ last.map .literal := by
  obtain ⟨others, otherLast, hothers, hsegments⟩ := exists_factors text
  obtain ⟨rfl, rfl⟩ := hfactors.unique hothers
  exact hsegments

/-! ## Rewriting -/

theorem fill_cons (part : Part) (parts : List Part) (variableName : String)
    (variableNames : List String) (last : List Char) :
    fill (part :: parts) (variableName :: variableNames) last =
      String.ofList (part.interpolate variableName) ++ fill parts variableNames last := by
  rw [fill, fill, List.zipWith_cons_cons, List.flatten_cons, List.append_assoc,
    String.ofList_append]

theorem names_cons (part : Part) (parts : List Part) :
    names (part :: parts) = part.placeholder.name :: names parts :=
  rfl

theorem variableNames_cons (name : String) (names : List String) (answer : Option String)
    (answers : List (Option String)) :
    variableNames (name :: names) (answer :: answers) =
      answer.getD name :: variableNames names answers :=
  rfl

theorem unanswered_cons (name : String) (names : List String) (answer : Option String)
    (answers : List (Option String)) :
    unanswered (name :: names) (answer :: answers) =
      if answer.isNone then name :: unanswered names answers else unanswered names answers := by
  cases answer <;> rfl

theorem variableNames_map (names : List String) (resolve : String → Option String) :
    variableNames names (names.map resolve) = names.map fun name => (resolve name).getD name := by
  rw [variableNames, List.zipWith_map_right, List.zipWith_self]

theorem unanswered_map (names : List String) (resolve : String → Option String) :
    unanswered names (names.map resolve) = names.filter fun name => (resolve name).isNone := by
  induction names with
  | nil => rfl
  | cons name names ih => rw [List.map_cons, unanswered_cons, ih, List.filter_cons]

theorem flatMap_chars_map_literal (literal : List Char) :
    (literal.map Piece.literal).flatMap Piece.chars = literal := by
  induction literal with
  | nil => rfl
  | cons c literal ih =>
      rw [List.map_cons, List.flatMap_cons, ih, Piece.chars, List.singleton_append]

theorem text_part (part : Part) (variableName : String) (pieces : List Piece)
    (unresolved : List String) :
    (PathTemplate.mk (part.literal.map .literal ++ .hole variableName :: pieces) unresolved).text =
      String.ofList (part.interpolate variableName) ++
        (PathTemplate.mk pieces unresolved).text := by
  rw [PathTemplate.text, PathTemplate.text, List.flatMap_append, List.flatMap_cons,
    flatMap_chars_map_literal, ← List.append_assoc, String.ofList_append]
  rfl

section

variable {m : Type → Type u} [Monad m] [LawfulMonad m]

theorem rewriteSegmentsM_map_literal_append (resolve : String → m (Option String))
    (literal : List Char) (found : List Segment) :
    rewriteSegmentsM resolve (literal.map .literal ++ found) =
      (fun later => { later with pieces := literal.map .literal ++ later.pieces }) <$>
        rewriteSegmentsM resolve found := by
  induction literal with
  | nil => simp
  | cons c literal ih => simp [rewriteSegmentsM, ih]

theorem rewriteSegmentsM_pure (resolve : String → Option String) (found : List Segment) :
    rewriteSegmentsM (fun name => (pure (resolve name) : m (Option String))) found =
      pure
        { pieces := found.map (pieceOf resolve)
          unresolved := (placeholderNames found).filter fun name => (resolve name).isNone } := by
  induction found with
  | nil => rfl
  | cons segment rest ih =>
      cases segment with
      | literal c => simp [rewriteSegmentsM, ih, pieceOf, placeholderNames]
      | placeholder found =>
          simp [rewriteSegmentsM, ih, pieceOf, placeholderNames, List.filter_cons]

/-- A resolver without effects may be asked as often as one likes. -/
theorem rewriteM_pure (raw : String) (resolve : String → Option String) :
    rewriteM raw (fun name => (pure (resolve name) : m (Option String))) =
      pure (rewrite raw resolve) :=
  rewriteSegmentsM_pure resolve _

/-- What a rewriting shows: the text, and the names that had no answer. -/
def shown (template : PathTemplate) : String × List String :=
  (template.text, template.unresolved)

/-- What is shown of a part that was answered so, before what is shown of the later parts. -/
def Part.put (part : Part) (answer : Option String) (later : String × List String) :
    String × List String :=
  (String.ofList (part.interpolate (answer.getD part.placeholder.name)) ++ later.1,
    if answer.isNone then part.placeholder.name :: later.2 else later.2)

theorem shown_rewriteSegmentsM_part (resolve : String → m (Option String)) (part : Part)
    (found : List Segment) :
    shown <$> rewriteSegmentsM resolve (part.segments ++ found) =
      resolve part.placeholder.name >>= fun answer =>
        part.put answer <$> shown <$> rewriteSegmentsM resolve found := by
  rw [Part.segments, List.append_assoc, rewriteSegmentsM_map_literal_append,
    List.singleton_append, rewriteSegmentsM]
  simp only [map_bind, Functor.map_map, bind_pure_comp]
  apply bind_congr
  intro answer
  congr 1
  funext later
  rw [shown, text_part]
  rfl

theorem shown_rewriteSegmentsM_parts (resolve : String → m (Option String)) (parts : List Part)
    (last : List Char) :
    shown <$> rewriteSegmentsM resolve (parts.flatMap Part.segments ++ last.map .literal) =
      (fun answers => (fill parts (variableNames (names parts) answers) last,
        unanswered (names parts) answers)) <$> (names parts).mapM resolve := by
  induction parts with
  | nil =>
      have hlast := rewriteSegmentsM_map_literal_append resolve last []
      rw [List.append_nil] at hlast
      simp [hlast, shown, rewriteSegmentsM, names, unanswered, fill, PathTemplate.text, Piece.chars,
        List.flatMap_map]
  | cons part parts ih =>
      rw [List.flatMap_cons, List.append_assoc, shown_rewriteSegmentsM_part, ih]
      rw [names_cons, List.mapM_cons]
      simp only [map_bind, Functor.map_map, bind_pure_comp]
      apply bind_congr
      intro answer
      congr 1
      funext answers
      rw [Part.put, variableNames_cons, fill_cons, unanswered_cons]

/-- Without effects, each name is replaced by its answer. -/
theorem shown_rewrite_parts (raw : String) (resolve : String → Option String) {parts : List Part}
    {last : List Char}
    (hsegments : segments raw.toList = parts.flatMap Part.segments ++ last.map .literal) :
    shown (rewrite raw resolve) =
      (fill parts ((names parts).map fun name => (resolve name).getD name) last,
        (names parts).filter fun name => (resolve name).isNone) := by
  have hshown := shown_rewriteSegmentsM_parts (m := Id) (fun name => pure (resolve name)) parts last
  rw [List.mapM_pure, map_pure, ← hsegments, rewriteSegmentsM_pure, map_pure, variableNames_map,
    unanswered_map] at hshown
  exact hshown

/-- Rewriting a raw path by its factors. The resolver is asked for the names of the placeholders,
once for each and in order, and what it answers determines the text and the unresolved names. -/
theorem exists_factors_rewriteM (raw : String) :
    ∃ parts last, Factors raw.toList parts last ∧
      (∀ others otherLast, Factors raw.toList others otherLast →
        others = parts ∧ otherLast = last) ∧
      (∀ resolve : String → m (Option String),
        (fun template => (template.text, template.unresolved)) <$> rewriteM raw resolve =
          (fun answers => (fill parts (variableNames (names parts) answers) last,
            unanswered (names parts) answers)) <$> (names parts).mapM resolve) ∧
      ∀ resolve : String → Option String,
        rewriteM raw (fun name => (pure (resolve name) : m (Option String))) =
            pure (rewrite raw resolve) ∧
          (rewrite raw resolve).text =
            fill parts ((names parts).map fun name => (resolve name).getD name) last ∧
          (rewrite raw resolve).unresolved =
            (names parts).filter fun name => (resolve name).isNone := by
  obtain ⟨parts, last, hfactors, hsegments⟩ := exists_factors raw.toList
  refine ⟨parts, last, hfactors, ?_, ?_, ?_⟩
  · intro others otherLast hothers
    exact hfactors.unique hothers
  · intro resolve
    rw [rewriteM, hsegments]
    exact shown_rewriteSegmentsM_parts resolve parts last
  · intro resolve
    have hshown := shown_rewrite_parts raw resolve hsegments
    exact ⟨rewriteM_pure raw resolve, congrArg Prod.fst hshown, congrArg Prod.snd hshown⟩

end

/-- A path with an open brace, with both forms of placeholders and with empty braces. -/
def mixedPath : String :=
  "/\x7ba/\x7b id \x7d$\x7bthis.configuration.encodeParam(f, value: (x), y)\x7d/\x7b\x7d"

/-- A resolver that knows one name and writes down what it is asked. -/
def logged (name : String) : StateM (List String) (Option String) :=
  fun asked => (if name = "id" then some "idPath" else none, asked ++ [name])

theorem exists_factors_rewriteM_mixedPath :
    LawfulMonad (StateM (List String)) ∧
      (∃ parts last, Factors mixedPath.toList parts last ∧
        (fun template => (template.text, template.unresolved)) <$> rewriteM mixedPath logged =
          (fun answers => (fill parts (variableNames (names parts) answers) last,
            unanswered (names parts) answers)) <$> (names parts).mapM logged) ∧
      (rewriteM mixedPath logged []).1.text = "/\x7ba/$\x7bidPath\x7d$\x7b(x)\x7d/\x7b\x7d" ∧
      (rewriteM mixedPath logged []).1.unresolved = ["(x)"] ∧
      (rewriteM mixedPath logged []).2 = ["id", "(x)"] := by
  obtain ⟨parts, last, hfactors, _, hrewrite, _⟩ :=
    exists_factors_rewriteM (m := StateM (List String)) mixedPath
  refine ⟨inferInstance, ⟨parts, last, hfactors, hrewrite logged⟩, ?_, ?_, ?_⟩
  all_goals decide +kernel

end ClientPlan.PathTemplate
