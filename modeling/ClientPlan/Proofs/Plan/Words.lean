import Mathlib.Tactic.MkIffOfInductiveProp
import ClientPlan.Proofs.OpenApi.TypeForm
import ClientPlan.Proofs.Plan.Imports

/-! # The words of a written type

Reading the identifiers of a written type gives back what the type is made of: a basic type or a
component, and a word or two for each list and record around it.
-/

namespace ClientPlan

open Text OpenApi

namespace Plan

/-- An identifier of ASCII letters, digits and underscores. -/
@[mk_iff]
structure IsAsciiIdentifier (name : String) : Prop where
  start : name.toList.head?.any startsWord = true
  parts : name.toList.all isWordChar = true

instance (name : String) : Decidable (IsAsciiIdentifier name) :=
  decidable_of_iff' _ (isAsciiIdentifier_iff name)

/-! ## Reading words -/

theorem wordsAfter_cons_mark {mark : Char} (hmark : isWordChar mark = false)
    (word rest : List Char) :
    wordsAfter word (mark :: rest) =
      (if word.isEmpty then [] else [String.ofList word.reverse]) ++ wordsAfter [] rest := by
  rw [isWordChar, Bool.or_eq_false_iff] at hmark
  rw [wordsAfter, if_neg (by simp [hmark])]

/-- No word goes on behind a mark. -/
theorem wordsAfter_append_mark {mark : Char} (hmark : isWordChar mark = false)
    (word first rest : List Char) :
    wordsAfter word (first ++ mark :: rest) = wordsAfter word first ++ wordsAfter [] rest := by
  induction first generalizing word with
  | nil => exact wordsAfter_cons_mark hmark word rest
  | cons c first ih =>
      rw [List.cons_append, wordsAfter, wordsAfter]
      split
      next => exact ih _
      next => rw [ih, List.append_assoc]

/-- What has been begun is read on through word characters. -/
theorem wordsAfter_of_isWordChar {text : List Char} (htext : ∀ c ∈ text, isWordChar c = true)
    {word : List Char} (hword : word ≠ []) :
    wordsAfter word text = [String.ofList (word.reverse ++ text)] := by
  induction text generalizing word with
  | nil => rw [wordsAfter, if_neg (by simpa using hword), List.append_nil]
  | cons c rest ih =>
      obtain ⟨hc, hrest⟩ := List.forall_mem_cons.mp htext
      have hgoes : (startsWord c || (!word.isEmpty && isAsciiDigit c)) = true := by
        rw [isWordChar] at hc
        simpa [hword] using hc
      rw [wordsAfter, if_pos hgoes, ih hrest (List.cons_ne_nil _ _), List.reverse_cons,
        List.append_assoc, List.singleton_append]

theorem words_of_isAsciiIdentifier {name : String} (hname : IsAsciiIdentifier name) :
    words name = [name] := by
  have hstart := hname.start
  have hparts := List.all_eq_true.mp hname.parts
  rw [words]
  cases hchars : name.toList with
  | nil =>
      rw [hchars] at hstart
      cases hstart
  | cons c rest =>
      rw [hchars] at hstart hparts
      obtain ⟨_, hrest⟩ := List.forall_mem_cons.mp hparts
      have hc : startsWord c = true := hstart
      rw [wordsAfter, if_pos (by rw [hc, Bool.true_or]),
        wordsAfter_of_isWordChar hrest (List.cons_ne_nil _ _), List.reverse_singleton,
        List.singleton_append, ← hchars, String.ofList_toList]

end Plan

/-! ## The words of a form -/

namespace OpenApi.TypeForm

open Plan

/-- The words of a type, from left to right. -/
def words : TypeForm → List String
  | basic type => [type.word]
  | component name => [name]
  | list items => "Array" :: items.words
  | record values => "Record" :: "string" :: values.words

theorem words_listText (items : String) :
    Plan.words (listText items) = "Array" :: Plan.words items := by
  have hname : wordsAfter [] "Array".toList = ["Array"] :=
    words_of_isAsciiIdentifier (by decide)
  rw [Plan.words, toList_listText, wordsAfter_append_mark (by decide),
    wordsAfter_append_mark (by decide), hname]
  exact congrArg _ (List.append_nil _)

theorem words_recordText (values : String) :
    Plan.words (recordText values) = "Record" :: "string" :: Plan.words values := by
  have hname : wordsAfter [] "Record".toList = ["Record"] :=
    words_of_isAsciiIdentifier (by decide)
  have hkey : wordsAfter [] "string".toList = ["string"] :=
    words_of_isAsciiIdentifier (by decide)
  rw [Plan.words, toList_recordText, wordsAfter_append_mark (by decide),
    wordsAfter_append_mark (by decide), wordsAfter_cons_mark (by decide),
    wordsAfter_append_mark (by decide), hname, hkey]
  exact congrArg _ (congrArg _ (List.append_nil _))

/-- The words that are read in a written type are those of the type. -/
theorem words_text {form : TypeForm}
    (hcomponent : ∀ name, form.component? = some name → IsAsciiIdentifier name) :
    Plan.words form.text = form.words := by
  induction form with
  | basic type => exact words_of_isAsciiIdentifier (by cases type <;> decide)
  | component name => exact words_of_isAsciiIdentifier (hcomponent name rfl)
  | list items ih => rw [text, words_listText, ih hcomponent, words]
  | record values ih => rw [text, words_recordText, ih hcomponent, words]

/-- The words of written types that name no component. -/
def builtinWords : List String :=
  ["Array", "Record", "string", "number", "boolean", "Blob", "unknown", "void"]

/-- Among models that are not named like built-in types, a type mentions its component only. -/
theorem filter_words {models : List String} (hmodels : ∀ name ∈ models, name ∉ builtinWords)
    (form : TypeForm) :
    form.words.filter (· ∈ models) = form.component?.toList.filter (· ∈ models) := by
  have hbuiltin : ∀ word ∈ builtinWords, word ∉ models := fun word hword hmodel =>
    hmodels word hmodel hword
  induction form with
  | basic type =>
      have hword : type.word ∈ builtinWords := by cases type <;> decide
      simp [words, component?, hbuiltin _ hword]
  | component name => rfl
  | list items ih =>
      rw [words, List.filter_cons_of_neg (by simpa using hbuiltin "Array" (by decide)), ih,
        component?]
  | record values ih =>
      rw [words, List.filter_cons_of_neg (by simpa using hbuiltin "Record" (by decide)),
        List.filter_cons_of_neg (by simpa using hbuiltin "string" (by decide)), ih, component?]

end OpenApi.TypeForm

end ClientPlan
