import Mathlib.Data.Set.Insert
import TypedQueries.Proofs.Module.ConditionalType
import TypedQueries.Proofs.Module.Lines

/-! # Selection by query text

The chains of the module, read as types, select the parameters and the result of a query
exactly for the type that has this query's text as its only value
(`selection_by_exact_text`).
-/

namespace TypedQueries

namespace Dispatch

/-- The type that a chain is: the arms in order, each tested by the helper. -/
def conditional (arms : List DispatchArm) (fallback : PlainType) : ConditionalType :=
  arms.foldr
    (fun arm rest =>
      .choice (.applied "Is" "Q" arm.discriminant) (.name "true") (.plain (.name arm.payload)) rest)
    (.plain fallback)

/-- Whether a text is one word. -/
def IsWord (text : String) : Prop :=
  text ≠ "" ∧ ∀ c ∈ text.toList, Identifier.continues c = true

theorem isWord_of_all {text : String} (nonempty : text ≠ "")
    (letters : text.toList.all Identifier.continues = true) : IsWord text :=
  ⟨nonempty, List.all_eq_true.mp letters⟩

/-- The parts of the line of an arm. -/
def armTokens (arm : DispatchArm) : List TypeToken :=
  [.word "Is", .mark '<', .word "Q", .mark ',', .word arm.discriminant, .mark '>',
    .word "extends", .word "true", .mark '?', .word arm.payload, .mark ':']

theorem read_line {arm : DispatchArm} (discriminant : IsWord arm.discriminant)
    (payload : IsWord arm.payload) (rest : List Char) :
    TypeToken.read ((line "Q" arm).toList ++ '\n' :: rest) =
      armTokens arm ++ TypeToken.read rest := by
  have text : (line "Q" arm).toList ++ '\n' :: rest =
      "  Is<Q, ".toList ++ (arm.discriminant.toList ++ '>' :: (" extends true ? ".toList ++
        (arm.payload.toList ++ ' ' :: ':' :: '\n' :: rest))) := by
    simp [line]
  have first (tail : List Char) : TypeToken.read ("  Is<Q, ".toList ++ tail) =
      [.word "Is", .mark '<', .word "Q", .mark ','] ++ TypeToken.read tail := rfl
  have middle (tail : List Char) : TypeToken.read ('>' :: (" extends true ? ".toList ++ tail)) =
      [.mark '>', .word "extends", .word "true", .mark '?'] ++ TypeToken.read tail := rfl
  have last (tail : List Char) : TypeToken.read (' ' :: ':' :: '\n' :: tail) =
      .mark ':' :: TypeToken.read tail := rfl
  have word {text : String} (isWord : IsWord text) : text.toList ≠ [] :=
    fun none => isWord.1 (String.toList_eq_nil_iff.mp none)
  rw [text, first, TypeToken.read_word (word discriminant) discriminant.2 (by decide), middle,
    TypeToken.read_word (word payload) payload.2 (by decide), last, String.ofList_toList,
    String.ofList_toList]
  rfl

theorem render_nil (fallback subject : String) :
    (Dispatch.mk [] fallback).render subject = "  " ++ fallback := by
  simp [render, lines]

theorem render_cons (arm : DispatchArm) (arms : List DispatchArm) (fallback subject : String) :
    (Dispatch.mk (arm :: arms) fallback).render subject =
      line subject arm ++ "\n" ++ (Dispatch.mk arms fallback).render subject := by
  simp only [render, lines, List.map_cons, List.cons_append]
  exact String.intercalate_cons_of_ne_nil (by simp)

theorem read_render {arms : List DispatchArm} (fallback : String)
    (words : ∀ arm ∈ arms, IsWord arm.discriminant ∧ IsWord arm.payload) :
    TypeToken.read ((Dispatch.mk arms fallback).render "Q").toList =
      arms.flatMap armTokens ++ TypeToken.read ("  " ++ fallback).toList := by
  induction arms with
  | nil => rw [render_nil, List.flatMap_nil, List.nil_append]
  | cons arm arms ih =>
      have isWord := words arm List.mem_cons_self
      have rest := ih fun other member => words other (List.mem_cons_of_mem _ member)
      have text : ((Dispatch.mk (arm :: arms) fallback).render "Q").toList =
          (line "Q" arm).toList ++ '\n' :: ((Dispatch.mk arms fallback).render "Q").toList := by
        simp [render_cons]
      rw [text, read_line isWord.1 isWord.2, rest, List.flatMap_cons, List.append_assoc]

theorem read?_conditional {last : List TypeToken} {fallback : PlainType}
    (ends : ∀ depth, ConditionalType.read? (depth + 1) last = some (.plain fallback, []))
    (arms : List DispatchArm) {depth : Nat} (deep : arms.length < depth) :
    ConditionalType.read? depth (arms.flatMap armTokens ++ last) =
      some (conditional arms fallback, []) := by
  induction arms generalizing depth with
  | nil =>
      cases depth with
      | zero => cases deep
      | succ depth => exact ends depth
  | cons arm arms ih =>
      cases depth with
      | zero => cases deep
      | succ depth =>
          have deeper : arms.length < depth := Nat.lt_of_succ_lt_succ deep
          have payload : ConditionalType.read? depth
              (.word arm.payload :: .mark ':' :: (arms.flatMap armTokens ++ last)) =
                some (.plain (.name arm.payload),
                  .mark ':' :: (arms.flatMap armTokens ++ last)) := by
            cases depth with
            | zero => cases deeper
            | succ depth => rfl
          have check (rest : List TypeToken) :
              PlainType.read? (armTokens arm ++ rest) =
                some (.applied "Is" "Q" arm.discriminant, .word "extends" :: .word "true" ::
                  .mark '?' :: .word arm.payload :: .mark ':' :: rest) := rfl
          have bound (rest : List TypeToken) :
              PlainType.read? (.word "true" :: .mark '?' :: rest) =
                some (.name "true", .mark '?' :: rest) := rfl
          rw [List.flatMap_cons, List.append_assoc, ConditionalType.read?]
          · simp only [check, bound, payload, ih deeper, Option.map_some]
            rfl
          · intro rest same
            cases same

theorem length_le_flatMap_armTokens (arms : List DispatchArm) :
    arms.length ≤ (arms.flatMap armTokens).length := by
  induction arms with
  | nil => exact Nat.le_refl _
  | cons arm arms ih =>
      simp only [List.flatMap_cons, List.length_append, armTokens, List.length_cons]
      omega

theorem ofText?_render {arms : List DispatchArm} {fallback : String} {last : PlainType}
    (words : ∀ arm ∈ arms, IsWord arm.discriminant ∧ IsWord arm.payload)
    (ends : ∀ depth, ConditionalType.read? (depth + 1) (TypeToken.read ("  " ++ fallback).toList) =
      some (.plain last, [])) :
    ConditionalType.ofText? ((Dispatch.mk arms fallback).render "Q") =
      some (conditional arms last) := by
  have deep : arms.length <
      (arms.flatMap armTokens ++ TypeToken.read ("  " ++ fallback).toList).length + 1 := by
    have longer := length_le_flatMap_armTokens arms
    rw [List.length_append]
    omega
  rw [ConditionalType.ofText?, read_render fallback words]
  simp only [read?_conditional ends arms deep]

/-! ## What a chain selects -/

section

variable {denotes : String → Set String} {arms : List DispatchArm} {fallback : PlainType}

open Classical in
theorem evaluate_conditional_cons (arm : DispatchArm) :
    (conditional (arm :: arms) fallback).evaluate equalityHelper denotes =
      if denotes "Q" = denotes arm.discriminant then .name arm.payload
      else (conditional arms fallback).evaluate equalityHelper denotes := by
  have test : ConditionalType.HelperExtends equalityHelper denotes
      (.applied "Is" "Q" arm.discriminant) (.name "true") ↔
        denotes "Q" = denotes arm.discriminant := by
    rw [Set.Subset.antisymm_iff]
    exact equalityHelper_applyTo_eq_true_iff _ _
  simp only [conditional, List.foldr_cons, ConditionalType.evaluate, ConditionalType.select, test]

/-- The chain selects the payload of an arm if it is the only one with the same type. -/
theorem evaluate_conditional_of_mem {arm : DispatchArm} (member : arm ∈ arms)
    (same : denotes "Q" = denotes arm.discriminant)
    (only : ∀ other ∈ arms, denotes "Q" = denotes other.discriminant → other = arm) :
    (conditional arms fallback).evaluate equalityHelper denotes = .name arm.payload := by
  induction arms with
  | nil => cases member
  | cons first arms ih =>
      rw [evaluate_conditional_cons]
      by_cases here : denotes "Q" = denotes first.discriminant
      · rw [if_pos here, only first List.mem_cons_self here]
      · rw [if_neg here]
        have further : arm ∈ arms := by
          rcases List.mem_cons.mp member with rfl | further
          · exact absurd same here
          · exact further
        exact ih further fun other inArms => only other (List.mem_cons_of_mem _ inArms)

/-- The chain selects its fallback if no arm has the same type. -/
theorem evaluate_conditional_of_forall_ne
    (differ : ∀ arm ∈ arms, denotes "Q" ≠ denotes arm.discriminant) :
    (conditional arms fallback).evaluate equalityHelper denotes = fallback := by
  induction arms with
  | nil => rfl
  | cons arm arms ih =>
      rw [evaluate_conditional_cons, if_neg (differ arm List.mem_cons_self)]
      exact ih fun other member => differ other (List.mem_cons_of_mem _ member)

end

end Dispatch

open Synthesis

/-- Names with different numbers differ. -/
theorem numbered_injective (start : String) :
    Function.Injective fun index : Nat => start ++ toString index := by
  intro first second same
  have letters := congrArg String.toList same
  simp only [String.toList_append, Nat.toString_eq_repr, Nat.toList_repr] at letters
  have numbers := congrArg (Nat.ofDigitChars 10 · 0) (List.append_cancel_left letters)
  simpa only [Nat.ofDigitChars_ten_toDigits] using numbers

theorem queryName_injective : Function.Injective queryName := numbered_injective "Query"

theorem parametersName_injective : Function.Injective parametersName := numbered_injective "Params"

theorem resultName_injective : Function.Injective resultName := numbered_injective "Result"

/-- What names stand for: `Q` the given type, and the names of queries the types that have
the text of the query as their only value. -/
def QueryDescriptions.denotes (descriptions : QueryDescriptions) (type : Set String)
    (name : String) : Set String :=
  if name = "Q" then type
  else {text | ∃ index, name = queryName index ∧ descriptions.texts[index]? = some text}

namespace QueryDescriptions

variable {descriptions : QueryDescriptions} {type : Set String}

theorem denotes_subject : descriptions.denotes type "Q" = type := if_pos rfl

theorem denotes_queryName {index : Nat} {text : String}
    (found : descriptions.texts[index]? = some text) :
    descriptions.denotes type (queryName index) = {text} := by
  have other : queryName index ≠ "Q" := by
    intro same
    have letters := congrArg String.toList same
    simp [queryName] at letters
  rw [denotes, if_neg other]
  ext value
  constructor
  · rintro ⟨position, same, found'⟩
    rw [← queryName_injective same, found] at found'
    exact (Option.some.inj found').symm
  · rintro rfl
    exact ⟨index, rfl, found⟩

/-- A family of arms, one for each query. -/
def arms (descriptions : QueryDescriptions) (payload : Nat → String) : List DispatchArm :=
  (List.range descriptions.size).map fun index => ⟨queryName index, payload index⟩

variable {payload : Nat → String} {fallback : PlainType}

theorem evaluate_arms_of_text {index : Nat} {text : String}
    (found : descriptions.texts[index]? = some text) (only : type = {text}) :
    (Dispatch.conditional (descriptions.arms payload) fallback).evaluate equalityHelper
      (descriptions.denotes type) = .name (payload index) := by
  obtain ⟨inside, -⟩ := List.getElem?_eq_some_iff.mp found
  have bound : index < descriptions.size := by simpa [texts, size] using inside
  have member : ⟨queryName index, payload index⟩ ∈ descriptions.arms payload :=
    List.mem_map.mpr ⟨index, List.mem_range.mpr bound, rfl⟩
  refine Dispatch.evaluate_conditional_of_mem member ?_ fun other inArms same => ?_
  · rw [denotes_subject, denotes_queryName found, only]
  · obtain ⟨position, inRange, rfl⟩ := List.mem_map.mp inArms
    have inTexts : position < descriptions.texts.length := by
      simpa [texts, size] using List.mem_range.mp inRange
    rw [denotes_subject, denotes_queryName (List.getElem?_eq_getElem inTexts), only] at same
    have equal : descriptions.texts[index]? = descriptions.texts[position]? := by
      rw [found, List.getElem?_eq_getElem inTexts, Set.singleton_eq_singleton_iff.mp same]
    rw [(List.getElem?_inj inside descriptions.distinct).mp equal]

theorem evaluate_arms_of_other (differs : ∀ text ∈ descriptions.texts, type ≠ {text}) :
    (Dispatch.conditional (descriptions.arms payload) fallback).evaluate equalityHelper
      (descriptions.denotes type) = fallback := by
  refine Dispatch.evaluate_conditional_of_forall_ne fun arm member => ?_
  obtain ⟨index, inRange, rfl⟩ := List.mem_map.mp member
  have inTexts : index < descriptions.texts.length := by
    simpa [texts, size] using List.mem_range.mp inRange
  rw [denotes_subject, denotes_queryName (List.getElem?_eq_getElem inTexts)]
  exact differs _ (List.getElem_mem inTexts)

theorem evaluate_arms_eq_name_iff (distinct : Function.Injective payload)
    (unnumbered : ∀ index, fallback ≠ .name (payload index)) (index : Nat) :
    (Dispatch.conditional (descriptions.arms payload) fallback).evaluate equalityHelper
        (descriptions.denotes type) = .name (payload index) ↔
      ∃ text, descriptions.texts[index]? = some text ∧ type = {text} := by
  constructor
  · intro selected
    by_cases differs : ∀ text ∈ descriptions.texts, type ≠ {text}
    · rw [evaluate_arms_of_other differs] at selected
      exact absurd selected (unnumbered index)
    · simp only [not_forall, not_not] at differs
      obtain ⟨text, member, only⟩ := differs
      obtain ⟨position, found⟩ := List.mem_iff_getElem?.mp member
      rw [evaluate_arms_of_text found only] at selected
      obtain rfl := distinct (PlainType.name.inj selected)
      exact ⟨text, found, only⟩
  · rintro ⟨text, found, only⟩
    exact evaluate_arms_of_text found only

theorem evaluate_arms_eq_fallback_iff
    (unnumbered : ∀ index, fallback ≠ .name (payload index)) :
    (Dispatch.conditional (descriptions.arms payload) fallback).evaluate equalityHelper
        (descriptions.denotes type) = fallback ↔ ∀ text ∈ descriptions.texts, type ≠ {text} := by
  constructor
  · intro selected text member only
    obtain ⟨index, found⟩ := List.mem_iff_getElem?.mp member
    rw [evaluate_arms_of_text found only] at selected
    exact unnumbered index selected.symm
  · exact evaluate_arms_of_other

end QueryDescriptions

/-! ## The chains in the module -/

theorem isWord_numbered (start : String) (word : Dispatch.IsWord start) (index : Nat) :
    Dispatch.IsWord (start ++ toString index) := by
  constructor
  · intro none
    have letters := congrArg String.toList none
    rw [String.toList_append] at letters
    exact word.1 (String.toList_eq_nil_iff.mp (List.append_eq_nil_iff.mp letters).1)
  · intro c member
    rw [String.toList_append, List.mem_append, Nat.toString_eq_repr, Nat.toList_repr] at member
    rcases member with member | member
    · exact word.2 c member
    · have digit := Nat.isDigit_of_mem_toDigits (by decide) (by decide) member
      simp [Identifier.continues, Char.isAlphanum, digit]

theorem joinLines_terminated (arms : List DispatchArm) (fallback : String) :
    joinLines (terminated ((Dispatch.mk arms fallback).lines "Q")) =
      (Dispatch.mk arms fallback).render "Q" ++ ";\n" := by
  rw [terminated_lines]
  induction arms with
  | nil =>
      rw [Dispatch.render_nil, List.map_nil, List.nil_append, joinLines_cons, joinLines_nil]
      simp only [String.append_assoc]
      rfl
  | cons arm arms ih =>
      rw [List.map_cons, List.cons_append, joinLines_cons, ih, Dispatch.render_cons]
      simp only [String.append_assoc]

/-- Where the helper and the two chains stand in a module. -/
theorem module_eq (descriptions : QueryDescriptions) (table : TypeTable)
    (options : ModuleOptions) : ∃ front back : String,
      (synthesize descriptions table options).module =
        front ++ "type Is<A, B> = " ++ equalityText ++ ";\n\n" ++
          "export type Params<Q extends string> =\n" ++
            (parameterDispatch descriptions.size).render "Q" ++ ";\n\n" ++
          "export type Result<Q extends string, T = any> =\n" ++
            (resultDispatch descriptions.size).render "Q" ++ ";\n" ++ back := by
  have first (rest : String) :
      joinLines ["", "type Is<A, B> = [A] extends [B] ? ([B] extends [A] ? true : false) : false;",
        "", "export type Params<Q extends string> ="] ++ rest =
      "\n" ++ ("type Is<A, B> = " ++ (equalityText ++ (";\n\n" ++
        ("export type Params<Q extends string> =\n" ++ rest)))) := by
    simp only [← String.append_assoc]
    congr 1
  have second (rest : String) :
      ";\n" ++ (joinLines ["", "export type Result<Q extends string, T = any> ="] ++ rest) =
      ";\n\n" ++ ("export type Result<Q extends string, T = any> =\n" ++ rest) := by
    simp only [← String.append_assoc]
    congr 1
  refine ⟨joinLines (headLines options ++ queriesLines table 0 descriptions.entries) ++ "\n",
    ?back, ?whole⟩
  case whole =>
    simp only [synthesize, lines, tailLines, joinLines_append, parameterDispatch, resultDispatch,
      joinLines_terminated, String.append_assoc, first, second]
    rfl

theorem isWord_of_mem_arms {descriptions : QueryDescriptions} (start : String)
    (word : Dispatch.IsWord start) :
    ∀ arm ∈ descriptions.arms fun index => start ++ toString index,
      Dispatch.IsWord arm.discriminant ∧ Dispatch.IsWord arm.payload := by
  intro arm member
  obtain ⟨index, -, rfl⟩ := List.mem_map.mp member
  exact ⟨isWord_numbered "Query" (Dispatch.isWord_of_all (by decide) (by decide)) index,
    isWord_numbered start word index⟩

theorem ofText?_parameterDispatch (descriptions : QueryDescriptions) :
    ConditionalType.ofText? ((parameterDispatch descriptions.size).render "Q") =
      some (Dispatch.conditional (descriptions.arms parametersName) (.array "any")) :=
  Dispatch.ofText?_render
    (isWord_of_mem_arms "Params" (Dispatch.isWord_of_all (by decide) (by decide))) fun _ => rfl

theorem ofText?_resultDispatch (descriptions : QueryDescriptions) :
    ConditionalType.ofText? ((resultDispatch descriptions.size).render "Q") =
      some (Dispatch.conditional (descriptions.arms resultName) (.name "T")) :=
  Dispatch.ofText?_render
    (isWord_of_mem_arms "Result" (Dispatch.isWord_of_all (by decide) (by decide))) fun _ => rfl

theorem fallback_ne_resultName (index : Nat) : PlainType.name "T" ≠ .name (resultName index) := by
  intro same
  have letters := congrArg String.toList (PlainType.name.inj same)
  simp [resultName] at letters

/-- **Selection is by exact text and by nothing else.** The helper and the two chains of a
module are read as types. The helper tests inclusion both ways. For a type of texts the
chains select the parameters and the result of the same query, that whose text is the
only value of the type, and their fallbacks for every other type; so every arm is reached,
and no text gets what belongs to another query. -/
theorem selection_by_exact_text (descriptions : QueryDescriptions) (table : TypeTable)
    (options : ModuleOptions) :
    ∃ (front back : String) (helper parameters results : ConditionalType),
      (synthesize descriptions table options).module =
        front ++ "type Is<A, B> = " ++ equalityText ++ ";\n\n" ++
          "export type Params<Q extends string> =\n" ++
            (parameterDispatch descriptions.size).render "Q" ++ ";\n\n" ++
          "export type Result<Q extends string, T = any> =\n" ++
            (resultDispatch descriptions.size).render "Q" ++ ";\n" ++ back ∧
      ConditionalType.ofText? equalityText = some helper ∧
      ConditionalType.ofText? ((parameterDispatch descriptions.size).render "Q") =
        some parameters ∧
      ConditionalType.ofText? ((resultDispatch descriptions.size).render "Q") = some results ∧
      (∀ first second,
        helper.applyTo first second = .name "true" ↔ first ⊆ second ∧ second ⊆ first) ∧
      (∀ (type : Set String) (index : Nat),
        (parameters.evaluate helper (descriptions.denotes type) = .name (parametersName index) ↔
          ∃ text, descriptions.texts[index]? = some text ∧ type = {text}) ∧
        (results.evaluate helper (descriptions.denotes type) = .name (resultName index) ↔
          ∃ text, descriptions.texts[index]? = some text ∧ type = {text})) ∧
      (∀ type : Set String,
        (parameters.evaluate helper (descriptions.denotes type) = .array "any" ↔
          ∀ text ∈ descriptions.texts, type ≠ {text}) ∧
        (results.evaluate helper (descriptions.denotes type) = .name "T" ↔
          ∀ text ∈ descriptions.texts, type ≠ {text})) ∧
      ∀ (index : Nat) (text : String), descriptions.texts[index]? = some text →
        ∀ other : Nat,
          (parameters.evaluate helper (descriptions.denotes {text}) =
            .name (parametersName other) ↔ other = index) ∧
          (results.evaluate helper (descriptions.denotes {text}) =
            .name (resultName other) ↔ other = index) := by
  obtain ⟨front, back, whole⟩ := module_eq descriptions table options
  refine ⟨front, back, equalityHelper, _, _, whole, ofText?_equalityText,
    ofText?_parameterDispatch descriptions, ofText?_resultDispatch descriptions,
    equalityHelper_applyTo_eq_true_iff, fun type index => ⟨?_, ?_⟩, fun type => ⟨?_, ?_⟩,
    fun index text found other => ?_⟩
  · exact QueryDescriptions.evaluate_arms_eq_name_iff parametersName_injective (by simp) index
  · exact QueryDescriptions.evaluate_arms_eq_name_iff resultName_injective
      fallback_ne_resultName index
  · exact QueryDescriptions.evaluate_arms_eq_fallback_iff (by simp)
  · exact QueryDescriptions.evaluate_arms_eq_fallback_iff fallback_ne_resultName
  · rw [QueryDescriptions.evaluate_arms_of_text found rfl,
      QueryDescriptions.evaluate_arms_of_text found rfl]
    simp [parametersName_injective.eq_iff, resultName_injective.eq_iff, eq_comm]

/-- Two queries: a type with one of their texts selects what belongs to it, and the type
with both texts selects the fallbacks. -/
theorem selection_by_exact_text_of_two :
    ∃ (descriptions : QueryDescriptions) (helper parameters results : ConditionalType),
      descriptions.texts = ["a", "b"] ∧
      ConditionalType.ofText? equalityText = some helper ∧
      ConditionalType.ofText? ((parameterDispatch descriptions.size).render "Q") =
        some parameters ∧
      ConditionalType.ofText? ((resultDispatch descriptions.size).render "Q") = some results ∧
      descriptions.texts[1]? = some "b" ∧
      parameters.evaluate helper (descriptions.denotes {"b"}) = .name "Params1" ∧
      results.evaluate helper (descriptions.denotes {"b"}) = .name "Result1" ∧
      (∀ text ∈ descriptions.texts, ({"a", "b"} : Set String) ≠ {text}) ∧
      parameters.evaluate helper (descriptions.denotes {"a", "b"}) = .array "any" ∧
      results.evaluate helper (descriptions.denotes {"a", "b"}) = .name "T" := by
  let descriptions : QueryDescriptions :=
    ⟨[("a", ⟨[], []⟩), ("b", ⟨[23], []⟩)], by decide⟩
  obtain ⟨-, -, helper, parameters, results, -, readHelper, readParameters, readResults, -, -,
    others, reached⟩ := selection_by_exact_text descriptions .builtin ⟨"m", "C", "R"⟩
  have second : descriptions.texts[1]? = some "b" := rfl
  have differs : ∀ text ∈ descriptions.texts, ({"a", "b"} : Set String) ≠ {text} := by
    intro text _ same
    have first : "a" = text := by
      have member : "a" ∈ ({"a", "b"} : Set String) := by simp
      rwa [same] at member
    have last : "b" = text := by
      have member : "b" ∈ ({"a", "b"} : Set String) := by simp
      rwa [same] at member
    exact absurd (first.trans last.symm) (by decide)
  refine ⟨descriptions, helper, parameters, results, rfl, readHelper, readParameters, readResults,
    second, ?_, ?_, differs, (others _).1.mpr differs, (others _).2.mpr differs⟩
  · exact (reached 1 "b" second 1).1.mpr rfl
  · exact (reached 1 "b" second 1).2.mpr rfl

end TypedQueries
