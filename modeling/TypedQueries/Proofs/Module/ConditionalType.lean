import Mathlib.Data.Set.Basic
import TypedQueries.Module.Dispatch
import TypedQueries.Text.StringLiteral

/-! # Conditional types

A conditional type tests one type against another and goes on with one of two types. It is
read from its text (`ConditionalType.ofText?`) and selects a type, given which texts the
names in it stand for (`ConditionalType.evaluate`). A chain of arms selects by equality of
types if its helper tests inclusion both ways.
-/

namespace TypedQueries

/-- A part of the text of a type. -/
inductive TypeToken where
  | word (text : String)
  | mark (c : Char)
deriving DecidableEq, Repr

namespace TypeToken

/-- A word that has come to its end. -/
def ended (word : List Char) : List TypeToken :=
  if word.isEmpty then [] else [.word (String.ofList word)]

/-- The parts of a text, after the characters of a word that may go on. -/
def readAfter (word : List Char) : List Char → List TypeToken
  | [] => ended word
  | c :: rest =>
      if Identifier.continues c then readAfter (word ++ [c]) rest
      else if c = ' ' ∨ c = '\n' then ended word ++ readAfter [] rest
      else ended word ++ mark c :: readAfter [] rest

def read (text : List Char) : List TypeToken := readAfter [] text

theorem readAfter_append {word : List Char} (name : List Char)
    (characters : ∀ c ∈ name, Identifier.continues c = true) (rest : List Char) :
    readAfter word (name ++ rest) = readAfter (word ++ name) rest := by
  induction name generalizing word with
  | nil => simp
  | cons c name ih =>
      rw [List.cons_append, readAfter, if_pos (characters c List.mem_cons_self),
        ih fun other member => characters other (List.mem_cons_of_mem _ member),
        List.append_assoc, List.singleton_append]

/-- A word is read as a whole where it ends. -/
theorem read_word {name : List Char} (some : name ≠ [])
    (characters : ∀ c ∈ name, Identifier.continues c = true) {c : Char}
    (ends : Identifier.continues c = false) (rest : List Char) :
    read (name ++ c :: rest) = .word (String.ofList name) :: read (c :: rest) := by
  have stop : ended name = [.word (String.ofList name)] := by
    rw [ended, if_neg (by simpa using some)]
  have stopped : Identifier.continues c ≠ true := by simp [ends]
  rw [read, readAfter_append name characters, List.nil_append, read, readAfter, readAfter,
    if_neg stopped, if_neg stopped, stop]
  split <;> rfl

end TypeToken

/-- A type without a test in it. -/
inductive PlainType where
  | name (text : String)
  | array (element : String)
  | tuple (element : String)
  | applied (helper first second : String)
deriving DecidableEq, Repr

/-- A plain type, or a test of one type against another with the types for either case. -/
inductive ConditionalType where
  | plain (type : PlainType)
  | choice (check bound : PlainType) (yes no : ConditionalType)
deriving DecidableEq, Repr

def PlainType.read? : List TypeToken → Option (PlainType × List TypeToken)
  | .mark '[' :: .word element :: .mark ']' :: rest => some (.tuple element, rest)
  | .word helper :: .mark '<' :: .word first :: .mark ',' :: .word second :: .mark '>' :: rest =>
      some (.applied helper first second, rest)
  | .word element :: .mark '[' :: .mark ']' :: rest => some (.array element, rest)
  | .word text :: rest => some (.name text, rest)
  | _ => none

namespace ConditionalType

/-- Reads a type with tests nested up to the given depth. -/
def read? : Nat → List TypeToken → Option (ConditionalType × List TypeToken)
  | 0, _ => none
  | depth + 1, .mark '(' :: tokens =>
      match read? depth tokens with
      | some (type, .mark ')' :: rest) => some (type, rest)
      | _ => none
  | depth + 1, tokens =>
      match PlainType.read? tokens with
      | none => none
      | some (check, .word "extends" :: afterCheck) =>
          match PlainType.read? afterCheck with
          | some (bound, .mark '?' :: afterBound) =>
              match read? depth afterBound with
              | some (yes, .mark ':' :: afterYes) =>
                  (read? depth afterYes).map fun no => (choice check bound yes no.1, no.2)
              | _ => none
          | _ => none
      | some (type, rest) => some (plain type, rest)

/-- The type that a text is. -/
def ofText? (text : String) : Option ConditionalType :=
  let tokens := TypeToken.read text.toList
  match read? (tokens.length + 1) tokens with
  | some (type, []) => some type
  | _ => none

open Classical in
/-- The type selected, given which tests succeed. -/
noncomputable def select (succeeds : PlainType → PlainType → Prop) : ConditionalType → PlainType
  | plain type => type
  | choice check bound yes no =>
      if succeeds check bound then yes.select succeeds else no.select succeeds

/-- The test between tuples of one element: inclusion of what their elements stand for. -/
def TupleExtends (denotes : String → Set String) : PlainType → PlainType → Prop
  | .tuple first, .tuple second => denotes first ⊆ denotes second
  | _, _ => False

/-- What a helper gives for two types in the place of its parameters. -/
noncomputable def applyTo (helper : ConditionalType) (first second : Set String) : PlainType :=
  helper.select (TupleExtends fun name =>
    if name = "A" then first else if name = "B" then second else ∅)

/-- The test in a chain: what the helper gives is the type it is tested against. -/
def HelperExtends (helper : ConditionalType) (denotes : String → Set String) :
    PlainType → PlainType → Prop
  | .applied "Is" first second, bound => helper.applyTo (denotes first) (denotes second) = bound
  | check, bound => TupleExtends denotes check bound

/-- What a type selects with a helper named `Is`. -/
noncomputable def evaluate (type helper : ConditionalType) (denotes : String → Set String) :
    PlainType :=
  type.select (HelperExtends helper denotes)

end ConditionalType

/-- The text of the helper that tests inclusion both ways. -/
def equalityText : String := "[A] extends [B] ? ([B] extends [A] ? true : false) : false"

/-- The helper that tests inclusion both ways. -/
def equalityHelper : ConditionalType :=
  .choice (.tuple "A") (.tuple "B")
    (.choice (.tuple "B") (.tuple "A") (.plain (.name "true")) (.plain (.name "false")))
    (.plain (.name "false"))

theorem ofText?_equalityText : ConditionalType.ofText? equalityText = some equalityHelper := by
  decide

/-- The helper gives the type of truth exactly for two types with the same values. -/
theorem equalityHelper_applyTo_eq_true_iff (first second : Set String) :
    equalityHelper.applyTo first second = .name "true" ↔ first ⊆ second ∧ second ⊆ first := by
  by_cases one : first ⊆ second <;> by_cases other : second ⊆ first <;>
    simp [equalityHelper, ConditionalType.applyTo, ConditionalType.select,
      ConditionalType.TupleExtends, one, other]

end TypedQueries
