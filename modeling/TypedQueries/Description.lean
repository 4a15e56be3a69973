import TypedQueries.Diagnostic

/-! # Descriptions of queries

What the database says about a query: the types of its parameters, and the names and
types of its result columns. Descriptions are kept by query text, in the order in which
the texts were first met.
-/

namespace TypedQueries

/-- A column of a result. -/
structure ResultColumn where
  name : String
  typeId : TypeId
deriving DecidableEq, Repr

/-- The shape of a query. -/
structure QueryDescription where
  parameters : List TypeId
  columns : List ResultColumn
deriving DecidableEq, Repr

/-- Descriptions by query text. No text occurs twice. -/
structure QueryDescriptions where
  entries : List (String × QueryDescription)
  distinct : (entries.map Prod.fst).Nodup

namespace QueryDescriptions

def empty : QueryDescriptions := ⟨[], List.nodup_nil⟩

def texts (descriptions : QueryDescriptions) : List String := descriptions.entries.map Prod.fst

def size (descriptions : QueryDescriptions) : Nat := descriptions.entries.length

def contains (descriptions : QueryDescriptions) (sql : String) : Bool :=
  descriptions.entries.any (·.1 == sql)

/-- Replaces the description of a text that is described. -/
def replace (sql : String) (description : QueryDescription) (entry : String × QueryDescription) :
    String × QueryDescription :=
  (entry.1, if entry.1 = sql then description else entry.2)

theorem map_fst_map_replace (sql : String) (description : QueryDescription)
    (entries : List (String × QueryDescription)) :
    (entries.map (replace sql description)).map Prod.fst = entries.map Prod.fst := by
  simp [replace, Function.comp_def]

/-- Describes a text: at the end if it is new, else in the place it has. -/
def insert (descriptions : QueryDescriptions) (sql : String) (description : QueryDescription) :
    QueryDescriptions :=
  if h : descriptions.contains sql then
    { entries := descriptions.entries.map (replace sql description)
      distinct := by
        rw [map_fst_map_replace]
        exact descriptions.distinct }
  else
    { entries := descriptions.entries ++ [(sql, description)]
      distinct := by
        rw [List.map_append, List.nodup_append]
        refine ⟨descriptions.distinct, by simp, ?_⟩
        intro text member other single same
        simp only [List.map_cons, List.map_nil, List.mem_singleton] at single
        subst single same
        obtain ⟨entry, entryMember, rfl⟩ := List.mem_map.1 member
        exact h (by
          simp only [contains, List.any_eq_true]
          exact ⟨entry, entryMember, by simp⟩) }

/-- The descriptions of the given texts; a later one counts. -/
def ofList (entries : List (String × QueryDescription)) : QueryDescriptions :=
  entries.foldl (fun descriptions entry => descriptions.insert entry.1 entry.2) empty

end QueryDescriptions

end TypedQueries
