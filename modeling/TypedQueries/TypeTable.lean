import TypedQueries.Diagnostic

/-! # Names of database types

Which type of the generated module stands for a database type. A type that is not in
the table has no name; nothing is guessed.
-/

namespace TypedQueries

/-- Names of types by their identifiers. No identifier occurs twice. -/
structure TypeTable where
  entries : List (TypeId × String)
  distinct : (entries.map Prod.fst).Nodup

namespace TypeTable

def empty : TypeTable := ⟨[], List.nodup_nil⟩

def lookup (table : TypeTable) (id : TypeId) : Option String := table.entries.lookup id

theorem nodup_erase_key (entries : List (TypeId × String)) (id : TypeId)
    (h : (entries.map Prod.fst).Nodup) :
    ((entries.filter (·.1 != id)).map Prod.fst).Nodup :=
  h.sublist (List.filter_sublist.map Prod.fst)

/-- Names a type, in place of its earlier name if it has one. -/
def insert (table : TypeTable) (id : TypeId) (name : String) : TypeTable where
  entries := (id, name) :: table.entries.filter (·.1 != id)
  distinct := by
    rw [List.map_cons, List.nodup_cons]
    refine ⟨?_, nodup_erase_key _ _ table.distinct⟩
    intro h
    obtain ⟨entry, member, same⟩ := List.mem_map.1 h
    simp_all [List.mem_filter]

/-- The table of the given entries; a later entry counts. -/
def ofEntries (entries : List (TypeId × String)) : TypeTable :=
  entries.foldl (fun table entry => table.insert entry.1 entry.2) empty

def size (table : TypeTable) : Nat := table.entries.length

def isEmpty (table : TypeTable) : Bool := table.entries.isEmpty

def scalars : List (TypeId × String) :=
  [(16, "boolean"), (17, "Uint8Array"), (18, "string"), (19, "string"), (20, "bigint"),
   (21, "number"), (23, "number"), (25, "string"), (26, "number"), (114, "unknown"),
   (142, "string"), (650, "string"), (700, "number"), (701, "number"), (790, "string"),
   (829, "string"), (869, "string"), (1042, "string"), (1043, "string"), (1082, "Date"),
   (1083, "string"), (1114, "Date"), (1184, "Date"), (1186, "string"), (1266, "string"),
   (1560, "string"), (1562, "string"), (1700, "string"), (2950, "string"), (3614, "string"),
   (3802, "unknown")]

/-- The array types with the types of their elements. -/
def arrays : List (TypeId × TypeId) :=
  [(143, 142), (199, 114), (651, 650), (791, 790), (1000, 16), (1001, 17), (1002, 18), (1003, 19),
   (1005, 21), (1007, 23), (1009, 25), (1014, 1042), (1015, 1043), (1016, 20), (1021, 700),
   (1022, 701), (1028, 26), (1040, 829), (1041, 869), (1115, 1114), (1182, 1082), (1183, 1083),
   (1185, 1184), (1187, 1186), (1231, 1700), (1270, 1266), (1561, 1560), (1563, 1562),
   (2951, 2950), (3643, 3614), (3807, 3802)]

/-- The built-in types: scalars, and arrays named after their elements. -/
def builtin : TypeTable :=
  arrays.foldl
    (fun table array =>
      match table.lookup array.2 with
      | some element => table.insert array.1 (element ++ "[]")
      | none => table)
    (ofEntries scalars)

/-- The name in place of one that is missing. -/
def unknown : String := "unknown"

end TypeTable

end TypedQueries
