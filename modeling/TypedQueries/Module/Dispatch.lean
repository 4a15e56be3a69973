/-! # Selection by exact type

A chain of conditional types that selects a payload by the type of a subject. The arms
are tried in order, each by equality of types, so a wider type selects none of them and
gets the fallback.
-/

namespace TypedQueries

/-- A type to compare with, and what it selects. -/
structure DispatchArm where
  discriminant : String
  payload : String
deriving DecidableEq, Repr

/-- Arms in order, and what applies when none is selected. -/
structure Dispatch where
  arms : List DispatchArm
  fallback : String
deriving DecidableEq, Repr

namespace Dispatch

def arm (dispatch : Dispatch) (discriminant payload : String) : Dispatch :=
  { dispatch with arms := dispatch.arms ++ [⟨discriminant, payload⟩] }

def line (subject : String) (arm : DispatchArm) : String :=
  "  Is<" ++ subject ++ ", " ++ arm.discriminant ++ "> extends true ? " ++ arm.payload ++ " :"

/-- The lines of the chain: one for each arm, and the fallback. -/
def lines (dispatch : Dispatch) (subject : String) : List String :=
  dispatch.arms.map (line subject) ++ ["  " ++ dispatch.fallback]

def render (dispatch : Dispatch) (subject : String) : String :=
  String.intercalate "\n" (dispatch.lines subject)

end Dispatch

end TypedQueries
