/-! # Arguments

What the program is to do, by its arguments: run once or keep watching, show a text, or
refuse. Arguments are read from the left, and the first one that settles the matter
counts.
-/

namespace TypedQueries

namespace Arguments

/-- The flags. -/
inductive Flag where
  | watch
  | help
  | version
deriving DecidableEq, Repr

namespace Flag

def all : List Flag := [watch, help, version]

def name : Flag → String
  | watch => "watch"
  | help => "help"
  | version => "version"

def letter : Flag → Char
  | watch => 'w'
  | help => 'h'
  | version => 'V'

def written (flag : Flag) : String := "--" ++ flag.name

end Flag

/-- What stands against a run: the user wants to see a text, or an argument is wrong.
`used` are flags to be named in the message. -/
inductive Stop where
  | showHelp (full : Bool)
  | showVersion
  | unknown (argument : String) (similar : Option Flag) (used : List Flag)
  | repeated (flag : Flag)
  | surplusValue (flag : Flag) (value : String) (used : List Flag)
deriving DecidableEq, Repr

/-! ### Similar names -/

/-- The characters of a text that match some in another one, no further apart than the
distance, each with its partner; `taken` are the places of partners that are taken. -/
def partners (distance : Nat) (other : List Char) : Nat → List Nat → List Char → List (Char × Nat)
  | _, _, [] => []
  | place, taken, c :: rest =>
      let found := (List.range other.length).find? fun i =>
        place ≤ i + distance && i ≤ place + distance && other[i]? == some c && !taken.contains i
      match found with
      | some i => (c, i) :: partners distance other (place + 1) (i :: taken) rest
      | none => partners distance other (place + 1) taken rest

/-- The similarity of two texts as a fraction, by the matching characters and those of
them that are out of order. -/
def similarity (a b : List Char) : Nat × Nat :=
  let distance := max a.length b.length / 2 - 1
  let matched := partners distance b 0 [] a
  let count := matched.length
  if count = 0 then (0, 1)
  else
    let inOrder := (matched.map (·.2)).mergeSort.filterMap fun i => b[i]?
    let moved := ((matched.map (·.1)).zip inOrder).countP fun pair => pair.1 != pair.2
    let kept := count - moved / 2
    (count * b.length * count + count * a.length * count + kept * a.length * b.length,
      3 * a.length * b.length * count)

/-- Whether a fraction is smaller than another. -/
def isSmaller (x y : Nat × Nat) : Bool := x.1 * y.2 < y.1 * x.2

/-- The flag whose name is most similar to a text, if one is similar enough. -/
def similarFlag? (text : String) : Option Flag :=
  let close := Flag.all.filter fun flag =>
    isSmaller (7, 10) (similarity text.toList flag.name.toList)
  close.foldl (fun best flag =>
    match best with
    | none => some flag
    | some other =>
        if isSmaller (similarity text.toList other.name.toList)
            (similarity text.toList flag.name.toList) then some flag
        else some other) none

/-! ### Reading -/

/-- The effect of a flag on what has been found: whether to watch. -/
def effect (full : Bool) (watch : Bool) : Flag → Except Stop Bool
  | .watch => if watch then .error (.repeated .watch) else .ok true
  | .help => .error (.showHelp full)
  | .version => .error .showVersion

def usedFlags (watch : Bool) : List Flag := if watch then [.watch] else []

/-- Reads an argument of long form, without its dashes. -/
def readLong (watch : Bool) (text : List Char) : Except Stop Bool :=
  let name := String.ofList (text.takeWhile (· != '='))
  match Flag.all.find? (·.name == name), text.dropWhile (· != '=') with
  | some flag, '=' :: value =>
      .error (.surplusValue flag (String.ofList value) (usedFlags watch ++ [flag]).eraseDups)
  | some flag, _ => effect true watch flag
  | none, _ =>
      .error (.unknown ("--" ++ name) (similarFlag? name)
        (usedFlags watch ++ (similarFlag? name).toList).eraseDups)

def readLetters : Bool → List Char → Except Stop Bool
  | watch, [] => .ok watch
  | watch, c :: rest =>
      match Flag.all.find? (·.letter == c) with
      | some flag => (effect false watch flag).bind fun watch => readLetters watch rest
      | none => .error (.unknown (String.ofList ['-', c]) none [])

def readFrom : Bool → List String → Except Stop Bool
  | watch, [] => .ok watch
  | watch, argument :: rest =>
      match argument.toList with
      | ['-', '-'] =>
          match rest with
          | [] => .ok watch
          | extra :: _ => .error (.unknown extra none [])
      | '-' :: '-' :: text => (readLong watch text).bind fun watch => readFrom watch rest
      | '-' :: c :: letters =>
          (readLetters watch (c :: letters)).bind fun watch => readFrom watch rest
      | _ => .error (.unknown argument none [])

/-- Whether to keep watching, by the arguments after the program's name. -/
def read (arguments : List String) : Except Stop Bool := readFrom false arguments

/-! ### Texts -/

def version : String := "0.1.0"

def shortHelp : String :=
  "Generate TypeScript types for the SQL queries embedded in a project\n\n"
    ++ "Usage: sqltype [OPTIONS]\n\n"
    ++ "Options:\n"
    ++ "  -w, --watch    Keep running and regenerate when a source or migration file changes\n"
    ++ "  -h, --help     Print help (see more with '--help')\n"
    ++ "  -V, --version  Print version\n"

def fullHelp : String :=
  "Generate TypeScript types for the SQL queries embedded in a project.\n\n"
    ++ "Run from the project root. Settings come from `sqltype.toml` and `SQLTYPE_*` "
    ++ "environment variables.\n\n"
    ++ "Usage: sqltype [OPTIONS]\n\n"
    ++ "Options:\n"
    ++ "  -w, --watch\n"
    ++ "          Keep running and regenerate when a source or migration file changes\n\n"
    ++ "  -h, --help\n"
    ++ "          Print help (see a summary with '-h')\n\n"
    ++ "  -V, --version\n"
    ++ "          Print version\n"

/-- The usage line, with the flags to be named. -/
def usage (used : List Flag) : String :=
  "Usage: sqltype "
    ++ if used.isEmpty then "[OPTIONS]" else String.intercalate " " (used.map Flag.written)

def complaint (what : String) (hint : List String) (used : List Flag) : String :=
  "error: " ++ what ++ "\n\n" ++ String.join (hint.map fun line => "  " ++ line ++ "\n\n")
    ++ usage used ++ "\n\nFor more information, try '--help'.\n"

namespace Stop

def text : Stop → String
  | showHelp full => if full then fullHelp else shortHelp
  | showVersion => "sqltype " ++ version ++ "\n"
  | unknown argument similar used =>
      complaint ("unexpected argument '" ++ argument ++ "' found")
        (similar.toList.map fun flag =>
          "tip: a similar argument exists: '" ++ flag.written ++ "'") used
  | repeated flag =>
      complaint ("the argument '" ++ flag.written ++ "' cannot be used multiple times") [] []
  | surplusValue flag value used =>
      complaint ("unexpected value '" ++ value ++ "' for '" ++ flag.written
        ++ "' found; no more were expected") [] used

/-- Whether the user got what was asked for. -/
def isSuccess : Stop → Bool
  | showHelp _ | showVersion => true
  | _ => false

def exitCode (stop : Stop) : Nat := if stop.isSuccess then 0 else 2

end Stop

end Arguments

end TypedQueries
