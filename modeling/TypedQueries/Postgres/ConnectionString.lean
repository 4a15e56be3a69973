import TypedQueries.Path
import TypedQueries.Text.Hex

/-! # Connection strings

How a database server is reached, as a text: either words `key=value`, or an address that
begins with `postgres://`. Both set the same parameters; a host that begins with `/` is
the directory of a socket. Runs take what reads such texts from outside
(`ConnectionStrings`); `connectionOptions?` is a reader.
-/

namespace TypedQueries

namespace Postgres

/-- Where a server is: the directory of its socket, or a name on the network. -/
inductive Host where
  | socketDirectory (path : Path)
  | name (name : String)
deriving DecidableEq, Repr

/-- What a connection string says. Numbers without bearing on the connection are checked
only. -/
structure ConnectionOptions where
  user : Option String := none
  password : Option (List UInt8) := none
  database : Option String := none
  hosts : List Host := []
  numericHosts : List String := []
  ports : List Nat := []
deriving DecidableEq, Repr

/-- What reads connection strings. -/
class ConnectionStrings where
  options? : String → Option ConnectionOptions

/-- The port of a server that says nothing else. -/
def defaultPort : Nat := 5432

def isSpace (c : Char) : Bool :=
  let n := c.toNat
  (9 ≤ n && n ≤ 13) || n == 0x20 || n == 0x85 || n == 0xa0 || n == 0x1680
    || (0x2000 ≤ n && n ≤ 0x200a) || n == 0x2028 || n == 0x2029 || n == 0x202f || n == 0x205f
    || n == 0x3000

/-- A decimal number below a bound; a plus sign may stand before it. -/
def natural? (bound : Nat) (text : List Char) : Option Nat := do
  let digits :=
    match text with
    | '+' :: rest => rest
    | text => text
  guard (!digits.isEmpty && digits.all Char.isDigit)
  let n := digits.foldl (fun n c => 10 * n + (c.toNat - '0'.toNat)) 0
  guard (n < bound)
  return n

/-- Whether a text is a decimal number of sixty-four bits with an optional sign. -/
def isInteger (text : List Char) : Bool :=
  match text with
  | '-' :: '+' :: _ => false
  | '-' :: rest => (natural? (Nat.pow 2 63 + 1) rest).isSome
  | text => (natural? (Nat.pow 2 63) text).isSome

/-- The stretches of a text between separators. -/
def splitAt (separator : Char) : List Char → List (List Char)
  | [] => [[]]
  | c :: rest =>
      if c = separator then [] :: splitAt separator rest
      else
        match splitAt separator rest with
        | [] => [[c]]
        | part :: parts => (c :: part) :: parts

/-- Whether a text is a numeric address of four bytes. -/
def isFourBytes (text : List Char) : Bool :=
  let parts := splitAt '.' text
  parts.length == 4 && parts.all fun part =>
    part.all Char.isDigit && (natural? 256 part).isSome &&
      (part.length == 1 || part.head? != some '0')

/-- The number of two-byte groups of a part of a numeric address, of which the last may be
written as four bytes. -/
def groups? (mayEnd : Bool) (text : List Char) : Option Nat :=
  if text.isEmpty then some 0
  else
    let parts := splitAt ':' text
    let isGroup (part : List Char) : Bool :=
      !part.isEmpty && part.length ≤ 4 && part.all fun c => (Hex.digit? c).isSome
    if parts.all isGroup then some parts.length
    else if mayEnd && parts.dropLast.all isGroup && (parts.getLast?.any isFourBytes) then
      some (parts.length + 1)
    else none

/-- The text before and after the first pair of colons. -/
def splitAtPair : List Char → Option (List Char × List Char)
  | [] => none
  | ':' :: ':' :: rest => some ([], rest)
  | c :: rest => (splitAtPair rest).map fun parts => (c :: parts.1, parts.2)

def isNumericHost (text : List Char) : Bool :=
  isFourBytes text ||
    match splitAtPair text with
    | none => groups? true text = some 8
    | some (before, after) =>
        match groups? false before, groups? true after with
        | some m, some n => m + n ≤ 7
        | _, _ => false

/-- The host a text names; the empty text names none. -/
def host? (text : List Char) : Option Host :=
  match text with
  | [] => none
  | '/' :: _ => some (.socketDirectory (.ofString (String.ofList text)))
  | text => some (.name (String.ofList text))

/-- The port a text names; the empty text names the default one. -/
def port? (text : List Char) : Option Nat :=
  if text.isEmpty then some defaultPort else natural? (Nat.pow 2 16) text

/-- The parameters that take one of a few words. -/
def choices : List (String × List String) :=
  [("sslmode", ["disable", "prefer", "require"]),
   ("sslnegotiation", ["postgres", "direct"]),
   ("target_session_attrs", ["any", "read-write", "read-only"]),
   ("channel_binding", ["disable", "prefer", "require"]),
   ("load_balance_hosts", ["disable", "random"])]

/-- Sets a parameter. Nothing comes of an unknown one, or of a value that it does not
take. -/
def set? (options : ConnectionOptions) (key : String) (value : List Char) :
    Option ConnectionOptions :=
  match key with
  | "user" => some { options with user := some (String.ofList value) }
  | "password" => some { options with password := some (String.ofList value).toUTF8.toList }
  | "dbname" => some { options with database := some (String.ofList value) }
  | "host" => do
      let hosts ← (splitAt ',' value).mapM host?
      return { options with hosts := options.hosts ++ hosts }
  | "hostaddr" => do
      let hosts := splitAt ',' value
      guard (hosts.all isNumericHost)
      return { options with numericHosts := options.numericHosts ++ hosts.map String.ofList }
  | "port" => do
      let ports ← (splitAt ',' value).mapM port?
      return { options with ports := options.ports ++ ports }
  | "options" | "application_name" => some options
  | "connect_timeout" | "tcp_user_timeout" | "keepalives_idle" | "keepalives_interval" =>
      if isInteger value then some options else none
  | "keepalives" => (natural? (Nat.pow 2 64) value).map fun _ => options
  | "keepalives_retries" => (natural? (Nat.pow 2 32) value).map fun _ => options
  | key =>
      match choices.lookup key with
      | some words => if words.contains (String.ofList value) then some options else none
      | none => none

/-! ### Words -/

/-- A value without quotes, up to white space; a backslash stands for the next
character. -/
def plainValue : List Char → List Char × List Char
  | '\\' :: c :: rest => ((c :: (plainValue rest).1), (plainValue rest).2)
  | ['\\'] => ([], [])
  | c :: rest =>
      if isSpace c then ([], c :: rest) else (c :: (plainValue rest).1, (plainValue rest).2)
  | [] => ([], [])

/-- A value up to a quote; a backslash stands for the next character. -/
def quotedValue? : List Char → Option (List Char × List Char)
  | '\'' :: rest => some ([], rest)
  | '\\' :: c :: rest => (quotedValue? rest).map fun read => (c :: read.1, read.2)
  | c :: rest => (quotedValue? rest).map fun read => (c :: read.1, read.2)
  | [] => none

/-- A value, which must not be empty unless it is in quotes. -/
def value? : List Char → Option (List Char × List Char)
  | '\'' :: rest => quotedValue? rest
  | text =>
      let read := plainValue text
      if read.1.isEmpty then none else some read

def isKeyChar (c : Char) : Bool := !isSpace c && c != '='

/-- A key with its value, and what follows them; nothing where no key begins. -/
def word? (text : List Char) : Option (Option ((String × List Char) × List Char)) :=
  let text := text.dropWhile isSpace
  let key := text.takeWhile isKeyChar
  if key.isEmpty then some none
  else
    match (text.dropWhile isKeyChar).dropWhile isSpace with
    | '=' :: rest =>
        (value? (rest.dropWhile isSpace)).map fun read =>
          some ((String.ofList key, read.1), read.2)
    | _ => none

/-- Sets the parameters of the remaining words. -/
def words? (options : ConnectionOptions) (text : List Char) : Option ConnectionOptions :=
  match word? text with
  | none => none
  | some none => some options
  | some (some ((key, value), rest)) =>
      match set? options key value with
      | none => none
      | some options => if rest.length < text.length then words? options rest else none
termination_by text.length

/-! ### Addresses -/

/-- The bytes a text stands for, where two hexadecimal digits after a percent sign stand
for a byte. -/
def percentDecoded : List UInt8 → List UInt8
  | b :: c :: d :: rest =>
      if b = 0x25 then
        match Hex.digit? (Char.ofNat c.toNat), Hex.digit? (Char.ofNat d.toNat) with
        | some high, some low => .ofNat (16 * high + low) :: percentDecoded rest
        | _, _ => b :: percentDecoded (c :: d :: rest)
      else b :: percentDecoded (c :: d :: rest)
  | bytes => bytes
termination_by bytes => bytes.length

def decodedBytes (text : List Char) : List UInt8 :=
  percentDecoded (String.ofList text).toUTF8.toList

def decoded? (text : List Char) : Option (List Char) :=
  (Utf8.text? (decodedBytes text)).map String.toList

def addHost? (options : ConnectionOptions) (text : List Char) : Option ConnectionOptions :=
  let bytes := decodedBytes text
  if bytes.head? == some Path.slash then
    some { options with hosts := options.hosts ++ [.socketDirectory ⟨bytes⟩] }
  else do
    let host ← (← decoded? text) |> host?
    return { options with hosts := options.hosts ++ [host] }

/-- The parts of a text before and after the first occurrence of a character. -/
def splitOnce? (separator : Char) (text : List Char) : Option (List Char × List Char) :=
  if text.contains separator then
    some (text.takeWhile (· != separator), (text.dropWhile (· != separator)).drop 1)
  else none

/-- Sets the user and the password of an address. -/
def credentials? (options : ConnectionOptions) (text : List Char) : Option ConnectionOptions := do
  let (user, password) :=
    match splitOnce? ':' text with
    | some (user, password) => (user, some (decodedBytes password))
    | none => (text, none)
  let user ← decoded? user
  return { options with user := some (String.ofList user), password := password }

/-- A host and its port in an address; a host in brackets may contain colons. -/
def hostAndPort? (text : List Char) : Option (List Char × List Char) :=
  match text with
  | '[' :: rest =>
      match splitOnce? ']' rest with
      | some (host, []) => some (host, "5432".toList)
      | some (host, ':' :: port) => some (host, port)
      | _ => none
  | text => some ((splitOnce? ':' text).getD (text, "5432".toList))

/-- Adds the remaining hosts of an address. -/
def hosts? : ConnectionOptions → List (List Char) → Option ConnectionOptions
  | options, [] => some options
  | options, text :: rest => do
      let (host, port) ← hostAndPort? text
      let options ← addHost? options host
      let options ← set? options "port" (← decoded? port)
      hosts? options rest

/-- Sets the remaining parameters of an address. -/
def parameters? : ConnectionOptions → List (List Char) → Option ConnectionOptions
  | options, [] => some options
  | options, text :: rest => do
      let (key, value) ← splitOnce? '=' text
      let key ← decoded? key
      let options ←
        if key = "host".toList then addHost? options value
        else set? options (String.ofList key) (← decoded? value)
      parameters? options rest

/-- The parameters of an address, between ampersands; one may stand after the last. -/
def parameterTexts (text : List Char) : List (List Char) :=
  let parts := splitAt '&' text
  if parts.getLast? = some [] then parts.dropLast else parts

/-- Reads an address without what it begins with. -/
def address? (text : List Char) : Option ConnectionOptions := do
  let (options, text) ←
    match splitOnce? '@' text with
    | some (credentials, rest) => (credentials? {} credentials).map (·, rest)
    | none => some ({}, text)
  let place := text.takeWhile fun c => c != '/' && c != '?'
  let rest := text.drop place.length
  let options ← if place.isEmpty then some options else hosts? options (splitAt ',' place)
  let (options, rest) ←
    match rest with
    | '/' :: rest =>
        let database := rest.takeWhile (· != '?')
        let rest := rest.drop database.length
        if database.isEmpty then some (options, rest)
        else (decoded? database).map fun database =>
          ({ options with database := some (String.ofList database) }, rest)
    | rest => some (options, rest)
  match rest with
  | '?' :: rest => parameters? options (parameterTexts rest)
  | _ => some options

def schemes : List (List Char) := ["postgres://".toList, "postgresql://".toList]

def connectionOptions? (text : String) : Option ConnectionOptions :=
  match schemes.find? (·.isPrefixOf text.toList) with
  | some scheme => address? (text.toList.drop scheme.length)
  | none => words? {} text.toList

instance : ConnectionStrings where
  options? := connectionOptions?

end Postgres

end TypedQueries
