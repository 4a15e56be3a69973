import TypedQueries.Failure
import TypedQueries.Postgres.ConnectionString
import TypedQueries.Postgres.Server
import TypedQueries.Postgres.Text
import TypedQueries.Surroundings

/-! # Scratch databases

A scratch database is made on a server for one run and dropped when the run ends. Two
connections are held: one for administration, through which the database is made and
dropped, and one to the database itself.
-/

namespace TypedQueries

namespace Postgres

/-- What a client asks of its surroundings and of servers. -/
abbrev ClientInterface : Interface := Surroundings.sum Server

def askServer (request : Server.Request) : Activity ClientInterface (Server.Reply request) :=
  Activity.onRight (Activity.request (I := Server) request)

def log (record : LogRecord) : Activity ClientInterface Unit :=
  Activity.onLeft (Surroundings.log record)

def logTarget : String := "sqltype_analysis::probe::postgres"

/-- An open connection, with what it is called in messages. -/
structure Connection where
  number : Nat
  target : String
deriving DecidableEq, Repr

namespace Connection

/-- The log entry when a connection has been hung up. -/
def lostRecord (connection : Connection) : LogRecord :=
  ⟨.warn, logTarget, "postgres connection error",
    [("target_db", .text connection.target), ("error", .text ClientFault.hungUp.message)]⟩

/-- A reply; if the connection has been hung up, that is noted in the log. -/
def noticed {α : Type} (connection : Connection) (reply : Except ClientFault α) :
    Activity ClientInterface (Except ClientFault α) := do
  match reply with
  | .error .hungUp => log connection.lostRecord
  | _ => pure ()
  return reply

def isEncodable (text : String) : Bool := !text.toList.contains '\x00'

def batch (connection : Connection) (sql : String) :
    Activity ClientInterface (Except ClientFault Unit) := do
  if isEncodable sql then
    let reply ← askServer (.batch connection.number sql)
    connection.noticed reply
  else return .error .unencodable

def prepare (connection : Connection) (sql : String) :
    Activity ClientInterface (Except ClientFault QueryDescription) := do
  if isEncodable sql then
    let reply ← askServer (.prepare connection.number sql)
    connection.noticed reply
  else return .error .unencodable

def close (connection : Connection) : Activity ClientInterface Unit :=
  askServer (.close connection.number)

end Connection

namespace ConnectionOptions

/-- The number of places where a server may be. -/
def placeCount (options : ConnectionOptions) : Nat :=
  if options.hosts.isEmpty then options.numericHosts.length else options.hosts.length

/-- Whether hosts and ports are given in fitting numbers. -/
def isComplete (options : ConnectionOptions) : Bool :=
  options.placeCount != 0
    && (options.hosts.isEmpty || options.numericHosts.isEmpty
      || options.hosts.length == options.numericHosts.length)
    && (options.ports.length ≤ 1 || options.ports.length == options.placeCount)

def port (options : ConnectionOptions) (place : Nat) : Nat :=
  ((options.ports[place]?).or options.ports.head?).getD defaultPort

def socketName (port : Nat) : Name := .ofString (".s.PGSQL." ++ toString port)

def address? (options : ConnectionOptions) (place : Nat) : Option Address :=
  match options.numericHosts[place]?, options.hosts[place]? with
  | some host, _ => some (.network host (options.port place))
  | none, some (.name host) => some (.network host (options.port place))
  | none, some (.socketDirectory directory) =>
      some (.socket (directory.child (socketName (options.port place))))
  | none, none => none

def addresses (options : ConnectionOptions) : List Address :=
  (List.range options.placeCount).filterMap options.address?

end ConnectionOptions

/-- Dials addresses in order until a server answers; else the last fault counts. -/
def dialAny (user : String) (database : Option String) (fault : ClientFault) :
    List Address → Activity ClientInterface (Except ClientFault Nat)
  | [] => return .error fault
  | address :: rest => do
      match ← askServer (.dial address user database) with
      | .ok connection => return .ok connection
      | .error fault => dialAny user database fault rest

def dial (options : ConnectionOptions) (database : Option String) :
    Activity ClientInterface (Except ClientFault Nat) := do
  if !options.isComplete then return .error .misconfigured
  else
    let account ← askServer .account
    let user := options.user.getD account
    if Connection.isEncodable user && database.all Connection.isEncodable then
      dialAny user database .unreachable options.addresses
    else return .error .unencodable

/-- Connects to a database, which is called `target` in messages. -/
def connect (options : ConnectionOptions) (database : Option String) (target : String) :
    Activity ClientInterface (Except DatabaseFailure Connection) := do
  match ← dial options database with
  | .ok number => return .ok ⟨number, target⟩
  | .error fault => return .error (.unreachable target fault.message)

/-- A scratch database with its connections. -/
structure Scratch where
  name : String
  admin : Connection
  database : Connection
deriving DecidableEq, Repr

namespace Scratch

/-- The beginning of the names of scratch databases. -/
def namePrefix : String := "sqltype_scratch"

def nameOf (stamp : Nat × Nat) : String :=
  namePrefix ++ "_" ++ toString stamp.1 ++ "_" ++ toString stamp.2

def createStatement (name : String) : String := "CREATE DATABASE " ++ quoteIdentifier name

def dropStatement (name : String) : String :=
  "DROP DATABASE IF EXISTS " ++ quoteIdentifier name ++ " WITH (FORCE)"

/-- The log entry when a database has been made or dropped. -/
def record (message name : String) : LogRecord :=
  ⟨.debug, logTarget, message, [("database", .text name)]⟩

def drop (admin : Connection) (name : String) :
    Activity ClientInterface (Except DatabaseFailure Unit) := do
  match ← admin.batch (dropStatement name) with
  | .ok () => return .ok ()
  | .error fault => return .error (.notDropped name fault.message)

/-- Connects to a database that has just been made. It is dropped again if that fails. -/
def enter (options : ConnectionOptions) (admin : Connection) (name : String) :
    Activity ClientInterface (Except DatabaseFailure Scratch) := do
  log (record "scratch database created" name)
  match ← connect options (some name) name with
  | .ok database => return .ok ⟨name, admin, database⟩
  | .error failure =>
      let _ ← drop admin name
      admin.close
      return .error failure

/-- Makes a scratch database on the server that a connection string describes. -/
def create [ConnectionStrings] (url : String) :
    Activity ClientInterface (Except DatabaseFailure Scratch) := do
  match ConnectionStrings.options? url with
  | none => return .error (.unreachable (redact url) ClientFault.malformed.message)
  | some options =>
      match ← connect options options.database (redact url) with
      | .error failure => return .error failure
      | .ok admin =>
          let name := nameOf (← askServer .stamp)
          match ← admin.batch (createStatement name) with
          | .ok () => enter options admin name
          | .error fault =>
              admin.close
              return .error (.notCreated name fault.message)

def apply (scratch : Scratch) (name sql : String) :
    Activity ClientInterface (Except DatabaseFailure Unit) := do
  match ← scratch.database.batch sql with
  | .ok () => return .ok ()
  | .error fault => return .error (.migrationFailed name fault.message)

/-- Describes a query without running it. -/
def describe (scratch : Scratch) (sql : String) :
    Activity ClientInterface (Except DatabaseFailure QueryDescription) := do
  match ← scratch.database.prepare sql with
  | .ok description => return .ok description
  | .error fault => return .error (.describeFailed sql fault.message)

/-- Closes the connection to a scratch database, then drops it. -/
def dispose (scratch : Scratch) : Activity ClientInterface (Except DatabaseFailure Unit) := do
  scratch.database.close
  let result ← drop scratch.admin scratch.name
  scratch.admin.close
  match result with
  | .ok () => log (record "scratch database dropped" scratch.name)
  | .error _ => pure ()
  return result

end Scratch

end Postgres

end TypedQueries
