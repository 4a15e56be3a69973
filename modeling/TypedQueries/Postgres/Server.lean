import TypedQueries.Activity
import TypedQueries.Description
import TypedQueries.Path

/-! # Database servers

What can be asked of database servers, and how a client fares. Connections are known by
numbers.
-/

namespace TypedQueries

namespace Postgres

/-- Where a server listens. -/
inductive Address where
  | socket (path : Path)
  | network (host : String) (port : Nat)
deriving DecidableEq, Repr

/-- What keeps a client from its purpose: an error of the server, or its own. A connection
that has been hung up during a request stays closed. -/
inductive ClientFault where
  | server (message : String) (position : Option Nat)
  | hungUp
  | closed
  | unencodable
  | unreachable
  | malformed
  | misconfigured
deriving DecidableEq, Repr

def ClientFault.message : ClientFault → String
  | server message none => message
  | server message (some position) =>
      message ++ " (at character " ++ toString position ++ ")"
  | hungUp | closed => "connection closed"
  | unencodable => "error encoding message to server"
  | unreachable => "error connecting to server"
  | malformed => "invalid connection string"
  | misconfigured => "invalid configuration"

namespace Server

/-- What can be asked for. -/
inductive Request where
  /-- The name of the user this process runs for. -/
  | account
  /-- The number of this process and the nanoseconds of the clock. -/
  | stamp
  /-- A connection to a database for a user. -/
  | dial (address : Address) (user : String) (database : Option String)
  | batch (connection : Nat) (sql : String)
  | prepare (connection : Nat) (sql : String)
  /-- That a connection is closed, after a farewell if it is open. -/
  | close (connection : Nat)

abbrev Reply : Request → Type
  | .account => String
  | .stamp => Nat × Nat
  | .dial _ _ _ => Except ClientFault Nat
  | .batch _ _ => Except ClientFault Unit
  | .prepare _ _ => Except ClientFault QueryDescription
  | .close _ => Unit

end Server

def Server : Interface where
  Request := Server.Request
  Reply := Server.Reply

end Postgres

end TypedQueries
