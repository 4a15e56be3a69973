/-! # Names and addresses in texts

How the name of a database is written in a statement, and how an address is shown in
messages.
-/

namespace TypedQueries

namespace Postgres

/-- A name in a statement: in double quotes, those in the name doubled. -/
def quoteIdentifier (name : String) : String :=
  let interior := name.toList.flatMap fun c => if c = '\x22' then ['\x22', '\x22'] else [c]
  String.ofList ('\x22' :: interior ++ ['\x22'])

/-- The texts before and after the first occurrence of another text. -/
def splitAtFirst? (mark : List Char) : List Char → Option (List Char × List Char)
  | [] => if mark.isEmpty then some ([], []) else none
  | c :: rest =>
      if mark.isPrefixOf (c :: rest) then some ([], (c :: rest).drop mark.length)
      else (splitAtFirst? mark rest).map fun parts => (c :: parts.1, parts.2)

/-- An address as it is shown: where a user and a password stand before the host, without
the password. -/
def redact (url : String) : String :=
  match splitAtFirst? "://".toList url.toList with
  | none => url
  | some (scheme, rest) =>
      match splitAtFirst? ['@'] rest with
      | none => url
      | some (credentials, host) =>
          match splitAtFirst? [':'] credentials with
          | none => url
          | some (user, _) =>
              String.ofList (scheme ++ "://".toList ++ user ++ ":***@".toList ++ host)

end Postgres

end TypedQueries
