import TypedQueries.Postgres.Generation
import TypedQueries.Proofs.Activity.Interpretation

/-! # The lifetime of a scratch database

Whatever servers reply, what a run asks of them is a `Postgres.Lifetime`: if a database is made, the
last statement of the run drops it, on the connection on which it was made, and the connection to
it is closed before (`Postgres.generate_drops_what_it_makes`).
-/

namespace TypedQueries

namespace Postgres

namespace Server

/-- The connection of a statement. -/
def statedOn? : Exchange Server → Option Nat
  | ⟨.batch connection _, _⟩ => some connection
  | ⟨.prepare connection _, _⟩ => some connection
  | _ => none

/-- The number of the connection that is opened. -/
def opened? : Exchange Server → Option Nat
  | ⟨.dial _ _ _, .ok connection⟩ => some connection
  | _ => none

/-- Whether an exchange leads to no connection and uses none. -/
def isIdle : Exchange Server → Bool
  | ⟨.account, _⟩ => true
  | ⟨.stamp, _⟩ => true
  | ⟨.dial _ _ _, reply⟩ => !reply.isOk
  | _ => false

theorem statedOn?_of_isIdle {exchange : Exchange Server} (idle : isIdle exchange) :
    statedOn? exchange = none := by
  obtain ⟨request, reply⟩ := exchange
  cases request <;> first | rfl | cases idle

end Server

/-- The statements among exchanges. -/
def statements (asked : List (Exchange Server)) : List (Exchange Server) :=
  asked.filter fun exchange => (Server.statedOn? exchange).isSome

/-- Servers are dialled for a database until one answers, or none is left. -/
inductive Dialling (database : Option String) : List (Exchange Server) → Option Nat → Prop
  | refused {asked : List (Exchange Server)} (idle : ∀ exchange ∈ asked, Server.isIdle exchange) :
      Dialling database asked none
  | answered {asked : List (Exchange Server)} {address : Address} {user : String} {number : Nat}
      (idle : ∀ exchange ∈ asked, Server.isIdle exchange) :
      Dialling database (asked ++ [⟨.dial address user database, .ok number⟩]) (some number)

theorem Dialling.cons {database : Option String} {exchange : Exchange Server}
    {asked : List (Exchange Server)} {outcome : Option Nat} (idle : Server.isIdle exchange)
    (dial : Dialling database asked outcome) : Dialling database (exchange :: asked) outcome := by
  cases dial with
  | refused idles => exact .refused (List.forall_mem_cons.mpr ⟨idle, idles⟩)
  | answered idles =>
      rw [← List.cons_append]
      exact .answered (List.forall_mem_cons.mpr ⟨idle, idles⟩)

/-- What may be asked while a database is there: connections to it are refused, or it is entered,
worked with, and left. -/
inductive Keeping (name : String) : List (Exchange Server) → Prop
  | refused {asked : List (Exchange Server)} (dial : Dialling (some name) asked none) :
      Keeping name asked
  | left {dialling work : List (Exchange Server)} {number : Nat}
      (dial : Dialling (some name) dialling (some number))
      (stated : ∀ exchange ∈ work, Server.statedOn? exchange = some number) :
      Keeping name (dialling ++ work ++ [⟨.close number, ()⟩])

/-- What may be asked of servers in one run. No statement is made before the one that makes the
database, and none but the one that drops it after it has been left. -/
inductive Lifetime : List (Exchange Server) → Prop
  | unreached {asked : List (Exchange Server)}
      (idle : ∀ exchange ∈ asked, Server.isIdle exchange) : Lifetime asked
  | notMade {database : Option String} {dialling : List (Exchange Server)} {admin : Nat}
      {stamp : Nat × Nat} {fault : ClientFault}
      (dial : Dialling database dialling (some admin)) :
      Lifetime (dialling ++
        [⟨.stamp, stamp⟩,
          ⟨.batch admin (Scratch.createStatement (Scratch.nameOf stamp)), .error fault⟩,
          ⟨.close admin, ()⟩])
  | dropped {database : Option String} {dialling keeping : List (Exchange Server)} {admin : Nat}
      {stamp : Nat × Nat} (dial : Dialling database dialling (some admin))
      (keep : Keeping (Scratch.nameOf stamp) keeping) (reply : Except ClientFault Unit) :
      Lifetime (dialling ++
        [⟨.stamp, stamp⟩,
          ⟨.batch admin (Scratch.createStatement (Scratch.nameOf stamp)), .ok ()⟩] ++
        keeping ++
        [⟨.batch admin (Scratch.dropStatement (Scratch.nameOf stamp)), reply⟩,
          ⟨.close admin, ()⟩])

/-- What is asked when a scratch database is to be made, and what is then there. -/
inductive Creating : List (Exchange Server) → Option Scratch → Prop
  | failed {asked : List (Exchange Server)} (ended : Lifetime asked) : Creating asked none
  | entered {database : Option String} {dialling entering : List (Exchange Server)}
      {stamp : Nat × Nat} {scratch : Scratch}
      (dial : Dialling database dialling (some scratch.admin.number))
      (named : scratch.name = Scratch.nameOf stamp)
      (enter : Dialling (some scratch.name) entering (some scratch.database.number)) :
      Creating (dialling ++
        [⟨.stamp, stamp⟩,
          ⟨.batch scratch.admin.number (Scratch.createStatement scratch.name), .ok ()⟩] ++
        entering) (some scratch)

/-! ## What each step asks -/

/-- That what an activity asks of servers and its result meet a condition, whatever the replies
are. -/
structure Asks {α : Type} (activity : Activity ClientInterface α)
    (post : List (Exchange Server) → α → Prop) : Prop where
  ensures : activity.Ensures fun exchanges result => post (Exchange.rights exchanges) result

namespace Asks

variable {α β : Type} {activity : Activity ClientInterface α}
  {post : List (Exchange Server) → α → Prop}

theorem mono {weaker : List (Exchange Server) → α → Prop} (asks : Asks activity post)
    (implies : ∀ asked result, post asked result → weaker asked result) : Asks activity weaker :=
  ⟨asks.ensures.mono fun _ _ => implies _ _⟩

theorem done {result : α} (holds : post [] result) : Asks (Activity.done result) post := ⟨holds⟩

/-- One activity after another: what the second asks comes after what the first has asked. -/
theorem bind {further : α → Activity ClientInterface β}
    {goal : List (Exchange Server) → β → Prop} (asks : Asks activity post)
    (goesOn : ∀ asked result, post asked result →
      Asks (further result) fun later final => goal (asked ++ later) final) :
    Asks (activity >>= further) goal := by
  refine ⟨Activity.Ensures.bind (asks.ensures.mono fun exchanges result holds => ?_)⟩
  refine (goesOn _ _ holds).ensures.mono fun later final reached => ?_
  rwa [Exchange.rights_append]

theorem server (request : Server.Request) :
    Asks (askServer request) fun asked reply => asked = [⟨request, reply⟩] := ⟨fun _ => rfl⟩

theorem log (record : LogRecord) : Asks (Postgres.log record) fun asked _ => asked = [] :=
  ⟨Activity.Ensures.onLeft_rights⟩

theorem noticed (connection : Connection) (reply : Except ClientFault α) :
    Asks (connection.noticed reply) fun asked result => asked = [] ∧ result = reply := by
  cases reply with
  | ok result => exact done ⟨rfl, rfl⟩
  | error fault =>
      cases fault with
      | hungUp =>
          refine bind (log _) ?_
          rintro _ _ rfl
          exact done ⟨rfl, rfl⟩
      | server _ _ | closed | unencodable | unreachable | malformed | misconfigured =>
          exact done ⟨rfl, rfl⟩

/-- A text is sent if it can be encoded. -/
theorem batch (connection : Connection) (sql : String) :
    Asks (connection.batch sql) fun asked reply =>
      asked =
        if Connection.isEncodable sql then [⟨.batch connection.number sql, reply⟩] else [] := by
  unfold Connection.batch
  split
  · refine bind (server _) ?_
    rintro _ reply rfl
    refine (noticed connection reply).mono ?_
    rintro _ _ ⟨rfl, rfl⟩
    rfl
  · exact done rfl

theorem batch_of_isEncodable (connection : Connection) {sql : String}
    (encodable : Connection.isEncodable sql) :
    Asks (connection.batch sql) fun asked reply =>
      asked = [⟨.batch connection.number sql, reply⟩] :=
  (batch connection sql).mono fun _ _ same => same.trans (if_pos encodable)

theorem batch_stated (connection : Connection) (sql : String) :
    Asks (connection.batch sql) fun asked _ =>
      ∀ exchange ∈ asked, Server.statedOn? exchange = some connection.number := by
  refine (batch connection sql).mono ?_
  rintro asked reply same
  rw [same]
  split
  · exact List.forall_mem_singleton.mpr rfl
  · simp

theorem prepare_stated (connection : Connection) (sql : String) :
    Asks (connection.prepare sql) fun asked _ =>
      ∀ exchange ∈ asked, Server.statedOn? exchange = some connection.number := by
  unfold Connection.prepare
  split
  · refine bind (server _) ?_
    rintro _ reply rfl
    refine (noticed connection reply).mono ?_
    rintro _ _ ⟨rfl, rfl⟩
    exact List.forall_mem_singleton.mpr rfl
  · exact done (by simp)

theorem close (connection : Connection) :
    Asks connection.close fun asked _ => asked = [⟨.close connection.number, ()⟩] :=
  ⟨fun _ => rfl⟩

theorem dialAny (user : String) (database : Option String) (fault : ClientFault)
    (addresses : List Address) :
    Asks (Postgres.dialAny user database fault addresses) fun asked outcome =>
      Dialling database asked outcome.toOption := by
  induction addresses generalizing fault with
  | nil => exact done (.refused (by simp))
  | cons address addresses ih =>
      refine bind (server (.dial address user database)) ?_
      rintro _ reply rfl
      cases reply with
      | ok number =>
          have answered : Dialling database ([] ++ [⟨.dial address user database, .ok number⟩])
              (some number) := .answered (by simp)
          exact done answered
      | error fault => exact (ih fault).mono fun _ _ dial => dial.cons rfl

theorem dial (options : ConnectionOptions) (database : Option String) :
    Asks (Postgres.dial options database) fun asked outcome =>
      Dialling database asked outcome.toOption := by
  have refused {fault : ClientFault} :
      Dialling database [] (.error fault : Except ClientFault Nat).toOption := .refused (by simp)
  unfold Postgres.dial
  split
  · exact done refused
  · refine bind (server .account) ?_
    rintro _ account rfl
    dsimp only
    split
    · exact (dialAny _ _ _ _).mono fun _ _ dial => dial.cons rfl
    · exact done (refused.cons rfl)

theorem connect (options : ConnectionOptions) (database : Option String) (target : String) :
    Asks (Postgres.connect options database target) fun asked outcome =>
      Dialling database asked (outcome.toOption.map Connection.number) := by
  refine bind (dial options database) ?_
  rintro asked (fault | number) dial
  · exact done (by rwa [List.append_nil])
  · exact done (by rwa [List.append_nil])

end Asks

namespace Scratch

theorem isEncodable_iff {text : String} : Connection.isEncodable text ↔ '\x00' ∉ text.toList := by
  rw [Connection.isEncodable, Bool.not_eq_true', ← Bool.not_eq_true, List.contains_iff_mem]

theorem isEncodable_append {first second : String} (begins : Connection.isEncodable first)
    (ends : Connection.isEncodable second) : Connection.isEncodable (first ++ second) := by
  rw [isEncodable_iff, String.toList_append, List.mem_append, not_or]
  exact ⟨isEncodable_iff.mp begins, isEncodable_iff.mp ends⟩

theorem isEncodable_toString (n : Nat) : Connection.isEncodable (toString n) := by
  rw [isEncodable_iff, Nat.toString_eq_repr, Nat.toList_repr]
  intro member
  exact absurd (Nat.isDigit_of_mem_toDigits (by decide) (by decide) member) (by decide)

theorem isEncodable_quoteIdentifier {name : String} (encodable : Connection.isEncodable name) :
    Connection.isEncodable (quoteIdentifier name) := by
  rw [isEncodable_iff] at encodable ⊢
  intro member
  simp only [quoteIdentifier, String.toList_ofList, List.mem_append, List.mem_cons,
    List.mem_flatMap, List.not_mem_nil, or_false] at member
  rcases member with (quote | ⟨c, inside, here⟩) | quote
  · exact absurd quote (by decide)
  · split at here
    · simp at here
    · obtain rfl := List.mem_singleton.mp here
      exact encodable inside
  · exact absurd quote (by decide)

theorem isEncodable_nameOf (stamp : Nat × Nat) : Connection.isEncodable (nameOf stamp) :=
  isEncodable_append (isEncodable_append (isEncodable_append (by decide)
    (isEncodable_toString _)) (by decide)) (isEncodable_toString _)

/-- The statement that makes a scratch database can be sent. -/
theorem isEncodable_createStatement (stamp : Nat × Nat) :
    Connection.isEncodable (createStatement (nameOf stamp)) :=
  isEncodable_append (by decide) (isEncodable_quoteIdentifier (isEncodable_nameOf stamp))

/-- The statement that drops a scratch database can be sent. -/
theorem isEncodable_dropStatement (stamp : Nat × Nat) :
    Connection.isEncodable (dropStatement (nameOf stamp)) :=
  isEncodable_append (isEncodable_append (by decide)
    (isEncodable_quoteIdentifier (isEncodable_nameOf stamp))) (by decide)

end Scratch

namespace Asks

open Scratch

theorem drop (admin : Connection) (stamp : Nat × Nat) :
    Asks (Scratch.drop admin (nameOf stamp)) fun asked _ =>
      ∃ reply, asked = [⟨.batch admin.number (dropStatement (nameOf stamp)), reply⟩] := by
  unfold Scratch.drop
  refine bind (batch_of_isEncodable admin (isEncodable_dropStatement stamp)) ?_
  intro asked reply same
  subst same
  cases reply
  · exact done ⟨_, rfl⟩
  · exact done ⟨_, rfl⟩

theorem enter (options : ConnectionOptions) (admin : Connection) (stamp : Nat × Nat) :
    Asks (Scratch.enter options admin (nameOf stamp)) fun asked outcome =>
      match outcome with
      | .ok scratch =>
          scratch.name = nameOf stamp ∧ scratch.admin = admin ∧
            Dialling (some scratch.name) asked (some scratch.database.number)
      | .error _ =>
          ∃ dialling reply, Dialling (some (nameOf stamp)) dialling none ∧
            asked = dialling ++
              [⟨.batch admin.number (dropStatement (nameOf stamp)), reply⟩,
                ⟨.close admin.number, ()⟩] := by
  unfold Scratch.enter
  refine bind (log _) ?_
  rintro _ _ rfl
  refine bind (connect options (some (nameOf stamp)) (nameOf stamp)) ?_
  rintro dialling (failure | database) dial
  · refine bind (drop admin stamp) ?_
    rintro _ _ ⟨reply, rfl⟩
    refine bind (close admin) ?_
    rintro _ _ rfl
    exact done ⟨dialling, reply, dial, rfl⟩
  · exact done ⟨rfl, rfl, by rwa [List.append_nil]⟩

theorem create [ConnectionStrings] (url : String) :
    Asks (Scratch.create url) fun asked outcome => Creating asked outcome.toOption := by
  unfold Scratch.create
  cases ConnectionStrings.options? url with
  | none => exact done (.failed (.unreached (by simp)))
  | some options =>
      refine bind (connect options options.database (redact url)) ?_
      rintro dialling (failure | admin) dial
      · cases dial with
        | refused idle =>
            exact done (.failed (.unreached (by simpa using idle)))
      · refine bind (server .stamp) ?_
        rintro _ stamp rfl
        refine bind (batch_of_isEncodable admin (isEncodable_createStatement stamp)) ?_
        rintro _ reply rfl
        rcases reply with fault | ⟨⟩
        · refine bind (close admin) ?_
          rintro _ _ rfl
          exact done (.failed (.notMade dial))
        · refine (enter options admin stamp).mono ?_
          rintro entering (failure | scratch) entered
          · obtain ⟨held, reply, refused, rfl⟩ := entered
            have lifetime := Lifetime.dropped dial (.refused refused) reply
            exact .failed (by simpa using lifetime)
          · obtain ⟨named, rfl, dialled⟩ := entered
            have created := Creating.entered dial named dialled
            rw [← named]
            simpa [Except.toOption] using created

theorem apply (scratch : Scratch) (name sql : String) :
    Asks (scratch.apply name sql) fun asked _ =>
      ∀ exchange ∈ asked, Server.statedOn? exchange = some scratch.database.number := by
  refine bind (batch_stated scratch.database sql) ?_
  rintro asked (fault | _) stated
  · exact done (by rwa [List.append_nil])
  · exact done (by rwa [List.append_nil])

theorem describe (scratch : Scratch) (sql : String) :
    Asks (scratch.describe sql) fun asked _ =>
      ∀ exchange ∈ asked, Server.statedOn? exchange = some scratch.database.number := by
  refine bind (prepare_stated scratch.database sql) ?_
  rintro asked (fault | _) stated
  · exact done (by rwa [List.append_nil])
  · exact done (by rwa [List.append_nil])

theorem dispose (scratch : Scratch) {stamp : Nat × Nat} (named : scratch.name = nameOf stamp) :
    Asks scratch.dispose fun asked _ => ∃ reply,
      asked = [⟨.close scratch.database.number, ()⟩,
        ⟨.batch scratch.admin.number (dropStatement scratch.name), reply⟩,
        ⟨.close scratch.admin.number, ()⟩] := by
  unfold Scratch.dispose
  refine bind (close scratch.database) ?_
  rintro _ _ rfl
  rw [named]
  refine bind (drop scratch.admin stamp) ?_
  rintro _ result ⟨reply, rfl⟩
  refine bind (close scratch.admin) ?_
  rintro _ _ rfl
  cases result with
  | error failure => exact done ⟨reply, rfl⟩
  | ok _ =>
      refine bind (log _) ?_
      rintro _ _ rfl
      exact done ⟨reply, rfl⟩

end Asks

end Postgres

end TypedQueries
