import TypedQueries.Proofs.Generation.Ending
import TypedQueries.Proofs.Postgres.Lifetime

/-! # Scratch databases are dropped

A run asks servers for what serves its probe, one request after the other (`Postgres.Serving`),
and its probe is connected first and disposed of last. So what is asked of servers is a
`Postgres.Lifetime` (`Postgres.generate_drops_what_it_makes`).
-/

namespace TypedQueries

namespace Generation

/-- Whether something is asked of a probe that is connected and goes on being so. -/
def isWork : Exchange Probe → Bool
  | ⟨.apply _, _⟩ => true
  | ⟨.describe _, _⟩ => true
  | ⟨.connect, _⟩ => false
  | ⟨.dispose, _⟩ => false

theorem isWork_applied (total : Nat) (scripts : List Migration) :
    ∀ exchange ∈ probes (applied total scripts), isWork exchange := by
  simp only [probes, applied, List.filterMap_flatMap, List.mem_flatMap]
  rintro _ ⟨script, -, member⟩
  obtain rfl := List.mem_singleton.mp member
  rfl

theorem isWork_described (entries : List (String × QueryDescription)) :
    ∀ exchange ∈ probes (described entries), isWork exchange := by
  simp only [probes, described, List.filterMap_flatMap, List.mem_flatMap]
  rintro _ ⟨entry, -, member⟩
  obtain rfl := List.mem_singleton.mp member
  rfl

theorem Applying.isWork {scripts : List Migration} {actions : List Action}
    {outcome : Except DatabaseFailure Unit} (apply : Applying scripts actions outcome) :
    ∀ exchange ∈ probes actions, isWork exchange := by
  cases apply with
  | all => exact isWork_applied _ _
  | stopped split =>
      rw [probes_append, List.forall_mem_append]
      exact ⟨isWork_applied _ _, List.forall_mem_singleton.mpr rfl⟩

theorem Describing.isWork {texts : List String} {actions : List Action}
    {outcome : Except DatabaseFailure QueryDescriptions}
    (describe : Describing texts actions outcome) :
    ∀ exchange ∈ probes actions, isWork exchange := by
  cases describe with
  | all complete => exact isWork_described _
  | stopped split =>
      rw [probes_append, List.forall_mem_append]
      exact ⟨isWork_described _, List.forall_mem_singleton.mpr rfl⟩

/-- While the probe is connected it is asked for nothing but work. -/
theorem Working.isWork [Grammars] {root : Path} {settings : Settings}
    {scripts : List Migration} {actions : List Action} {outcome : Except Failure (Report × Nat)}
    (work : Working root settings scripts actions outcome) :
    ∀ exchange ∈ probes actions, isWork exchange := by
  cases work with
  | notApplied apply => exact apply.isWork
  | notScanned apply scan =>
      simpa only [probes_append, scan.probes_eq, List.append_nil] using apply.isWork
  | notDescribed apply scan describe =>
      simpa only [probes_append, scan.probes_eq, probes_findings, List.append_nil,
        List.forall_mem_append] using And.intro apply.isWork describe.isWork
  | notWritten apply scan describe _ write =>
      simpa only [probes_append, scan.probes_eq, probes_findings, write.probes_eq,
        List.append_nil, List.forall_mem_append] using And.intro apply.isWork describe.isWork
  | all apply scan describe _ write =>
      simpa only [probes_append, scan.probes_eq, probes_findings, write.probes_eq,
        List.append_nil, List.forall_mem_append] using And.intro apply.isWork describe.isWork

/-- What a probe is asked in a run: nothing, to be connected in vain, or to be connected, to work
and to be disposed of. -/
inductive Employing : List (Exchange Probe) → Prop
  | unasked : Employing []
  | notConnected {failure : DatabaseFailure} : Employing [⟨.connect, .error failure⟩]
  | disposed {work : List (Exchange Probe)} {reply : Except DatabaseFailure Unit}
      (works : ∀ exchange ∈ work, isWork exchange) :
      Employing (⟨.connect, .ok ()⟩ :: work ++ [⟨.dispose, reply⟩])

theorem Attempting.employing [Grammars] {root : Path} {settings : Settings}
    {attempting : List Action} {outcome : Except Failure (Report × Nat)}
    (attempt : Attempting root settings attempting outcome) : Employing (probes attempting) := by
  cases attempt with
  | notLoaded load => exact .unasked
  | notConnected load => exact .notConnected
  | connected load ordered work =>
      rw [probes_append, probes_append]
      exact .disposed work.isWork

theorem Course.employing [Grammars] {root : Path} {settings : Settings} {actions : List Action}
    {outcome : Except Failure Report} (course : Course root settings actions outcome) :
    Employing (probes actions) := by
  cases course with
  | written attempt =>
      rw [probes_append, probes_append]
      exact (List.append_nil _).symm ▸ attempt.employing
  | failed attempt =>
      rw [probes_append, probes_append]
      exact (List.append_nil _).symm ▸ attempt.employing

end Generation

namespace Postgres

open Activity

/-! ## Serving the probe -/

section Serving

variable [ConnectionStrings]

/-- What is asked of servers to answer requests to the probe, from one state to another. -/
inductive Serving (url : String) :
    Option Scratch → List (Exchange Probe) → List (Exchange Server) → Option Scratch → Prop
  | nil {state : Option Scratch} : Serving url state [] [] state
  | cons {state next final : Option Scratch} {request : Probe.Request}
      {reply : Probe.Reply request} {later : List (Exchange Probe)}
      {first : List (Exchange ClientInterface)} {rest : List (Exchange Server)}
      (answered : ((answerProbe url request).run state).Runs first (reply, next))
      (goesOn : Serving url next later rest final) :
      Serving url state (⟨request, reply⟩ :: later) (Exchange.rights first ++ rest) final

/-- What is asked for the first of some requests, and then for the others. -/
theorem Serving.exists_of_cons {url : String} {state final : Option Scratch}
    {exchange : Exchange Probe} {later : List (Exchange Probe)} {asked : List (Exchange Server)}
    {post : List (Exchange Server) → Probe.Reply exchange.request × Option Scratch → Prop}
    (serving : Serving url state (exchange :: later) asked final)
    (asks : Asks ((answerProbe url exchange.request).run state) post) :
    ∃ first next rest, asked = first ++ rest ∧ post first (exchange.reply, next) ∧
      Serving url next later rest final := by
  cases serving with
  | cons answered goesOn => exact ⟨_, _, _, rfl, asks.ensures.of_runs answered, goesOn⟩

theorem Serving.exists_of_append {url : String} {state final : Option Scratch}
    {earlier later : List (Exchange Probe)} {asked : List (Exchange Server)}
    (serving : Serving url state (earlier ++ later) asked final) :
    ∃ first between rest, asked = first ++ rest ∧ Serving url state earlier first between ∧
      Serving url between later rest final := by
  induction earlier generalizing state asked with
  | nil => exact ⟨[], state, asked, rfl, .nil, serving⟩
  | cons exchange earlier ih =>
      cases serving with
      | cons answered goesOn =>
          obtain ⟨first, between, rest, rfl, begins, ends⟩ := ih goesOn
          exact ⟨_, between, rest, (List.append_assoc ..).symm, .cons answered begins, ends⟩

theorem asks_connect (url : String) (state : Option Scratch) :
    Asks ((answerProbe url .connect).run state) fun asked answer =>
      (∃ failure, answer = (.error failure, state) ∧ Creating asked none) ∨
        ∃ scratch, answer = (.ok (), some scratch) ∧ Creating asked (some scratch) := by
  change Asks ((Scratch.create url >>= fun made => Activity.done (made, state)) >>= _) _
  rw [Activity.bind_assoc]
  refine Asks.bind (Asks.create url) ?_
  rintro asked (failure | scratch) creating
  · exact Asks.done (.inl ⟨failure, rfl, by rwa [List.append_nil]⟩)
  · exact Asks.done (.inr ⟨scratch, rfl, by rwa [List.append_nil]⟩)

/-- While a database is held, work is done on the connection to it. -/
theorem asks_work (url : String) (scratch : Scratch) {exchange : Exchange Probe}
    (work : Generation.isWork exchange) :
    Asks ((answerProbe url exchange.request).run (some scratch)) fun asked answer =>
      answer.2 = some scratch ∧
        ∀ exchange ∈ asked, Server.statedOn? exchange = some scratch.database.number := by
  obtain ⟨request, reply⟩ := exchange
  cases request with
  | apply migration =>
      change Asks (scratch.apply migration.name migration.sql >>= _) _
      refine Asks.bind (Asks.apply scratch migration.name migration.sql)
        fun asked reply stated => ?_
      exact Asks.done ⟨rfl, by rwa [List.append_nil]⟩
  | describe sql =>
      change Asks (scratch.describe sql >>= _) _
      refine Asks.bind (Asks.describe scratch sql) fun asked reply stated => ?_
      exact Asks.done ⟨rfl, by rwa [List.append_nil]⟩
  | connect => cases work
  | dispose => cases work

theorem asks_dispose (url : String) (scratch : Scratch) {stamp : Nat × Nat}
    (named : scratch.name = Scratch.nameOf stamp) :
    Asks ((answerProbe url .dispose).run (some scratch)) fun asked _ => ∃ reply,
      asked = [⟨.close scratch.database.number, ()⟩,
        ⟨.batch scratch.admin.number (Scratch.dropStatement scratch.name), reply⟩,
        ⟨.close scratch.admin.number, ()⟩] := by
  change Asks (scratch.dispose >>= _) _
  refine Asks.bind (Asks.dispose scratch named) fun asked _ disposed => ?_
  exact Asks.done (by rwa [List.append_nil])

/-- A database that is held is held as long as work is done. -/
theorem Serving.work {url : String} {scratch : Scratch} {final : Option Scratch}
    {work : List (Exchange Probe)} {asked : List (Exchange Server)}
    (serving : Serving url (some scratch) work asked final)
    (works : ∀ exchange ∈ work, Generation.isWork exchange) :
    final = some scratch ∧
      ∀ exchange ∈ asked, Server.statedOn? exchange = some scratch.database.number := by
  induction work generalizing asked with
  | nil =>
      cases serving
      exact ⟨rfl, by simp⟩
  | cons exchange work ih =>
      obtain ⟨works, rest⟩ := List.forall_mem_cons.mp works
      obtain ⟨first, next, later, rfl, ⟨rfl, stated⟩, goesOn⟩ :=
        serving.exists_of_cons (asks_work url scratch works)
      obtain ⟨kept, statedToo⟩ := ih goesOn rest
      exact ⟨kept, List.forall_mem_append.mpr ⟨stated, statedToo⟩⟩

/-- What serves the probe of a run is the lifetime of a database. -/
theorem Serving.lifetime {url : String} {final : Option Scratch}
    {exchanges : List (Exchange Probe)} {asked : List (Exchange Server)}
    (serving : Serving url none exchanges asked final)
    (employing : Generation.Employing exchanges) : Lifetime asked := by
  cases employing with
  | unasked =>
      cases serving
      exact .unreached (by simp)
  | notConnected =>
      obtain ⟨asked, next, rest, rfl, ⟨_, _, creating⟩ | ⟨_, same, _⟩, ended⟩ :=
        serving.exists_of_cons (asks_connect url none)
      · cases ended
        cases creating with
        | failed lifetime => rwa [List.append_nil]
      · cases same
  | disposed works =>
      obtain ⟨created, next, rest, rfl, ⟨_, same, _⟩ | ⟨scratch, same, creating⟩, goesOn⟩ :=
        serving.exists_of_cons (asks_connect url none)
      · cases same
      obtain rfl : next = some scratch := congrArg Prod.snd same
      obtain ⟨worked, between, rest, rfl, working, ending⟩ := goesOn.exists_of_append
      obtain ⟨rfl, stated⟩ := working.work works
      cases creating with
      | entered dial named enter =>
          obtain ⟨disposed, _, _, rfl, ⟨dropped, rfl⟩, ended⟩ :=
            ending.exists_of_cons (asks_dispose url scratch named)
          cases ended
          have lifetime := Lifetime.dropped dial (.left (named ▸ enter) stated) dropped
          rw [← named] at lifetime
          simpa using lifetime

end Serving

/-! ## One statement that drops the database -/

theorem Dialling.unstated {database : Option String} {asked : List (Exchange Server)}
    {outcome : Option Nat} (dial : Dialling database asked outcome) :
    ∀ exchange ∈ asked, Server.statedOn? exchange = none := by
  cases dial with
  | refused idle => exact fun _ member => Server.statedOn?_of_isIdle (idle _ member)
  | answered idle =>
      rw [List.forall_mem_append]
      exact ⟨fun _ member => Server.statedOn?_of_isIdle (idle _ member),
        List.forall_mem_singleton.mpr rfl⟩

theorem Dialling.opened {database : Option String} {asked : List (Exchange Server)}
    {number : Nat} (dial : Dialling database asked (some number)) :
    number ∈ asked.filterMap Server.opened? := by
  cases dial with
  | answered idle =>
      rw [List.filterMap_append]
      exact List.mem_append_right _ (List.mem_singleton.mpr rfl)

/-- While a database is kept, statements are made on a connection that was opened to it. -/
theorem Keeping.stated {name : String} {asked : List (Exchange Server)}
    (keep : Keeping name asked) {exchange : Exchange Server} (member : exchange ∈ asked)
    {number : Nat} (stated : Server.statedOn? exchange = some number) :
    number ∈ asked.filterMap Server.opened? := by
  cases keep with
  | refused dial => cases (dial.unstated exchange member).symm.trans stated
  | @left dialling work opened dial works =>
      simp only [List.filterMap_append, List.mem_append]
      rcases List.mem_append.mp member with inside | last
      · rcases List.mem_append.mp inside with dialled | worked
        · cases (dial.unstated exchange dialled).symm.trans stated
        · cases (works exchange worked).symm.trans stated
          exact .inl (.inl dial.opened)
      · cases List.mem_singleton.mp last
        cases stated

end Postgres

end TypedQueries
