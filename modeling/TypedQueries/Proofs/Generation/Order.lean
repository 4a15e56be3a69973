import TypedQueries.Proofs.Generation.Course
import TypedQueries.Simulation.ScriptedProbe
import TypedQueries.Syntax.Parse

/-! # The order of requests and events

Whatever its surroundings and the probe reply, a run has a course (`generate_in_order`). In it
the probe is asked nothing after it was disposed of, which is done once if it was connected,
and one event tells how the run has ended (`Orderly`).
-/

namespace TypedQueries

namespace Probe

def succeeded : Exchange Probe → Bool
  | ⟨.connect, reply⟩ => reply.isOk
  | ⟨.apply _, reply⟩ => reply.isOk
  | ⟨.describe _, reply⟩ => reply.isOk
  | ⟨.dispose, reply⟩ => reply.isOk

def connects : Exchange Probe → Bool
  | ⟨.connect, reply⟩ => reply.isOk
  | _ => false

def disposes : Exchange Probe → Bool
  | ⟨.dispose, _⟩ => true
  | _ => false

end Probe

/-- Whether an event tells that the run has ended. -/
def Event.isEnd : Event → Bool
  | .outputWritten .. => true
  | .failed .. => true
  | _ => false

namespace Generation

namespace Action

def probe? : Action → Option (Exchange Probe)
  | .probed exchange => some exchange
  | _ => none

def event? : Action → Option Event
  | .heard event => some event
  | _ => none

end Action

def probes (actions : List Action) : List (Exchange Probe) := actions.filterMap Action.probe?

def events (actions : List Action) : List Event := actions.filterMap Action.event?

@[simp] theorem probes_append (first second : List Action) :
    probes (first ++ second) = probes first ++ probes second := List.filterMap_append

@[simp] theorem events_append (first second : List Action) :
    events (first ++ second) = events first ++ events second := List.filterMap_append

/-- That actions are in order as far as the probe and the end of the run are concerned. -/
structure Orderly (actions : List Action) : Prop where
  /-- Nothing is asked of a probe that is disposed of, and nothing but to be disposed of is asked
  of one that has failed. -/
  asked : (probes actions).Pairwise fun earlier later =>
    Probe.disposes earlier = false ∧ (Probe.succeeded earlier = false → Probe.disposes later)
  disposed_once : (probes actions).countP Probe.disposes =
    if (probes actions).any Probe.connects then 1 else 0
  ended_once : (events actions).countP Event.isEnd = 1

/-- That actions belong to the work on a connected probe. If they are complete, no request to
the probe has failed. -/
structure Steady (complete : Bool) (actions : List Action) : Prop where
  work : ∀ exchange ∈ probes actions,
    Probe.connects exchange = false ∧ Probe.disposes exchange = false
  granted : (probes actions).Pairwise fun earlier _ => Probe.succeeded earlier
  complete : complete → ∀ exchange ∈ probes actions, Probe.succeeded exchange
  goesOn : ∀ event ∈ events actions, event.isEnd = false

namespace Steady

variable {complete : Bool} {first second : List Action}

theorem append (begins : Steady true first) (ends : Steady complete second) :
    Steady complete (first ++ second) where
  work := by
    rw [probes_append, List.forall_mem_append]
    exact ⟨begins.work, ends.work⟩
  granted := by
    rw [probes_append, List.pairwise_append]
    exact ⟨begins.granted, ends.granted,
      fun exchange member _ _ => begins.complete rfl exchange member⟩
  complete all := by
    rw [probes_append, List.forall_mem_append]
    exact ⟨begins.complete rfl, ends.complete all⟩
  goesOn := by
    rw [events_append, List.forall_mem_append]
    exact ⟨begins.goesOn, ends.goesOn⟩

theorem weaken (steady : Steady true first) : Steady complete first :=
  { steady with complete := fun _ => steady.complete rfl }

theorem of_silent (unasked : probes first = []) (unheard : events first = []) :
    Steady complete first where
  work := by simp [unasked]
  granted := by simp [unasked]
  complete := by simp [unasked]
  goesOn := by simp [unheard]

theorem singleton_heard {event : Event} (goesOn : event.isEnd = false) :
    Steady complete [.heard event] where
  work := by simp [probes, Action.probe?]
  granted := List.Pairwise.nil
  complete := by simp [probes, Action.probe?]
  goesOn := by simpa [events, Action.event?] using goesOn

theorem singleton_probed {exchange : Exchange Probe}
    (work : Probe.connects exchange = false ∧ Probe.disposes exchange = false)
    (granted : complete → Probe.succeeded exchange) : Steady complete [.probed exchange] where
  work := by simpa [probes, Action.probe?] using work
  granted := List.pairwise_singleton ..
  complete := by simpa [probes, Action.probe?] using granted
  goesOn := by simp [events, Action.event?]

theorem flatMap {α : Type} {actions : α → List Action}
    (each : ∀ element, Steady true (actions element)) (elements : List α) :
    Steady true (elements.flatMap actions) := by
  induction elements with
  | nil => exact of_silent rfl rfl
  | cons element elements ih =>
      rw [List.flatMap_cons]
      exact (each element).append ih

theorem map_heard {α : Type} {event : α → Event} (goesOn : ∀ element, (event element).isEnd = false)
    (elements : List α) : Steady true (elements.map fun element => .heard (event element)) := by
  rw [List.map_eq_flatMap]
  exact flatMap (fun element => singleton_heard (goesOn element)) elements

end Steady

theorem Applying.steady {scripts : List Migration} {actions : List Action}
    {outcome : Except DatabaseFailure Unit} (apply : Applying scripts actions outcome) :
    Steady outcome.isOk actions := by
  have granted (total : Nat) (scripts : List Migration) : Steady true (applied total scripts) :=
    Steady.flatMap (fun _ => (Steady.singleton_probed ⟨rfl, rfl⟩ fun _ => rfl).append
      (Steady.singleton_heard rfl)) _
  cases apply with
  | all => exact granted _ _
  | stopped split =>
      exact (granted _ _).append (Steady.singleton_probed ⟨rfl, rfl⟩ fun complete => complete)

theorem Scanning.steady [Grammars] {settings : Settings} {directory : Path} {skip : List Path}
    {actions : List Action} {outcome : Except Failure Sources}
    (scan : Scanning settings directory skip actions outcome) : Steady true actions := by
  cases scan with
  | notFound search => exact .of_silent rfl rfl
  | unfinished search => exact .of_silent rfl rfl
  | notRead search member unread => exact .of_silent rfl rfl
  | @all files paths search ordered read =>
      have announced : Steady true (paths.map fun path =>
          .heard (.fileScanned path (Source.knownTexts settings files path).length)) :=
        Steady.map_heard (fun _ => rfl) paths
      have looked : Steady true [.surveyed files] := .of_silent rfl rfl
      exact looked.append announced

theorem Describing.steady {texts : List String} {actions : List Action}
    {outcome : Except DatabaseFailure QueryDescriptions}
    (describe : Describing texts actions outcome) : Steady outcome.isOk actions := by
  have granted (entries : List (String × QueryDescription)) : Steady true (described entries) :=
    Steady.flatMap (fun _ => (Steady.singleton_probed ⟨rfl, rfl⟩ fun _ => rfl).append
      (Steady.singleton_heard rfl)) _
  cases describe with
  | all complete => exact granted _
  | stopped split =>
      exact (granted _).append (Steady.singleton_probed ⟨rfl, rfl⟩ fun complete => complete)

theorem Writing.steady {path : Path} {text : String} {actions : List Action}
    {outcome : Except OutputFailure Unit} (write : Writing path text actions outcome) :
    Steady true actions := by
  cases write with
  | noDirectory => exact .of_silent rfl rfl
  | noTemporary => exact .of_silent rfl rfl
  | removed replacing => cases replacing <;> exact .of_silent rfl rfl
  | all replacing => cases replacing; exact .of_silent rfl rfl

theorem steady_findings (diagnostics : List Diagnostic) : Steady true (findings diagnostics) :=
  Steady.map_heard (fun _ => rfl) diagnostics

theorem Working.steady [Grammars] {root : Path} {settings : Settings} {scripts : List Migration}
    {actions : List Action} {outcome : Except Failure (Report × Nat)}
    (work : Working root settings scripts actions outcome) : Steady false actions := by
  cases work with
  | notApplied apply => exact apply.steady
  | notScanned apply scan => exact apply.steady.append scan.steady.weaken
  | notDescribed apply scan describe =>
      exact ((apply.steady.append scan.steady).append (steady_findings _)).append describe.steady
  | notWritten apply scan describe _ write =>
      exact (((((apply.steady.append scan.steady).append (steady_findings _)).append
        describe.steady).append (steady_findings _)).append write.steady).weaken
  | all apply scan describe _ write =>
      exact (((((apply.steady.append scan.steady).append (steady_findings _)).append
        describe.steady).append (steady_findings _)).append write.steady).weaken

/-- The probe is asked in order when it is connected, does steady work and is disposed of. -/
theorem Steady.asked {working : List Action} (steady : Steady false working)
    (disposed : Except DatabaseFailure Unit) :
    List.Pairwise
      (fun earlier later => Probe.disposes earlier = false ∧
        (Probe.succeeded earlier = false → Probe.disposes later))
      (⟨.connect, .ok ()⟩ :: probes working ++ [⟨.dispose, disposed⟩]) := by
  rw [List.cons_append, List.pairwise_cons, List.pairwise_append]
  refine ⟨fun _ _ => ⟨rfl, Bool.noConfusion⟩, ?_, List.pairwise_singleton _ _, ?_⟩
  · refine steady.granted.imp_of_mem fun member _ granted => ⟨(steady.work _ member).2, ?_⟩
    rw [granted]
    exact Bool.noConfusion
  · intro exchange member last final
    rw [List.mem_singleton.mp final]
    exact ⟨(steady.work exchange member).2, fun _ => rfl⟩

theorem Steady.countP_disposes {working : List Action} (steady : Steady false working) :
    (probes working).countP Probe.disposes = 0 :=
  List.countP_eq_zero.mpr fun exchange member => by
    rw [(steady.work exchange member).2]
    exact Bool.false_ne_true

/-- An attempt between the first event and the last is in order. -/
theorem Attempting.orderly [Grammars] {root : Path} {settings : Settings}
    {attempting : List Action} {outcome : Except Failure (Report × Nat)}
    (attempt : Attempting root settings attempting outcome) {first last : Event}
    (begins : first.isEnd = false) (ends : last.isEnd) :
    Orderly ([.heard first] ++ attempting ++ [.heard last]) := by
  have ended_once (goesOn : ∀ event ∈ events attempting, event.isEnd = false) :
      (events ([.heard first] ++ attempting ++ [.heard last])).countP Event.isEnd = 1 := by
    have middle : (events attempting).countP Event.isEnd = 0 :=
      List.countP_eq_zero.mpr fun event member => by
        rw [goesOn event member]
        exact Bool.false_ne_true
    rw [events_append, events_append, List.countP_append, List.countP_append, middle]
    simp [events, Action.event?, begins, ends]
  have asked : probes ([.heard first] ++ attempting ++ [.heard last]) = probes attempting := by
    rw [probes_append, probes_append]
    exact List.append_nil _
  cases attempt with
  | notLoaded load =>
      exact ⟨by rw [asked]; exact .nil, by rw [asked]; rfl,
        ended_once fun _ member => nomatch member⟩
  | notConnected load =>
      exact ⟨by rw [asked]; exact List.pairwise_singleton _ _, by rw [asked]; rfl,
        ended_once fun _ member => nomatch member⟩
  | connected load ordered work =>
      have steady := work.steady
      refine ⟨?_, ?_, ended_once ?_⟩
      · rw [asked, probes_append, probes_append]
        exact steady.asked _
      · rw [asked, probes_append, probes_append, List.countP_append, List.countP_append,
          steady.countP_disposes]
        rfl
      · rw [events_append, events_append]
        simpa [events, Action.event?] using steady.goesOn

theorem Course.orderly [Grammars] {root : Path} {settings : Settings} {actions : List Action}
    {outcome : Except Failure Report} (course : Course root settings actions outcome) :
    Orderly actions := by
  cases course with
  | written attempt => exact attempt.orderly rfl rfl
  | failed attempt => exact attempt.orderly rfl rfl

/-- **One order for every run.** However its requests are answered, and whatever the answers
hang on, a run comes to a result, and what is seen of it is a course that ends in this result:
each observer sees the same, and without observers all but the events is seen. -/
theorem generate_in_order [Grammars] (root : Path) (settings : Settings) (observers : Nat)
    (answer : List (Exchange RunInterface) → (request : RunInterface.Request) →
      RunInterface.Reply request) :
    ∃ exchanges outcome actions,
      ((generate root settings observers).interpret (Activity.recorded answer)).run [] =
        (outcome, exchanges) ∧
      AmountTo observers exchanges actions ∧
      Course root settings actions outcome ∧
      Orderly actions := by
  have shows : Shows observers (generate root settings observers) (Course root settings) :=
    .generate root settings
  obtain ⟨exchanges, outcome, run, actions, amount, course⟩ :=
    Activity.Ensures.interpret_recorded shows answer []
  exact ⟨exchanges, outcome, actions, run, amount, course, course.orderly⟩

/-- What is noted of an action: of a failure its code, of a module that is written how many queries
it has, and of what is asked of a probe whether it was granted. -/
inductive Note where
  | told (event : Event)
  | failed (code : String)
  | written (queries : Nat)
  | surveyed
  | changed
  | asked (request : Simulation.ProbeNote) (granted : Bool)
  | stopped
deriving DecidableEq

def Note.of : Action → Note
  | .heard (.failed code _) => .failed code
  | .heard (.outputWritten _ queries _ _) => .written queries
  | .heard event => .told event
  | .surveyed _ => .surveyed
  | .changed _ => .changed
  | .probed exchange => .asked (.of exchange.request) (Probe.succeeded exchange)
  | .stopped _ => .stopped

/-- Replies of surroundings where nothing fails and of a probe that follows a script. -/
def scriptedReplies (files : FileSystem) (script : Simulation.ProbeScript)
    (_ : List (Exchange RunInterface)) :
    (request : RunInterface.Request) → RunInterface.Reply request
  | .inl .survey => files
  | .inl (.makeDirectories _) => Except.ok ()
  | .inl (.makeTemporary directory) => Except.ok directory
  | .inl (.fill _ _) => Except.ok ()
  | .inl (.sync _) => Except.ok ()
  | .inl (.rename _ _) => Except.ok ()
  | .inl (.discard _) => ()
  | .inl (.tell _ _) => false
  | .inl (.log _) => ()
  | .inl .elapsed => (0 : Nat)
  | .inl (.workers pieces) => Except.ok (List.range pieces)
  | .inr request => script.answer request

/-- A project with a script and a source in which one text is called twice, another once, and the
text of one call is unknown. -/
def callingProject : FileSystem where
  nodes :=
    [([.ofString "src"], .directory), ([.ofString "migrations"], .directory),
      ([.ofString "migrations", .ofString "1.sql"], .file "first".toUTF8),
      ([.ofString "src", .ofString "a.ts"],
        .file "db.query('one'); db.query(q); db.query('two'); db.query('one');".toUTF8)]

/-- Of a run for that project, with a probe that describes texts with a type that has no name: if
the probe refuses the second text the run fails there, otherwise it writes the module. -/
theorem generate_in_order_for_calling_project :
    let begun : List Note :=
      [.told (.started (.ofString "/src") (.ofString "/migrations")
          (.ofString "/src/sqltype.generated.ts")),
        .surveyed, .asked .connect true, .asked (.apply "1.sql" "first") true,
        .told (.migrationApplied "1.sql" 0 1), .surveyed,
        .told (.fileScanned (.ofString "/src/a.ts") 3),
        .told (.diagnostic (.unresolvedLiteral (.ofString "/src/a.ts") 1 18
          (.identifierNotFound "q"))),
        .asked (.describe "one") true, .told (.queryDescribed "one" 1 0)]
    let shown (script : Simulation.ProbeScript) (notes : List Note) : Prop :=
      ∃ exchanges outcome actions,
        ((generate (.ofString "/") {} 1).interpret
          (Activity.recorded (scriptedReplies callingProject script))).run [] =
            (outcome, exchanges) ∧
        AmountTo 1 exchanges actions ∧ Course (.ofString "/") {} actions outcome ∧
        Orderly actions ∧ actions.map Note.of = notes
    let untyped : QueryDescription := ⟨[99999], []⟩
    shown { catalog := [("two", .error "refused")], otherwise := some untyped }
        (begun ++ [.asked (.describe "two") false, .asked .dispose true,
          .failed "DESCRIBE_FAILED"]) ∧
      shown { otherwise := some untyped }
        (begun ++ [.asked (.describe "two") true, .told (.queryDescribed "two" 1 0),
          .told (.diagnostic (.unmappedType "one" 99999 (.parameter 0))),
          .told (.diagnostic (.unmappedType "two" 99999 (.parameter 0))),
          .changed, .changed, .changed, .changed, .changed, .asked .dispose true,
          .written 2]) := by
  intro begun shown untyped
  have noted (script : Simulation.ProbeScript) (notes : List Note)
      (performed : ((((generate (.ofString "/") {} 1).interpret
        (Activity.recorded (scriptedReplies callingProject script))).run []).2.filterMap
          (Action.seen? 0)).map Note.of = notes) : shown script notes := by
    obtain ⟨exchanges, outcome, actions, run, amount, course, orderly⟩ :=
      generate_in_order (.ofString "/") {} 1 (scriptedReplies callingProject script)
    have all : Action.visible (0 < 1) actions = actions := List.filter_eq_self.mpr fun _ _ => rfl
    refine ⟨exchanges, outcome, actions, run, amount, course, orderly, ?_⟩
    rw [← performed, run, amount 0, all]
  exact ⟨noted _ _ (by decide +kernel), noted _ _ (by decide +kernel)⟩

end Generation

end TypedQueries
