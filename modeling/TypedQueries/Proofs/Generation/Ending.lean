import TypedQueries.Proofs.Activity.Interpretation
import TypedQueries.Proofs.Generation.Order

/-! # How runs end

Files are changed only where the module is written, which is the last of the work. A run that
succeeds has scanned the sources, described their texts and written the module of these
descriptions (`Course.exists_of_ok`), and the queries described in its exchanges
(`Generation.describedIn`) are those of the module. A run that fails has written nothing or has
failed in writing (`Course.exists_of_error`).
-/

namespace TypedQueries

/-- A query that the probe has described, with its description. -/
def Probe.described? : Exchange Probe → Option (String × QueryDescription)
  | ⟨.describe sql, reply⟩ => reply.toOption.map fun description => (sql, description)
  | ⟨.connect, _⟩ => none
  | ⟨.apply _, _⟩ => none
  | ⟨.dispose, _⟩ => none

namespace Generation

/-- The queries that have been described in exchanges, in their order. -/
def describedIn (exchanges : List (Exchange RunInterface)) : List (String × QueryDescription) :=
  exchanges.filterMap fun
    | ⟨.inl _, _⟩ => none
    | ⟨.inr request, reply⟩ => Probe.described? ⟨request, reply⟩

/-- The queries that are seen to be described. -/
def descriptionsIn (actions : List Action) : List (String × QueryDescription) :=
  (probes actions).filterMap Probe.described?

@[simp] theorem descriptionsIn_append (first second : List Action) :
    descriptionsIn (first ++ second) = descriptionsIn first ++ descriptionsIn second := by
  rw [descriptionsIn, probes_append, List.filterMap_append]
  rfl

theorem descriptionsIn_of_silent {actions : List Action} (unasked : probes actions = []) :
    descriptionsIn actions = [] := by
  rw [descriptionsIn, unasked]
  rfl

theorem probes_visible (joined : Bool) (actions : List Action) :
    probes (Action.visible joined actions) = probes actions := by
  rw [probes, Action.visible, List.filterMap_filter]
  refine List.filterMap_congr fun action _ => ?_
  cases joined <;> cases action <;> rfl

/-- What is asked of the probe is seen. -/
theorem AmountTo.rights_eq {observers : Nat} {exchanges : List (Exchange RunInterface)}
    {actions : List Action} (amount : AmountTo observers exchanges actions) :
    Exchange.rights exchanges = probes actions := by
  rw [← probes_visible, ← amount 0, probes, List.filterMap_filterMap, Exchange.rights]
  refine List.filterMap_congr fun exchange _ => ?_
  obtain ⟨request | request, reply⟩ := exchange
  · cases request with
    | tell listener event =>
        by_cases heard : listener = 0 <;>
          simp [Action.seen?, Action.ofSurroundings, Action.probe?, heard, Exchange.right?]
    | workers pieces => cases reply <;> rfl
    | survey | makeDirectories _ | makeTemporary _ | fill _ _ | sync _ | rename _ _ | discard _
      | log _ | elapsed => rfl
  · rfl

/-- What is described is seen. -/
theorem AmountTo.describedIn_eq {observers : Nat} {exchanges : List (Exchange RunInterface)}
    {actions : List Action} (amount : AmountTo observers exchanges actions) :
    describedIn exchanges = descriptionsIn actions := by
  rw [descriptionsIn, ← amount.rights_eq, Exchange.rights, List.filterMap_filterMap, describedIn]
  refine List.filterMap_congr fun exchange _ => ?_
  obtain ⟨request | request, reply⟩ := exchange
  · rfl
  · rfl

theorem descriptionsIn_applied (total : Nat) (scripts : List Migration) :
    descriptionsIn (applied total scripts) = [] := by
  simp [descriptionsIn, probes, applied, List.filterMap_flatMap, Action.probe?, Probe.described?]

theorem descriptionsIn_described (entries : List (String × QueryDescription)) :
    descriptionsIn (described entries) = entries := by
  induction entries with
  | nil => rfl
  | cons entry entries ih =>
      rw [described, List.flatMap_cons, descriptionsIn_append]
      exact congrArg (entry :: ·) ih

namespace Action

def change? : Action → Option (Exchange Surroundings)
  | .changed exchange => some exchange
  | _ => none

end Action

/-- The changes of files among actions. -/
def changes (actions : List Action) : List (Exchange Surroundings) :=
  actions.filterMap Action.change?

@[simp] theorem changes_append (first second : List Action) :
    changes (first ++ second) = changes first ++ changes second := List.filterMap_append

theorem changes_flatMap {α : Type} {actions : α → List Action}
    (each : ∀ element, changes (actions element) = []) (elements : List α) :
    changes (elements.flatMap actions) = [] := by
  rw [changes, List.filterMap_flatMap, List.flatMap_eq_nil_iff]
  exact fun element _ => each element

theorem probes_findings (diagnostics : List Diagnostic) : probes (findings diagnostics) = [] := by
  simp [probes, findings, Action.probe?]

theorem changes_findings (diagnostics : List Diagnostic) :
    changes (findings diagnostics) = [] := by
  simp [changes, findings, Action.change?]

theorem changes_applied (total : Nat) (scripts : List Migration) :
    changes (applied total scripts) = [] :=
  changes_flatMap (fun _ => rfl) _

theorem changes_described (entries : List (String × QueryDescription)) :
    changes (described entries) = [] :=
  changes_flatMap (fun _ => rfl) _

section Stages

variable {actions : List Action} {root : Path} {settings : Settings}

theorem Applying.changes_eq {scripts : List Migration} {outcome : Except DatabaseFailure Unit}
    (apply : Applying scripts actions outcome) : changes actions = [] := by
  cases apply with
  | all => exact changes_applied _ _
  | stopped split => rw [changes_append, changes_applied]; rfl

theorem Describing.changes_eq {texts : List String}
    {outcome : Except DatabaseFailure QueryDescriptions}
    (describe : Describing texts actions outcome) : changes actions = [] := by
  cases describe with
  | all complete => exact changes_described _
  | stopped split => rw [changes_append, changes_described]; rfl

theorem Writing.probes_eq {path : Path} {text : String} {outcome : Except OutputFailure Unit}
    (write : Writing path text actions outcome) : probes actions = [] := by
  cases write with
  | noDirectory => rfl
  | noTemporary => rfl
  | removed replacing => cases replacing <;> rfl
  | all replacing => cases replacing; rfl

/-- What is described in the work is described between the scripts and the module. -/
theorem descriptionsIn_working {scripts : List Migration} {scanning writing : List Action}
    {entries : List (String × QueryDescription)} {found noted : List Diagnostic}
    (scan : probes scanning = []) (write : probes writing = []) :
    descriptionsIn (applied scripts.length scripts ++ scanning ++ findings found ++
      described entries ++ findings noted ++ writing) = entries := by
  simp only [descriptionsIn_append, descriptionsIn_applied, descriptionsIn_described,
    descriptionsIn_of_silent scan, descriptionsIn_of_silent write,
    descriptionsIn_of_silent (probes_findings _), List.append_nil, List.nil_append]

variable [Grammars]

section Scanning

variable {directory : Path} {skip : List Path} {outcome : Except Failure Sources}

theorem Scanning.changes_eq (scan : Scanning settings directory skip actions outcome) :
    changes actions = [] := by
  cases scan with
  | notFound search => rfl
  | unfinished search => rfl
  | notRead search member unread => rfl
  | all search ordered read =>
      rw [changes, List.filterMap_cons_none rfl, List.filterMap_map]
      exact List.filterMap_eq_nil_iff.mpr fun _ _ => rfl

theorem Scanning.probes_eq (scan : Scanning settings directory skip actions outcome) :
    probes actions = [] := by
  cases scan with
  | notFound search => rfl
  | unfinished search => rfl
  | notRead search member unread => rfl
  | all search ordered read =>
      rw [probes, List.filterMap_cons_none rfl, List.filterMap_map]
      exact List.filterMap_eq_nil_iff.mpr fun _ _ => rfl

end Scanning

/-- Around the work on a connected probe nothing is described or changed; without it the run has
failed. -/
theorem Course.exists_working {result : Except Failure Report}
    (course : Course root settings actions result) :
    (changes actions = [] ∧ ∃ failure, result = .error failure) ∨
      ∃ scripts opening working closing outcome,
        actions = opening ++ working ++ closing ∧
        changes opening = [] ∧ changes closing = [] ∧
        descriptionsIn opening = [] ∧ descriptionsIn closing = [] ∧
        Working root settings scripts working outcome ∧ outcome.map Prod.fst = result := by
  have regroup (first last : Event) (files : FileSystem) (working : List Action)
      (disposed : Except DatabaseFailure Unit) :
      [.heard first] ++ ([.surveyed files, .probed ⟨.connect, .ok ()⟩] ++ working ++
          [.probed ⟨.dispose, disposed⟩]) ++ [.heard last] =
        [.heard first, .surveyed files, .probed ⟨.connect, .ok ()⟩] ++ working ++
          [.probed ⟨.dispose, disposed⟩, .heard last] := by simp
  cases course with
  | written attempt =>
      cases attempt with
      | connected load ordered work =>
          exact .inr ⟨_, _, _, _, _, regroup _ _ _ _ _, rfl, rfl, rfl, rfl, work, rfl⟩
  | failed attempt =>
      cases attempt with
      | notLoaded load => exact .inl ⟨rfl, _, rfl⟩
      | notConnected load => exact .inl ⟨rfl, _, rfl⟩
      | connected load ordered work =>
          exact .inr ⟨_, _, _, _, _, regroup _ _ _ _ _, rfl, rfl, rfl, rfl, work, rfl⟩

/-- A run that succeeds: the sources are scanned, all their texts described, and the module of
these descriptions is written. Nothing else changes files. -/
theorem Course.exists_of_ok {report : Report} (course : Course root settings actions (.ok report)) :
    ∃ before scanning between writing after sources descriptions,
      actions = before ++ scanning ++ between ++ writing ++ after ∧
      changes before = [] ∧ changes between = [] ∧ changes after = [] ∧
      Scanning settings (settings.sourcePath root) [settings.outputPath root] scanning
        (.ok sources) ∧
      descriptions.texts = (sources.texts settings).eraseDups ∧
      descriptionsIn actions = descriptions.entries ∧
      Writing (settings.outputPath root)
        (synthesize descriptions .builtin settings.moduleOptions).module writing (.ok ()) := by
  obtain ⟨_, _, isError⟩ | ⟨scripts, opening, working, closing, outcome, rfl, opened, closed,
    undescribed, undescribedAfter, work, same⟩ := course.exists_working
  · cases isError
  cases work with
  | notApplied | notScanned | notDescribed | notWritten => cases same
  | @all applying scanning describing writing sources descriptions synthesis apply scan describe
      synthesized write =>
  cases apply with
  | all =>
  cases describe with
  | all complete =>
      refine ⟨opening ++ applied scripts.length scripts, scanning,
        findings (sources.findings settings) ++ described descriptions.entries ++
          findings synthesis.diagnostics,
        writing, closing, sources, descriptions, ?_, ?_, ?_, closed, scan, complete, ?_,
        synthesized ▸ write⟩
      · simp only [List.append_assoc]
      · rw [changes_append, opened, changes_applied, List.append_nil]
      · simp only [changes_append, changes_findings, changes_described, List.append_nil]
      · rw [descriptionsIn_append, descriptionsIn_append,
          descriptionsIn_working scan.probes_eq write.probes_eq, undescribed, undescribedAfter,
          List.nil_append, List.append_nil]

end Stages

end Generation

end TypedQueries
