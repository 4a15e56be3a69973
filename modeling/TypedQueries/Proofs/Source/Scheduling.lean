import TypedQueries.Proofs.Activity.Exchanges
import TypedQueries.Proofs.Source.Discovery
import TypedQueries.Proofs.Source.Workers
import TypedQueries.Syntax.Parse

/-! # The order in which sources are read

The files of a project are read side by side. If all of them can be read, a scan comes to the same
whatever the order in which the workers finish; if not, it ends with the failure of the file that
is finished first of those that fail, and each of them may be that
(`Source.scans_iff_of_find`). So the order makes no difference exactly if all that fail do so in
the same way (`Source.scan_independent_iff`). A failure names the file unless it is that the
language cannot be read; if the languages can, no two files fail in the same way.
-/

namespace TypedQueries

namespace Source

section Orders

variable [Grammars] {settings : Settings} {directory path other : Path} {skip paths : List Path}
  {observers : Nat} {fs : FileSystem} {result : Except Failure SourceScan} {failure : Failure}

/-- The query calls in the file at a path, if it can be read. -/
def scanFile (settings : Settings) (fs : FileSystem) (path : Path) :
    Except Failure (Path × FileScan) :=
  (parseFile fs path settings.maxFileSize).map fun parsed => scanParsed settings (path, parsed)

/-- What is found when the files are read one after the other in the order of their paths. -/
def scanInOrder (settings : Settings) (directory : Path) (skip : List Path) (fs : FileSystem) :
    Except Failure SourceScan :=
  match (discovery settings skip).find fs directory with
  | .error failure => .error (.source failure)
  | .ok paths => (paths.mapM (scanFile settings fs)).map SourceScan.ofFiles

/-- That the files are the given ones, and that the workers who share the reading of them are not
stopped and can finish in the order in which they are said to do. -/
def Timed (settings : Settings) (directory : Path) (skip : List Path) (fs : FileSystem) :
    Exchange Surroundings → Prop
  | ⟨.survey, files⟩ => files = fs
  | ⟨.workers _, reply⟩ => ∃ finished, reply = .ok finished ∧
      ∀ paths, (discovery settings skip).find fs directory = .ok paths →
        Order (parseAll settings fs paths) finished
  | _ => True

/-- That a scan of the given files can come to a result. -/
def Scans (settings : Settings) (directory : Path) (skip : List Path) (observers : Nat)
    (fs : FileSystem) (result : Except Failure SourceScan) : Prop :=
  ∃ exchanges, (scan settings directory skip observers).Runs exchanges result ∧
    ∀ exchange ∈ exchanges, Timed settings directory skip fs exchange

/-- Which file a failure to read it names. -/
def failedPath? : Failure → Option Path
  | .grammar (.unsupported path _) => some path
  | .grammar (.noTree path) => some path
  | .source (.unreadable path _) => some path
  | .source (.tooLarge path _ _) => some path
  | .source (.notText path) => some path
  | _ => none

theorem parseFile_eq_of_text_eq_error {limit : Nat} {unread : SourceFailure}
    (language : (dialect path).isOk) (failed : text fs path limit = .error unread) :
    parseFile fs path limit = .error (.source unread) := by
  unfold parseFile
  cases known : dialect path with
  | error refusal => cases known ▸ language
  | ok dialect => simp only [failed]

/-- A failure to read a file names the file, unless its language cannot be read. -/
theorem failedPath?_of_parseFile (available : ∀ dialect, Grammars.unavailable? dialect = none)
    {limit : Nat} (failed : parseFile fs path limit = .error failure) :
    failedPath? failure = some path := by
  unfold parseFile at failed
  cases language : dialect path with
  | error refusal =>
      rw [language] at failed
      cases failed
      unfold dialect at language
      split at language
      · cases language
      · cases language
        rfl
  | ok dialect =>
      rw [language] at failed
      cases content : text fs path limit with
      | ok text =>
          simp only [content, parseText, available] at failed
          split at failed
          · cases failed
          · cases failed
            rfl
      | error fault =>
          simp only [content, Except.error.injEq] at failed
          subst failed
          unfold text at content
          repeat' split at content
          all_goals cases content
          all_goals rfl

/-- Files that fail in the same way are the same file, if the languages can be read. -/
theorem eq_of_parseFile_eq_error (available : ∀ dialect, Grammars.unavailable? dialect = none)
    {limit : Nat} (failed : parseFile fs path limit = .error failure)
    (failedToo : parseFile fs other limit = .error failure) : path = other :=
  Option.some.inj ((failedPath?_of_parseFile available failed).symm.trans
    (failedPath?_of_parseFile available failedToo))

/-- What is left of a scan once the workers are done hangs on nothing but the order in which they
have finished. -/
theorem eq_of_runs_scan {exchanges : List (Exchange Surroundings)}
    (runs : (scan settings directory skip observers).Runs exchanges result)
    (timed : ∀ exchange ∈ exchanges, Timed settings directory skip fs exchange) :
    (∃ failure, (discovery settings skip).find fs directory = .error failure ∧
      result = .error (.source failure)) ∨
    ∃ paths finished, (discovery settings skip).find fs directory = .ok paths ∧
      ⟨.workers paths.length, .ok finished⟩ ∈ exchanges ∧
      Order (parseAll settings fs paths) finished ∧
      result = (scanAll settings finished (parseAll settings fs paths)).map SourceScan.ofFiles := by
  obtain ⟨files, later, rfl, goesOn⟩ := runs.exists_of_request
  rw [List.forall_mem_cons] at timed
  obtain ⟨rfl, timed⟩ := timed
  cases search : (discovery settings skip).find files directory with
  | error failure =>
      rw [search] at goesOn
      cases goesOn
      exact .inl ⟨failure, rfl, rfl⟩
  | ok paths =>
      simp only [search] at goesOn
      obtain ⟨_, _, rfl, shared⟩ := goesOn.exists_of_request
      obtain ⟨reply, _, rfl, noted⟩ := shared.exists_of_request
      rw [List.forall_mem_cons, List.forall_mem_cons] at timed
      obtain ⟨finished, rfl, order⟩ := timed.2.1
      refine .inr ⟨paths, finished, rfl, by simp, order paths search, ?_⟩
      obtain ⟨_, _, _, -, -, collects⟩ := noted.exists_of_bind
      cases complete : scanAll settings finished (parseAll settings files paths) with
      | error failure =>
          rw [complete] at collects
          cases collects
          rfl
      | ok scanned =>
          simp only [complete] at collects
          obtain ⟨_, _, _, -, -, announced⟩ := collects.exists_of_bind
          obtain ⟨_, _, -, ends⟩ := announced.exists_of_request
          cases ends
          rfl

/-- Surroundings with the given files, in which workers finish in the given order. -/
def surroundingsOf (fs : FileSystem) (finished : List Nat) :
    (request : Surroundings.Request) → Surroundings.Reply request
  | .survey => fs
  | .workers _ => .ok finished
  | .makeDirectories _ | .fill _ _ | .sync _ | .rename _ _ => .ok ()
  | .makeTemporary directory => .ok directory
  | .tell _ _ => false
  | .discard _ | .log _ => ()
  | .elapsed => 0

theorem exists_timed_run (observers : Nat) {finished : List Nat}
    (order : ∀ paths, (discovery settings skip).find fs directory = .ok paths →
      Order (parseAll settings fs paths) finished) :
    ∃ exchanges result, (scan settings directory skip observers).Runs exchanges result ∧
      (∀ exchange ∈ exchanges, exchange.reply = surroundingsOf fs finished exchange.request) ∧
      ∀ exchange ∈ exchanges, Timed settings directory skip fs exchange := by
  obtain ⟨exchanges, result, runs, replies⟩ := Activity.exists_runs (I := Surroundings)
    (surroundingsOf fs finished) (scan settings directory skip observers)
  refine ⟨exchanges, result, runs, replies, ?_⟩
  rintro ⟨request, reply⟩ member
  obtain rfl : reply = surroundingsOf fs finished request := replies _ member
  cases request with
  | survey => rfl
  | workers pieces => exact ⟨finished, rfl, order⟩
  | _ => trivial

/-- A scan can come to what the workers leave in any order that is possible for them. -/
theorem scans_of_order (observers : Nat) {finished : List Nat}
    (search : (discovery settings skip).find fs directory = .ok paths)
    (order : Order (parseAll settings fs paths) finished) :
    Scans settings directory skip observers fs
      ((scanAll settings finished (parseAll settings fs paths)).map SourceScan.ofFiles) := by
  obtain ⟨exchanges, result, runs, replies, timed⟩ :=
    exists_timed_run observers fun others searched =>
      Except.ok.inj (search.symm.trans searched) ▸ order
  rcases eq_of_runs_scan runs timed with ⟨failure, failed, -⟩ | ⟨others, ended, searched, member, -,
    rfl⟩
  · cases search.symm.trans failed
  · cases search.symm.trans searched
    obtain rfl : ended = finished := Except.ok.inj (replies _ member)
    exact ⟨exchanges, runs, timed⟩

theorem mapM_scanFile_of_parseAll {parsed : List (Path × ParsedSource)}
    (read : parseAll settings fs paths = parsed.map .ok) :
    paths.mapM (scanFile settings fs) = .ok (parsed.map (scanParsed settings)) := by
  obtain ⟨rfl, each⟩ := parsed_of_parseAll read
  rw [mapM_eq_ok_iff, List.forall₂_map_left_iff, List.forall₂_map_right_iff, List.forall₂_same]
  intro file member
  rw [scanFile, each file member]
  rfl

theorem exists_unread_of_parseAll {piece : Nat}
    (failed : (parseAll settings fs paths)[piece]? = some (.error failure)) :
    ∃ path ∈ paths, parseFile fs path settings.maxFileSize = .error failure := by
  obtain ⟨path, member, unread⟩ := List.mem_map.mp (List.mem_of_getElem? failed)
  exact ⟨path, member, eq_error_of_map_eq_error unread⟩

theorem not_unread_of_mapM {scanned : List (Path × FileScan)}
    (complete : paths.mapM (scanFile settings fs) = .ok scanned) (member : path ∈ paths) :
    parseFile fs path settings.maxFileSize ≠ .error failure := by
  intro unread
  have all : scanned.map .ok = paths.map (scanFile settings fs) :=
    map_eq_of_mapM_eq_ok complete fun _ _ read => read.symm
  have failed : .error failure ∈ paths.map (scanFile settings fs) :=
    List.mem_map.mpr ⟨path, member, by rw [scanFile, unread]; rfl⟩
  rw [← all] at failed
  obtain ⟨_, _, same⟩ := List.mem_map.mp failed
  cases same

/-- What a scan can come to: what is found in the files in their order, if they can all be read,
and else the failure of any file that cannot. -/
theorem scans_iff_of_find (search : (discovery settings skip).find fs directory = .ok paths) :
    Scans settings directory skip observers fs result ↔
      (∃ scanned, paths.mapM (scanFile settings fs) = .ok scanned ∧
        result = .ok (SourceScan.ofFiles scanned)) ∨
      ∃ path ∈ paths, ∃ failure, parseFile fs path settings.maxFileSize = .error failure ∧
        result = .error failure := by
  constructor
  · rintro ⟨exchanges, runs, timed⟩
    rcases eq_of_runs_scan runs timed with ⟨failure, failed, -⟩ | ⟨others, finished, searched, -,
      order, rfl⟩
    · cases search.symm.trans failed
    cases search.symm.trans searched
    rcases collect_of_order order with ⟨parsed, read, collected⟩ |
      ⟨_, piece, _, failure, -, failed, -, collected⟩
    · exact .inl ⟨_, mapM_scanFile_of_parseAll read, by rw [scanAll, collected]; rfl⟩
    · obtain ⟨path, member, unread⟩ := exists_unread_of_parseAll failed
      exact .inr ⟨path, member, failure, unread, by rw [scanAll, collected]; rfl⟩
  · rintro (⟨scanned, complete, rfl⟩ | ⟨path, member, failure, unread, rfl⟩)
    · have order := order_of_perm (List.Perm.refl (List.range (parseAll settings fs paths).length))
      have scans := scans_of_order observers search order
      rcases collect_of_order order with ⟨parsed, read, collected⟩ |
        ⟨_, piece, _, failure, -, failed, -, -⟩
      · rw [mapM_scanFile_of_parseAll read] at complete
        cases complete
        rwa [scanAll, collected] at scans
      · obtain ⟨path, member, unread⟩ := exists_unread_of_parseAll failed
        exact absurd unread (not_unread_of_mapM complete member)
    · obtain ⟨piece, inRange, rfl⟩ := List.getElem_of_mem member
      have failed : (parseAll settings fs paths)[piece]? = some (.error failure) := by
        rw [parseAll, List.getElem?_map, List.getElem?_eq_getElem inRange, Option.map_some, unread]
        rfl
      have collected : collect [piece] (parseAll settings fs paths) = .error failure := by
        simp [collect, failed, failure?]
      have scans := scans_of_order observers search (order_singleton failed)
      rwa [scanAll, collected] at scans

/-- That those of the files that are found which cannot be read fail in the same way. -/
def SingleFailure (settings : Settings) (directory : Path) (skip : List Path) (fs : FileSystem) :
    Prop :=
  ∀ paths, (discovery settings skip).find fs directory = .ok paths →
    ∀ first ∈ paths, ∀ second ∈ paths, ∀ failure other,
      parseFile fs first settings.maxFileSize = .error failure →
      parseFile fs second settings.maxFileSize = .error other → failure = other

/-- That no two of the files that are found fail to be read. -/
def SingleFailed (settings : Settings) (directory : Path) (skip : List Path) (fs : FileSystem) :
    Prop :=
  ∀ paths, (discovery settings skip).find fs directory = .ok paths →
    ∀ first ∈ paths, ∀ second ∈ paths, (parseFile fs first settings.maxFileSize).isOk = false →
      (parseFile fs second settings.maxFileSize).isOk = false → first = second

/-- Where the languages can be read, no two files fail in the same way. -/
theorem singleFailure_iff_singleFailed
    (available : ∀ dialect, Grammars.unavailable? dialect = none) :
    SingleFailure settings directory skip fs ↔ SingleFailed settings directory skip fs := by
  constructor
  · intro single paths search first memberFirst second memberSecond failsFirst failsSecond
    obtain ⟨failure, unread⟩ := exists_of_isOk_eq_false failsFirst
    obtain ⟨other, unreadToo⟩ := exists_of_isOk_eq_false failsSecond
    obtain rfl := single paths search first memberFirst second memberSecond _ _ unread unreadToo
    exact eq_of_parseFile_eq_error available unread unreadToo
  · intro single paths search first memberFirst second memberSecond failure other unread unreadToo
    obtain rfl := single paths search first memberFirst second memberSecond
      (by rw [unread]; rfl) (by rw [unreadToo]; rfl)
    exact Except.error.inj (unread.symm.trans unreadToo)

theorem scans_of_not_found {failure : SourceFailure}
    (search : (discovery settings skip).find fs directory = .error failure) :
    Scans settings directory skip observers fs result ↔ result = .error (.source failure) := by
  have ends {exchanges : List (Exchange Surroundings)} {final : Except Failure SourceScan}
      (runs : (scan settings directory skip observers).Runs exchanges final)
      (timed : ∀ exchange ∈ exchanges, Timed settings directory skip fs exchange) :
      final = .error (.source failure) := by
    rcases eq_of_runs_scan runs timed with ⟨other, failed, rfl⟩ | ⟨paths, _, searched, -⟩
    · cases search.symm.trans failed
      rfl
    · cases search.symm.trans searched
  constructor
  · rintro ⟨exchanges, runs, timed⟩
    exact ends runs timed
  · rintro rfl
    have order : ∀ paths, (discovery settings skip).find fs directory = .ok paths →
        Order (parseAll settings fs paths) [] :=
      fun _ searched => nomatch search.symm.trans searched
    obtain ⟨exchanges, final, runs, -, timed⟩ := exists_timed_run observers order
    obtain rfl := ends runs timed
    exact ⟨exchanges, runs, timed⟩

theorem scans_of_unread (search : (discovery settings skip).find fs directory = .ok paths)
    (member : path ∈ paths)
    (unread : parseFile fs path settings.maxFileSize = .error failure) :
    Scans settings directory skip observers fs (.error failure) :=
  (scans_iff_of_find search).mpr (.inr ⟨path, member, failure, unread, rfl⟩)

theorem exists_scans : ∃ result, Scans settings directory skip observers fs result := by
  cases search : (discovery settings skip).find fs directory with
  | error failure => exact ⟨_, (scans_of_not_found search).mpr rfl⟩
  | ok paths => exact ⟨_, scans_of_order observers search (order_of_perm (List.Perm.refl _))⟩

/-- Where no two files fail in different ways, a scan comes to what reading in order does. -/
theorem eq_scanInOrder_of_scans (single : SingleFailure settings directory skip fs)
    (scans : Scans settings directory skip observers fs result) :
    result = scanInOrder settings directory skip fs := by
  rw [scanInOrder]
  cases search : (discovery settings skip).find fs directory with
  | error failure => exact (scans_of_not_found search).mp scans
  | ok paths =>
      rcases (scans_iff_of_find search).mp scans with ⟨scanned, complete, rfl⟩ |
        ⟨path, member, failure, unread, rfl⟩
      · simp only [complete]
        rfl
      · cases outcome : paths.mapM (scanFile settings fs) with
        | ok scanned => exact absurd unread (not_unread_of_mapM outcome member)
        | error first =>
            obtain ⟨other, memberToo, failed⟩ := List.mem_map.mp (mem_map_of_mapM_eq_error outcome)
            have unreadToo := eq_error_of_map_eq_error failed
            obtain rfl := single paths search path member other memberToo _ _ unread unreadToo
            simp only [outcome]
            rfl

/-- Where a scan can come to one thing only, no two files fail in different ways. -/
theorem singleFailure_of_scans_unique
    (unique : ∀ result other, Scans settings directory skip observers fs result →
      Scans settings directory skip observers fs other → result = other) :
    SingleFailure settings directory skip fs := by
  intro paths search first memberFirst second memberSecond failure other unread unreadToo
  exact Except.error.inj (unique _ _ (scans_of_unread search memberFirst unread)
    (scans_of_unread search memberSecond unreadToo))

/-- **When the order of the workers makes no difference.** A scan always comes to something. All
that it can come to is what reading the files one after the other in the order of their paths does
exactly if no two of the files that are found fail in different ways, which is to say, if the
languages can be read, that no two of them fail. If two do, the failure of each can be what it comes
to. -/
theorem scan_independent_iff (settings : Settings) (directory : Path) (skip : List Path)
    (observers : Nat) (fs : FileSystem) :
    (∃ result, Scans settings directory skip observers fs result) ∧
    ((∀ result, Scans settings directory skip observers fs result →
        result = scanInOrder settings directory skip fs) ↔
      SingleFailure settings directory skip fs) ∧
    ((∀ result other, Scans settings directory skip observers fs result →
        Scans settings directory skip observers fs other → result = other) ↔
      SingleFailure settings directory skip fs) ∧
    ((∀ dialect, Grammars.unavailable? dialect = none) →
      (SingleFailure settings directory skip fs ↔ SingleFailed settings directory skip fs)) ∧
    ∀ paths, (discovery settings skip).find fs directory = .ok paths →
      ∀ path ∈ paths, ∀ failure, parseFile fs path settings.maxFileSize = .error failure →
        Scans settings directory skip observers fs (.error failure) := by
  refine ⟨exists_scans, ⟨fun inOrder => ?_, fun single _ => eq_scanInOrder_of_scans single⟩,
    ⟨singleFailure_of_scans_unique, fun single _ _ scans scansToo => ?_⟩,
    singleFailure_iff_singleFailed,
    fun _ search _ member _ unread => scans_of_unread search member unread⟩
  · exact singleFailure_of_scans_unique fun _ _ scans scansToo =>
      (inOrder _ scans).trans (inOrder _ scansToo).symm
  · exact (eq_scanInOrder_of_scans single scans).trans
      (eq_scanInOrder_of_scans single scansToo).symm

end Orders

/-- Two source files that are no text. -/
def spoiledProject : FileSystem where
  nodes :=
    [([.ofString "src"], .directory),
      ([.ofString "src", .ofString "a.ts"], .file ⟨#[0xff]⟩),
      ([.ofString "src", .ofString "b.ts"], .file ⟨#[0xff]⟩)]

/-- Where two files are no text, a scan may come to the failure of the first, which is what reading
in order does, and to that of the second. -/
theorem scan_depends_on_order :
    scanInOrder {} (.ofString "/src") [] spoiledProject =
        .error (.source (.notText (.ofString "/src/a.ts"))) ∧
      Scans {} (.ofString "/src") [] 0 spoiledProject
        (.error (.source (.notText (.ofString "/src/a.ts")))) ∧
      Scans {} (.ofString "/src") [] 0 spoiledProject
        (.error (.source (.notText (.ofString "/src/b.ts")))) := by
  have search : (discovery {} []).find spoiledProject (.ofString "/src") =
      .ok [.ofString "/src/a.ts", .ofString "/src/b.ts"] := by
    have resolved : spoiledProject.resolve (.ofString "/src") = .ok [Name.ofString "src"] := by
      decide +kernel
    exact Discovery.find_eq_of_perm resolved (by decide +kernel) (by decide +kernel)
      (by decide +kernel) (by decide +kernel)
  have first : parseFile spoiledProject (.ofString "/src/a.ts") (Settings.maxFileSize {}) =
      .error (.source (.notText (.ofString "/src/a.ts"))) :=
    parseFile_eq_of_text_eq_error (by decide +kernel) (by decide +kernel)
  have second : parseFile spoiledProject (.ofString "/src/b.ts") (Settings.maxFileSize {}) =
      .error (.source (.notText (.ofString "/src/b.ts"))) :=
    parseFile_eq_of_text_eq_error (by decide +kernel) (by decide +kernel)
  refine ⟨?_, scans_of_unread search List.mem_cons_self first,
    scans_of_unread search (List.mem_cons_of_mem _ List.mem_cons_self) second⟩
  rw [scanInOrder, search]
  simp only [List.mapM_cons, scanFile, first]
  rfl

end Source

end TypedQueries
