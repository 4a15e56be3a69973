import TypedQueries.FileSystem.Change
import TypedQueries.Proofs.Path.Components

/-! # Where names lead

`FileSystem.Leads` says step by step how names lead through directories and links, and
`follow_eq_ok_iff` that they do so wherever `FileSystem.follow` comes to a location. Names lead
on in every file system that retains the directories and links (`Leads.of_retains`), since the
way to a place is never through a file.
-/

namespace TypedQueries

/-- That a name stands for something in a directory, and is short enough to be looked for. -/
structure Name.IsEntry (name : Name) : Prop where
  nonempty : name ≠ []
  not_dot : name ≠ [Path.dot]
  not_dotDot : name ≠ [Path.dot, Path.dot]
  short : name.length ≤ FileSystem.nameLimit

namespace FileSystem

variable {fs gs : FileSystem}

@[simp] theorem node?_nil (fs : FileSystem) : fs.node? [] = some .directory := rfl

theorem node?_of_ne_nil (fs : FileSystem) {location : Location} (inside : location ≠ []) :
    fs.node? location = fs.nodes.lookup location := by
  cases location with
  | nil => exact absurd rfl inside
  | cons name names => rfl

/-- That there is a file at a location, readable or not. -/
def FileAt (fs : FileSystem) (location : Location) : Prop :=
  ∃ node, fs.node? location = some node ∧ node.isFile

/-- That there is a directory at a location, closed or not. -/
def DirectoryAt (fs : FileSystem) (location : Location) : Prop :=
  ∃ node, fs.node? location = some node ∧ node.isDirectory

instance (fs : FileSystem) (location : Location) : Decidable (fs.FileAt location) :=
  decidable_of_iff ((fs.node? location).any Node.isFile) (Option.any_eq_true ..)

instance (fs : FileSystem) (location : Location) : Decidable (fs.DirectoryAt location) :=
  decidable_of_iff ((fs.node? location).any Node.isDirectory) (Option.any_eq_true ..)

theorem fileAt_iff {location : Location} {node : Node} (present : fs.node? location = some node) :
    fs.FileAt location ↔ node.isFile := by
  simp [FileAt, present]

theorem directoryAt_iff {location : Location} {node : Node}
    (present : fs.node? location = some node) : fs.DirectoryAt location ↔ node.isDirectory := by
  simp [DirectoryAt, present]

theorem DirectoryAt.of_directory {location : Location}
    (directory : fs.node? location = some .directory) : fs.DirectoryAt location :=
  (directoryAt_iff directory).mpr rfl

theorem not_directoryAt_of_eq_none {location : Location} (absent : fs.node? location = none) :
    ¬ fs.DirectoryAt location := by
  simp [DirectoryAt, absent]

theorem DirectoryAt.not_fileAt {location : Location} (directory : fs.DirectoryAt location) :
    ¬ fs.FileAt location := by
  obtain ⟨node, present, isDirectory⟩ := directory
  rw [fileAt_iff present]
  cases node with
  | directory | closed | broken fault => exact Bool.false_ne_true
  | file content | unreadable size fault | link target => cases isDirectory

theorem DirectoryAt.isSome {location : Location} (directory : fs.DirectoryAt location) :
    (fs.node? location).isSome := by
  obtain ⟨node, present, -⟩ := directory
  rw [present]
  rfl

theorem DirectoryAt.eq_directory {location : Location} (directory : fs.DirectoryAt location)
    (unclosed : ¬ (fs.node? location).any Node.isClosed) :
    fs.node? location = some .directory := by
  obtain ⟨node, present, isDirectory⟩ := directory
  rw [present] at unclosed ⊢
  cases node with
  | directory => rfl
  | closed | broken fault => exact absurd rfl unclosed
  | file content | unreadable size fault | link target => cases isDirectory

/-- That names lead from one location to another through at most so many links. -/
inductive Leads (fs : FileSystem) : Nat → Location → List Name → Location → Prop
  | here {links : Nat} {place : Location} : Leads fs links place [] place
  | stay {links : Nat} {place location : Location} {name : Name} {rest : List Name}
      (directory : fs.DirectoryAt place) (silent : name = [] ∨ name = [Path.dot])
      (leads : Leads fs links place rest location) : Leads fs links place (name :: rest) location
  | up {links : Nat} {place location : Location} {rest : List Name}
      (directory : fs.DirectoryAt place) (leads : Leads fs links place.dropLast rest location) :
      Leads fs links place ([Path.dot, Path.dot] :: rest) location
  | enter {links : Nat} {place location : Location} {name : Name} {rest : List Name} {node : Node}
      (directory : fs.node? place = some .directory) (entry : name.IsEntry)
      (present : fs.node? (place ++ [name]) = some node) (unlinked : ∀ target, node ≠ .link target)
      (leads : Leads fs links (place ++ [name]) rest location) :
      Leads fs links place (name :: rest) location
  | through {links : Nat} {place location : Location} {name : Name} {rest : List Name}
      {target : Path}
      (directory : fs.node? place = some .directory) (entry : name.IsEntry)
      (present : fs.node? (place ++ [name]) = some (.link target))
      (leads : Leads fs links (if target.isAbsolute then [] else place)
        (Path.split target.bytes ++ rest) location) :
      Leads fs (links + 1) place (name :: rest) location

section Walk

variable {follow : Location → List Name → Except SystemFault Location} {place location : Location}
  {name : Name} {rest : List Name}

theorem walk_stay (directory : fs.DirectoryAt place) (silent : name = [] ∨ name = [Path.dot]) :
    fs.walk follow place (name :: rest) = fs.walk follow place rest := by
  have quiet : (name = [] || name = [Path.dot]) = true := by simpa using silent
  obtain ⟨node, present, isDirectory⟩ := directory
  rw [walk, present]
  cases node with
  | directory | closed | broken fault => simp only [Node.refusal?, quiet, if_true]
  | file content | unreadable size fault | link target => cases isDirectory

theorem walk_up (directory : fs.DirectoryAt place) :
    fs.walk follow place ([Path.dot, Path.dot] :: rest) = fs.walk follow place.dropLast rest := by
  obtain ⟨node, present, isDirectory⟩ := directory
  rw [walk, present]
  cases node with
  | directory | closed | broken fault => simp [Node.refusal?]
  | file content | unreadable size fault | link target => cases isDirectory

theorem walk_entry (directory : fs.node? place = some .directory) (entry : name.IsEntry) :
    fs.walk follow place (name :: rest) =
      match fs.node? (place ++ [name]) with
      | none => .error .missing
      | some (.link target) =>
          follow (if target.isAbsolute then [] else place) (Path.split target.bytes ++ rest)
      | some _ => fs.walk follow (place ++ [name]) rest := by
  rw [walk, directory]
  rcases fs.node? (place ++ [name]) with _ | _ | _ | _ | _ | _ | _ <;>
    simp only [entry.nonempty, entry.not_dot, entry.not_dotDot, Nat.not_lt.mpr entry.short,
      decide_false, Bool.or_self, Bool.false_eq_true, if_false]

theorem walk_enter (directory : fs.node? place = some .directory) (entry : name.IsEntry)
    {node : Node} (present : fs.node? (place ++ [name]) = some node)
    (unlinked : ∀ target, node ≠ .link target) :
    fs.walk follow place (name :: rest) = fs.walk follow (place ++ [name]) rest := by
  rw [walk_entry directory entry, present]
  cases node with
  | link target => exact absurd rfl (unlinked target)
  | file content | unreadable size fault | directory | closed | broken fault => rfl

/-- Nothing but a directory is walked through. -/
theorem directoryAt_of_walk (walked : fs.walk follow place (name :: rest) = .ok location) :
    fs.DirectoryAt place := by
  rw [walk] at walked
  split at walked
  · cases walked
  · next present => exact .of_directory present
  · next node _ present =>
    rw [directoryAt_iff present]
    cases node with
    | directory | closed | broken fault => rfl
    | file content | unreadable size fault | link target => cases walked

/-- A walk goes on only as names lead. -/
theorem exists_step_of_walk (walked : fs.walk follow place (name :: rest) = .ok location) :
    (fs.DirectoryAt place ∧ (name = [] ∨ name = [Path.dot]) ∧
      fs.walk follow place rest = .ok location) ∨
    (fs.DirectoryAt place ∧ name = [Path.dot, Path.dot] ∧
      fs.walk follow place.dropLast rest = .ok location) ∨
    (fs.node? place = some .directory ∧ name.IsEntry ∧
      ((∃ node, fs.node? (place ++ [name]) = some node ∧ (∀ target, node ≠ .link target) ∧
          fs.walk follow (place ++ [name]) rest = .ok location) ∨
        ∃ target, fs.node? (place ++ [name]) = some (.link target) ∧
          follow (if target.isAbsolute then [] else place) (Path.split target.bytes ++ rest) =
            .ok location)) := by
  have directory := directoryAt_of_walk walked
  by_cases silent : name = [] ∨ name = [Path.dot]
  · rw [walk_stay directory silent] at walked
    exact .inl ⟨directory, silent, walked⟩
  by_cases up : name = [Path.dot, Path.dot]
  · subst up
    rw [walk_up directory] at walked
    exact .inr (.inl ⟨directory, rfl, walked⟩)
  obtain ⟨nonempty, not_dot⟩ := not_or.mp silent
  obtain ⟨node, present, isDirectory⟩ := directory
  cases node with
  | directory =>
      have short : name.length ≤ nameLimit := Nat.le_of_not_lt fun long => by
        rw [walk, present] at walked
        simp [nonempty, not_dot, up, long] at walked
      have entry : name.IsEntry := ⟨nonempty, not_dot, up, short⟩
      rw [walk_entry present entry] at walked
      refine .inr (.inr ⟨present, entry, ?_⟩)
      split at walked
      · cases walked
      · next target isLink => exact .inr ⟨target, isLink, walked⟩
      · next node unlinked found => exact .inl ⟨node, found, unlinked, walked⟩
  | closed | broken fault =>
      rw [walk, present] at walked
      simp [Node.refusal?, nonempty, not_dot, up] at walked
  | file content | unreadable size fault | link target => cases isDirectory

/-- A walk goes where the names lead, if it does so behind links. -/
theorem leads_of_walk {links : Nat} {names : List Name}
    (through : ∀ {place : Location} {name : Name} {rest : List Name} {target : Path},
      fs.node? place = some .directory → name.IsEntry →
      fs.node? (place ++ [name]) = some (.link target) →
      follow (if target.isAbsolute then [] else place) (Path.split target.bytes ++ rest) =
        .ok location → fs.Leads links place (name :: rest) location)
    (walked : fs.walk follow place names = .ok location) :
    fs.Leads links place names location := by
  induction names generalizing place with
  | nil =>
      cases walked
      exact .here
  | cons name rest ih =>
      obtain ⟨directory, silent, onward⟩ | ⟨directory, rfl, onward⟩ |
        ⟨directory, entry, ⟨node, present, unlinked, onward⟩ | ⟨target, present, onward⟩⟩ :=
        exists_step_of_walk walked
      · exact .stay directory silent (ih onward)
      · exact .up directory (ih onward)
      · exact .enter directory entry present unlinked (ih onward)
      · exact through directory entry present onward

end Walk

/-- Names lead to the location that they are followed to. -/
theorem follow_eq_ok_iff {links : Nat} {place location : Location} {names : List Name} :
    fs.follow links place names = .ok location ↔ fs.Leads links place names location := by
  constructor
  · intro followed
    -- A link uses up one of the links left, any other step a name.
    induction links generalizing place names with
    | zero =>
        rw [follow] at followed
        exact leads_of_walk (fun _ _ _ refused => by cases refused) followed
    | succ links ih =>
        rw [follow] at followed
        exact leads_of_walk (fun directory entry present onward =>
          .through directory entry present (ih onward)) followed
  · intro leads
    induction leads with
    | @here links place => cases links <;> rfl
    | @stay links place location name rest directory silent leads ih =>
        cases links <;> rw [follow] at ih ⊢ <;> rwa [walk_stay directory silent]
    | @up links place location rest directory leads ih =>
        cases links <;> rw [follow] at ih ⊢ <;> rwa [walk_up directory]
    | @enter links place location name rest node directory entry present unlinked leads ih =>
        cases links <;> rw [follow] at ih ⊢ <;> rwa [walk_enter directory entry present unlinked]
    | through directory entry present leads ih =>
        rw [follow, walk_entry directory entry, present]
        exact ih

namespace Leads

variable {links : Nat} {place location : Location} {names : List Name}

theorem unique {other : Location} (leads : fs.Leads links place names location)
    (again : fs.Leads links place names other) : location = other := by
  rw [← follow_eq_ok_iff] at leads again
  exact Except.ok.inj (leads.symm.trans again)

theorem directoryAt_of_cons {name : Name} (leads : fs.Leads links place (name :: names) location) :
    fs.DirectoryAt place := by
  cases leads with
  | stay directory | up directory => exact directory
  | enter directory | through directory => exact .of_directory directory

/-- Where names lead, the first of them lead to a place from which the others lead on, as would
any in their stead. -/
theorem exists_of_append {rest : List Name}
    (leads : fs.Leads links place (names ++ rest) location) :
    ∃ left between, fs.Leads left between rest location ∧
      ∀ others final, fs.Leads left between others final →
        fs.Leads links place (names ++ others) final := by
  generalize whole : names ++ rest = all at leads
  induction leads generalizing names with
  | @here links place =>
      obtain ⟨rfl, rfl⟩ := List.append_eq_nil_iff.mp whole
      exact ⟨links, place, .here, fun _ _ further => further⟩
  | @stay links place location name after directory silent leads ih =>
      cases names with
      | nil =>
          cases whole
          exact ⟨links, place, .stay directory silent leads, fun _ _ further => further⟩
      | cons first names =>
          obtain ⟨rfl, rfl⟩ := List.cons.inj whole
          obtain ⟨left, between, onward, goesOn⟩ := ih rfl
          exact ⟨left, between, onward, fun _ _ further =>
            .stay directory silent (goesOn _ _ further)⟩
  | @up links place location after directory leads ih =>
      cases names with
      | nil =>
          cases whole
          exact ⟨links, place, .up directory leads, fun _ _ further => further⟩
      | cons first names =>
          obtain ⟨rfl, rfl⟩ := List.cons.inj whole
          obtain ⟨left, between, onward, goesOn⟩ := ih rfl
          exact ⟨left, between, onward, fun _ _ further => .up directory (goesOn _ _ further)⟩
  | @enter links place location name after node directory entry present unlinked leads ih =>
      cases names with
      | nil =>
          cases whole
          exact ⟨links, place, .enter directory entry present unlinked leads,
            fun _ _ further => further⟩
      | cons first names =>
          obtain ⟨rfl, rfl⟩ := List.cons.inj whole
          obtain ⟨left, between, onward, goesOn⟩ := ih rfl
          exact ⟨left, between, onward, fun _ _ further =>
            .enter directory entry present unlinked (goesOn _ _ further)⟩
  | @through links place location name after target directory entry present leads ih =>
      cases names with
      | nil =>
          cases whole
          exact ⟨links + 1, place, .through directory entry present leads,
            fun _ _ further => further⟩
      | cons first names =>
          obtain ⟨rfl, rfl⟩ := List.cons.inj whole
          -- The names of the target come before those that are left.
          obtain ⟨left, between, onward, goesOn⟩ := ih (List.append_assoc ..)
          refine ⟨left, between, onward, fun others final further =>
            .through directory entry present ?_⟩
          have further := goesOn others final further
          rw [List.append_assoc] at further
          exact further

/-- A trailing separator asks for a directory, and leads no further. -/
theorem exists_of_append_silent (leads : fs.Leads links place (names ++ [[]]) location) :
    fs.DirectoryAt location ∧ ∃ left, ∀ rest final, fs.Leads left location rest final →
      fs.Leads links place (names ++ rest) final := by
  obtain ⟨left, between, onward, goesOn⟩ := leads.exists_of_append
  cases onward with
  | stay directory silent ends =>
      cases ends
      exact ⟨directory, left, goesOn⟩
  | enter directory entry | through directory entry => exact absurd rfl entry.nonempty

theorem directoryAt (leads : fs.Leads links place (names ++ [[]]) location) :
    fs.DirectoryAt location :=
  leads.exists_of_append_silent.1

/-- From the directory that names lead to, with some links left, one goes on with further
names. -/
theorem append (leads : fs.Leads links place (names ++ [[]]) location) :
    ∃ left, ∀ rest final, fs.Leads left location rest final →
      fs.Leads links place (names ++ rest) final :=
  leads.exists_of_append_silent.2

theorem of_append_silent (leads : fs.Leads links place (names ++ [[]]) location) :
    fs.Leads links place names location := by
  obtain ⟨left, goesOn⟩ := leads.append
  have ends := goesOn [] location .here
  rwa [List.append_nil] at ends

/-- A separator may follow the names that lead to a directory. -/
theorem append_silent (leads : fs.Leads links place names location)
    (directory : fs.DirectoryAt location) : fs.Leads links place (names ++ [[]]) location := by
  induction leads with
  | here => exact .stay directory (.inl rfl) .here
  | stay isDirectory silent leads ih => exact .stay isDirectory silent (ih directory)
  | up isDirectory leads ih => exact .up isDirectory (ih directory)
  | enter isDirectory entry present unlinked leads ih =>
      exact .enter isDirectory entry present unlinked (ih directory)
  | through isDirectory entry present leads ih =>
      have further := ih directory
      rw [List.append_assoc] at further
      exact .through isDirectory entry present further

/-- Names that end in an entry lead to the directory that it is looked for in. -/
theorem directory_of_append_entry {name : Name}
    (leads : fs.Leads links place (names ++ [name]) location) :
    ∃ directory, fs.Leads links place (names ++ [[]]) directory := by
  obtain ⟨left, between, onward, goesOn⟩ := leads.exists_of_append
  exact ⟨between, goesOn _ _ (.stay onward.directoryAt_of_cons (.inl rfl) .here)⟩

/-- No name leads on from a file. -/
theorem eq_of_fileAt (file : fs.FileAt place) (leads : fs.Leads links place names location) :
    location = place := by
  cases leads with
  | here => rfl
  | stay directory | up directory => exact absurd file directory.not_fileAt
  | enter directory | through directory =>
      exact absurd file (DirectoryAt.of_directory directory).not_fileAt

end Leads

/-- That another file system has all that can be on a way: the directories and links. -/
structure Retains (fs gs : FileSystem) : Prop where
  here : gs.here = fs.here
  ways : ∀ {location : Location} {node : Node}, fs.node? location = some node →
    ¬ node.isFile → gs.node? location = some node

theorem Retains.node?_eq (retains : fs.Retains gs) {location : Location}
    (directory : fs.DirectoryAt location) : gs.node? location = fs.node? location := by
  obtain ⟨node, present, -⟩ := id directory
  rw [present]
  exact retains.ways present fun isFile => directory.not_fileAt ⟨node, present, isFile⟩

theorem Retains.directoryAt (retains : fs.Retains gs) {location : Location}
    (directory : fs.DirectoryAt location) : gs.DirectoryAt location := by
  rw [DirectoryAt, retains.node?_eq directory]
  exact directory

theorem Retains.directory (retains : fs.Retains gs) {location : Location}
    (directory : fs.node? location = some .directory) : gs.node? location = some .directory :=
  retains.ways directory Bool.false_ne_true

theorem Leads.of_retains (retains : fs.Retains gs) {links : Nat} {place location : Location}
    {names : List Name} (leads : fs.Leads links place names location)
    (final : fs.FileAt location → gs.FileAt location) :
    gs.Leads links place names location := by
  induction leads with
  | here => exact .here
  | stay directory silent leads ih => exact .stay (retains.directoryAt directory) silent (ih final)
  | up directory leads ih => exact .up (retains.directoryAt directory) (ih final)
  | @enter links place location name rest node directory entry present unlinked leads ih =>
      have opened := retains.directory directory
      by_cases isFile : node.isFile
      · obtain rfl := leads.eq_of_fileAt ⟨node, present, isFile⟩
        obtain ⟨other, kept, isFileToo⟩ := final ⟨node, present, isFile⟩
        exact .enter opened entry kept (fun _ same => by cases same; cases isFileToo) (ih final)
      · exact .enter opened entry (retains.ways present isFile) unlinked (ih final)
  | through directory entry present leads ih =>
      exact .through (retains.directory directory) entry
        (retains.ways present Bool.false_ne_true) (ih final)

section Paths

variable {path : Path} {location directory : Location} {name : Name} {unnamed : SystemFault}

theorem resolveNames_eq_ok_iff {names : List Name} :
    fs.resolveNames path names = .ok location ↔
      path.bytes ≠ [] ∧ path.bytes.length < pathLimit ∧
        fs.Leads linkLimit (if path.isAbsolute then [] else fs.here) names location := by
  rw [resolveNames, ← follow_eq_ok_iff]
  by_cases empty : path.bytes = []
  · simp [empty]
  by_cases long : pathLimit ≤ path.bytes.length
  · simp [empty, long, Nat.not_lt.mpr long]
  · simp [empty, long, Nat.lt_of_not_le long]

theorem resolveNames_silent (resolved : fs.resolve path = .ok location)
    (isDirectory : fs.DirectoryAt location) :
    fs.resolveNames path (Path.split path.bytes ++ [[]]) = .ok location := by
  obtain ⟨nonempty, short, leads⟩ := resolveNames_eq_ok_iff.mp resolved
  exact resolveNames_eq_ok_iff.mpr ⟨nonempty, short, leads.append_silent isDirectory⟩

theorem resolveNames_of_retains (retains : fs.Retains gs) {names : List Name}
    (resolved : fs.resolveNames path names = .ok location)
    (final : fs.FileAt location → gs.FileAt location) :
    gs.resolveNames path names = .ok location := by
  rw [resolveNames_eq_ok_iff, retains.here] at *
  obtain ⟨nonempty, short, leads⟩ := resolved
  exact ⟨nonempty, short, leads.of_retains retains final⟩

/-- What is found at the end of a path is looked for in the directory that the names before it
lead to. -/
theorem exists_of_spot {spot : Spot} (found : fs.spot unnamed path = .ok spot) :
    spot.name.IsEntry ∧ ∃ before after,
      Path.split path.bytes = before ++ spot.name :: after ∧
      (spot.slashed = false → after = []) ∧ (∀ other ∈ after, other = []) ∧
      fs.resolveNames path (before ++ [[]]) = .ok spot.directory := by
  simp only [FileSystem.spot] at found
  split at found
  · cases found
  next name before parts =>
  have nonempty : name ≠ [] := by
    have first := List.head?_dropWhile_not List.isEmpty (Path.split path.bytes).reverse
    simpa [parts] using first
  cases resolved : fs.resolveNames path (before.reverse ++ [[]]) with
  | error fault => simp [resolved] at found
  | ok directory =>
      simp only [resolved] at found
      split at found
      · cases found
      next plain =>
      split at found
      · cases found
      next short =>
      cases found
      obtain ⟨not_dot, not_dotDot⟩ := by simpa using plain
      have whole := List.takeWhile_append_dropWhile (p := List.isEmpty)
        (l := (Path.split path.bytes).reverse)
      rw [parts, ← List.reverse_inj, List.reverse_reverse, List.reverse_append,
        List.reverse_cons, List.append_assoc, List.singleton_append] at whole
      refine ⟨⟨nonempty, not_dot, not_dotDot, Nat.le_of_not_lt short⟩, _, _, whole.symm, ?_, ?_,
        resolved⟩
      · intro unslashed
        cases names : (Path.split path.bytes).reverse with
        | nil => rfl
        | cons last others =>
            have closed : last ≠ [] := by simpa [names] using unslashed
            simp [closed]
      · intro other member
        exact List.isEmpty_iff.mp
          (List.all_eq_true.mp List.all_takeWhile other (List.mem_reverse.mp member))

theorem directoryAt_of_spot {spot : Spot} (found : fs.spot unnamed path = .ok spot) :
    fs.DirectoryAt spot.directory := by
  obtain ⟨_, before, after, _, _, _, resolved⟩ := exists_of_spot found
  exact (resolveNames_eq_ok_iff.mp resolved).2.2.directoryAt

/-- A path ends in a name in a directory when its last name is an entry and those before lead
there. -/
theorem spot_eq_ok_iff :
    fs.spot unnamed path = .ok ⟨directory, name, false⟩ ↔
      name.IsEntry ∧ ∃ before, Path.split path.bytes = before ++ [name] ∧
        fs.resolveNames path (before ++ [[]]) = .ok directory := by
  constructor
  · intro found
    obtain ⟨entry, before, after, parts, last, -, resolved⟩ := exists_of_spot found
    exact ⟨entry, before, by rw [parts, last rfl], resolved⟩
  · rintro ⟨entry, before, parts, resolved⟩
    simp [FileSystem.spot, parts, entry.nonempty, resolved, entry.not_dot,
      entry.not_dotDot, Nat.not_lt.mpr entry.short]

theorem spot_of_retains (retains : fs.Retains gs)
    (found : fs.spot unnamed path = .ok ⟨directory, name, false⟩) :
    gs.spot unnamed path = .ok ⟨directory, name, false⟩ := by
  rw [spot_eq_ok_iff] at found ⊢
  obtain ⟨entry, before, parts, resolved⟩ := found
  refine ⟨entry, before, parts, resolveNames_of_retains retains resolved fun file => ?_⟩
  exact absurd file (resolveNames_eq_ok_iff.mp resolved).2.2.directoryAt.not_fileAt

/-- A path leads to what is at its end, unless that is a link. -/
theorem resolve_of_spot (found : fs.spot unnamed path = .ok ⟨directory, name, false⟩)
    (opened : fs.node? directory = some .directory) {node : Node}
    (present : fs.node? (directory ++ [name]) = some node)
    (unlinked : ∀ target, node ≠ .link target) :
    fs.resolve path = .ok (directory ++ [name]) := by
  obtain ⟨entry, before, parts, resolved⟩ := spot_eq_ok_iff.mp found
  obtain ⟨nonempty, short, leads⟩ := resolveNames_eq_ok_iff.mp resolved
  obtain ⟨left, goesOn⟩ := leads.append
  rw [resolve, parts, resolveNames_eq_ok_iff]
  exact ⟨nonempty, short, goesOn _ _ (.enter opened entry present unlinked .here)⟩

/-- A path that leads anywhere ends in a directory that is there. -/
theorem exists_spot_of_resolve {before : List Name} (resolved : fs.resolve path = .ok location)
    (parts : Path.split path.bytes = before ++ [name]) (entry : name.IsEntry) :
    ∃ directory, fs.spot unnamed path = .ok ⟨directory, name, false⟩ := by
  rw [resolve, parts] at resolved
  obtain ⟨nonempty, short, leads⟩ := resolveNames_eq_ok_iff.mp resolved
  obtain ⟨directory, leads⟩ := leads.directory_of_append_entry
  exact ⟨directory, spot_eq_ok_iff.mpr
    ⟨entry, before, parts, resolveNames_eq_ok_iff.mpr ⟨nonempty, short, leads⟩⟩⟩

theorem at?_eq_ok_iff {node : Node} :
    fs.at? path = .ok node ↔
      ∃ location, fs.resolve path = .ok location ∧ fs.node? location = some node := by
  rw [at?]
  cases fs.resolve path with
  | error fault => simp [Except.bind]
  | ok location => cases present : fs.node? location <;> simp [Except.bind, present]

theorem exists_at?_iff {p : Node → Prop} :
    (∃ node, fs.at? path = .ok node ∧ p node) ↔
      ∃ location, fs.resolve path = .ok location ∧
        ∃ node, fs.node? location = some node ∧ p node := by
  simp only [at?_eq_ok_iff]
  constructor
  · rintro ⟨node, ⟨location, resolved, present⟩, holds⟩
    exact ⟨location, resolved, node, present, holds⟩
  · rintro ⟨location, resolved, node, present, holds⟩
    exact ⟨node, ⟨location, resolved, present⟩, holds⟩

theorem isDirectory_iff_at? :
    fs.isDirectory path ↔ ∃ node, fs.at? path = .ok node ∧ node.isDirectory := by
  rw [isDirectory]
  cases fs.at? path <;> simp

theorem isDirectory_iff :
    fs.isDirectory path ↔
      ∃ location, fs.resolve path = .ok location ∧ fs.DirectoryAt location :=
  isDirectory_iff_at?.trans exists_at?_iff

theorem isFile_iff_at? : fs.isFile path ↔ ∃ node, fs.at? path = .ok node ∧ node.isFile := by
  rw [isFile]
  cases fs.at? path <;> simp

theorem isFile_iff :
    fs.isFile path ↔ ∃ location, fs.resolve path = .ok location ∧ fs.FileAt location :=
  isFile_iff_at?.trans exists_at?_iff

theorem read_eq_ok_iff_at? {content : ByteArray} :
    fs.read path = .ok content ↔ fs.at? path = .ok (.file content) := by
  rw [read]
  cases fs.at? path with
  | error fault => simp [Except.bind]
  | ok node => cases node <;> simp [Except.bind]

theorem isFile_of_read {content : ByteArray} (read : fs.read path = .ok content) :
    fs.isFile path :=
  isFile_iff_at?.mpr ⟨_, read_eq_ok_iff_at?.mp read, rfl⟩

theorem read_eq_ok_iff {content : ByteArray} :
    fs.read path = .ok content ↔
      ∃ location, fs.resolve path = .ok location ∧ fs.node? location = some (.file content) :=
  read_eq_ok_iff_at?.trans at?_eq_ok_iff

/-- What is found is still found when nothing has been taken away. -/
theorem at?_of_kept {node : Node} (here : gs.here = fs.here)
    (kept : ∀ {location : Location} {node : Node}, fs.node? location = some node →
      gs.node? location = some node)
    (found : fs.at? path = .ok node) : gs.at? path = .ok node := by
  rw [at?_eq_ok_iff] at found ⊢
  obtain ⟨location, resolved, present⟩ := found
  refine ⟨location, ?_, kept present⟩
  exact resolveNames_of_retains ⟨here, fun present _ => kept present⟩ resolved
    fun ⟨other, file, isFile⟩ => ⟨other, kept file, isFile⟩

/-- What is read is still read when nothing has been taken away. -/
theorem read_of_kept {content : ByteArray} (here : gs.here = fs.here)
    (kept : ∀ {location : Location} {node : Node}, fs.node? location = some node →
      gs.node? location = some node)
    (read : fs.read path = .ok content) : gs.read path = .ok content := by
  rw [read_eq_ok_iff_at?] at read ⊢
  exact at?_of_kept here kept read

end Paths

end FileSystem

end TypedQueries
