import TypedQueries.Proofs.FileSystem.Plain

/-! # Where paths lead without links

Without links the components of a path alone say where it leads, if it leads anywhere
(`Path.landing`, `FileSystem.Plain.resolve_eq_landing`): paths with the same components lead to the
same place. Names below a directory lead to what is there unless the path is too long
(`FileSystem.Plain.resolve_foldl_child`).
-/

namespace TypedQueries

namespace Path

/-- Where a component leads from a location. -/
def Component.step (place : Location) : Component → Location
  | .root => []
  | .current => place
  | .parent => place.dropLast
  | .normal name => place ++ [name]

/-- Where a path leads if there are no links on its way. -/
def landing (here : Location) (path : Path) : Location := path.components.foldl Component.step here

theorem landing_of_same {here : Location} {path other : Path} (same : path.same other) :
    path.landing here = other.landing here := by
  rw [landing, landing, beq_iff_eq.mp same]

theorem landing_eq_foldl_split (here : Location) (path : Path) :
    path.landing here = ((split path.bytes).filterMap component?).foldl Component.step
      (if path.isAbsolute then [] else here) := by
  rw [landing, components, List.foldl_append]
  split
  · rfl
  · split <;> rfl

theorem landing_foldl_child (here : Location) (directory : Path) {names : List Name}
    (proper : ∀ name ∈ names, name.IsProper) :
    (names.foldl child directory).landing here = directory.landing here ++ names := by
  rw [landing, components_foldl_child proper, List.foldl_append, ← landing]
  generalize directory.landing here = place
  induction names generalizing place with
  | nil => exact (List.append_nil place).symm
  | cons name names ih =>
      rw [List.map_cons, List.foldl_cons, ih (List.forall_mem_cons.mp proper).2, Component.step,
        List.append_assoc]
      rfl

theorem split_ofNames {names : List Name} (nonempty : names ≠ [])
    (unseparated : ∀ name ∈ names, slash ∉ name) : split (ofNames names).bytes = names := by
  induction names with
  | nil => exact absurd rfl nonempty
  | cons name names ih =>
      obtain ⟨first, rest⟩ := List.forall_mem_cons.mp unseparated
      cases names with
      | nil => exact split_of_unseparated first
      | cons second names =>
          rw [ofNames, split_append_slash, split_of_unseparated first,
            ih (List.cons_ne_nil _ _) rest]
          · rfl
          · exact List.cons_ne_nil _ _

theorem components_pathOf {location : Location} (proper : ∀ name ∈ location, name.IsProper) :
    (FileSystem.pathOf location).components = .root :: location.map .normal := by
  cases location with
  | nil => rfl
  | cons name names =>
      have whole : FileSystem.pathOf (name :: names) =
          ⟨slash :: (ofNames (name :: names)).bytes⟩ := rfl
      rw [whole, components_slash, split_ofNames (List.cons_ne_nil name names) fun name member =>
        (proper name member).unseparated, ← List.filterMap_eq_map]
      exact congrArg _ (List.filterMap_congr fun name member =>
        component?_of_isProper (proper name member))

theorem landing_pathOf {here location : Location} (proper : ∀ name ∈ location, name.IsProper) :
    (FileSystem.pathOf location).landing here = location := by
  rw [landing, components_pathOf proper, List.foldl_cons, Component.step]
  suffices walked : ∀ place : Location,
      (location.map Component.normal).foldl Component.step place = place ++ location from walked []
  intro place
  have named := landing_foldl_child place ⟨[]⟩ proper
  rwa [landing, components_foldl_child proper] at named

theorem component?_of_isEntry {name : Name} (entry : name.IsEntry) :
    component? name = some (.normal name) := by
  simp [component?, entry.nonempty, entry.not_dot, entry.not_dotDot]

theorem component?_of_silent {name : Name} (silent : name = [] ∨ name = [dot]) :
    component? name = none := by
  rw [component?, if_pos (by simpa using silent)]

theorem isAbsolute_of_components {path : Path} {rest : List Component}
    (rooted : path.components = .root :: rest) : path.isAbsolute := by
  by_contra relative
  have notRoot : .root ∉ path.components := by
    rw [components, if_neg relative]
    refine List.not_mem_append ?_ fun member => ?_
    · split <;> simp
    · obtain ⟨name, -, is⟩ := List.mem_filterMap.mp member
      simp only [component?] at is
      split at is
      · cases is
      · split at is <;> cases is
  exact notRoot (by rw [rooted]; exact List.mem_cons_self)

end Path

namespace FileSystem

variable {fs gs : FileSystem} {path : Path} {location place : Location}

namespace Plain

theorem eq_foldl_of_leads (plain : fs.Plain) {links : Nat} {names : List Name}
    (leads : fs.Leads links place names location) :
    location = (names.filterMap Path.component?).foldl Path.Component.step place := by
  induction leads with
  | here => rfl
  | stay directory silent leads ih =>
      rwa [List.filterMap_cons_none (Path.component?_of_silent silent)]
  | up directory leads ih => exact ih
  | enter directory entry present unlinked leads ih =>
      rwa [List.filterMap_cons_some (Path.component?_of_isEntry entry)]
  | through directory entry present leads ih => exact absurd present (plain.ne_link _)

/-- Where a path leads is said by its components. -/
theorem resolve_eq_landing (plain : fs.Plain) (resolved : fs.resolve path = .ok location) :
    location = path.landing fs.here := by
  rw [Path.landing_eq_foldl_split]
  exact plain.eq_foldl_of_leads (resolveNames_eq_ok_iff.mp resolved).2.2

theorem location_eq_landing (plain : fs.Plain) {unnamed : SystemFault} {spot : Spot}
    (found : fs.spot unnamed path = .ok spot) (unslashed : spot.slashed = false) :
    spot.location = path.landing fs.here := by
  obtain ⟨entry, before, after, parts, last, -, resolved⟩ := exists_of_spot found
  have leads := (resolveNames_eq_ok_iff.mp resolved).2.2.of_append_silent
  rw [Path.landing_eq_foldl_split, parts, last unslashed, List.filterMap_append,
    List.foldl_append, ← plain.eq_foldl_of_leads leads,
    List.filterMap_cons_some (Path.component?_of_isEntry entry)]
  rfl

/-- A path that ends where something is leads to it. -/
theorem resolve_of_spot (plain : fs.Plain) {unnamed : SystemFault} {spot : Spot}
    (found : fs.spot unnamed path = .ok spot) (unslashed : spot.slashed = false) {node : Node}
    (present : fs.node? spot.location = some node) : fs.resolve path = .ok spot.location := by
  obtain ⟨around, name, slashed⟩ := spot
  obtain rfl : slashed = false := unslashed
  have opened : fs.node? around = some .directory := by
    simpa [Spot.location] using plain.opened (by simp [Spot.location]) present
  exact FileSystem.resolve_of_spot found opened present
    fun target isLink => plain.ne_link target (isLink ▸ present)

theorem pathExists_iff (plain : fs.Plain) :
    fs.pathExists path ↔ fs.resolve path = .ok (path.landing fs.here) := by
  rw [pathExists, at?]
  cases resolved : fs.resolve path with
  | error fault => simp [Except.bind, Except.toBool]
  | ok location =>
      obtain ⟨node, present⟩ :=
        Option.isSome_iff_exists.mp (plain.treelike.isSome_of_resolve resolved)
      rw [← plain.resolve_eq_landing resolved]
      simp [Except.bind, present, Except.toBool]

/-- What lies on the way to something is an open directory. -/
theorem opened_of_isSome (plain : fs.Plain) {name : Name} {rest : List Name}
    (present : (fs.node? (place ++ name :: rest)).isSome) :
    fs.node? place = some .directory ∧ (fs.node? (place ++ [name])).isSome := by
  obtain ⟨node, is⟩ := Option.isSome_iff_exists.mp present
  have further : ∃ node, fs.node? (place ++ [name]) = some node := by
    by_cases last : rest = []
    · exact ⟨node, last ▸ is⟩
    · have within : place ++ [name] <+: place ++ name :: rest := ⟨rest, by simp⟩
      have differs : place ++ [name] ≠ place ++ name :: rest := by simpa using Ne.symm last
      obtain ⟨around, found, -⟩ := Sound.directoryAt_of_within plain.sound is within differs
      exact ⟨around, found⟩
  obtain ⟨node, is⟩ := further
  refine ⟨?_, by rw [is]; rfl⟩
  simpa using plain.opened (by simp) is

/-- Names that say the way to something lead there. -/
theorem leads_of_filterMap (plain : fs.Plain) (place : Location) {names : List Name}
    {rest : Location}
    (parts : names.filterMap Path.component? = rest.map .normal)
    (directory : fs.DirectoryAt (place ++ rest)) (links : Nat) :
    fs.Leads links place names (place ++ rest) := by
  induction names generalizing place rest with
  | nil =>
      obtain rfl := List.map_eq_nil_iff.mp parts.symm
      rw [List.append_nil]
      exact .here
  | cons name names ih =>
      have present := directory.isSome
      have around : fs.DirectoryAt place := by
        cases rest with
        | nil => rwa [List.append_nil] at directory
        | cons name rest => exact .of_directory (plain.opened_of_isSome present).1
      by_cases silent : name = [] ∨ name = [Path.dot]
      · rw [List.filterMap_cons_none (Path.component?_of_silent silent)] at parts
        exact .stay around silent (ih place parts directory)
      obtain ⟨nonempty, not_dot⟩ := not_or.mp silent
      by_cases up : name = [Path.dot, Path.dot]
      · rw [List.filterMap_cons_some (show Path.component? name = some .parent by
          rw [up]; rfl)] at parts
        cases rest <;> cases parts
      · have isNormal : Path.component? name = some (.normal name) := by
          simp [Path.component?, nonempty, not_dot, up]
        rw [List.filterMap_cons_some isNormal] at parts
        cases rest with
        | nil => cases parts
        | cons first rest =>
            obtain ⟨same, others⟩ := List.cons.inj parts
            obtain rfl := Path.Component.normal.inj same
            obtain ⟨opened, further⟩ := plain.opened_of_isSome present
            obtain ⟨node, is⟩ := Option.isSome_iff_exists.mp further
            have short := (plain.proper is name (by simp)).2
            refine .enter opened ⟨nonempty, not_dot, up, short⟩ is ?_ ?_
            · rintro target rfl
              exact plain.ne_link _ is
            · rw [List.append_cons place name rest] at directory ⊢
              exact ih (place ++ [name]) others directory

/-- A path that says the way to something leads there, unless it is too long. -/
theorem resolve_of_same (plain : fs.Plain) {name : Name} {before : List Name}
    (same : path.same (pathOf (location ++ [name])))
    (parts : Path.split path.bytes = before ++ [name]) (short : path.bytes.length < pathLimit)
    (present : (fs.node? (location ++ [name])).isSome) :
    fs.resolve path = .ok (location ++ [name]) := by
  obtain ⟨node, is⟩ := Option.isSome_iff_exists.mp present
  have named := plain.proper is
  have components : path.components = .root :: (location ++ [name]).map .normal :=
    (beq_iff_eq.mp same).trans (Path.components_pathOf fun name member => (named name member).1)
  obtain ⟨proper, nameShort⟩ := named name (by simp)
  have entry : name.IsEntry := ⟨proper.nonempty, proper.not_dot, proper.not_dotDot, nameShort⟩
  have opened : fs.node? location = some .directory := by simpa using plain.opened (by simp) is
  have absolute : path.isAbsolute := Path.isAbsolute_of_components components
  have around : before.filterMap Path.component? = location.map .normal := by
    rw [Path.components, if_pos absolute, parts, List.filterMap_append,
      List.filterMap_cons_some (Path.component?_of_isEntry entry), List.map_append] at components
    exact List.append_cancel_right (List.cons.inj components).2
  have leads : fs.Leads linkLimit [] before location :=
    plain.leads_of_filterMap [] around (.of_directory opened) linkLimit
  have nonempty : path.bytes ≠ [] := by
    intro empty
    rw [Path.isAbsolute, empty] at absolute
    cases absolute
  have resolved : fs.resolveNames path (before ++ [[]]) = .ok location := by
    rw [resolveNames_eq_ok_iff, if_pos absolute]
    exact ⟨nonempty, short, leads.append_silent (.of_directory opened)⟩
  have found : fs.spot .busy path = .ok ⟨location, name, false⟩ :=
    spot_eq_ok_iff.mpr ⟨entry, before, parts, resolved⟩
  exact plain.resolve_of_spot found rfl is

section Below

variable {root : Path}

/-- Names below a directory lead to what is there, unless their path is too long. -/
theorem resolve_foldl_child (plain : fs.Plain) (names : List Name)
    (resolved : fs.resolve root = .ok location)
    (present : (fs.node? (location ++ names)).isSome)
    (short : (names.foldl Path.child root).bytes.length < pathLimit) :
    fs.resolve (names.foldl Path.child root) = .ok (location ++ names) := by
  obtain ⟨node, is⟩ := Option.isSome_iff_exists.mp present
  exact plain.treelike.resolve_foldl_child names resolved is
    (fun target isLink => plain.ne_link target (isLink ▸ is)) short

theorem isFile_child_iff (plain : fs.Plain) (resolved : fs.resolve root = .ok location)
    {name : Name} (proper : name.IsProper) :
    fs.isFile (root.child name) ↔ fs.resolve (root.child name) = .ok (location ++ [name]) ∧
      fs.FileAt (location ++ [name]) := by
  have lands : (root.child name).landing fs.here = location ++ [name] := by
    have named := Path.landing_foldl_child fs.here root
      (List.forall_mem_singleton.mpr proper)
    rwa [← plain.resolve_eq_landing resolved] at named
  rw [isFile_iff]
  constructor
  · rintro ⟨found, leads, file⟩
    obtain rfl : found = location ++ [name] := (plain.resolve_eq_landing leads).trans lands
    exact ⟨leads, file⟩
  · rintro ⟨leads, file⟩
    exact ⟨_, leads, file⟩

end Below

end Plain

end FileSystem

end TypedQueries
