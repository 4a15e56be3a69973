import TypedQueries.Proofs.FileSystem.Rewriting

/-! # While directories are made

The directories on the way to a path are made one after the other (`FileSystem.Makes`), each by
itself. Whatever they come to, everything that was there is there, and where a path that does not
lead up has led, or has led nowhere, it still does (`Makes.at?_eq_ok_iff`): what is new lies on the
way to the path and not at its end, and is in the directory of the path only if that is new itself
(`Makes.node?_eq_of_spot`).
-/

namespace TypedQueries

namespace Path

/-- That a path leads nowhere up. -/
def IsForward (path : Path) : Prop := [dot, dot] ∉ split path.bytes

instance (path : Path) : Decidable path.IsForward := inferInstanceAs (Decidable (_ ∉ _))

/-- That a path goes on from a directory by something that is not the directory itself. -/
def LiesIn (path directory : Path) : Prop :=
  directory.bytes ≠ [] ∧ ∃ further, path.bytes = directory.bytes ++ slash :: further ∧
    ∃ name ∈ split further, ¬ (name = [] ∨ name = [dot])

theorem LiesIn.trans {path directory outer : Path} (lies : path.LiesIn directory)
    (within : directory.LiesIn outer) : path.LiesIn outer := by
  obtain ⟨_, further, isPath, loud⟩ := lies
  obtain ⟨nonempty, between, isDirectory, -⟩ := within
  refine ⟨nonempty, between ++ slash :: further, by simp [isPath, isDirectory], ?_⟩
  obtain ⟨name, member, named⟩ := loud
  rw [split_append_slash]
  exact ⟨name, List.mem_append_right _ member, named⟩

theorem ofNames_cons (name : Name) {names : List Name} (further : names ≠ []) :
    (ofNames (name :: names)).bytes = name ++ slash :: (ofNames names).bytes := by
  obtain ⟨second, rest, rfl⟩ := List.exists_cons_of_ne_nil further
  rfl

theorem ofNames_append {names others : List Name} (nonempty : names ≠ []) (further : others ≠ []) :
    (ofNames (names ++ others)).bytes =
      (ofNames names).bytes ++ slash :: (ofNames others).bytes := by
  induction names with
  | nil => exact absurd rfl nonempty
  | cons name names ih =>
      by_cases single : names = []
      · rw [single]
        exact ofNames_cons name further
      · have further : names ++ others ≠ [] := List.append_ne_nil_of_left_ne_nil single _
        rw [List.cons_append, ofNames_cons _ further, ih single, ofNames_cons _ single,
          List.append_assoc, List.cons_append]

theorem ofNames_split (bytes : List UInt8) : (ofNames (split bytes)).bytes = bytes := by
  induction bytes with
  | nil => rfl
  | cons b bytes ih =>
      rw [split]
      split
      · next same => rw [ofNames_cons _ (split_ne_nil bytes), ih, same, List.nil_append]
      · split
        · next none => exact absurd none (split_ne_nil bytes)
        · next name names parts =>
          rw [parts] at ih
          by_cases single : names = []
          · rw [single] at ih ⊢
            exact congrArg (b :: ·) ih
          · rw [ofNames_cons _ single] at ih ⊢
            exact congrArg (b :: ·) ih

/-- What is left of names when they are trimmed ends in one that says something. -/
theorem exists_of_trimNames (names : List Name) :
    ∃ silent, names = trimNames names ++ silent ∧
      ∀ before name, trimNames names = before ++ [name] → ¬ (name = [] ∨ name = [dot]) := by
  refine ⟨(names.reverse.takeWhile fun name => name = [] || name = [dot]).reverse, ?_, ?_⟩
  · rw [trimNames, ← List.reverse_append, List.takeWhile_append_dropWhile, List.reverse_reverse]
  · intro before name ends
    have first := List.head?_dropWhile_not (fun name => name = [] || name = [dot]) names.reverse
    rw [trimNames, List.reverse_eq_iff, List.reverse_append] at ends
    rw [ends] at first
    simpa using first

/-- A path goes on from the directory it lies in, unless that is the root or nothing. -/
theorem liesIn_of_parent? {path parent : Path} (found : path.parent? = some parent)
    (inside : parent.bytes ≠ []) (below : parent.bytes ≠ [slash]) : path.LiesIn parent := by
  obtain ⟨first, rest, parts⟩ := List.exists_cons_of_ne_nil (split_ne_nil path.bytes)
  obtain ⟨silent, isRest, loud⟩ := exists_of_trimNames rest
  simp only [parent?, parts] at found
  split at found
  · split at found
    · cases found
    · cases found
      exact absurd rfl inside
  next trimmed =>
  obtain ⟨before, last, isTrimmed⟩ := List.eq_nil_or_concat (trimNames rest) |>.resolve_left trimmed
  rw [List.concat_eq_append] at isTrimmed
  obtain ⟨quiet, isBefore, -⟩ := exists_of_trimNames before
  rw [isTrimmed, List.dropLast_concat] at found
  have whole : split path.bytes = (first :: trimNames before) ++ (quiet ++ [last] ++ silent) := by
    rw [parts, isRest, isTrimmed]
    nth_rewrite 1 [isBefore]
    simp
  have isParent : parent.bytes = (ofNames (first :: trimNames before)).bytes := by
    split at found
    · next single =>
      rw [single]
      split at found
      · cases found
        exact absurd rfl below
      · cases found
        rfl
    · cases found
      rfl
  have bytes := ofNames_split path.bytes
  rw [whole, ofNames_append (List.cons_ne_nil _ _) (by simp), ← isParent] at bytes
  refine ⟨inside, _, bytes.symm, last, ?_, loud before last isTrimmed⟩
  have unseparated : ∀ name ∈ quiet ++ [last] ++ silent, slash ∉ name := fun name member =>
    unseparated_of_mem_split (whole ▸ List.mem_append_right _ member)
  rw [split_ofNames (by simp) unseparated]
  simp

/-- The directories that are made on the way to one are this one and those that it lies in. -/
theorem eq_or_liesIn_of_mem_ancestry {depth : Nat} {directory path : Path}
    (member : path ∈ FileSystem.ancestry depth directory) :
    path = directory ∨ directory.LiesIn path := by
  induction depth generalizing directory with
  | zero => cases member
  | succ depth ih =>
      rw [FileSystem.ancestry] at member
      split at member
      · cases member
      next parent found =>
      split at member
      · cases member
      rcases List.mem_cons.mp member with same | outer
      · exact .inl same
      -- Nothing is made on the way to the root, or to nothing.
      have inside : parent.bytes ≠ [] := by
        intro empty
        obtain rfl : parent = ⟨[]⟩ := congrArg Path.mk empty
        cases depth <;> cases outer
      have below : parent.bytes ≠ [slash] := by
        intro root
        obtain rfl : parent = ⟨[slash]⟩ := congrArg Path.mk root
        cases depth <;> cases outer
      have lies := liesIn_of_parent? found inside below
      rcases ih outer with rfl | further
      · exact .inr lies
      · exact .inr (lies.trans further)

end Path

namespace FileSystem

variable {fs gs hs : FileSystem} {paths : List Path} {path directory : Path}
  {location place : Location} {node : Node} {unnamed : SystemFault}

theorem isAbsolute_of_append {further : List UInt8} (inside : directory.bytes ≠ [])
    (bytes : path.bytes = directory.bytes ++ further) :
    path.isAbsolute = directory.isAbsolute := by
  obtain ⟨b, rest, parts⟩ := List.exists_cons_of_ne_nil inside
  rw [Path.isAbsolute, Path.isAbsolute, bytes, parts]
  rfl

theorem isDirectory_of_liesIn (isDirectory : fs.isDirectory path) (lies : path.LiesIn directory) :
    fs.isDirectory directory := by
  obtain ⟨inside, further, bytes, -⟩ := lies
  obtain ⟨location, resolved, -⟩ := isDirectory_iff.mp isDirectory
  rw [resolve, resolveNames_eq_ok_iff, bytes, Path.split_append_slash] at resolved
  obtain ⟨nonempty, short, leads⟩ := resolved
  obtain ⟨first, rest, parts⟩ := List.exists_cons_of_ne_nil (Path.split_ne_nil further)
  rw [parts] at leads
  obtain ⟨left, between, onward, goesOn⟩ := leads.exists_of_append
  have rooted := isAbsolute_of_append inside bytes
  refine isDirectory_iff.mpr ⟨between, ?_, onward.directoryAt_of_cons⟩
  rw [resolve, resolveNames_eq_ok_iff, ← rooted, ← List.append_nil (Path.split directory.bytes)]
  refine ⟨inside, ?_, goesOn [] between .here⟩
  rw [List.length_append] at short
  omega

/-- That directories have been made at some of the paths, one after the other. -/
inductive Makes (paths : List Path) (fs : FileSystem) : FileSystem → Prop
  | start : Makes paths fs fs
  | next {gs hs : FileSystem} {path : Path} (makes : Makes paths fs gs) (member : path ∈ paths)
      (made : gs.makeDirectory path = (.ok (), hs)) : Makes paths fs hs

namespace Makes

theorem growsTo (makes : fs.Makes paths gs) : fs.GrowsTo gs := by
  induction makes with
  | start => exact .refl fs
  | @next gs hs path _ _ made ih =>
      have grows := growsTo_makeDirectory gs path
      rw [made] at grows
      exact ih.trans grows

theorem trans (first : fs.Makes paths gs) (second : gs.Makes paths hs) : fs.Makes paths hs := by
  induction second with
  | start => exact first
  | next _ member made ih => exact .next ih member made

theorem mono {others : List Path} (makes : fs.Makes paths gs) (within : paths ⊆ others) :
    fs.Makes others gs := by
  induction makes with
  | start => exact .start
  | next _ member made ih => exact .next ih (within member) made

theorem ensureDirectory (fs : FileSystem) (member : path ∈ paths) :
    fs.Makes paths (fs.ensureDirectory path).2 := by
  rw [FileSystem.ensureDirectory]
  split
  · next made => exact .next .start member made
  · next fault gs refused =>
    obtain rfl : gs = fs := by
      simp only [makeDirectory] at refused
      repeat' split at refused
      all_goals cases refused
      all_goals rfl
    exact .start

/-- Whether all directories can be made or not, those that are made are some of them. -/
theorem makeAll (fs : FileSystem) (paths : List Path) : fs.Makes paths (fs.makeAll paths).2 := by
  induction paths generalizing fs with
  | nil => exact .start
  | cons path outer ih =>
      have first := ensureDirectory fs (List.mem_cons_self (a := path) (l := outer))
      rw [FileSystem.makeAll]
      split
      · next fault gs made =>
        rw [made] at first
        split
        · have further := first.trans ((ih gs).mono (List.subset_cons_self path outer))
          split
          · next hs made =>
            rw [made] at further
            exact further.trans (ensureDirectory hs List.mem_cons_self)
          · next made => rwa [made] at further
        · exact first
      · next made => rwa [made] at first

/-- Where no directory can be made, none is. -/
theorem eq_of_refused (makes : fs.Makes paths gs)
    (refused : ∀ path ∈ paths, ∃ fault, fs.makeDirectory path = (.error fault, fs)) : gs = fs := by
  induction makes with
  | start => rfl
  | next _ member made ih =>
      obtain ⟨fault, refuses⟩ := refused _ member
      rw [ih, refuses] at made
      cases made

/-- A directory that is there has no directories on its way to be made. -/
theorem eq_of_isDirectory {depth : Nat} (makes : fs.Makes (ancestry depth directory) gs)
    (isDirectory : fs.isDirectory directory) : gs = fs := by
  refine makes.eq_of_refused fun path member => exists_fault_of_isDirectory ?_
  rcases Path.eq_or_liesIn_of_mem_ancestry member with rfl | lies
  · exact isDirectory
  · exact isDirectory_of_liesIn isDirectory lies

/-- What is new is where one of the paths leads. -/
theorem exists_path (makes : fs.Makes paths gs) (present : gs.node? location = some node) :
    fs.node? location = some node ∨
      fs.node? location = none ∧ ∃ path ∈ paths, gs.resolve path = .ok location := by
  induction makes generalizing node with
  | start => exact .inl present
  | @next gs hs path makes member made ih =>
      have grows := growsTo_makeDirectory gs path
      rw [made] at grows
      obtain ⟨new, inside, rfl, absent, leadsTo⟩ := exists_of_makeDirectory made
      by_cases same : location = new
      · rw [same]
        refine .inr ⟨?_, path, member, leadsTo⟩
        cases before : fs.node? new with
        | none => rfl
        | some node => cases absent.symm.trans (makes.growsTo.kept before)
      rw [node?_put_of_ne same] at present
      refine (ih present).imp_right fun ⟨missing, other, isOther, resolved⟩ =>
        ⟨missing, other, isOther, ?_⟩
      refine resolveNames_of_retains grows.retains resolved fun ⟨_, present, isFile⟩ => ?_
      rcases makes.growsTo.made present with earlier | ⟨rfl, -⟩
      · cases missing.symm.trans earlier
      · cases isFile

/-- Below what is new, names that do not lead up lead down, to what is new too. -/
theorem exists_below (makes : fs.Makes paths gs) (sound : fs.Sound) {links : Nat}
    {names : List Name} (absent : fs.node? place = none)
    (leads : gs.Leads links place names location) (forward : [Path.dot, Path.dot] ∉ names) :
    ∃ further, location = place ++ further ∧ fs.node? location = none ∧
      ((∃ name ∈ names, ¬ (name = [] ∨ name = [Path.dot])) → further ≠ []) := by
  have below {place : Location} (absent : fs.node? place = none) (name : Name) :
      fs.node? (place ++ [name]) = none := by
    cases present : fs.node? (place ++ [name]) with
    | none => rfl
    | some node =>
        have directory := sound present
        rw [List.dropLast_concat] at directory
        exact absurd directory (not_directoryAt_of_eq_none absent)
  induction leads with
  | @here links place => exact ⟨[], (List.append_nil place).symm, absent, by simp⟩
  | stay directory silent leads ih =>
      obtain ⟨further, ends, missing, goesOn⟩ := ih absent fun up => forward (.tail _ up)
      refine ⟨further, ends, missing, fun ⟨name, member, loud⟩ => goesOn ⟨name, ?_, loud⟩⟩
      refine (List.mem_cons.mp member).resolve_left ?_
      rintro rfl
      exact loud silent
  | up directory leads ih => exact absurd List.mem_cons_self forward
  | @enter links place location name rest node directory entry present unlinked leads ih =>
      obtain ⟨further, ends, missing, -⟩ := ih (below absent name) fun up => forward (.tail _ up)
      exact ⟨name :: further, by simp [ends], missing, fun _ => List.cons_ne_nil _ _⟩
  | @through links place location name rest target directory entry present leads ih =>
      rcases makes.growsTo.made present with earlier | ⟨is, -⟩
      · cases (below absent name).symm.trans earlier
      · cases is

/-- Names after those of a new directory, none of which leads up, lead further down from there. -/
theorem exists_below_of_append (makes : fs.Makes paths gs) (sound : fs.Sound)
    (lies : path.LiesIn directory) (leadsTo : gs.resolve directory = .ok place)
    (absent : fs.node? place = none) {names : List Name} (forward : [Path.dot, Path.dot] ∉ names)
    (resolved : gs.resolveNames path (Path.split directory.bytes ++ names) = .ok location) :
    ∃ further, location = place ++ further ∧ fs.node? location = none ∧
      ((∃ name ∈ names, ¬ (name = [] ∨ name = [Path.dot])) → further ≠ []) := by
  obtain ⟨inside, rest, bytes, -⟩ := lies
  rw [resolve, resolveNames_eq_ok_iff] at leadsTo
  rw [resolveNames_eq_ok_iff, isAbsolute_of_append inside bytes] at resolved
  obtain ⟨left, between, onward, goesOn⟩ := resolved.2.2.exists_of_append
  have ends := goesOn [] between .here
  rw [List.append_nil] at ends
  obtain rfl := ends.unique leadsTo.2.2
  exact makes.exists_below sound absent onward forward

/-- A path that goes on from a new directory, and not up, leads further down. -/
theorem exists_below_of_liesIn (makes : fs.Makes paths gs) (sound : fs.Sound)
    (forward : path.IsForward) (lies : path.LiesIn directory)
    (leadsTo : gs.resolve directory = .ok place) (absent : fs.node? place = none)
    (resolved : gs.resolve path = .ok location) :
    ∃ further, location = place ++ further ∧ fs.node? location = none ∧ further ≠ [] := by
  have ⟨_, rest, bytes, loud⟩ := lies
  have parts : Path.split path.bytes = Path.split directory.bytes ++ Path.split rest := by
    rw [bytes, Path.split_append_slash]
  rw [Path.IsForward, parts] at forward
  rw [resolve, parts] at resolved
  obtain ⟨further, isLocation, missing, goesOn⟩ := makes.exists_below_of_append sound lies leadsTo
    absent (fun up => forward (List.mem_append_right _ up)) resolved
  exact ⟨further, isLocation, missing, goesOn loud⟩

/-- Where a path leads that does not lead up, it leads whatever directories are made on its way. -/
theorem at?_eq_ok_iff (makes : fs.Makes paths gs) (sound : fs.Sound) (forward : path.IsForward)
    (lies : ∀ directory ∈ paths, path.LiesIn directory) :
    gs.at? path = .ok node ↔ fs.at? path = .ok node := by
  rw [FileSystem.at?_eq_ok_iff, FileSystem.at?_eq_ok_iff]
  have grows := makes.growsTo
  constructor
  · rintro ⟨location, resolved, present⟩
    by_cases new : ∃ place, fs.node? place = none ∧ ∃ directory ∈ paths,
        gs.resolve directory = .ok place
    · -- The end of the path is below something new, and at the same time where a directory was
      -- made on the way there.
      obtain ⟨place, absent, directory, member, leadsTo⟩ := new
      obtain ⟨_, _, missing, -⟩ := makes.exists_below_of_liesIn sound forward
        (lies directory member) leadsTo absent resolved
      rcases makes.exists_path present with earlier | ⟨-, other, isOther, leadsToo⟩
      · cases missing.symm.trans earlier
      · obtain ⟨further, isLocation, -, nonempty⟩ := makes.exists_below_of_liesIn sound forward
          (lies other isOther) leadsToo missing resolved
        exact absurd (List.append_right_eq_self.mp isLocation.symm) nonempty
    · have same {other : Location} {node : Node} (present : gs.node? other = some node) :
          fs.node? other = some node :=
        (makes.exists_path present).resolve_right fun ⟨absent, onWay⟩ => new ⟨other, absent, onWay⟩
      exact ⟨location, resolveNames_of_retains ⟨grows.here.symm, fun present _ => same present⟩
        resolved fun ⟨node, present, isFile⟩ => ⟨node, same present, isFile⟩, same present⟩
  · rintro ⟨location, resolved, present⟩
    exact ⟨location, resolveNames_of_retains grows.retains resolved
      fun ⟨node, present, isFile⟩ => ⟨node, grows.kept present, isFile⟩, grows.kept present⟩

/-- Nothing new is in the directory of a path that does not lead up. -/
theorem node?_eq_of_spot (makes : fs.Makes paths gs) (sound : fs.Sound) (forward : path.IsForward)
    (lies : ∀ directory ∈ paths, path.LiesIn directory) {spot : Spot}
    (found : gs.spot unnamed path = .ok spot) (unslashed : spot.slashed = false) (name : Name) :
    gs.node? (spot.directory ++ [name]) = fs.node? (spot.directory ++ [name]) := by
  cases present : gs.node? (spot.directory ++ [name]) with
  | none =>
      cases earlier : fs.node? (spot.directory ++ [name]) with
      | none => rfl
      | some node => cases present.symm.trans (makes.growsTo.kept earlier)
  | some node =>
      rcases makes.exists_path present with earlier | ⟨absent, directory, member, leadsTo⟩
      · exact earlier.symm
      -- The directory would lie below what is in it.
      obtain ⟨-, before, after, parts, last, -, resolved⟩ := exists_of_spot found
      obtain ⟨inside, rest, bytes, loud⟩ := lies directory member
      obtain ⟨names, final, isRest⟩ :=
        (List.eq_nil_or_concat (Path.split rest)).resolve_left (Path.split_ne_nil rest)
      rw [List.concat_eq_append] at isRest
      have whole := parts
      rw [last unslashed, bytes, Path.split_append_slash, isRest, ← List.append_assoc] at whole
      obtain ⟨rfl, -⟩ := List.append_inj' whole rfl
      have forwardToo : [Path.dot, Path.dot] ∉ names ++ [[]] := by
        refine List.not_mem_append (fun up => forward ?_) (by simp)
        rw [parts]
        exact List.mem_append_left _ (List.mem_append_right _ up)
      rw [List.append_assoc] at resolved
      obtain ⟨further, isDirectory, -, -⟩ := makes.exists_below_of_append sound
        (lies directory member) leadsTo absent forwardToo resolved
      have longer := congrArg List.length isDirectory
      simp at longer

end Makes
end FileSystem
end TypedQueries
