import TypedQueries.Proofs.FileSystem.Landing

/-! # Spellings of a path

Through links, many paths end in one place (`FileSystem.Spells`). If one of them leads to a file,
the others lead to it too (`Spells.exists_resolve`). And a path to a file is not by way of its own
last name, so what is put there in its stead is read at the path (`Replaces.read_of_isFile`).
-/

namespace TypedQueries

namespace FileSystem

variable {fs gs : FileSystem} {path other : Path} {directory location place final : Location}
  {name : Name} {names : List Name} {unnamed : SystemFault} {content : ByteArray} {links more : Nat}

namespace Leads

/-- What can be reached through some links can be reached when more are allowed. -/
theorem mono (leads : fs.Leads links place names final) (fewer : links ≤ more) :
    fs.Leads more place names final := by
  induction leads generalizing more with
  | here => exact .here
  | stay directory silent _ ih => exact .stay directory silent (ih fewer)
  | up directory _ ih => exact .up directory (ih fewer)
  | enter directory entry present unlinked _ ih =>
      exact .enter directory entry present unlinked (ih fewer)
  | through directory entry present _ ih =>
      obtain ⟨more, rfl⟩ := Nat.exists_eq_add_of_lt (Nat.lt_of_lt_of_le (Nat.succ_pos _) fewer)
      exact .through directory entry present (ih (by omega))

/-- Names lead to one location, however many links are allowed. -/
theorem eq (leads : fs.Leads links place names location)
    (again : fs.Leads more place names final) : location = final :=
  (leads.mono (Nat.le_max_left links more)).unique (again.mono (Nat.le_max_right links more))

/-- A name leads to what has this name, or where the link leads that has it. -/
theorem cases_of_entry (entry : name.IsEntry) (leads : fs.Leads links place [name] final) :
    (fs.node? place = some .directory ∧ final = place ++ [name] ∧
      ∃ node, fs.node? final = some node ∧ ∀ target, node ≠ .link target) ∨
    ∃ left target, fs.node? (place ++ [name]) = some (.link target) ∧
      fs.Leads left (if target.isAbsolute then [] else place) (Path.split target.bytes) final := by
  cases leads with
  | stay _ silent =>
      rcases silent with silent | silent
      · exact absurd silent entry.nonempty
      · exact absurd silent entry.not_dot
  | up => exact absurd rfl entry.not_dotDot
  | enter opened _ present unlinked ends =>
      cases ends
      exact .inl ⟨opened, rfl, _, present, unlinked⟩
  | through _ _ present onward =>
      rw [List.append_nil] at onward
      exact .inr ⟨_, _, present, onward⟩

/-- The link in a place that a path ends in is not on the way to its directory, unless it is a way
to a directory. -/
theorem erase_or_exists_directory (sound : fs.Sound) (single : ¬ fs.DirectoryAt location)
    (leads : fs.Leads links place names final)
    (closed : ∀ last, names.getLast? = some last → last = []) :
    (fs.erase location).Leads links place names final ∨
      ∃ left target around name between, location = around ++ [name] ∧
        fs.node? location = some (.link target) ∧
        fs.Leads left (if target.isAbsolute then [] else around) (Path.split target.bytes) between ∧
        fs.DirectoryAt between := by
  have kept {other : Location} (directory : fs.DirectoryAt other) :
      (fs.erase location).node? other = fs.node? other :=
    node?_erase_of_not_directoryAt sound single fun same => single (same ▸ directory)
  have keptToo {other : Location} (directory : fs.DirectoryAt other) :
      (fs.erase location).DirectoryAt other := by
    rw [DirectoryAt, kept directory]
    exact directory
  have rest {first last : Name} {others : List Name} (ends : others.getLast? = some last) :
      (first :: others).getLast? = some last := by
    rw [List.getLast?_cons, ends]
    rfl
  induction leads with
  | here => exact .inl .here
  | @stay links place final name others directory silent leads ih =>
      refine (ih fun last ends => closed last (rest ends)).imp_left fun leads => ?_
      exact .stay (keptToo directory) silent leads
  | @up links place final others directory leads ih =>
      refine (ih fun last ends => closed last (rest ends)).imp_left fun leads => ?_
      exact .up (keptToo directory) leads
  | @enter links place final name others node directory entry present unlinked leads ih =>
      by_cases same : place ++ [name] = location
      · -- A file ends all ways, and this one goes on.
        cases others with
        | nil => exact absurd (closed name rfl) entry.nonempty
        | cons second others => exact absurd (same ▸ leads.directoryAt_of_cons) single
      · refine (ih fun last ends => closed last (rest ends)).imp_left fun leads => ?_
        refine .enter ((kept (.of_directory directory)).trans directory) entry ?_ unlinked leads
        rw [node?_erase_of_not_directoryAt sound single same, present]
  | @through links place final name others target directory entry present leads ih =>
      cases others with
      | nil => exact absurd (closed name rfl) entry.nonempty
      | cons second others =>
          by_cases same : place ++ [name] = location
          · obtain ⟨left, between, onward, goesOn⟩ := leads.exists_of_append
            have ends := goesOn [] between .here
            rw [List.append_nil] at ends
            exact .inr ⟨links, target, place, name, between, same.symm, same ▸ present, ends,
              onward.directoryAt_of_cons⟩
          · refine (ih fun last ends => closed last ?_).imp_left fun leads => ?_
            · rwa [List.getLast?_append_of_ne_nil _ (List.cons_ne_nil _ _)] at ends
            · refine .through ((kept (.of_directory directory)).trans directory) entry ?_ leads
              rw [node?_erase_of_not_directoryAt sound single same, present]

end Leads

/-- Where a path leads is a name on from the directory that it ends in. -/
theorem exists_leads_of_spot (found : fs.spot unnamed path = .ok ⟨directory, name, false⟩)
    (resolved : fs.resolve path = .ok location) :
    ∃ left, fs.Leads left directory [name] location := by
  obtain ⟨entry, before, parts, isDirectory⟩ := spot_eq_ok_iff.mp found
  rw [resolve, parts] at resolved
  obtain ⟨-, -, leads⟩ := resolveNames_eq_ok_iff.mp resolved
  obtain ⟨left, between, onward, goesOn⟩ := leads.exists_of_append
  have ends := goesOn [[]] between (.stay onward.directoryAt_of_cons (.inl rfl) .here)
  obtain rfl := ends.unique (resolveNames_eq_ok_iff.mp isDirectory).2.2
  exact ⟨left, onward⟩

/-- That two paths end in the same name in the same directory, wherever links have led them. A link
that has this name is not one too many on the way of the second. -/
def Spells (fs : FileSystem) (path other : Path) : Prop :=
  ∃ directory name, fs.spot .busy path = .ok ⟨directory, name, false⟩ ∧
    fs.spot .busy other = .ok ⟨directory, name, false⟩ ∧
    ((∀ target, fs.node? (directory ++ [name]) ≠ some (.link target)) ∨ fs.pathExists other)

theorem pathExists_iff_exists : fs.pathExists path ↔ ∃ node, fs.at? path = .ok node := by
  rw [pathExists]
  cases fs.at? path <;> simp [Except.toBool]

theorem isFile_of_at? (isFile : fs.isFile path)
    (kept : ∀ node, fs.at? path = .ok node → gs.at? path = .ok node) : gs.isFile path := by
  rw [isFile_iff_at?] at isFile ⊢
  obtain ⟨node, there, isFile⟩ := isFile
  exact ⟨node, kept _ there, isFile⟩

namespace Spells

/-- Where a path leads somewhere its spellings do. -/
theorem pathExists (spells : fs.Spells path other) (leadsTo : fs.pathExists path) :
    fs.pathExists other := by
  obtain ⟨directory, name, found, foundToo, unlinked | leadsToo⟩ := spells
  · obtain ⟨node, there⟩ := pathExists_iff_exists.mp leadsTo
    obtain ⟨location, resolved, -⟩ := at?_eq_ok_iff.mp there
    obtain ⟨_, onward⟩ := exists_leads_of_spot found resolved
    rcases onward.cases_of_entry (spot_eq_ok_iff.mp found).1 with
      ⟨opened, rfl, node, present, single⟩ | ⟨_, target, isLink, -⟩
    · exact pathExists_iff_exists.mpr ⟨node, at?_eq_ok_iff.mpr
        ⟨_, resolve_of_spot foundToo opened present single, present⟩⟩
    · exact absurd isLink (unlinked target)
  · exact leadsToo

/-- A path that leads to a file leads where its other spellings lead. -/
theorem exists_resolve (spells : fs.Spells path other) (isFile : fs.isFile path) :
    ∃ location, fs.resolve path = .ok location ∧ fs.resolve other = .ok location := by
  obtain ⟨location, resolved, node, present, -⟩ := isFile_iff.mp isFile
  have leadsTo := pathExists_iff_exists.mpr ⟨node, at?_eq_ok_iff.mpr ⟨location, resolved, present⟩⟩
  obtain ⟨_, there⟩ := pathExists_iff_exists.mp (spells.pathExists leadsTo)
  obtain ⟨final, resolvedToo, -⟩ := at?_eq_ok_iff.mp there
  obtain ⟨directory, name, found, foundToo, -⟩ := spells
  obtain ⟨_, onward⟩ := exists_leads_of_spot found resolved
  obtain ⟨_, onwardToo⟩ := exists_leads_of_spot foundToo resolvedToo
  exact ⟨location, resolved, onward.eq onwardToo ▸ resolvedToo⟩

end Spells

namespace Replaces

variable {spot : Spot}

/-- In the place of a file that a path leads to, the new content is read at the path. -/
theorem read_of_isFile (replaces : fs.Replaces path spot content gs) (sound : fs.Sound)
    (isFile : fs.isFile path) : gs.read path = .ok content := by
  obtain ⟨directory, name, slashed⟩ := spot
  obtain rfl : slashed = false := replaces.unslashed
  obtain ⟨entry, before, parts, resolved⟩ := spot_eq_ok_iff.mp replaces.spot
  obtain ⟨nonempty, short, leads⟩ := resolveNames_eq_ok_iff.mp resolved
  rw [replaces.read_eq_ok_iff sound, spot_eq_ok_iff]
  refine ⟨entry, before, parts, resolveNames_eq_ok_iff.mpr ⟨nonempty, short, ?_⟩⟩
  refine (leads.erase_or_exists_directory sound replaces.unobstructed (by simp)).resolve_right ?_
  rintro ⟨left, target, around, last, between, isPlace, isLink, toDirectory, isDirectory⟩
  obtain ⟨rfl, same⟩ := List.append_inj' isPlace rfl
  obtain rfl : name = last := by simpa using same
  -- The path leads through the link in its place to the directory it leads to.
  obtain ⟨location, leadsTo, file⟩ := isFile_iff.mp isFile
  obtain ⟨_, onward⟩ := exists_leads_of_spot replaces.spot leadsTo
  rcases onward.cases_of_entry entry with ⟨-, rfl, node, present, unlinked⟩ | ⟨_, _, isToo, toFile⟩
  · exact unlinked target (Option.some.inj (present.symm.trans isLink))
  · cases isToo.symm.trans isLink
    obtain rfl := toFile.eq toDirectory
    exact isDirectory.not_fileAt file

end Replaces

end FileSystem

end TypedQueries
