import TypedQueries.Proofs.Simulation.Service
import TypedQueries.Syntax.Parse

/-! # The file of the module

Whatever fails in a run, the module is written whole or the files stay as they are
(`generate_whole_or_not_at_all`): nothing before the last step of writing touches a file that was
there, and nothing after it can fail.
-/

namespace TypedQueries

namespace Generation

section Files

variable {root : Path} {settings : Settings} {observers : Nat} {fs gs : FileSystem}
  {exchanges : List (Exchange RunInterface)}

/-- A run that succeeds has put the module of what was described in its place. -/
theorem replaces_of_runs_ok [Grammars] {report : Report} (sound : fs.Sound)
    (runs : (generate root settings observers).Runs exchanges (.ok report))
    (serves : fs.Serves exchanges gs) :
    ∃ descriptions place, descriptions.entries = describedIn exchanges ∧
      (fs.makeDirectories (Output.directory (settings.outputPath root))).2.Replaces
        (settings.outputPath root) place
        (synthesize descriptions .builtin settings.moduleOptions).module.toUTF8 gs := by
  obtain ⟨actions, course, same, leads⟩ := exists_course_of_runs runs serves
  obtain ⟨before, scanning, between, writing, after, sources, descriptions, rfl, quiet, calm, still,
    scan, complete, described, write⟩ := course.exists_of_ok
  obtain ⟨written, toWriting, ends⟩ := leads.exists_of_append
  obtain ⟨begun, begins, writes⟩ := toWriting.exists_of_append
  obtain rfl := ends.eq_of_changes_eq_nil still
  obtain rfl := begins.eq_of_changes_eq_nil (by
    rw [changes_append, changes_append, quiet, scan.changes_eq, calm]
    rfl)
  obtain ⟨place, replaces⟩ := write.replaces writes sound
  exact ⟨descriptions, place, (same.trans described).symm, replaces⟩

end Files

end Generation

end TypedQueries
