import Mathlib.Data.List.Nodup
import Mathlib.Data.List.Perm.Subperm
import TypedQueries.Proofs.FileSystem.Temporary

/-! # Names for temporary files

Temporary files are numbered, and different numbers make different names
(`temporaryName_injective`). There are more numbers to choose from than there are files, so one is
free in every directory (`chooses_freshName`).
-/

namespace TypedQueries

namespace FileSystem

theorem ofDigitChars_sixDigits (n : Nat) : Nat.ofDigitChars 10 (sixDigits n) 0 = n := by
  rw [sixDigits, Nat.ofDigitChars_append, Nat.ofDigitChars_replicate_zero, Nat.mul_zero,
    Nat.ofDigitChars_ten_toDigits]

theorem isDigit_of_mem_sixDigits {n : Nat} {c : Char} (member : c ∈ sixDigits n) : c.isDigit := by
  rcases List.mem_append.mp member with padding | digit
  · rw [List.eq_of_mem_replicate padding]
    rfl
  · exact Nat.isDigit_of_mem_toDigits (by decide) (by decide) digit

theorem temporaryMark_eq : temporaryMark = [0x2e, 0x74, 0x6d, 0x70] := by decide +kernel

theorem toNat_bounds_of_isDigit {c : Char} (digit : c.isDigit) : 48 ≤ c.toNat ∧ c.toNat ≤ 57 := by
  simpa [Char.isDigit, UInt32.le_iff_toNat_le] using digit

theorem toNat_toUInt8_of_isDigit {c : Char} (digit : c.isDigit) :
    c.toNat.toUInt8.toNat = c.toNat :=
  UInt8.toNat_ofNat_of_lt' (Nat.lt_of_le_of_lt (toNat_bounds_of_isDigit digit).2 (by decide))

theorem temporaryName_injective : Function.Injective temporaryName := by
  intro m n same
  have readBack (n : Nat) : ((sixDigits n).map fun digit => digit.toNat.toUInt8).map
      (fun byte => Char.ofNat byte.toNat) = sixDigits n := by
    rw [List.map_map]
    refine (List.map_congr_left fun c member => ?_).trans (List.map_id _)
    rw [Function.comp_apply, toNat_toUInt8_of_isDigit (isDigit_of_mem_sixDigits member),
      Char.ofNat_toNat, id_eq]
  have digits : sixDigits m = sixDigits n := by
    rw [← readBack m, ← readBack n, List.append_cancel_left same]
  rw [← ofDigitChars_sixDigits m, ← ofDigitChars_sixDigits n, digits]

theorem isTemporary_temporaryName (n : Nat) : (temporaryName n).IsTemporary := by
  refine ⟨List.prefix_append _ _, ?_, ?_, ?_, ?_⟩
  · simp [temporaryName, temporaryMark_eq]
  · simp [temporaryName, temporaryMark_eq]
  · simp [temporaryName, temporaryMark_eq, Path.dot]
  · intro member
    rcases List.mem_append.mp member with marked | numbered
    · rw [temporaryMark_eq] at marked
      exact absurd marked (by decide)
    · obtain ⟨c, member, same⟩ := List.mem_map.mp numbered
      have digit := isDigit_of_mem_sixDigits member
      have bounds := toNat_bounds_of_isDigit digit
      have slash := congrArg UInt8.toNat same
      rw [toNat_toUInt8_of_isDigit digit] at slash
      change c.toNat = 47 at slash
      omega

/-- Some number is free, since there are only so many files. -/
theorem exists_free_number (fs : FileSystem) (directory : Location) :
    ∃ n ∈ List.range (fs.nodes.length + 1),
      fs.node? (directory ++ [temporaryName n]) = none := by
  by_contra full
  have taken (n : Nat) (inRange : n ∈ List.range (fs.nodes.length + 1)) :
      fs.node? (directory ++ [temporaryName n]) ≠ none :=
    fun free => full ⟨n, inRange, free⟩
  have named : (List.range (fs.nodes.length + 1)).map (fun n => directory ++ [temporaryName n]) ⊆
      fs.nodes.map Prod.fst := by
    intro location member
    obtain ⟨n, inRange, rfl⟩ := List.mem_map.mp member
    obtain ⟨node, present⟩ := Option.ne_none_iff_exists'.mp (taken n inRange)
    rw [node?_of_ne_nil _ (by simp)] at present
    obtain ⟨before, after, parts, -⟩ := List.lookup_eq_some_iff.mp present
    rw [parts, List.map_append, List.map_cons]
    exact List.mem_append_right _ List.mem_cons_self
  have distinct : ((List.range (fs.nodes.length + 1)).map
      fun n => directory ++ [temporaryName n]).Nodup := by
    refine List.nodup_range.map fun m n same => temporaryName_injective ?_
    simpa using same
  have fewer := (List.subperm_of_subset distinct named).length_le
  rw [List.length_map, List.length_map, List.length_range] at fewer
  omega

theorem chooses_freshName (fs : FileSystem) : fs.Chooses fs.freshName := by
  refine fun directory => ⟨isTemporary_temporaryName _, ?_⟩
  obtain ⟨n, inRange, free⟩ := exists_free_number fs directory
  rw [freshName]
  cases found : (List.range (fs.nodes.length + 1)).find? fun n =>
      (fs.node? (directory ++ [temporaryName n])).isNone with
  | none => exact absurd (List.find?_eq_none.mp found n inRange) (by simp [free])
  | some number => simpa using List.find?_some found

end FileSystem

end TypedQueries
