import TypedQueries.Postgres.Text

/-! # What is not shown of an address

A text in which a scheme, a user, a password and a host stand between the marks of an address is
shown without the password, every other text as it is. So two texts are shown alike exactly if
they are equal or differ in that part only (`redact_eq_iff`).
-/

namespace TypedQueries

namespace Postgres

/-- The parts of an address around its password, and the password. -/
structure AddressParts where
  scheme : List Char
  user : List Char
  password : List Char
  host : List Char
deriving DecidableEq, Repr

namespace AddressParts

/-- The address of some parts. -/
def text (parts : AddressParts) : List Char :=
  parts.scheme ++ "://".toList ++ (parts.user ++ [':'] ++ parts.password ++ ['@'] ++ parts.host)

/-- The parts with another password. -/
def withPassword (parts : AddressParts) (password : List Char) : AddressParts :=
  { parts with password }

/-- The parts of a text, each up to the first occurrence of the mark that ends it. -/
def of? (text : List Char) : Option AddressParts := do
  let (scheme, rest) ← splitAtFirst? "://".toList text
  let (credentials, host) ← splitAtFirst? ['@'] rest
  let (user, password) ← splitAtFirst? [':'] credentials
  return { scheme, user, password, host }

end AddressParts

/-- What is shown in the place of a password. -/
def mask : List Char := "***".toList

theorem redact_eq (url : String) :
    redact url =
      match AddressParts.of? url.toList with
      | none => url
      | some parts => String.ofList (parts.withPassword mask).text := by
  rw [redact, AddressParts.of?]
  cases splitAtFirst? "://".toList url.toList with
  | none => rfl
  | some outer =>
      dsimp only [Option.bind_eq_bind, Option.bind_some]
      cases splitAtFirst? ['@'] outer.2 with
      | none => rfl
      | some inner =>
          dsimp only [Option.bind_some]
          cases splitAtFirst? [':'] inner.1 with
          | none => rfl
          | some credentials =>
              simp [AddressParts.text, AddressParts.withPassword, mask]

/-! ## Splitting at the first occurrence of a mark -/

variable {mark before after text : List Char}

/-- A text is split after its first character where no mark begins with that. -/
theorem splitAtFirst?_cons_iff {c d : Char} :
    splitAtFirst? mark (c :: text) = some (d :: before, after) ↔
      ¬ mark <+: c :: text ∧ c = d ∧ splitAtFirst? mark text = some (before, after) := by
  rw [splitAtFirst?]
  split
  · next begins => simp [List.isPrefixOf_iff_prefix.mp begins]
  · next absent =>
      rw [List.isPrefixOf_iff_prefix] at absent
      rw [Option.map_eq_some_iff]
      constructor
      · rintro ⟨⟨earlier, later⟩, found, same⟩
        obtain ⟨first, rfl⟩ := Prod.mk.inj same
        obtain ⟨rfl, rfl⟩ := List.cons.inj first
        exact ⟨absent, rfl, found⟩
      · rintro ⟨-, rfl, found⟩
        exact ⟨(before, after), found, rfl⟩

theorem splitAtFirst?_sound (found : splitAtFirst? mark text = some (before, after)) :
    text = before ++ mark ++ after := by
  induction text generalizing before with
  | nil =>
      rw [splitAtFirst?] at found
      split at found
      · next empty =>
          cases found
          rw [List.isEmpty_iff.mp empty]
          rfl
      · cases found
  | cons c rest ih =>
      cases before with
      | nil =>
          rw [splitAtFirst?] at found
          split at found
          · next begins =>
              cases found
              obtain ⟨later, whole⟩ := List.isPrefixOf_iff_prefix.mp begins
              rw [← whole, List.drop_left]
              rfl
          · obtain ⟨parts, -, same⟩ := Option.map_eq_some_iff.mp found
            cases (Prod.mk.inj same).1
      | cons d before =>
          obtain ⟨-, rfl, inRest⟩ := splitAtFirst?_cons_iff.mp found
          rw [ih inRest, List.cons_append, List.cons_append]

theorem splitAtFirst?_mark (mark later : List Char) :
    splitAtFirst? mark (mark ++ later) = some ([], later) := by
  cases mark with
  | nil => cases later <;> rfl
  | cons c mark =>
      rw [List.cons_append, splitAtFirst?, ← List.cons_append,
        if_pos (List.isPrefixOf_iff_prefix.mpr (List.prefix_append _ _)), List.drop_left]

/-- Where a mark first occurs does not hang on what comes after it. -/
theorem splitAtFirst?_append
    (found : splitAtFirst? mark (before ++ mark ++ after) = some (before, after))
    (later : List Char) :
    splitAtFirst? mark (before ++ mark ++ later) = some (before, later) := by
  induction before with
  | nil => exact splitAtFirst?_mark mark later
  | cons c before ih =>
      simp only [List.cons_append] at found ⊢
      obtain ⟨absent, -, inRest⟩ := splitAtFirst?_cons_iff.mp found
      refine splitAtFirst?_cons_iff.mpr ⟨fun begins => absent ?_, rfl, ih inRest⟩
      have within : mark <+: c :: (before ++ mark) :=
        List.prefix_of_prefix_length_le begins ⟨later, rfl⟩ (by simp; omega)
      exact within.trans ⟨after, rfl⟩

/-- A character that does not occur earlier is where a text is split. -/
theorem splitAtFirst?_of_not_mem {c : Char} (absent : c ∉ before) (after : List Char) :
    splitAtFirst? [c] (before ++ [c] ++ after) = some (before, after) := by
  induction before with
  | nil => exact splitAtFirst?_mark [c] after
  | cons d before ih =>
      rw [List.mem_cons, not_or] at absent
      simp only [List.cons_append]
      refine splitAtFirst?_cons_iff.mpr ⟨fun begins => absent.1 ?_, rfl, ih absent.2⟩
      exact (List.cons_prefix_cons.mp begins).1

theorem splitAtFirst?_eq_none {c : Char} (absent : c ∉ text) : splitAtFirst? [c] text = none := by
  cases found : splitAtFirst? [c] text with
  | none => rfl
  | some parts =>
      obtain rfl := splitAtFirst?_sound found
      exact absurd (List.mem_append_left _ (List.mem_append_right _ List.mem_cons_self)) absent

/-- The character a text is split at does not occur before. -/
theorem not_mem_of_splitAtFirst? {c : Char}
    (found : splitAtFirst? [c] text = some (before, after)) : c ∉ before := by
  induction before generalizing text with
  | nil => exact List.not_mem_nil
  | cons d before ih =>
      cases text with
      | nil => cases found
      | cons e text =>
          obtain ⟨notHere, rfl, inRest⟩ := splitAtFirst?_cons_iff.mp found
          rw [List.mem_cons, not_or]
          refine ⟨fun same => notHere ?_, ih inRest⟩
          exact List.cons_prefix_cons.mpr ⟨same, List.nil_prefix⟩

/-! ## The parts of an address -/

namespace AddressParts

variable {text : List Char} {parts : AddressParts}

theorem of?_eq_some_iff :
    of? text = some parts ↔
      ∃ rest credentials, splitAtFirst? "://".toList text = some (parts.scheme, rest) ∧
        splitAtFirst? ['@'] rest = some (credentials, parts.host) ∧
        splitAtFirst? [':'] credentials = some (parts.user, parts.password) := by
  rw [of?]
  simp only [Option.bind_eq_bind, Option.bind_eq_some_iff, Prod.exists]
  constructor
  · rintro ⟨_, rest, outer, credentials, _, inner, _, _, first, same⟩
    cases same
    exact ⟨rest, credentials, outer, inner, first⟩
  · rintro ⟨rest, credentials, outer, inner, first⟩
    exact ⟨_, rest, outer, credentials, _, inner, _, _, first, rfl⟩

/-- The parts stay where they are when another password is put in. -/
theorem of?_withPassword (found : of? text = some parts) {password : List Char}
    (plain : '@' ∉ password) :
    of? (parts.withPassword password).text = some (parts.withPassword password) := by
  obtain ⟨rest, credentials, outer, inner, first⟩ := of?_eq_some_iff.mp found
  have user := not_mem_of_splitAtFirst? first
  have noAt := not_mem_of_splitAtFirst? inner
  rw [splitAtFirst?_sound first, List.mem_append, List.mem_append] at noAt
  refine of?_eq_some_iff.mpr
    ⟨parts.user ++ [':'] ++ password ++ ['@'] ++ parts.host, parts.user ++ [':'] ++ password, ?_,
      splitAtFirst?_of_not_mem ?_ parts.host, splitAtFirst?_of_not_mem user password⟩
  · rw [splitAtFirst?_sound outer] at outer
    exact splitAtFirst?_append outer _
  · rw [List.mem_append, List.mem_append]
    exact fun within => within.elim (fun earlier => noAt (Or.inl earlier)) plain

end AddressParts

/-- That two texts have the parts of an address and differ at most in the password there. -/
def DifferInMasked (u v : String) : Prop :=
  ∃ parts password, AddressParts.of? u.toList = some parts ∧
    AddressParts.of? v.toList = some (parts.withPassword password)

/-- What is shown has the parts of what is not shown, with the mask for the password. -/
theorem of?_redact {url : String} {parts : AddressParts}
    (found : AddressParts.of? url.toList = some parts) :
    AddressParts.of? (redact url).toList = some (parts.withPassword mask) := by
  rw [redact_eq, found, String.toList_ofList]
  exact AddressParts.of?_withPassword found (by decide)

theorem redact_eq_self {url : String} (none : AddressParts.of? url.toList = none) :
    redact url = url := by
  rw [redact_eq, none]

/-- **Which texts are shown alike.** Two texts are shown alike exactly if they are equal or differ
only in what stands for the password of an address. -/
theorem redact_eq_iff (u v : String) : redact u = redact v ↔ u = v ∨ DifferInMasked u v := by
  constructor
  · intro same
    cases inFirst : AddressParts.of? u.toList with
    | none =>
        cases inSecond : AddressParts.of? v.toList with
        | none =>
            rw [redact_eq_self inFirst, redact_eq_self inSecond] at same
            exact Or.inl same
        | some parts =>
            have shown := of?_redact inSecond
            rw [← same, redact_eq_self inFirst, inFirst] at shown
            cases shown
    | some parts =>
        have shown := of?_redact inFirst
        cases inSecond : AddressParts.of? v.toList with
        | none =>
            rw [same, redact_eq_self inSecond, inSecond] at shown
            cases shown
        | some parts' =>
            rw [same, of?_redact inSecond] at shown
            have equal : parts' = parts.withPassword parts'.password :=
              congrArg (·.withPassword parts'.password) (Option.some.inj shown)
            exact Or.inr ⟨parts, parts'.password, inFirst, inSecond.trans (congrArg some equal)⟩
  · rintro (rfl | ⟨parts, password, inFirst, inSecond⟩)
    · rfl
    · rw [redact_eq, redact_eq, inFirst, inSecond]
      rfl

end Postgres

end TypedQueries
