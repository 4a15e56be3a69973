import Mathlib.Data.List.TakeWhile
import TypedQueries.Postgres.ConnectionString

/-! # Reading a connection string but for the password

What a connection string says is read part by part, and what one part sets does not hang on the
password that another has set: from options that are the same without the password, the same is
read (`words?_same`, `parameters?_same`, `located?_same`).
-/

namespace TypedQueries

namespace Postgres

/-- What a connection string says but for the password. -/
def ConnectionOptions.withoutPassword (options : ConnectionOptions) : ConnectionOptions :=
  { options with password := none }

open ConnectionOptions

variable {options options' : ConnectionOptions}

/-! ## Parameters -/

theorem exists_password_of_same (same : options.withoutPassword = options'.withoutPassword) :
    ∃ password, options' = { options with password } :=
  ⟨options'.password, congrArg (fun o => { o with password := options'.password }) same.symm⟩

theorem set?_same (same : options.withoutPassword = options'.withoutPassword) (key : String)
    (value : List Char) :
    (set? options key value).map withoutPassword =
      (set? options' key value).map withoutPassword := by
  obtain ⟨password, rfl⟩ := exists_password_of_same same
  unfold set?
  split
  · rfl
  · rfl
  · rfl
  · cases (splitAt ',' value).mapM host? <;> rfl
  · dsimp only
    cases (splitAt ',' value).all isNumericHost <;> rfl
  · cases (splitAt ',' value).mapM port? <;> rfl
  · rfl
  · rfl
  · split <;> rfl
  · split <;> rfl
  · split <;> rfl
  · split <;> rfl
  · cases natural? (Nat.pow 2 64) value <;> rfl
  · cases natural? (Nat.pow 2 32) value <;> rfl
  · split
    · split <;> rfl
    · rfl

/-- One step after another, neither of which looks at the password. -/
theorem bind_same {first second : Option ConnectionOptions}
    {further further' : ConnectionOptions → Option ConnectionOptions}
    (same : first.map withoutPassword = second.map withoutPassword)
    (goesOn : ∀ {o o' : ConnectionOptions}, o.withoutPassword = o'.withoutPassword →
      (further o).map withoutPassword = (further' o').map withoutPassword) :
    (first.bind further).map withoutPassword = (second.bind further').map withoutPassword := by
  cases first with
  | none =>
      cases second with
      | none => rfl
      | some o' => cases same
  | some o =>
      cases second with
      | none => cases same
      | some o' => exact goesOn (Option.some.inj same)

/-! ## Words -/

theorem words?_eq (options : ConnectionOptions) (text : List Char) :
    words? options text =
      (word? text).bind fun
        | none => some options
        | some ((key, value), rest) =>
            (set? options key value).bind fun options =>
              if rest.length < text.length then words? options rest else none := by
  rw [words?]
  cases word? text with
  | none => rfl
  | some read =>
      rcases read with _ | ⟨⟨key, value⟩, rest⟩
      · rfl
      · dsimp only [Option.bind_some]
        cases set? options key value <;> rfl

theorem words?_same (same : options.withoutPassword = options'.withoutPassword)
    (text : List Char) :
    (words? options text).map withoutPassword = (words? options' text).map withoutPassword := by
  induction size : text.length using Nat.strongRecOn generalizing options options' text with
  | ind size ih =>
      subst size
      rw [words?_eq, words?_eq]
      cases word? text with
      | none => rfl
      | some read =>
          rcases read with _ | ⟨⟨key, value⟩, rest⟩
          · exact congrArg some same
          · refine bind_same (set?_same same key value) fun same => ?_
            split
            · next shorter => exact ih _ shorter same rest rfl
            · rfl

/-- That two texts are read as the same words but for one that sets the password. -/
inductive WordsDiffer : List Char → List Char → Prop
  | here {text text' value value' rest : List Char}
      (first : word? text = some (some (("password", value), rest)))
      (second : word? text' = some (some (("password", value'), rest))) : WordsDiffer text text'
  | later {word rest rest' value : List Char} {key : String}
      (first : word? (word ++ rest) = some (some ((key, value), rest)))
      (second : word? (word ++ rest') = some (some ((key, value), rest')))
      (further : WordsDiffer rest rest') : WordsDiffer (word ++ rest) (word ++ rest')

theorem words?_of_word? {result : ConnectionOptions} {text rest value : List Char} {key : String}
    (accepted : words? options text = some result)
    (read : word? text = some (some ((key, value), rest))) :
    ∃ next, set? options key value = some next ∧ words? next rest = some result := by
  rw [words?_eq, read, Option.bind_some] at accepted
  obtain ⟨next, isSet, goesOn⟩ := Option.bind_eq_some_iff.mp accepted
  split at goesOn
  · exact ⟨next, isSet, goesOn⟩
  · cases goesOn

theorem WordsDiffer.same {text text' : List Char} (differ : WordsDiffer text text')
    {result result' : ConnectionOptions}
    (same : options.withoutPassword = options'.withoutPassword)
    (first : words? options text = some result) (second : words? options' text' = some result') :
    result.withoutPassword = result'.withoutPassword := by
  induction differ generalizing options options' with
  | @here text text' value value' rest read read' =>
      obtain ⟨next, isSet, goesOn⟩ := words?_of_word? first read
      obtain ⟨next', isSet', goesOn'⟩ := words?_of_word? second read'
      have both : next.withoutPassword = next'.withoutPassword := by
        cases isSet
        cases isSet'
        exact same
      have results := words?_same both rest
      rw [goesOn, goesOn'] at results
      exact Option.some.inj results
  | @later word rest rest' value key read read' _ ih =>
      obtain ⟨next, isSet, goesOn⟩ := words?_of_word? first read
      obtain ⟨next', isSet', goesOn'⟩ := words?_of_word? second read'
      have both := set?_same same key value
      rw [isSet, isSet'] at both
      exact ih (Option.some.inj both) goesOn goesOn'

/-! ## Addresses -/

theorem addHost?_same (same : options.withoutPassword = options'.withoutPassword)
    (text : List Char) :
    (addHost? options text).map withoutPassword = (addHost? options' text).map withoutPassword := by
  obtain ⟨password, rfl⟩ := exists_password_of_same same
  unfold addHost?
  dsimp only
  split
  · rfl
  · cases decoded? text with
    | none => rfl
    | some text =>
        dsimp only [Option.bind_eq_bind, Option.bind_some]
        cases host? text <;> rfl

theorem hosts?_same (same : options.withoutPassword = options'.withoutPassword)
    (texts : List (List Char)) :
    (hosts? options texts).map withoutPassword = (hosts? options' texts).map withoutPassword := by
  induction texts generalizing options options' with
  | nil => exact congrArg some same
  | cons text texts ih =>
      rw [hosts?, hosts?]
      cases hostAndPort? text with
      | none => rfl
      | some parts =>
          refine bind_same (addHost?_same same parts.1) fun same => ?_
          cases decoded? parts.2 with
          | none => rfl
          | some port => exact bind_same (set?_same same "port" port) ih

/-- Parameters are set one by one. -/
theorem parameters?_cons (options : ConnectionOptions) (text : List Char)
    (texts : List (List Char)) :
    parameters? options (text :: texts) =
      (parameters? options [text]).bind fun options => parameters? options texts := by
  rw [parameters?, parameters?]
  cases splitOnce? '=' text with
  | none => rfl
  | some parts =>
      dsimp only [Option.bind_eq_bind, Option.bind_some]
      cases decoded? parts.1 with
      | none => rfl
      | some key =>
          dsimp only [Option.bind_some]
          split
          · cases addHost? options parts.2 <;> rfl
          · cases decoded? parts.2 with
            | none => rfl
            | some value =>
                dsimp only [Option.bind_some]
                cases set? options (String.ofList key) value <;> rfl

theorem parameters?_append (options : ConnectionOptions) (first second : List (List Char)) :
    parameters? options (first ++ second) =
      (parameters? options first).bind fun options => parameters? options second := by
  induction first generalizing options with
  | nil => rfl
  | cons text first ih =>
      rw [List.cons_append, parameters?_cons, parameters?_cons options text first,
        Option.bind_assoc]
      exact congrArg _ (funext ih)

theorem parameters?_same (same : options.withoutPassword = options'.withoutPassword)
    (texts : List (List Char)) :
    (parameters? options texts).map withoutPassword =
      (parameters? options' texts).map withoutPassword := by
  induction texts generalizing options options' with
  | nil => exact congrArg some same
  | cons text texts ih =>
      rw [parameters?_cons, parameters?_cons options']
      refine bind_same ?_ ih
      rw [parameters?, parameters?]
      cases splitOnce? '=' text with
      | none => rfl
      | some parts =>
          dsimp only [Option.bind_eq_bind, Option.bind_some]
          cases decoded? parts.1 with
          | none => rfl
          | some key =>
              dsimp only [Option.bind_some]
              split
              · exact bind_same (addHost?_same same parts.2) (congrArg some)
              · cases decoded? parts.2 with
                | none => rfl
                | some value => exact bind_same (set?_same same _ value) (congrArg some)

/-- What is read of an address from the mark before its parameters on. -/
def query? (options : ConnectionOptions) : List Char → Option ConnectionOptions
  | '?' :: texts => parameters? options (parameterTexts texts)
  | _ => some options

/-- What is read of an address after its hosts. -/
def path? (options : ConnectionOptions) : List Char → Option ConnectionOptions
  | '/' :: text =>
      let database := text.takeWhile (· != '?')
      let rest := text.drop database.length
      if database.isEmpty then query? options rest
      else
        (decoded? database).bind fun database =>
          query? { options with database := some (String.ofList database) } rest
  | text => query? options text

/-- What is read of an address after the user and the password. -/
def located? (options : ConnectionOptions) (text : List Char) : Option ConnectionOptions :=
  let place := text.takeWhile fun c => c != '/' && c != '?'
  if place.isEmpty then path? options (text.drop place.length)
  else (hosts? options (splitAt ',' place)).bind (path? · (text.drop place.length))

theorem path?_eq (options : ConnectionOptions) (text : List Char) :
    path? options text = (do
      let (options, rest) ←
        match text with
        | '/' :: rest =>
            let database := rest.takeWhile (· != '?')
            let rest := rest.drop database.length
            if database.isEmpty then some (options, rest)
            else (decoded? database).map fun database =>
              ({ options with database := some (String.ofList database) }, rest)
        | rest => some (options, rest)
      match rest with
      | '?' :: rest => parameters? options (parameterTexts rest)
      | _ => some options) := by
  unfold path?
  split
  · next text =>
      dsimp only
      split
      · rfl
      · cases decoded? (text.takeWhile (· != '?')) <;> rfl
  · rfl

theorem address?_eq (text : List Char) :
    address? text =
      match splitOnce? '@' text with
      | some (credentials, rest) => (credentials? {} credentials).bind (located? · rest)
      | none => located? {} text := by
  rw [address?]
  simp only [located?, path?_eq]
  cases splitOnce? '@' text with
  | none => rfl
  | some parts =>
      dsimp only [Option.bind_eq_bind]
      cases credentials? {} parts.1 <;> rfl

theorem query?_same (same : options.withoutPassword = options'.withoutPassword)
    (text : List Char) :
    (query? options text).map withoutPassword = (query? options' text).map withoutPassword := by
  unfold query?
  split
  · exact parameters?_same same _
  · exact congrArg some same

theorem path?_same (same : options.withoutPassword = options'.withoutPassword)
    (text : List Char) :
    (path? options text).map withoutPassword = (path? options' text).map withoutPassword := by
  unfold path?
  split
  · next text =>
      dsimp only
      split
      · exact query?_same same _
      · cases decoded? (text.takeWhile (· != '?')) with
        | none => rfl
        | some database =>
            refine query?_same ?_ _
            exact congrArg (fun o => { o with database := some (String.ofList database) }) same
  · exact query?_same same _

theorem located?_same (same : options.withoutPassword = options'.withoutPassword)
    (text : List Char) :
    (located? options text).map withoutPassword = (located? options' text).map withoutPassword := by
  unfold located?
  dsimp only
  split
  · exact path?_same same _
  · exact bind_same (hosts?_same same _) fun same => path?_same same _

/-! ## Splitting -/

section Splitting

variable {c : Char} {before text : List Char}

theorem splitOnce?_of_not_mem (absent : c ∉ before) (after : List Char) :
    splitOnce? c (before ++ c :: after) = some (before, after) := by
  have differs : ∀ d ∈ before, (d != c) = true :=
    fun d member => bne_iff_ne.mpr fun same => absent (same ▸ member)
  rw [splitOnce?, if_pos (by simp), List.takeWhile_append_of_pos differs,
    List.dropWhile_append_of_pos differs, List.takeWhile_cons_of_neg (by simp),
    List.dropWhile_cons_of_neg (by simp), List.append_nil]
  rfl

theorem splitOnce?_eq_none (absent : c ∉ text) : splitOnce? c text = none := by
  rw [splitOnce?, if_neg (by rwa [List.contains_iff_mem])]

theorem splitAt_eq_splitOn (c : Char) (text : List Char) : splitAt c text = text.splitOn c := by
  induction text with
  | nil => rw [splitAt, List.splitOn_nil]
  | cons d text ih =>
      rw [splitAt, List.splitOn_cons_eq_if_modifyHead, ih]
      by_cases same : d = c
      · rw [if_pos same, if_pos (beq_iff_eq.mpr same)]
      · rw [if_neg same, if_neg (by rwa [beq_iff_eq])]
        cases parts : text.splitOn c with
        | nil => exact absurd parts (List.splitOn_ne_nil c text)
        | cons part parts => rfl

/-- The last of the texts between ampersands is left out if it is empty. -/
theorem parameterTexts_intercalate {before after : List (List Char)}
    (separate : ∀ part ∈ before ++ text :: after, '&' ∉ part) (nonempty : text ≠ []) :
    parameterTexts (['&'].intercalate (before ++ text :: after)) =
      before ++ text :: if after.getLast? = some [] then after.dropLast else after := by
  rw [parameterTexts, splitAt_eq_splitOn, List.splitOn_intercalate '&' separate (by simp)]
  cases after with
  | nil => simp [nonempty]
  | cons part after =>
      have last : (before ++ text :: part :: after).getLast? = (part :: after).getLast? := by
        simp [List.getLast?_cons]
      have earlier : (before ++ text :: part :: after).dropLast =
          before ++ text :: (part :: after).dropLast := by simp
      rw [last, earlier]
      split <;> rfl

end Splitting

/-! ## The parameters of an address -/

/-- The hosts of an address end at the mark before its path or its parameters. -/
theorem located?_append {host rest : List Char} (options : ConnectionOptions)
    (plain : ∀ c ∈ host, (c != '/' && c != '?') = true)
    (ends : ∀ c ∈ rest.head?, (c != '/' && c != '?') = false) :
    located? options (host ++ rest) =
      if host.isEmpty then path? options rest
      else (hosts? options (splitAt ',' host)).bind (path? · rest) := by
  have place : (host ++ rest).takeWhile (fun c => c != '/' && c != '?') = host := by
    rw [List.takeWhile_append_of_pos plain]
    cases rest with
    | nil => simp
    | cons c rest => rw [List.takeWhile_cons_of_neg (by simp [ends c rfl]), List.append_nil]
  rw [located?, place, List.drop_left]

theorem path?_query {path : List Char} (options : ConnectionOptions) (absent : '?' ∉ path)
    (begins : path = [] ∨ ∃ text, path = '/' :: text) (texts : List Char) :
    path? options (path ++ '?' :: texts) =
      (path? options path).bind (parameters? · (parameterTexts texts)) := by
  rcases begins with rfl | ⟨text, rfl⟩
  · rfl
  · have plain : ∀ c ∈ text, (c != '?') = true :=
      fun c member => bne_iff_ne.mpr fun same => absent (List.mem_cons_of_mem _ (same ▸ member))
    have whole : text.takeWhile (· != '?') = text := List.takeWhile_eq_self_iff.mpr plain
    have upTo : (text ++ '?' :: texts).takeWhile (· != '?') = text := by
      rw [List.takeWhile_append_of_pos plain, List.takeWhile_cons_of_neg (by simp), List.append_nil]
    rw [List.cons_append, path?, path?, whole, upTo, List.drop_left, List.drop_length]
    split
    · rfl
    · cases decoded? text <;> rfl

/-- The parameters are set after all else is read. -/
theorem located?_query {place : List Char} (options : ConnectionOptions) (absent : '?' ∉ place)
    (texts : List Char) :
    located? options (place ++ '?' :: texts) =
      (located? options place).bind (parameters? · (parameterTexts texts)) := by
  obtain ⟨host, path, rfl, plain, ends⟩ : ∃ host path, place = host ++ path ∧
      (∀ c ∈ host, (c != '/' && c != '?') = true) ∧
        ∀ c ∈ path.head?, (c != '/' && c != '?') = false :=
    ⟨_, _, List.takeWhile_append_dropWhile.symm, fun _ => List.mem_takeWhile_imp, fun c first => by
      have mark := List.head?_dropWhile_not (fun c => c != '/' && c != '?') place
      rwa [Option.mem_def.mp first] at mark⟩
  rw [List.mem_append, not_or] at absent
  have begins : path = [] ∨ ∃ text, path = '/' :: text := by
    cases path with
    | nil => exact Or.inl rfl
    | cons c text =>
        have mark := ends c rfl
        rw [List.mem_cons, not_or] at absent
        simp [Ne.symm absent.2.1] at mark
        exact Or.inr ⟨text, by rw [mark]⟩
  have endsToo : ∀ c ∈ (path ++ '?' :: texts).head?, (c != '/' && c != '?') = false := by
    rcases begins with rfl | ⟨text, rfl⟩ <;> simp
  rw [List.append_assoc, located?_append options plain endsToo, located?_append options plain ends]
  split
  · exact path?_query options absent.2 begins texts
  · rw [Option.bind_assoc]
    exact congrArg _ (funext fun options => path?_query options absent.2 begins texts)

end Postgres

end TypedQueries
