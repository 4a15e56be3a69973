import TypedQueries.Postgres.Scratch
import TypedQueries.Proofs.Activity.Exchanges
import TypedQueries.Proofs.Postgres.ConnectionString
import TypedQueries.Proofs.Postgres.Redaction

/-! # Where a password is shown

A connection string has a place for the password before the host of an address, one among the
parameters of an address, and one among words. Two accepted strings that differ there say the same
otherwise. They are shown alike if the place is the first one; if it is among the parameters, only
if they are equal; and if it is among words, only if what differs happens to stand where the
password of an address would (`redact_eq_iff_of_differInPassword`).
-/

namespace TypedQueries

namespace Postgres

open ConnectionOptions

/-! ## The forms of a password -/

/-- What stands around a password before the host of an address. -/
structure UserInfo where
  scheme : List Char
  user : List Char
  place : List Char
  isScheme : scheme ∈ schemes
  noColon : ':' ∉ user
  noAt : '@' ∉ user

/-- The address with a password. -/
def UserInfo.text (around : UserInfo) (password : List Char) : List Char :=
  around.scheme ++ (around.user ++ [':'] ++ password ++ ['@'] ++ around.place)

/-- What stands around a password among the parameters of an address. -/
structure Parameter where
  scheme : List Char
  account : Option (List Char)
  place : List Char
  before : List (List Char)
  key : List Char
  after : List (List Char)
  isScheme : scheme ∈ schemes
  noAt : ∀ credentials ∈ account, '@' ∉ credentials
  noMark : '?' ∉ place
  separate : ∀ text ∈ before ++ key :: after, '&' ∉ text
  noEquals : '=' ∉ key
  isPassword : decoded? key = some "password".toList

namespace Parameter

/-- What stands before the hosts of an address. -/
def credentials (around : Parameter) : List Char :=
  match around.account with
  | none => []
  | some account => account ++ ['@']

/-- The address, from its hosts on, with a password. -/
def rest (around : Parameter) (password : List Char) : List Char :=
  around.place ++ '?' ::
    ['&'].intercalate (around.before ++ (around.key ++ '=' :: password) :: around.after)

/-- The address with a password. -/
def text (around : Parameter) (password : List Char) : List Char :=
  around.scheme ++ (around.credentials ++ around.rest password)

/-- That a password can stand there: it does not end the parameter, nor does it make what is
before it a user. -/
def Admits (around : Parameter) (password : List Char) : Prop :=
  '&' ∉ password ∧ (around.account = none → '@' ∉ around.rest password)

end Parameter

/-- Where a password stands in a connection string. -/
inductive PasswordForm where
  | userInfo
  | parameter
  | word
deriving DecidableEq, Repr

/-- That two connection strings differ at most in the value of one password. -/
inductive DifferInPassword : PasswordForm → String → String → Prop
  | userInfo (around : UserInfo) {password password' : List Char} (plain : '@' ∉ password)
      (plain' : '@' ∉ password') :
      DifferInPassword .userInfo (String.ofList (around.text password))
        (String.ofList (around.text password'))
  | parameter (around : Parameter) {password password' : List Char}
      (admits : around.Admits password) (admits' : around.Admits password') :
      DifferInPassword .parameter (String.ofList (around.text password))
        (String.ofList (around.text password'))
  | word {u v : String} (noAddress : ∀ scheme ∈ schemes, ¬ scheme <+: u.toList)
      (noAddress' : ∀ scheme ∈ schemes, ¬ scheme <+: v.toList)
      (differ : WordsDiffer u.toList v.toList) : DifferInPassword .word u v

/-! ## What is read -/

theorem mem_schemes_iff {scheme : List Char} :
    scheme ∈ schemes ↔ scheme = "postgres://".toList ∨ scheme = "postgresql://".toList := by
  simp [schemes]

theorem connectionOptions?_address {scheme : List Char} (isScheme : scheme ∈ schemes)
    (text : List Char) : connectionOptions? (String.ofList (scheme ++ text)) = address? text := by
  rw [connectionOptions?, String.toList_ofList]
  obtain rfl | rfl := mem_schemes_iff.mp isScheme
  · rfl
  · rfl

theorem connectionOptions?_words {text : String}
    (noAddress : ∀ scheme ∈ schemes, ¬ scheme <+: text.toList) :
    connectionOptions? text = words? {} text.toList := by
  have absent : schemes.find? (·.isPrefixOf text.toList) = none :=
    List.find?_eq_none.mpr fun scheme isScheme begins =>
      noAddress scheme isScheme (List.isPrefixOf_iff_prefix.mp begins)
  rw [connectionOptions?, absent]

variable {options options' : ConnectionOptions} {password password' : List Char}

theorem credentials?_append {user : List Char} (absent : ':' ∉ user) (password : List Char) :
    credentials? {} (user ++ ':' :: password) =
      (decoded? user).map fun user =>
        { user := some (String.ofList user), password := some (decodedBytes password) } := by
  rw [credentials?, splitOnce?_of_not_mem absent]
  dsimp only
  cases decoded? user <;> rfl

theorem parameters?_password {key : List Char} (noEquals : '=' ∉ key)
    (isPassword : decoded? key = some "password".toList) (options : ConnectionOptions)
    (password : List Char) :
    parameters? options [key ++ '=' :: password] =
      (decoded? password).map fun value =>
        { options with password := some (String.ofList value).toUTF8.toList } := by
  rw [parameters?, splitOnce?_of_not_mem noEquals]
  dsimp only [Option.bind_eq_bind, Option.bind_some]
  rw [isPassword]
  cases decoded? password <;> rfl

namespace UserInfo

variable {around : UserInfo}

theorem connectionOptions?_text (around : UserInfo) (plain : '@' ∉ password) :
    connectionOptions? (String.ofList (around.text password)) =
      (decoded? around.user).bind fun user =>
        located? { user := some (String.ofList user), password := some (decodedBytes password) }
          around.place := by
  have noAt : '@' ∉ around.user ++ ':' :: password := by simp [around.noAt, plain]
  have credentials : around.user ++ [':'] ++ password ++ ['@'] ++ around.place =
      (around.user ++ ':' :: password) ++ '@' :: around.place := by simp
  rw [text, connectionOptions?_address around.isScheme, address?_eq, credentials,
    splitOnce?_of_not_mem noAt]
  dsimp only
  rw [credentials?_append around.noColon]
  cases decoded? around.user <;> rfl

theorem same (plain : '@' ∉ password) (plain' : '@' ∉ password')
    (accepted : connectionOptions? (String.ofList (around.text password)) = some options)
    (accepted' : connectionOptions? (String.ofList (around.text password')) = some options') :
    options.withoutPassword = options'.withoutPassword := by
  rw [connectionOptions?_text around plain] at accepted
  rw [connectionOptions?_text around plain'] at accepted'
  cases decoded : decoded? around.user with
  | none =>
      rw [decoded] at accepted
      cases accepted
  | some user =>
      rw [decoded, Option.bind_some] at accepted accepted'
      have begins :
          withoutPassword
              { user := some (String.ofList user), password := some (decodedBytes password) } =
            withoutPassword
              { user := some (String.ofList user)
                password := some (decodedBytes password') } := rfl
      have read := located?_same begins around.place
      rw [accepted, accepted'] at read
      exact Option.some.inj read

end UserInfo

namespace Parameter

variable {around : Parameter}

/-- What is read before the parameters. -/
def placed? (around : Parameter) : Option ConnectionOptions :=
  match around.account with
  | none => located? {} around.place
  | some account => (credentials? {} account).bind (located? · around.place)

/-- The parameters that are set after the password. -/
def later (around : Parameter) : List (List Char) :=
  if around.after.getLast? = some [] then around.after.dropLast else around.after

/-- What the parameters set. -/
def read? (around : Parameter) (password : List Char) (options : ConnectionOptions) :
    Option ConnectionOptions :=
  (parameters? options around.before).bind fun options =>
    (decoded? password).bind fun value =>
      parameters? { options with password := some (String.ofList value).toUTF8.toList } around.later

theorem located?_rest (around : Parameter) (password : List Char) (options : ConnectionOptions)
    (noAmpersand : '&' ∉ password) :
    located? options (around.rest password) =
      (located? options around.place).bind (around.read? password) := by
  have separate : ∀ text ∈ around.before ++ (around.key ++ '=' :: password) :: around.after,
      '&' ∉ text := by
    intro text member
    have others := around.separate text
    simp only [List.mem_append, List.mem_cons] at member others
    rcases member with earlier | rfl | after
    · exact others (Or.inl earlier)
    · have inKey := around.separate around.key (by simp)
      simp [inKey, noAmpersand]
    · exact others (Or.inr (Or.inr after))
  rw [rest, located?_query options around.noMark, parameterTexts_intercalate separate (by simp)]
  refine congrArg _ (funext fun options => ?_)
  rw [parameters?_append, read?]
  refine congrArg _ (funext fun options => ?_)
  rw [parameters?_cons, parameters?_password around.noEquals around.isPassword]
  cases decoded? password <;> rfl

theorem connectionOptions?_text (admits : around.Admits password) :
    connectionOptions? (String.ofList (around.text password)) =
      around.placed?.bind (around.read? password) := by
  rw [text, connectionOptions?_address around.isScheme, address?_eq, placed?, credentials]
  cases given : around.account with
  | none =>
      rw [List.nil_append, splitOnce?_eq_none (admits.2 given)]
      exact located?_rest around password {} admits.1
  | some account =>
      dsimp only
      rw [List.append_assoc, List.singleton_append,
        splitOnce?_of_not_mem (around.noAt account given)]
      dsimp only
      rw [Option.bind_assoc]
      exact congrArg _ (funext fun options => located?_rest around password options admits.1)

theorem same (admits : around.Admits password) (admits' : around.Admits password')
    (accepted : connectionOptions? (String.ofList (around.text password)) = some options)
    (accepted' : connectionOptions? (String.ofList (around.text password')) = some options') :
    options.withoutPassword = options'.withoutPassword := by
  rw [connectionOptions?_text admits] at accepted
  rw [connectionOptions?_text admits'] at accepted'
  simp only [read?, Option.bind_eq_some_iff] at accepted accepted'
  obtain ⟨placed, isPlaced, earlier, isEarlier, value, -, ends⟩ := accepted
  obtain ⟨placed', isPlaced', earlier', isEarlier', value', -, ends'⟩ := accepted'
  obtain rfl := Option.some.inj (isPlaced.symm.trans isPlaced')
  obtain rfl := Option.some.inj (isEarlier.symm.trans isEarlier')
  have begins :
      withoutPassword { earlier with password := some (String.ofList value).toUTF8.toList } =
        withoutPassword { earlier with password := some (String.ofList value').toUTF8.toList } :=
    rfl
  have read := parameters?_same begins around.later
  rw [ends, ends'] at read
  exact Option.some.inj read

end Parameter

/-- **Strings that differ in a password say the same otherwise.** -/
theorem DifferInPassword.same {form : PasswordForm} {u v : String}
    (differ : DifferInPassword form u v) (accepted : connectionOptions? u = some options)
    (accepted' : connectionOptions? v = some options') :
    options.withoutPassword = options'.withoutPassword := by
  cases differ with
  | userInfo around plain plain' => exact UserInfo.same plain plain' accepted accepted'
  | parameter around admits admits' => exact Parameter.same admits admits' accepted accepted'
  | word noAddress noAddress' differ =>
      rw [connectionOptions?_words noAddress] at accepted
      rw [connectionOptions?_words noAddress'] at accepted'
      exact differ.same rfl accepted accepted'

/-! ## What is shown -/

theorem exists_splitAtFirst?_scheme {scheme : List Char} (isScheme : scheme ∈ schemes) :
    ∃ name, ∀ rest, splitAtFirst? "://".toList (scheme ++ rest) = some (name, rest) := by
  obtain rfl | rfl := mem_schemes_iff.mp isScheme
  · exact ⟨"postgres".toList, fun _ => rfl⟩
  · exact ⟨"postgresql".toList, fun _ => rfl⟩

/-- The password before the host of an address is what is not shown. -/
theorem UserInfo.differInMasked (around : UserInfo) (plain : '@' ∉ password)
    (plain' : '@' ∉ password') :
    DifferInMasked (String.ofList (around.text password))
      (String.ofList (around.text password')) := by
  obtain ⟨name, split⟩ := exists_splitAtFirst?_scheme around.isScheme
  have parts {password : List Char} (plain : '@' ∉ password) :
      AddressParts.of? (around.text password) = some ⟨name, around.user, password, around.place⟩ :=
    AddressParts.of?_eq_some_iff.mpr ⟨_, around.user ++ [':'] ++ password, split _,
      splitAtFirst?_of_not_mem (by simp [around.noAt, plain]) _,
      splitAtFirst?_of_not_mem around.noColon _⟩
  refine ⟨⟨name, around.user, password, around.place⟩, password', ?_, ?_⟩
  · rw [String.toList_ofList]
    exact parts plain
  · rw [String.toList_ofList]
    exact parts plain'

/-- The parameters of an address are shown. -/
theorem Parameter.host_of_of? {around : Parameter} {parts : AddressParts}
    (admits : around.Admits password)
    (found : AddressParts.of? (around.text password) = some parts) :
    parts.host = around.rest password := by
  obtain ⟨name, split⟩ := exists_splitAtFirst?_scheme around.isScheme
  obtain ⟨rest, credentials, outer, inner, -⟩ := AddressParts.of?_eq_some_iff.mp found
  rw [text, split] at outer
  obtain rfl := (Prod.mk.inj (Option.some.inj outer)).2
  rw [Parameter.credentials] at inner
  cases given : around.account with
  | none =>
      rw [given, List.nil_append, splitAtFirst?_eq_none (admits.2 given)] at inner
      cases inner
  | some account =>
      rw [given, splitAtFirst?_of_not_mem (around.noAt account given)] at inner
      exact (Prod.mk.inj (Option.some.inj inner)).2.symm

theorem Parameter.redact_eq_iff {around : Parameter} (admits : around.Admits password)
    (admits' : around.Admits password') :
    redact (String.ofList (around.text password)) = redact (String.ofList (around.text password')) ↔
      String.ofList (around.text password) = String.ofList (around.text password') := by
  refine ⟨fun shown => ?_, congrArg redact⟩
  rcases (Postgres.redact_eq_iff _ _).mp shown with equal | ⟨parts, masked, found, found'⟩
  · exact equal
  · rw [String.toList_ofList] at found found'
    have host' : (parts.withPassword masked).host = around.rest password' :=
      host_of_of? admits' found'
    have rest : around.rest password = around.rest password' :=
      (host_of_of? admits found).symm.trans host'
    rw [text, rest, text]

/-! ## Scratch databases -/

theorem exists_runs_dialAny_error (user : String) (database : Option String) (fault : ClientFault)
    (addresses : List Address) :
    ∃ exchanges fault', (dialAny user database fault addresses).Runs exchanges (.error fault') := by
  induction addresses generalizing fault with
  | nil => exact ⟨[], fault, .done⟩
  | cons address addresses ih =>
      obtain ⟨exchanges, fault', runs⟩ := ih .unreachable
      have refused : (askServer (.dial address user database)).Runs
          [⟨.inr (.dial address user database), .error .unreachable⟩]
          (.error ClientFault.unreachable) := .ask .done
      exact ⟨_, fault', refused.bind runs⟩

/-- No server need answer. -/
theorem exists_runs_dial_error (options : ConnectionOptions) (database : Option String) :
    ∃ exchanges fault, (dial options database).Runs exchanges (.error fault) := by
  unfold dial
  split
  · exact ⟨[], .misconfigured, .done⟩
  · have asked : (askServer .account).Runs [⟨.inr .account, ""⟩] "" := .ask .done
    by_cases encodable : (Connection.isEncodable (options.user.getD "") &&
        database.all Connection.isEncodable) = true
    · obtain ⟨exchanges, fault, runs⟩ := exists_runs_dialAny_error (options.user.getD "") database
        .unreachable options.addresses
      refine ⟨_ ++ exchanges, fault, asked.bind ?_⟩
      rw [if_pos encodable]
      exact runs
    · refine ⟨_ ++ [], .unencodable, asked.bind ?_⟩
      rw [if_neg encodable]
      exact .done

/-- Where no server answers, the message names what is shown of the connection string. -/
theorem Scratch.runs_create_of_dial [ConnectionStrings] {url : String} {options : ConnectionOptions}
    (accepted : ConnectionStrings.options? url = some options)
    {exchanges : List (Exchange ClientInterface)} {fault : ClientFault}
    (runs : (dial options options.database).Runs exchanges (.error fault)) :
    (Scratch.create url).Runs exchanges (.error (.unreachable (redact url) fault.message)) := by
  have connecting : (connect options options.database (redact url)).Runs exchanges
      (.error (.unreachable (redact url) fault.message)) := by
    rw [← List.append_nil exchanges]
    exact runs.bind .done
  rw [create, accepted, ← List.append_nil exchanges]
  exact connecting.bind .done

/-- **Making a scratch database with one of two strings or the other.** Where these say the same but
for the password, it is the same, up to the messages it may end with, exactly if they are shown
alike. -/
theorem Scratch.create_eq_iff [ConnectionStrings] {u v : String}
    {options options' : ConnectionOptions} (accepted : ConnectionStrings.options? u = some options)
    (accepted' : ConnectionStrings.options? v = some options')
    (same : options.withoutPassword = options'.withoutPassword) :
    Scratch.create u = Scratch.create v ↔ redact u = redact v := by
  obtain ⟨password, rfl⟩ := exists_password_of_same same
  constructor
  · intro equal
    obtain ⟨exchanges, fault, runs⟩ := exists_runs_dial_error options options.database
    have first := runs_create_of_dial accepted runs
    have second := runs_create_of_dial accepted' runs
    rw [equal] at first
    exact (DatabaseFailure.unreachable.inj (Except.error.inj (first.unique second))).1
  · intro shown
    rw [create, create, accepted, accepted', shown]
    rfl

/-! ## Which passwords are shown -/

/-- **Which passwords are not shown.** Of two accepted strings that differ in a password only, the
same is shown if it stands before the host of an address, or if the strings are equal, or if the
password is a word and what differs stands where the password of an address would. Only then is the
same target named when the server cannot be reached. -/
theorem redact_eq_iff_of_differInPassword {form : PasswordForm} {u v : String}
    (differ : DifferInPassword form u v) (accepted : connectionOptions? u = some options)
    (accepted' : connectionOptions? v = some options') :
    options.withoutPassword = options'.withoutPassword ∧
      (redact u = redact v ↔ form = .userInfo ∨ u = v ∨ form = .word ∧ DifferInMasked u v) ∧
      (Scratch.create u = Scratch.create v ↔ redact u = redact v) := by
  have same := differ.same accepted accepted'
  refine ⟨same, ?_, Scratch.create_eq_iff accepted accepted' same⟩
  cases differ with
  | userInfo around plain plain' =>
      have shown := (redact_eq_iff _ _).mpr (Or.inr (around.differInMasked plain plain'))
      exact iff_of_true shown (Or.inl rfl)
  | parameter around admits admits' =>
      rw [Parameter.redact_eq_iff admits admits']
      simp
  | word _ _ _ =>
      rw [redact_eq_iff]
      simp

theorem redact_eq_of_user_info :
    DifferInPassword .userInfo "postgres://app:secret@db:5432/app"
        "postgres://app:other@db:5432/app" ∧
      (connectionOptions? "postgres://app:secret@db:5432/app").isSome ∧
      (connectionOptions? "postgres://app:other@db:5432/app").isSome ∧
      redact "postgres://app:secret@db:5432/app" = redact "postgres://app:other@db:5432/app" := by
  let around : UserInfo :=
    { scheme := "postgres://".toList
      user := "app".toList
      place := "db:5432/app".toList
      isScheme := by decide
      noColon := by decide
      noAt := by decide }
  have differ : DifferInPassword .userInfo "postgres://app:secret@db:5432/app"
      "postgres://app:other@db:5432/app" :=
    .userInfo around (show '@' ∉ "secret".toList by decide) (show '@' ∉ "other".toList by decide)
  have accepted : (connectionOptions? "postgres://app:secret@db:5432/app").isSome := by
    decide +kernel
  have accepted' : (connectionOptions? "postgres://app:other@db:5432/app").isSome := by
    decide +kernel
  obtain ⟨options, read⟩ := Option.isSome_iff_exists.mp accepted
  obtain ⟨options', read'⟩ := Option.isSome_iff_exists.mp accepted'
  obtain ⟨-, shown, -⟩ := redact_eq_iff_of_differInPassword differ read read'
  exact ⟨differ, accepted, accepted', shown.mpr (Or.inl rfl)⟩

/-- The value of a parameter is shown. -/
theorem password_shown_in_parameter :
    ¬ ∀ (form : PasswordForm) (u v : String), DifferInPassword form u v →
      (connectionOptions? u).isSome → (connectionOptions? v).isSome → redact u = redact v := by
  intro alike
  let around : Parameter :=
    { scheme := "postgres://".toList
      account := some "app".toList
      place := "/app".toList
      before := ["host=/s".toList]
      key := "password".toList
      after := []
      isScheme := by decide
      noAt := by decide
      noMark := by decide
      separate := by decide
      noEquals := by decide
      isPassword := by decide +kernel }
  have differ : DifferInPassword .parameter "postgres://app@/app?host=/s&password=one"
      "postgres://app@/app?host=/s&password=two" :=
    .parameter around (show around.Admits "one".toList from ⟨by decide, nofun⟩)
      (show around.Admits "two".toList from ⟨by decide, nofun⟩)
  have shown := alike _ _ _ differ (by decide +kernel) (by decide +kernel)
  exact absurd shown (by decide +kernel)

end Postgres

end TypedQueries
