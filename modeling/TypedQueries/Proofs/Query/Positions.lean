import TypedQueries.Proofs.Syntax.Spans
import TypedQueries.Proofs.Query.Extraction
import TypedQueries.Syntax.Parse

/-! # The positions of what is found

In the order of the visit the positions of the calls and diagnostics of a file increase
(`positions_increase`). A query call begins with the name it is called on, which is no call, and
the query calls within it come after this name; of two query calls neither of which is within the
other, the earlier one ends before the later one begins.
-/

namespace TypedQueries

/-! ## Listing what is found -/

/-- What a query call comes to: itself with its text, or a diagnostic in its place. -/
inductive Finding where
  | found (call : QueryCall)
  | unresolved (diagnostic : Diagnostic)

/-- The line and column of a query call. Positions are compared by line, then by column. -/
def QueryCall.position (call : QueryCall) : Nat ×ₗ Nat := toLex (call.line, call.column)

/-- The line and column a diagnostic is about, if it is about a place in a file. -/
def Diagnostic.position? : Diagnostic → Option (Nat ×ₗ Nat)
  | .unresolvedLiteral _ line column _ => some (toLex (line, column))
  | .unmappedType .. | .duplicateColumn .. => none

namespace Finding

def call? : Finding → Option QueryCall
  | found call => some call
  | unresolved _ => none

def diagnostic? : Finding → Option Diagnostic
  | found _ => none
  | unresolved diagnostic => some diagnostic

def position? : Finding → Option (Nat ×ₗ Nat)
  | found call => some call.position
  | unresolved diagnostic => diagnostic.position?

end Finding

/-- That there are two positions, the second one further on than the first. -/
def Increases (first second : Option (Nat ×ₗ Nat)) : Prop :=
  ∃ earlier ∈ first, ∃ later ∈ second, earlier < later

theorem increases_some_iff {earlier later : Nat ×ₗ Nat} :
    Increases (some earlier) (some later) ↔ earlier < later := by
  simp only [Increases, Option.mem_some_iff, exists_eq_left']

theorem Increases.ne {first second : Option (Nat ×ₗ Nat)} (increases : Increases first second) :
    first ≠ second := by
  obtain ⟨earlier, atFirst, later, atSecond, order⟩ := increases
  rintro rfl
  exact order.ne (Option.mem_unique atFirst atSecond)

namespace Site

/-- What a query call of a file comes to. -/
def finding (file : Path) (call : Site) : Finding :=
  match call.resolve with
  | .ok query => .found query
  | .error reason =>
      .unresolved (.unresolvedLiteral file call.position.1 call.position.2 reason)

variable (file : Path) (call : Site)

theorem call?_finding : (call.finding file).call? = call.resolve.toOption := by
  rw [finding]
  cases call.resolve <;> rfl

theorem diagnostic?_finding : (call.finding file).diagnostic? = call.unresolved? file := by
  rw [finding, unresolved?]
  cases call.resolve <;> rfl

/-- A query call is reported at its own position. -/
theorem position_of_resolve {call : Site} {query : QueryCall}
    (resolved : call.resolve = .ok query) : query.position = toLex call.position := by
  rw [resolve] at resolved
  split at resolved
  · next first rest _ =>
      cases text : first.resolveText with
      | error reason =>
          rw [text] at resolved
          cases resolved
      | ok sql =>
          rw [text] at resolved
          cases resolved
          rfl
  · cases resolved

theorem position?_finding : (call.finding file).position? = some (toLex call.position) := by
  rw [finding]
  cases resolved : call.resolve with
  | ok query => exact congrArg some (position_of_resolve resolved)
  | error reason => rfl

end Site

namespace FileScan

variable (method : String) (file : Path)

/-- Adds what a node is found to be to what has been found before it. -/
def list (findings : List Finding) (site : Site) : List Finding :=
  if site.node.isQueryCall method then findings ++ [site.finding file] else findings

/-- What the query calls of a tree come to, in the order of the visit. -/
def findings (t : Tree) : List Finding := (Site.ofTree t).walk (list method file) []

theorem foldl_list (sites : List Site) (before : List Finding) :
    sites.foldl (list method file) before =
      before ++ (sites.filter (·.node.isQueryCall method)).map (Site.finding file) := by
  induction sites generalizing before with
  | nil => exact (List.append_nil _).symm
  | cons site sites ih =>
      rw [List.foldl_cons, ih, List.filter_cons, list]
      split
      · rw [List.map_cons, List.append_assoc, List.singleton_append]
      · rfl

theorem findings_eq (t : Tree) :
    findings method file t = (queryCalls method t).map (Site.finding file) := by
  rw [findings, Site.walk_ofTree, foldl_list, List.nil_append, queryCalls]

end FileScan

/-- The calls and the diagnostics of a file are those of its findings. -/
theorem extract_eq_filterMap_findings (method : String) (file : Path) (t : Tree) :
    extract method file t =
      { calls := (FileScan.findings method file t).filterMap Finding.call?
        diagnostics := (FileScan.findings method file t).filterMap Finding.diagnostic? } := by
  rw [extract_eq, FileScan.findings_eq, List.filterMap_map, List.filterMap_map]
  congr 1
  · exact List.filterMap_congr fun call _ => (call.call?_finding file).symm
  · exact List.filterMap_congr fun call _ => (call.diagnostic?_finding file).symm

/-! ## What a query call begins with -/

namespace Tree

variable {source method : String} {t callee : Tree}

/-- Whether the first child of a node is the one in a role. -/
def beginsWith (role : Role) (t : Tree) : Bool := t.children.head?.any (·.label.role == some role)

/-- The rules of the grammar for what a node begins with. A call begins with what is called and an
access with the object. A word has no parts. Where the text lacks the object of an access, the mark
of the access follows. -/
structure BeginsProperly (t : Tree) : Prop where
  callee : t.kind = .callExpression → (t.child? .function).isSome = true →
    t.beginsWith .function = true
  object : t.kind = .memberExpression → (t.child? .object).isSome = true →
    t.beginsWith .object = true
  word : t.kind = .identifier → t.children = []
  supplied : t.kind = .memberExpression → (t.child? .object).any (·.text == "") = true →
    t.children[1]?.any (fun mark =>
      mark.text != "" && mark.preorder.all (·.kind != .callExpression)) = true

instance (t : Tree) : Decidable t.BeginsProperly :=
  decidable_of_iff
    ((t.kind = .callExpression → (t.child? .function).isSome = true →
        t.beginsWith .function = true) ∧
      (t.kind = .memberExpression → (t.child? .object).isSome = true →
        t.beginsWith .object = true) ∧
      (t.kind = .identifier → t.children = []) ∧
      (t.kind = .memberExpression → (t.child? .object).any (·.text == "") = true →
        t.children[1]?.any (fun mark =>
          mark.text != "" && mark.preorder.all (·.kind != .callExpression)) = true))
    ⟨fun ⟨callee, object, word, supplied⟩ => ⟨callee, object, word, supplied⟩,
      fun ⟨callee, object, word, supplied⟩ => ⟨callee, object, word, supplied⟩⟩

/-- A tree whose nodes begin as the grammar has it. -/
def Headed (t : Tree) : Prop := ∀ node ∈ t.preorder, node.BeginsProperly

instance (t : Tree) : Decidable t.Headed :=
  inferInstanceAs (Decidable (∀ node ∈ t.preorder, node.BeginsProperly))

namespace Headed

theorem below {node : Tree} (headed : t.Headed) (below : node ∈ t.preorder) : node.Headed :=
  fun other within => headed other (preorder_subset below within)

theorem child {child : Tree} (headed : t.Headed) (member : child ∈ t.children) : child.Headed :=
  fun node below => headed node (preorder_subset_of_mem_children member below)

theorem beginsProperly (headed : t.Headed) : t.BeginsProperly := headed t t.self_mem_preorder

end Headed

theorem exists_children_eq_cons {role : Role} {child : Tree} (begins : t.beginsWith role = true)
    (found : t.child? role = some child) : ∃ rest, t.children = child :: rest := by
  rw [beginsWith] at begins
  rw [child?] at found
  cases parts : t.children with
  | nil =>
      rw [parts] at begins
      cases begins
  | cons first rest =>
      rw [parts] at begins found
      have same : some first = some child :=
        (List.find?_cons_of_pos (p := fun c => c.label.role == some role) begins).symm.trans found
      cases same
      exact ⟨rest, rfl⟩

theorem kind_of_isQueryCall (isCall : t.isQueryCall method = true) :
    t.kind = .callExpression := by
  rw [isQueryCall, Bool.and_eq_true] at isCall
  exact beq_iff_eq.mp isCall.1

/-- A query call is of a member of an identifier. -/
theorem exists_callee (isCall : t.isQueryCall method = true) :
    ∃ callee object, t.child? .function = some callee ∧ callee.kind = .memberExpression ∧
      callee.child? .object = some object ∧ object.kind = .identifier := by
  rw [isQueryCall, Bool.and_eq_true] at isCall
  obtain ⟨callee, found, isMember⟩ := (Option.any_eq_true _ _).mp isCall.2
  rw [Bool.and_eq_true, Bool.and_eq_true] at isMember
  obtain ⟨object, first, isName⟩ := (Option.any_eq_true _ _).mp isMember.1.2
  exact ⟨callee, object, found, beq_iff_eq.mp isMember.1.1, first, beq_iff_eq.mp isName⟩

theorem isQueryCall_eq_false (other : t.kind ≠ .callExpression) :
    t.isQueryCall method = false := by
  rw [isQueryCall, beq_false_of_ne other, Bool.false_and]

/-- A word is no query call. -/
theorem Headed.not_isQueryCall_of_word (headed : t.Headed) (method : String)
    (name : t.kind = .identifier) : ∀ node ∈ t.preorder, node.isQueryCall method = false := by
  rw [preorder_eq, headed.beginsProperly.word name, List.flatMap_nil]
  intro node below
  obtain rfl := List.mem_singleton.mp below
  exact isQueryCall_eq_false (by rw [name]; decide)

/-- What is called begins with the name that it is accessed on. Where the text lacks this name, the
mark of the access is there. -/
theorem leads_callee {object : Tree} (laidOut : callee.LaidOut source)
    (headed : callee.Headed)
    (access : callee.kind = .memberExpression) (found : callee.child? .object = some object)
    (name : object.kind = .identifier) : callee.Leads (·.isQueryCall method) := by
  have begins := headed.beginsProperly
  obtain ⟨rest, parts⟩ := exists_children_eq_cons
    (begins.object access (by rw [found]; rfl)) found
  have member := mem_children_of_child? found
  have noName := (headed.child member).not_isQueryCall_of_word method name
  by_cases lacking : object.text = ""
  · have supplied := begins.supplied access (by rw [found]; exact beq_iff_eq.mpr lacking)
    obtain ⟨mark, next, free⟩ := (Option.any_eq_true _ _).mp supplied
    rw [Bool.and_eq_true, bne_iff_ne, List.all_eq_true] at free
    rw [parts, List.getElem?_cons_succ] at next
    obtain ⟨after, rfl⟩ : ∃ after, rest = mark :: after := by
      cases rest with
      | nil => cases next
      | cons first after => exact ⟨after, by cases next; rfl⟩
    have marked := (laidOut.child (parts ▸ by simp : mark ∈ callee.children)).liesIn
    refine laidOut.leads_of_part [object] parts (marked.start_lt_stop free.1) ?_
    intro node below
    rw [List.singleton_append, List.flatMap_cons, List.flatMap_singleton] at below
    rcases List.mem_append.mp below with below | below
    · exact noName node below
    · exact isQueryCall_eq_false (bne_iff_ne.mp (free.2 node below))
  · have named := (laidOut.child member).liesIn
    refine laidOut.leads_of_part [] parts (named.start_lt_stop lacking) ?_
    rwa [List.nil_append, List.flatMap_singleton]

theorem leads_of_isQueryCall (laidOut : t.LaidOut source)
    (headed : t.Headed) (isCall : t.isQueryCall method = true) :
    t.Leads (·.isQueryCall method) := by
  obtain ⟨callee, object, found, access, first, name⟩ := exists_callee isCall
  obtain ⟨rest, parts⟩ := exists_children_eq_cons
    (headed.beginsProperly.callee (kind_of_isQueryCall isCall) (by rw [found]; rfl)) found
  have member := mem_children_of_child? found
  have leads : callee.Leads (·.isQueryCall method) :=
    leads_callee (laidOut.child member) (headed.child member) access first name
  exact laidOut.leads_of_first parts leads (isQueryCall_eq_false (by rw [access]; decide))

end Tree

/-! ## Query calls in their order -/

variable {source : String} {t : Tree}

/-- The starts of the query calls of a tree increase. -/
theorem pairwise_queryCalls (method : String) (laidOut : t.LaidOut source)
    (headed : t.Headed) :
    (queryCalls method t).Pairwise fun first second =>
      first.node.label.start < second.node.label.start := by
  have nodes := Tree.pairwise_start (·.isQueryCall method) laidOut
    fun node below => Tree.leads_of_isQueryCall (laidOut.below below) (headed.below below)
  rw [← Site.map_node_all, List.filter_map, List.pairwise_map] at nodes
  exact nodes

/-- Counted from one, positions are in the order of the places. -/
theorem Site.position_lt {first second : Site}
    (order : first.node.label.start < second.node.label.start) :
    toLex first.position < toLex second.position := by
  rw [Prod.Lex.toLex_lt_toLex]
  refine (Position.lt_iff.mp order).imp Nat.succ_lt_succ ?_
  exact fun ⟨row, column⟩ => ⟨congrArg Nat.succ row, Nat.succ_lt_succ column⟩

theorem pairwise_findings (method : String) (file : Path) (laidOut : t.LaidOut source)
    (headed : t.Headed) :
    (FileScan.findings method file t).Pairwise fun first second =>
      Increases first.position? second.position? := by
  rw [FileScan.findings_eq, List.pairwise_map]
  refine (pairwise_queryCalls method laidOut headed).imp fun {first second} order => ?_
  rw [Site.position?_finding, Site.position?_finding]
  exact increases_some_iff.mpr (Site.position_lt order)

/-- **Positions increase.** In a tree whose nodes lie in the source with their children one after
the other, and begin as the grammar has it, the calls and diagnostics that are found have positions
in the file, and in the order of the visit each is at a later line, or at a later column of the
same line, than the one before, calls within calls included. So the calls increase, the diagnostics
increase, and no two of all of them are at the same position. -/
theorem positions_increase (method source : String) (file : Path) (t : Tree)
    (laidOut : t.LaidOut source) (headed : t.Headed) :
    extract method file t =
        { calls := (FileScan.findings method file t).filterMap Finding.call?
          diagnostics := (FileScan.findings method file t).filterMap Finding.diagnostic? } ∧
      (∀ finding ∈ FileScan.findings method file t, finding.position?.isSome = true) ∧
      (FileScan.findings method file t).Pairwise
        (fun first second => Increases first.position? second.position?) ∧
      (extract method file t).calls.Pairwise
        (fun first second => first.position < second.position) ∧
      (extract method file t).diagnostics.Pairwise
        (fun first second => Increases first.position? second.position?) ∧
      ((FileScan.findings method file t).map Finding.position?).Nodup := by
  have increase := pairwise_findings method file laidOut headed
  refine ⟨extract_eq_filterMap_findings method file t, ?_, increase, ?_, ?_, ?_⟩
  · intro finding member
    rw [FileScan.findings_eq] at member
    obtain ⟨call, _, rfl⟩ := List.mem_map.mp member
    rw [Site.position?_finding]
    rfl
  · rw [extract_eq_filterMap_findings]
    refine increase.filterMap _ fun first second order call found other next => ?_
    obtain rfl : first = .found call := by cases first <;> cases found; rfl
    obtain rfl : second = .found other := by cases second <;> cases next; rfl
    exact increases_some_iff.mp order
  · rw [extract_eq_filterMap_findings]
    refine increase.filterMap _ fun first second order diagnostic found other next => ?_
    obtain rfl : first = .unresolved diagnostic := by cases first <;> cases found; rfl
    obtain rfl : second = .unresolved other := by cases second <;> cases next; rfl
    exact order
  · exact List.pairwise_map.mpr (increase.imp Increases.ne)

/-- One call in an argument of another, and one on a later line in a call that is no query. -/
theorem nested_positions_increase :
    let source := "a.q('x',b.q(y),\nf(c.q('z')))"
    let t := (parse .plain source).tree
    t.LaidOut source ∧ t.Headed ∧
      (FileScan.findings "q" ⟨[]⟩ t).map Finding.position? =
        [some (toLex (1, 1)), some (toLex (1, 9)), some (toLex (2, 3))] ∧
      (FileScan.findings "q" ⟨[]⟩ t).Pairwise
        (fun first second => Increases first.position? second.position?) := by
  intro source t
  have laidOut : t.LaidOut source := by decide +kernel
  have headed : t.Headed := by decide +kernel
  obtain ⟨-, -, increase, -⟩ := positions_increase "q" source ⟨[]⟩ t laidOut headed
  refine ⟨laidOut, headed, ?_, increase⟩
  rw [FileScan.findings_eq]
  decide +kernel

end TypedQueries
