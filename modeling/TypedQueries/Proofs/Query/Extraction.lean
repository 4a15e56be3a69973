import TypedQueries.Proofs.Syntax.Traversal
import TypedQueries.Query.Call

/-! # What is extracted from a file

Extraction looks at every node of the tree once, in pre-order, and reports each query
call among them: those with a known text as calls, the others as diagnostics, both in
the order of the tree (`extract_eq_outcomes`). Calls within calls are nodes like all
others.
-/

namespace TypedQueries

/-- The query calls of a tree, each before those within it. -/
def queryCalls (method : String) (t : Tree) : List Site :=
  (Site.all t).filter (·.node.isQueryCall method)

/-- The diagnostic for a query call whose text is unknown. -/
def Site.unresolved? (file : Path) (call : Site) : Option Diagnostic :=
  match call.resolve with
  | .ok _ => none
  | .error reason => some (.unresolvedLiteral file call.position.1 call.position.2 reason)

namespace FileScan

variable (method : String) (file : Path)

theorem visit_of_not_isQueryCall (scan : FileScan) {site : Site}
    (other : site.node.isQueryCall method = false) : scan.visit method file site = scan := by
  rw [visit, other]
  rfl

/-- A query call adds either itself or its diagnostic. -/
theorem visit_of_isQueryCall (scan : FileScan) {site : Site}
    (call : site.node.isQueryCall method = true) :
    scan.visit method file site =
      { calls := scan.calls ++ site.resolve.toOption.toList
        diagnostics := scan.diagnostics ++ (site.unresolved? file).toList } := by
  rw [visit, if_pos call, Site.unresolved?]
  cases site.resolve with
  | ok query => simp [Except.toOption]
  | error reason => simp [Except.toOption]

/-- Visiting sites in order adds the calls among them and the diagnostics in order. -/
theorem foldl_visit (sites : List Site) (scan : FileScan) :
    sites.foldl (visit method file) scan =
      { calls := scan.calls ++
          (sites.filter (·.node.isQueryCall method)).filterMap (·.resolve.toOption)
        diagnostics := scan.diagnostics ++
          (sites.filter (·.node.isQueryCall method)).filterMap (Site.unresolved? file) } := by
  induction sites generalizing scan with
  | nil => simp
  | cons site sites ih =>
      rw [List.foldl_cons, ih]
      cases call : site.node.isQueryCall method with
      | false =>
          rw [visit_of_not_isQueryCall method file scan call, List.filter_cons,
            if_neg (Bool.eq_false_iff.mp call)]
      | true =>
          rw [visit_of_isQueryCall method file scan call, List.filter_cons, if_pos call]
          simp only [List.filterMap_cons, List.append_assoc]
          cases site.resolve.toOption <;> cases site.unresolved? file <;> rfl

end FileScan

theorem extract_eq (method : String) (file : Path) (t : Tree) :
    extract method file t =
      { calls := (queryCalls method t).filterMap (·.resolve.toOption)
        diagnostics := (queryCalls method t).filterMap (Site.unresolved? file) } := by
  rw [extract, Site.walk_ofTree, FileScan.foldl_visit]
  rfl

/-- A query call has either a text or a diagnostic. -/
theorem Site.resolve_or_unresolved? (file : Path) (call : Site) :
    (∃ query, call.resolve.toOption = some query ∧ call.unresolved? file = none) ∨
      ∃ diagnostic, call.resolve.toOption = none ∧ call.unresolved? file = some diagnostic := by
  rw [Site.unresolved?]
  cases call.resolve with
  | ok query => exact Or.inl ⟨query, rfl, rfl⟩
  | error reason => exact Or.inr ⟨_, rfl, rfl⟩

/-- Each query call is counted once, as a call or as a diagnostic. -/
theorem length_filterMap_outcomes (file : Path) (calls : List Site) :
    (calls.filterMap (·.resolve.toOption)).length +
      (calls.filterMap (Site.unresolved? file)).length = calls.length := by
  induction calls with
  | nil => rfl
  | cons call calls ih =>
      rw [List.filterMap_cons, List.filterMap_cons]
      rcases call.resolve_or_unresolved? file with ⟨query, found, none⟩ | ⟨diagnostic, none, found⟩
      · rw [found, none, List.length_cons, List.length_cons, ← ih]
        exact Nat.add_right_comm _ 1 _
      · rw [found, none, List.length_cons, List.length_cons, ← ih]
        rfl

/-- **Every query call is reported once, in order.** The visit from the root comes to its
end after it has passed the nodes of the tree, each once and in pre-order. The calls and
the diagnostics reported are the outcomes at the query calls among these nodes, in the
same order, and there is one for each. -/
theorem extract_eq_outcomes (method : String) (file : Path) (t : Tree) :
    Site.Tour (.ofTree t) (Site.all t) ∧
      (Site.all t).Pairwise (fun first second => first.path < second.path) ∧
      (Site.all t).length = t.size ∧
      (∀ site : Site, site ∈ Site.all t ↔ site.top = t) ∧
      (∀ site : Site, site ∈ queryCalls method t ↔
        site.top = t ∧ site.node.isQueryCall method = true) ∧
      (extract method file t).calls = (queryCalls method t).filterMap (·.resolve.toOption) ∧
      (extract method file t).diagnostics =
        (queryCalls method t).filterMap (Site.unresolved? file) ∧
      (extract method file t).calls.length + (extract method file t).diagnostics.length =
        (queryCalls method t).length := by
  refine ⟨Site.tour_all t, Site.pairwise_path_all t, Site.length_below [] t,
    fun site => Site.mem_all_iff, ?_, ?_, ?_, ?_⟩
  · intro site
    rw [queryCalls, List.mem_filter, Site.mem_all_iff]
  · rw [extract_eq]
  · rw [extract_eq]
  · rw [extract_eq]
    exact length_filterMap_outcomes file _

end TypedQueries
