import TypedQueries.Proofs.Query.Reading
import TypedQueries.Syntax.Parse

/-! # Query calls in a tree with comments

Comments put into a tree leave its query calls where they are, and each of them comes to
what it came to unless a text is read differently: the first argument of the call, or the
initial value of the variable named there (`outcomes_of_commented`). Comments declare nothing and
come between no name and its declaration (`Site.Commented.lookup`); but a comment after the
opening parenthesis around an expression is taken for the expression, and so is one at
the end of an assertion in angle brackets. A template with substitutions stands for its own
source, with the comments in it.
-/

namespace TypedQueries

/-- A tree and the same with comments correspond. -/
theorem Tree.Commented.correspondence : Tree.Correspondence Tree.IsComment Tree.Commented where
  comment comment := comment
  kind_eq := kind_eq
  named_eq := named_eq
  text_eq := text_eq
  children commented _ := commented.children.imp fun _ _ part => ⟨part, part.role_eq⟩

namespace Site

variable {site site' : Site}

theorem Commented.correspondence : Correspondence Tree.IsComment Tree.Commented Commented where
  parts := Tree.Commented.correspondence
  node := Commented.node
  ancestors commented := .of_forall₂ commented.ancestors
  children commented := commented.children.imp fun _ _ part => Or.inl ⟨part, part.node.role_eq⟩

theorem Commented.declaredAlike (name : String) : DeclaredAlike name Commented Commented where
  imported commented _ :=
    Tree.Commented.correspondence.importBinds_eq Tree.Commented.children commented.node
  declarator commented _ :=
    correspondence.declaratorBinding? commented (commented.child? .name) (commented.child? .value)

/-- **Comments leave what a name is bound to.** A name looked up from a place that was in the
tree is bound as it was: to the initial value at the same place, to something else, or not
at all. -/
theorem Commented.lookup (commented : site.Commented site') (spelled : site.top.Spelled)
    (name : String) :
    Option.Rel (Binding.Corresponding Commented) (site.lookup name) (site'.lookup name) :=
  correspondence.lookup (declaredAlike name) commented spelled

theorem Commented.outcome_eq_iff (commented : site.Commented site') (spelled : site.top.Spelled) :
    site'.outcome = site.outcome ↔ List.Forall₂ ReadsAlike site.consulted site'.consulted := by
  refine correspondence.outcome_eq_iff ((commented.child? .arguments).imp fun _ _ lists => ?_)
    (fun argument _ _ => (declaredAlike argument.peel.text).imp fun _ _ =>
      correspondence.alikeWithin) spelled
  exact (correspondence.argumentsAlike lists fun _ => lists.children.filter fun _ _ part =>
    part.node.named_eq).imp fun _ _ => correspondence.alikeWithin

end Site

namespace Tree

variable {t u : Tree} {method : String}

theorem IsComment.isQueryCall (comment : t.IsComment) : t.isQueryCall method = false := by
  rw [Tree.isQueryCall, comment.kind]
  rfl

theorem Commented.isQueryCall_eq (commented : t.Commented u) (spelled : t.Spelled) :
    u.isQueryCall method = t.isQueryCall method :=
  correspondence.isQueryCall_eq commented spelled

end Tree

/-- **Comments leave query calls where they are, with what is read for them.** However comments
are put among the children of the nodes of a tree whose names are words, the query calls are
those that there were, each at its place and in the old order. A call comes to the same
text, or to the same reason why its text is unknown, exactly if what is consulted for it is
read as it was: the first argument and the initial value of the variable named there. -/
theorem outcomes_of_commented (method : String) {t u : Tree} (commented : t.Commented u)
    (spelled : t.Spelled) :
    List.Forall₂
      (fun call call' => call.Commented call' ∧
        (call'.outcome = call.outcome ↔
          List.Forall₂ Site.ReadsAlike call.consulted call'.consulted))
      (queryCalls method t) (queryCalls method u) := by
  have found : List.Forall₂ (fun call call' => call ∈ Site.all t ∧ call.Commented call')
      (queryCalls method t) (queryCalls method u) := by
    refine commented.all.with_members.forall₂_filter (fun call call' related => ?_)
      fun call' comment => comment.isQueryCall
    have top : call.top = t := Site.mem_all_iff.mp related.1
    exact related.2.node.isQueryCall_eq (Tree.Spelled.node (top ▸ spelled))
  refine found.imp fun call call' related => ⟨related.2, related.2.outcome_eq_iff ?_⟩
  rwa [Site.mem_all_iff.mp related.1]

/-- Comments that no expression is hidden by: a call of a variable in parentheses comes to the
text it came to. -/
theorem outcomes_of_commented_declaration :
    ∃ call call' : Site,
      (parse .plain "const q = 's'; db.query((q));").tree.Commented
        (parse .plain "const /* a */ q = /* b */ 's'; db.query(/* c */ (q /* d */));").tree ∧
      (parse .plain "const q = 's'; db.query((q));").tree.Spelled ∧
      queryCalls "query" (parse .plain "const q = 's'; db.query((q));").tree = [call] ∧
      queryCalls "query"
        (parse .plain "const /* a */ q = /* b */ 's'; db.query(/* c */ (q /* d */));").tree =
        [call'] ∧
      call.outcome = .ok "s" ∧ call'.outcome = .ok "s" := by
  have commented : (parse .plain "const q = 's'; db.query((q));").tree.Commented
      (parse .plain "const /* a */ q = /* b */ 's'; db.query(/* c */ (q /* d */));").tree := by
    decide +kernel
  have spelled : (parse .plain "const q = 's'; db.query((q));").tree.Spelled := by decide +kernel
  have pairs := outcomes_of_commented "query" commented spelled
  have texts : (queryCalls "query" (parse .plain "const q = 's'; db.query((q));").tree).map
      (·.outcome) = [.ok "s"] := by
    decide +kernel
  have alike : List.Forall₂
      (fun call call' => List.Forall₂ Site.ReadsAlike call.consulted call'.consulted)
      (queryCalls "query" (parse .plain "const q = 's'; db.query((q));").tree)
      (queryCalls "query"
        (parse .plain "const /* a */ q = /* b */ 's'; db.query(/* c */ (q /* d */));").tree) := by
    decide +kernel
  obtain ⟨call, call', only, only', text, first⟩ := pairs.exists_of_map_eq_singleton texts
  rw [only, only'] at alike
  have same := first.2.mpr (List.forall₂_cons.mp alike).1
  exact ⟨call, call', commented, spelled, only, only', text, same.trans text⟩

/-- A comment that an expression is hidden by: in parentheses, before the text of a call. -/
theorem outcome_lost_to_comment :
    ∃ call call' : Site,
      (parse .plain "db.query(('s'));").tree.Commented
        (parse .plain "db.query((/* c */ 's'));").tree ∧
      (parse .plain "db.query(('s'));").tree.Spelled ∧
      queryCalls "query" (parse .plain "db.query(('s'));").tree = [call] ∧
      queryCalls "query" (parse .plain "db.query((/* c */ 's'));").tree = [call'] ∧
      call.outcome = .ok "s" ∧ call'.outcome = .error (.notALiteral "comment") := by
  have texts : (queryCalls "query" (parse .plain "db.query(('s'));").tree).map
      (·.outcome) = [.ok "s"] := by
    decide +kernel
  have texts' : (queryCalls "query" (parse .plain "db.query((/* c */ 's'));").tree).map
      (·.outcome) = [.error (.notALiteral "comment")] := by
    decide +kernel
  obtain ⟨call, only, text⟩ := List.map_eq_singleton_iff.mp texts
  obtain ⟨call', only', text'⟩ := List.map_eq_singleton_iff.mp texts'
  exact ⟨call, call', by decide +kernel, by decide +kernel, only, only', text, text'⟩

end TypedQueries
