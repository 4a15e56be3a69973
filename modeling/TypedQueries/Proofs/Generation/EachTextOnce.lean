import TypedQueries.Proofs.Generation.Accounting

/-! # Each text is described once

Whatever state a probe keeps and however its replies hang on it, it is asked for the texts of the
queries one after the other, each where it first occurs, up to the first that it cannot describe.
The descriptions are its replies, and each one is announced before the next text is asked for
(`Generation.each_text_once`).
-/

namespace TypedQueries

namespace Generation

/-- The exchange in which a query is described. -/
def describing (entry : String × QueryDescription) : Exchange Probe :=
  ⟨.describe entry.1, .ok entry.2⟩

/-- What is announced of a query that has been described. -/
def announcing (entry : String × QueryDescription) : Event :=
  .queryDescribed entry.1 entry.2.parameters.length entry.2.columns.length

/-- That the probe has been asked for the distinct texts of queries, in the order in which they
first occur, and for nothing else: for all of them, or up to the first that it could not describe.
Each description is announced before the next text is asked for. -/
inductive EachOnce (observers : Nat) (queries : List String)
    (exchanges : List (Exchange RunInterface)) :
    Except DatabaseFailure QueryDescriptions → Prop
  | all {descriptions : QueryDescriptions}
      (texts : descriptions.texts = queries.eraseDups)
      (asked : Exchange.rights exchanges = descriptions.entries.map describing)
      (heard : ∀ observer < observers,
        heardBy observer exchanges = descriptions.entries.map announcing)
      (inTurn : AmountTo observers exchanges (described descriptions.entries)) :
      EachOnce observers queries exchanges (.ok descriptions)
  | stopped {entries : List (String × QueryDescription)} {sql : String} {after : List String}
      {failure : DatabaseFailure}
      (texts : queries.eraseDups = entries.map Prod.fst ++ sql :: after)
      (asked : Exchange.rights exchanges =
        entries.map describing ++ [⟨.describe sql, .error failure⟩])
      (heard : ∀ observer < observers, heardBy observer exchanges = entries.map announcing)
      (inTurn : AmountTo observers exchanges
        (described entries ++ [.probed ⟨.describe sql, .error failure⟩])) :
      EachOnce observers queries exchanges (.error failure)

variable {observers : Nat} {queries : List String} {exchanges : List (Exchange RunInterface)}
  {actions : List Action} {outcome : Except DatabaseFailure QueryDescriptions}

theorem Describing.eachOnce (describe : Describing queries.eraseDups actions outcome)
    (amount : AmountTo observers exchanges actions) :
    EachOnce observers queries exchanges outcome := by
  cases describe with
  | all complete =>
      refine .all complete ?_ (fun observer joined => ?_) amount
      · rw [amount.rights_eq, probes_described]
        rfl
      · rw [amount.heardBy_eq joined, events_described]
        rfl
  | @stopped entries sql after failure split =>
      refine .stopped split ?_ (fun observer joined => ?_) amount
      · rw [amount.rights_eq, probes_append, probes_described]
        rfl
      · rw [amount.heardBy_eq joined, events_append, events_described]
        exact List.append_nil _

/-- The probe is asked for what the texts are, in their order, and for no more of them. -/
theorem EachOnce.exists_asked (once : EachOnce observers queries exchanges outcome) :
    ∃ texts, texts <+: queries.eraseDups ∧
      (Exchange.rights exchanges).map (·.request) = texts.map Probe.Request.describe := by
  have asking (entries : List (String × QueryDescription)) :
      (entries.map describing).map (·.request) =
        (entries.map Prod.fst).map Probe.Request.describe := by
    rw [List.map_map, List.map_map]
    rfl
  cases once with
  | @all descriptions texts asked =>
      refine ⟨descriptions.texts, texts ▸ List.prefix_rfl, ?_⟩
      rw [asked, asking]
      rfl
  | @stopped entries sql after failure texts asked =>
      refine ⟨entries.map Prod.fst ++ [sql], ?_, ?_⟩
      · rw [texts]
        exact ⟨after, by rw [List.append_assoc, List.singleton_append]⟩
      · rw [asked, List.map_append, asking, List.map_append]
        rfl

/-- No text is asked for twice. -/
theorem EachOnce.nodup_asked (once : EachOnce observers queries exchanges outcome) :
    ((Exchange.rights exchanges).map (·.request)).Nodup := by
  obtain ⟨texts, begins, asked⟩ := once.exists_asked
  rw [asked]
  exact ((nodup_eraseDups queries).sublist begins.sublist).map
    fun _ _ same => Probe.Request.describe.inj same

/-- **Each distinct text is described exactly once, in the order of first occurrence.** With any
server for the probe and the surroundings of a run, whatever state it keeps, describing queries
comes to a result. The probe is asked for no text twice and only for the texts of the queries, each
where it first occurs, one after the other; if it describes all of them, the result is its replies
by text, in this order; if not, the result is the first failure, after which it is asked for
nothing. Every observer hears of each description, and of nothing else. -/
theorem each_text_once {State : Type} (observers : Nat) (queries : List String)
    (serve : (request : RunInterface.Request) → StateM State (RunInterface.Reply request))
    (state : State) :
    ∃ exchanges outcome final,
      ((Probe.describeAll observers queries).interpret serve).run state = (outcome, final) ∧
      Activity.Served serve state exchanges final ∧
      EachOnce observers queries exchanges outcome ∧
      ((Exchange.rights exchanges).map (·.request)).Nodup := by
  have shows : Shows observers (Probe.describeAll observers queries)
      (Describing queries.eraseDups) := .describeAll queries
  obtain ⟨exchanges, outcome, final, run, served, actions, amount, describe⟩ :=
    Activity.Ensures.interpret_served shows serve state
  have once := describe.eachOnce amount
  exact ⟨exchanges, outcome, final, run, served, once, once.nodup_asked⟩

end Generation

end TypedQueries
