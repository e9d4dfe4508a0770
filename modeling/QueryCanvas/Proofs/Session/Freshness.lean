import Mathlib.Data.List.DropRight
import QueryCanvas.Proofs.Session.Flight

/-!
# Where the latest result comes from

A new query drops the latest result, but a run that is under way then goes on, and its rows become the
result of the new query. This is the only way to a result of a discarded canvas.

* `latest_play`: the latest result is that of the last run that ended with rows since the last new query.
* `started_play`: a run ends only after its statement was handed over.
* `fresh_iff_not_stale`: the latest result is missing or fresh, unless it is that of a run which was under
  way when the last new query was started.
-/

namespace QueryCanvas

/-- The reports since the last new query; all of them if there was none. -/
def sinceReset (h : List Report) : List Report :=
  h.rtakeWhile fun r => !r.isNewQuery

/-- The last run that ended with rows: the reports before its end, and its result. -/
def LastRows (h before : List Report) (r : QueryResult) : Prop :=
  ∃ after, h = before ++ .ended (.ok r) :: after ∧ ∀ x ∈ after, x.isRows = false

/-- **A fresh result**: it is that of the last run that ended with rows since the last new query, and the
statement of this run was handed over since then. -/
def FreshResult (h : List Report) (result : Option QueryResult) : Prop :=
  ∃ before r since, LastRows (sinceReset h) before r ∧ UnderWay before r.sql since ∧ result = some r

/-- **A stale result**: a run ended with rows since the last new query, but no statement was handed over
between the two, and no run has ended with rows after it. -/
def StaleResult (h : List Report) : Prop :=
  ∃ before r, LastRows (sinceReset h) before r ∧ ∀ x ∈ before, x.isHanded = false

/-- What the reports since the last new query say of the latest result. -/
inductive Latest (h : List Report) : Option QueryResult → Prop
  | missing (hrows : ∀ x ∈ h, x.isRows = false) : Latest h none
  | found {before : List Report} {r : QueryResult} (hlast : LastRows h before r) : Latest h (some r)

variable {h before before' since : List Report} {r : Report} {s s' : Session} {result : Option QueryResult}
  {q q' : QueryResult}

/-! ## The latest result -/

theorem sinceReset_snoc (hr : r.isNewQuery = false) : sinceReset (h ++ [r]) = sinceReset h ++ [r] :=
  List.rtakeWhile_concat_pos _ _ _ (by simp [hr])

theorem sinceReset_newQuery (h : List Report) : sinceReset (h ++ [.newQuery]) = [] :=
  List.rtakeWhile_concat_neg _ _ _ (by simp [Report.isNewQuery])

theorem LastRows.unique (hl : LastRows h before q) (hl' : LastRows h before' q') :
    before = before' ∧ q = q' := by
  obtain ⟨after, rfl, ha⟩ := hl
  obtain ⟨after', heq, ha'⟩ := hl'
  obtain ⟨hb, hx, -⟩ := last_unique heq (p := Report.isRows) rfl rfl ha ha'
  exact ⟨hb, Except.ok.inj (Report.ended.inj hx)⟩

theorem Latest.other (hl : Latest h result) (hr : r.isRows = false) : Latest (h ++ [r]) result := by
  cases hl with
  | missing hrows => exact .missing (List.forall_mem_append.2 ⟨hrows, by simpa using hr⟩)
  | @found before q hlast =>
    obtain ⟨after, rfl, ha⟩ := hlast
    have hlast' : LastRows (before ++ .ended (.ok q) :: after ++ [r]) before q :=
      ⟨after ++ [r], by simp, List.forall_mem_append.2 ⟨ha, by simpa using hr⟩⟩
    exact .found hlast'

/-- **One event** sets the latest result to the rows that a run ends with, and drops it for a new query. -/
theorem Latest.moves (hl : Latest (sinceReset h) s.result) (hm : Moves s r s') :
    Latest (sinceReset (h ++ [r])) s'.result := by
  cases hm with
  | newQuery c now =>
    rw [sinceReset_newQuery]
    exact .missing (by simp)
  | rows hrun harr hok =>
    rw [sinceReset_snoc rfl]
    exact .found ⟨[], rfl, by simp⟩
  | _ =>
    rw [sinceReset_snoc rfl]
    exact hl.other rfl

/-! ## Starts and ends -/

/-- Every run that has ended was under way before, and its rows carry its statement. -/
def Started (h : List Report) : Prop :=
  ∀ before outcome after, h = before ++ .ended outcome :: after →
    ∃ sql since, UnderWay before sql since ∧ ∀ q, outcome = .ok q → q.sql = sql

theorem Started.other (hs : Started h) (hr : r.isEnded = false) : Started (h ++ [r]) := by
  intro before outcome after heq
  rcases snoc_eq_append_cons.1 heq with ⟨-, rfl, -⟩ | ⟨c, -, rfl⟩
  · cases hr
  · exact hs before outcome c rfl

theorem Started.ended {run : Run} {a : Answer} (hs : Started h) (ht : Tracks h (some run) (some a))
    (limit : Value) : Started (h ++ [.ended (run.outcome limit a)]) := by
  intro before outcome after heq
  rcases snoc_eq_append_cons.1 heq with ⟨rfl, hout, -⟩ | ⟨c, -, rfl⟩
  · obtain ⟨since, hu, -, -⟩ := ht.since
    have hout' : run.outcome limit a = outcome := Report.ended.inj hout
    exact ⟨run.sql, since, hu, fun q hq => Run.sql_of_outcome (hout'.trans hq)⟩
  · exact hs before outcome c rfl

theorem Started.moves (hs : Started h) (ht : Tracks h s.running s.arrived) (hm : Moves s r s') :
    Started (h ++ [r]) := by
  by_cases hr : r.isEnded = true
  · cases r with
    | ended outcome =>
      obtain ⟨run, a, hrun, harr, hout, -, -⟩ := hm.ended
      rw [hrun, harr] at ht
      rw [← hout]
      exact hs.ended ht s.limit
    | _ => cases hr
  · exact hs.other (Bool.eq_false_iff.2 hr)

/-! ## Fresh and stale -/

/-- The last run that ended with rows since the last new query was started since then, or before it. -/
theorem Started.fresh_or_stale (hs : Started h) (hl : LastRows (sinceReset h) before q) :
    (∃ since, UnderWay before q.sql since) ∨ ∀ x ∈ before, x.isHanded = false := by
  obtain ⟨earlier, hearlier⟩ : sinceReset h <:+ h := List.rtakeWhile_suffix _ _
  obtain ⟨after, hafter, -⟩ := hl
  have hsplit : h = (earlier ++ before) ++ .ended (.ok q) :: after := by
    rw [← hearlier, hafter, List.append_assoc]
  obtain ⟨sql, since, ⟨⟨start, hstart⟩, hbetween⟩, hsql⟩ := hs _ _ _ hsplit
  rw [← hsql q rfl] at hstart
  -- The statement was handed over either among the reports since the new query, or before them.
  rcases List.append_eq_append_iff.1 hstart with ⟨rest, -, hrest⟩ | ⟨rest, -, hrest⟩
  · exact .inl ⟨since, ⟨rest, hrest⟩, hbetween⟩
  · cases rest with
    | nil => exact .inl ⟨since, ⟨[], hrest.symm⟩, hbetween⟩
    | cons x rest =>
      refine .inr fun y hy => ?_
      have hmem : y ∈ since := by
        rw [(List.cons.inj hrest).2]
        exact List.mem_append_right _ hy
      have := hbetween y hmem
      simp only [Report.isBetween, Bool.and_eq_true, Bool.not_eq_true'] at this
      exact this.1

/-- A latest result is missing or fresh unless it is stale. -/
theorem Latest.fresh_iff (hl : Latest (sinceReset h) result) (hs : Started h) :
    result = none ∨ FreshResult h result ↔ ¬StaleResult h := by
  cases hl with
  | missing hrows =>
    refine iff_of_true (.inl rfl) ?_
    rintro ⟨before, q, ⟨after, heq, -⟩, -⟩
    have := hrows (.ended (.ok q)) (by simp [heq])
    cases this
  | @found before q hlast =>
    constructor
    · rintro (hnone | ⟨before', q', since, hlast', ⟨⟨start, rfl⟩, -⟩, -⟩) ⟨before'', q'', hlast'', hquiet⟩
      · cases hnone
      · obtain ⟨rfl, -⟩ := hlast'.unique hlast''
        have := hquiet (.handed q'.sql) (by simp)
        cases this
    · intro hstale
      rcases hs.fresh_or_stale hlast with ⟨since, hu⟩ | hquiet
      · exact .inr ⟨before, q, since, hlast, hu, rfl⟩
      · exact absurd ⟨before, q, hlast, hquiet⟩ hstale

namespace LiveSession

section Played

variable (dialect : Sql.Dialect) (cat : Catalog) (limit : Value) (ids : IdSupply) (clock : Clock)
  (events : List Event)

/-- **The latest result** is that of the last run that ended with rows since the last new query. -/
theorem latest_play : Latest (sinceReset (play step events (opened dialect cat limit ids clock)).1)
    (play step events (opened dialect cat limit ids clock)).2.session.result := by
  induction events using List.reverseRecOn with
  | nil => exact .missing (by simp [play, sinceReset])
  | append_singleton events e ih =>
    rw [play_snoc]
    exact ih.moves (step_moves _ e)

/-- **A run ends only after it has started.** -/
theorem started_play : Started (play step events (opened dialect cat limit ids clock)).1 := by
  induction events using List.reverseRecOn with
  | nil =>
    intro before outcome after heq
    simp [play] at heq
  | append_singleton events e ih =>
    rw [play_snoc]
    exact ih.moves (tracks_play dialect cat limit ids clock events) (step_moves _ e)

/-- **No stale result, but one.** Whatever happens to a session, and in whatever order, its latest result is
missing, or it is that of a run that was started since the last new query, exactly unless a run that was
under way when the last new query was started has ended with rows since then, and no other run has after
it. -/
theorem fresh_iff_not_stale :
    (play step events (opened dialect cat limit ids clock)).2.session.result = none ∨
      FreshResult (play step events (opened dialect cat limit ids clock)).1
        (play step events (opened dialect cat limit ids clock)).2.session.result ↔
      ¬StaleResult (play step events (opened dialect cat limit ids clock)).1 :=
  (latest_play dialect cat limit ids clock events).fresh_iff
    (started_play dialect cat limit ids clock events)

end Played

/-- A new query is started while a run is under way, which then ends with rows. -/
def overtaken : List Event :=
  [.edit (.addTable (.text "orders")), .execute, .newQuery (.text "Q"), .answer (.rows (some [])), .proceed]

/-- **The result of the discarded canvas** becomes that of the new query, which has no table. -/
theorem result_overtaken :
    (play step overtaken shopSession).2.session.canvas.tables = [] ∧
    (play step overtaken shopSession).2.session.result = some ⟨"SELECT *\nFROM orders", []⟩ ∧
    ¬FreshResult (play step overtaken shopSession).1 (play step overtaken shopSession).2.session.result := by
  refine ⟨rfl, rfl, ?_⟩
  rintro ⟨before, q, since, ⟨after, hsince, -⟩, ⟨⟨start, rfl⟩, -⟩, -⟩
  have hreports : sinceReset (play step overtaken shopSession).1 =
      [.answered (.rows (some [])), .ended (.ok ⟨"SELECT *\nFROM orders", []⟩)] := rfl
  have hmem : .handed q.sql ∈ sinceReset (play step overtaken shopSession).1 := by simp [hsince]
  rw [hreports] at hmem
  simp at hmem

end LiveSession

end QueryCanvas
