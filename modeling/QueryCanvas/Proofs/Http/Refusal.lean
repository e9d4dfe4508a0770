import QueryCanvas.Proofs.Http.Answer
import QueryCanvas.Proofs.Json.Reader
import QueryCanvas.Proofs.Session.Execution

/-!
# What an error response leaves behind

A request that is answered with an error leaves the sessions, their canvases and their results as they
were. There is one exception: what is asked of a session is done before the response shows it, and some
things cannot be shown. An edit may lead to a number that is too long to be written; a name, an operand or
a row may hold a text that no encoding carries. Such a request strands its session.

* `Registry.holdings`: the sessions, each with its canvas and its latest result.
* `App.Strands`: what strands a session. `strands_of_spellsTooLong` and `strands_of_torn` give some of it.
* `errors_change_nothing`: every other error response changes nothing.
* `strands_tooManyOnes`: a request that is answered with an error and has changed a canvas.
-/

namespace QueryCanvas

open Canvas Sql

/-! ## What a registry holds -/

namespace Registry

variable {r : Registry} {key : String} {c : Canvas} {s s' : Session} {h : String × Canvas × Option QueryResult}

/-- The stored sessions under their keys, each with its canvas and its latest result. -/
def holdings (r : Registry) : List (String × Canvas × Option QueryResult) :=
  r.entries.map fun e => (e.1, e.2.canvas, e.2.result)

theorem holdings_replace (r : Registry) (key : String) (s : Session) : (r.replace key s).holdings =
    r.holdings.map fun h => if h.1 = key then (key, s.canvas, s.result) else h := by
  simp only [holdings, replace, List.map_map]
  refine List.map_congr_left fun e _ => ?_
  by_cases he : e.1 = key <;> simp [he]

/-- What is held under a key is held of the session that is found there. -/
theorem Keyed.holding_eq (hr : r.Keyed) (hs : r.find? key = some s) (hh : h ∈ r.holdings) (hkey : h.1 = key) :
    h = (key, s.canvas, s.result) := by
  obtain ⟨e, he, rfl⟩ := List.mem_map.1 hh
  subst hkey
  rw [(find?_eq_some hr.once).2 he, Option.some.injEq] at hs
  rw [hs]

/-- A session that keeps canvas and result changes nothing of what is held. -/
theorem Keyed.holdings_kept (hr : r.Keyed) (hs : r.find? key = some s) (hcanvas : s'.canvas = s.canvas)
    (hresult : s'.result = s.result) : (r.replace key s').holdings = r.holdings := by
  rw [holdings_replace, hcanvas, hresult]
  conv_rhs => rw [← List.map_id r.holdings]
  refine List.map_congr_left fun h hh => ?_
  split
  next hkey => exact (hr.holding_eq hs hh hkey).symm
  next => rfl

/-- Holdings with another canvas and result under a key. -/
def withHolding (key : String) (c : Canvas) (result : Option QueryResult)
    (hs : List (String × Canvas × Option QueryResult)) : List (String × Canvas × Option QueryResult) :=
  hs.map fun h => if h.1 = key then (key, c, result) else h

/-- The saved forms that are held are the same with another canvas only if that one has the same saved form. -/
theorem Keyed.toValue_eq {result : Option QueryResult} (hr : r.Keyed) (hs : r.find? key = some s)
    (hsame : (withHolding key c result r.holdings).map (·.2.1.toValue) = r.holdings.map (·.2.1.toValue)) :
    c.toValue = s.canvas.toValue := by
  have hmem : (key, s.canvas, s.result) ∈ r.holdings := List.mem_map_of_mem ((find?_eq_some hr.once).1 hs)
  rw [withHolding, List.map_map] at hsame
  have hself := List.map_inj_left.1 hsame _ hmem
  simp only [Function.comp, if_true] at hself
  exact hself

end Registry

/-- A session keeps its result but for rows and new queries. -/
theorem Moves.result {s s' : Session} {r : Report} (hm : Moves s r s') (hrows : r.isRows = false)
    (hquery : r.isNewQuery = false) : s'.result = s.result := by
  cases hm with
  | rows => cases hrows
  | newQuery => cases hquery
  | _ => rfl

namespace Http

variable {asked : Option (String × Task)} {a : App} {out : Result × App} {r : Request} {key : String} {e : Edit}
  {c : Canvas} {s : Session} {task : Task} {result : Option QueryResult} {host : Host}

/-! ## Responses -/

theorem status_handle (a : App) (r : Request) :
    (a.handle r).1.status = (a.answer r (Target.ofText r.target)).1.status a.host := by
  unfold App.handle App.forMethod
  dsimp only
  split <;> rfl

theorem registry_handle (a : App) (r : Request) :
    (a.handle r).2.registry = (a.answer r (Target.ofText r.target)).2.registry := rfl

/-- **What strands a session** of the service: the task is carried out, with this canvas and this result, and the
response cannot show what it shows of them. -/
def App.Strands (a : App) (key : String) (task : Task) (c : Canvas) (result : Option QueryResult) : Prop :=
  ∃ s, a.registry.find? key = some s ∧ Http.Strands s a.ids a.warehouse task c result

/-- What can be done to the sessions next to an error. -/
theorem Serves.error (h : Serves asked a out) (ha : a.registry.Sound a.ids) (herr : 400 ≤ out.1.status host)
    (hcalm : ∀ key task c result, asked = some (key, task) → ¬a.Strands key task c result) :
    out.2.registry.holdings = a.registry.holdings := by
  obtain ⟨result, a'⟩ := out
  cases h with
  | idle hreg => rw [hreg]
  | opened hresult hsent | closed hresult hsent =>
    simp only at hresult
    rw [hresult, status_done hsent] at herr
    omega
  | acted hs hid hids hidentified hreg heffect =>
    rw [hreg]
    cases heffect with
    | kept hcanvas hresult => exact ha.holdings_kept hs hcanvas hresult
    | shown hstatus hsent =>
      rw [status_done hsent] at herr
      omega
    | stranded hasked hstrands =>
      rw [ha.id_eq hs] at hasked
      exact absurd ⟨_, hs, hstrands⟩ (hcalm _ _ _ _ hasked)

theorem BodyKind.command?_eq_some {k : BodyKind} {body : String} {x : Command} (h : k.command? host body = some x) :
    ∃ v, App.bodyValue host body = .ok v ∧ k.check v = .ok x := by
  unfold BodyKind.command? at h
  split at h
  next => cases h
  next v hv =>
    split at h
    next y hy =>
      cases h
      exact ⟨v, hv, hy⟩
    next => cases h

/-- What the service does with a session that is asked for something. -/
def App.carryOut : Task → Session → App → Result × App
  | .command x => App.command x
  | .execute => App.execute

/-- What is asked for is carried out on the session that it is asked of. -/
theorem atEndpoint_task {x : Endpoint} {t : Target} {body : String} (h : x.task? a.host body = some (key, task)) :
    a.atEndpoint x t body = a.withSession key (App.carryOut task) := by
  cases hb : x.body? with
  | some b =>
    rw [task?_body hb] at h
    obtain ⟨y, hy, hpair⟩ := Option.map_eq_some_iff.1 h
    obtain ⟨hkey, rfl⟩ := Prod.mk.inj hpair
    obtain ⟨v, hv, hc⟩ := BodyKind.command?_eq_some hy
    rw [atEndpoint_body hb, App.bodyRequest, hv, ← hkey]
    simp only [hc]
    rfl
  | none =>
    cases x with
    | removeTable session table =>
      cases h
      rfl
    | execute session =>
      cases h
      rfl
    | removePart session kind item =>
      obtain ⟨k, hk, hpair⟩ := Option.map_eq_some_iff.1 h
      cases hpair
      simp only [App.atEndpoint]
      congr 1
      funext s a
      simp only [App.removePart, hk]
      rfl
    | reset | rename | addTable | toggleColumn | addJoin | addFilter | addSort | addGroup | addAggregate
      | setLimit => cases hb
    | _ => cases h

/-- A request is answered with what is carried out on its session. -/
theorem answer_task (hasked : r.task? a.host = some (key, task)) (hs : a.registry.find? key = some s) :
    a.answer r (Target.ofText r.target) = (a.touched key s).carryOut task (s.touch a.clock).1 := by
  unfold Request.task? at hasked
  cases hdest : destination r.method (Target.ofText r.target).path with
  | endpoint x =>
    rw [hdest] at hasked
    rw [answer_endpoint hdest, atEndpoint_task hasked]
    exact withSession_found hs
  | methodNotAllowed | elsewhere | nowhere =>
    rw [hdest] at hasked
    cases hasked

/-- **What strands a session is lost**, and stays done. -/
theorem Strands.carryOut (h : Strands s a.ids a.warehouse task c result) (hs : Holds a s) :
    (a.carryOut task s).1.IsLost ∧
      ∃ s', (a.carryOut task s).2.registry = a.registry.replace s.id s' ∧ s'.canvas = c ∧ s'.result = result := by
  cases h with
  | edited hedit hunshown =>
    obtain ⟨hreg, -, ⟨-, hshown⟩ | ⟨hlost, -⟩⟩ := edit_accepted hs hedit
    · exact absurd hunshown hshown
    · exact ⟨hlost, _, hreg, rfl, rfl⟩
  | renewed hname =>
    obtain ⟨-, hsent⟩ | ⟨hlost, -⟩ := reset_done (some _) s a
    · exact absurd hname hsent
    · exact ⟨hlost, _, rfl, rfl, rfl⟩
  | @ran sql rows hsql hsome hidle hrows hunsent =>
    have hbegin : s.begin a.clock = .ok (sql,
        { (s.touch a.clock).1 with running := some ⟨sql, false⟩, arrived := none }, (s.touch a.clock).2) := by
      simp [Session.begin, hsql, hsome, hidle]
    obtain ⟨kept, hfinish, hkept, -⟩ := Session.finish_started
      (s := { (s.touch a.clock).1 with running := some ⟨sql, false⟩, arrived := none }) rfl rfl rfl
      (a.warehouse.run sql).1
    have hlost : ¬Json.encodable (resultView s.canvas ⟨sql, rows.getD []⟩) = true := by
      rw [encodable_resultView, not_and_or]
      simpa using hunsent
    have hout : Run.outcome (s.touch a.clock).1.limit ⟨sql, false⟩ (a.warehouse.run sql).1 =
        .ok ⟨sql, rows.getD []⟩ := by rw [hrows]; rfl
    simp only [App.carryOut, App.execute, hbegin, hfinish, hout]
    exact ⟨isLost_done hlost, _, rfl, rfl, hkept _ hout⟩

/-- **A stranding request** is answered with an error, and what was asked for stays done. -/
theorem strands_answered (ha : a.registry.Sound a.ids) (hasked : r.task? a.host = some (key, task))
    (hstrands : a.Strands key task c result) : (a.handle r).1.status = 500 ∧
      (a.handle r).2.registry.holdings = Registry.withHolding key c result a.registry.holdings := by
  obtain ⟨s, hs, hstrands⟩ := hstrands
  have htouched : Strands (s.touch a.clock).1 (a.touched key s).ids (a.touched key s).warehouse task c result :=
    hstrands.touch
  obtain ⟨hlost, s', hreg, rfl, rfl⟩ := htouched.carryOut (holds_touched ha hs)
  rw [status_handle, registry_handle, answer_task hasked hs, hreg]
  refine ⟨hlost.status _, ?_⟩
  rw [Session.id_touch, ha.id_eq hs, registry_touched, Registry.replace_replace, Registry.holdings_replace]
  rfl

/-- What goes on between requests changes what is held only if a run ends with rows. -/
theorem meanwhile_holdings {x : Event} (ha : a.registry.Sound a.ids) (hx : x.keepsCanvas = true)
    (hrows : ∀ report, (a.live.step (.within key x)).1 = .within report → report.isRows = false) :
    (a.meanwhile key x).registry.holdings = a.registry.holdings := by
  simp only [App.meanwhile, App.live, LiveRegistry.step] at hrows ⊢
  cases hs : a.registry.find? key with
  | none => rfl
  | some s =>
    rw [hs] at hrows
    have hmoves := LiveSession.step_moves ⟨s, a.ids, a.clock⟩ x
    obtain ⟨hkeeps, hquery, -⟩ := LiveSession.step_kept ⟨s, a.ids, a.clock⟩ hx
    exact ha.holdings_kept hs (hmoves.canvas hkeeps).1 (hmoves.result (hrows _ rfl) hquery)

/-- **Errors change nothing.** Whatever state requests have led to, on whatever host: a request that is answered with
an error leaves the sessions, their canvases and their results as they are, unless it strands its session; such a
request is answered with an error, and the canvas and the result that it leads to stay. Nor does a run that goes on
between requests change any of them, unless it ends with rows. -/
theorem errors_change_nothing (h : Served a) :
    (∀ r, 400 ≤ (a.handle r).1.status →
      (∀ key task c result, r.task? a.host = some (key, task) → ¬a.Strands key task c result) →
      (a.handle r).2.registry.holdings = a.registry.holdings) ∧
    (∀ r key task c result, r.task? a.host = some (key, task) → a.Strands key task c result →
      (a.handle r).1.status = 500 ∧
        (a.handle r).2.registry.holdings = Registry.withHolding key c result a.registry.holdings) ∧
    ∀ key x, x.keepsCanvas = true →
      (∀ report, (a.live.step (.within key x)).1 = .within report → report.isRows = false) →
      (a.meanwhile key x).registry.holdings = a.registry.holdings := by
  refine ⟨fun r herr hcalm => ?_, fun r key task c result => strands_answered h.sound,
    fun key x => meanwhile_holdings h.sound⟩
  rw [status_handle] at herr
  exact (serves_answer h.sound r).error h.sound herr hcalm

/-! ## A comparison with a number -/

/-- A warehouse with one table, which has a numeric column. -/
def ordersWarehouse : Warehouse :=
  ⟨.ansi, [⟨"orders", [⟨"total", .text "NUMERIC(10, 2)", true⟩], [], [], none⟩], none, [], []⟩

/-- A request with some texts as its body. -/
def posted (path : String) (fields : List (String × String)) : Request :=
  ⟨"POST", "/api/query-builder/sessions" ++ path, Json.print (Json.textRecord fields), []⟩

/-- A service with one session, on whose canvas the table is placed. -/
def ordersServed : App :=
  (((App.start .usual ordersWarehouse 5).handle (posted "" [])).2.handle
    (posted "/id-1/tables" [("table", "orders")])).2

theorem served_ordersServed : Served ordersServed :=
  .handled (.handled (.start .usual ordersWarehouse 5) _) _

theorem host_ordersServed : ordersServed.host = .usual :=
  (host_handle _ _).trans (host_handle _ _)

/-- A request for a table that the catalog does not have. -/
def ghostsPosted : Request :=
  posted "/id-1/tables" [("table", "ghosts")]

/-- The request is refused, and everything is as it was. -/
theorem ghosts_refused : (ordersServed.handle ghostsPosted).1.status = 404 ∧
    (ordersServed.handle ghostsPosted).2.registry.holdings = ordersServed.registry.holdings := by
  obtain ⟨hkept, hstranded, -⟩ := errors_change_nothing served_ordersServed
  have hstatus : (ordersServed.handle ghostsPosted).1.status = 404 := by decide +kernel
  refine ⟨hstatus, hkept _ (by omega) fun key task c result hasked hstrands => ?_⟩
  have := (hstranded _ key task c result hasked hstrands).1
  omega

/-- A filter that is accepted strands its session if the canvas with it cannot be shown. -/
theorem strands_of_filter {t col op : String} {o : FilterOperator} {v : Value} {u : FilterValue}
    (hs : a.registry.find? key = some s) (href : Refers s.canvasCatalog s.canvas t col)
    (hop : chooseOperator (.text op) = .ok o) (hv : FilterValue.ofRaw o v = .ok u)
    (hu : FilterValue.check o u = .ok ())
    (hunshown : ∀ id connective,
      Unshown s.catalog { s.canvas with filters := s.canvas.filters ++ [⟨id, t, col, o, u, connective⟩] }) :
    ∃ f : Filter, a.Strands key (.command (.edit (.addFilter (.text t) (.text col) (.text op) v .null)))
      { s.canvas with filters := s.canvas.filters ++ [f] } s.result := by
  have hk : connectiveOf .null = .ok none := rfl
  have hadded : Addition s.canvasCatalog s.canvas a.ids.next.1
      (.addFilter (.text t) (.text col) (.text op) v .null) _ _ := .filter href hop hk hv hu
  exact ⟨_, s, hs, .edited (perform_eq_ok.2 (.addition hadded)) (hunshown _ _)⟩

/-- A filter that compares a numeric column by size with a number of too many digits strands its session. -/
theorem strands_of_spellsTooLong {t col text : String} (hs : a.registry.find? key = some s)
    (href : Refers s.canvasCatalog s.canvas t col)
    (hnumeric : ((s.catalog.lookup? t).bind (·.column? col)).any Column.isNumeric = true)
    (hlong : SpellsTooLong text) :
    ∃ f : Filter,
      a.Strands key (.command (.edit (.addFilter (.text t) (.text col) (.text "less_than") (.text text) .null)))
        { s.canvas with filters := s.canvas.filters ++ [f] } s.result := by
  refine strands_of_filter (o := .lessThan) (u := .scalar (.text text)) hs href rfl rfl rfl fun id connective => ?_
  refine .inl ⟨List.ne_nil_of_mem href.1, fun hfits => ?_⟩
  have hfilter := hfits.1 _ (List.mem_append_right _ (List.mem_singleton_self _))
  exact hfilter.2 ⟨rfl, hnumeric, text, rfl, hlong⟩

/-- So does a filter that compares any column with a torn text. -/
theorem strands_of_torn {t col : String} {x : Text.Torn} (hs : a.registry.find? key = some s)
    (href : Refers s.canvasCatalog s.canvas t col) :
    ∃ f : Filter,
      a.Strands key (.command (.edit (.addFilter (.text t) (.text col) (.text "equals") (.torn x) .null)))
        { s.canvas with filters := s.canvas.filters ++ [f] } s.result := by
  refine strands_of_filter (o := .equals) (u := .scalar (.torn x)) hs href rfl rfl rfl fun id connective => ?_
  refine .inr ((unsendable_canvas _).2 (.inr (.inr ⟨.torn x, ?_, .torn⟩)))
  exact List.mem_flatMap.2 ⟨_, List.mem_append_right _ (List.mem_singleton_self _), List.mem_singleton_self _⟩

/-- A request for a filter that compares the numeric column with a text. -/
def totalBelow (text : String) : Request :=
  posted "/id-1/filters" [("table", "orders"), ("column", "total"), ("operator", "less_than"), ("value", text)]

/-- A body with plain texts is read. -/
theorem bodyValue_print {fs : List (String × String)} (h : ∀ f ∈ fs, Json.IsPlainField f) (hne : fs ≠ [])
    (hnames : (fs.map (·.1)).Nodup) :
    App.bodyValue ordersServed.host (Json.print (Json.textRecord fs)) = .ok (some (Json.textRecord fs)) := by
  have hfilled : Json.print (Json.textRecord fs) ≠ "" := by
    intro hempty
    have hchars := Json.toList_print_textRecord h hne
    rw [hempty] at hchars
    cases hchars
  simp only [App.bodyValue, if_neg hfilled, host_ordersServed, Host.usual, Json.read_print_texts h hne hnames]

theorem task?_totalBelow {text : String} (h : Json.IsPlainText text) :
    (totalBelow text).task? ordersServed.host = some ("id-1",
      .command (.edit (.addFilter (.text "orders") (.text "total") (.text "less_than") (.text text) .null))) := by
  have hdest : destination "POST" (Target.ofText ("/api/query-builder/sessions" ++ "/id-1/filters")).path =
      .endpoint (.addFilter "id-1") := by decide +kernel
  have hplain : ∀ f ∈ [("table", "orders"), ("column", "total"), ("operator", "less_than"), ("value", text)],
      Json.IsPlainField f := by
    have hothers : ∀ f ∈ [("table", "orders"), ("column", "total"), ("operator", "less_than")],
        Json.IsPlainField f := by decide
    have hname : Json.IsPlainText "value" := by decide
    exact forall_mem_snoc hothers ⟨hname, h⟩
  have hvalue := bodyValue_print hplain (by simp) (by simp)
  simp only [Request.task?, totalBelow, posted, hdest, Endpoint.task?, Endpoint.body?, BodyKind.command?,
    Option.bind_some, hvalue]
  rfl

theorem isPlainText_ones (n : Nat) : Json.IsPlainText (String.ofList (List.replicate n '1')) := by
  intro c hc
  rw [String.toList_ofList] at hc
  rw [List.eq_of_mem_replicate hc]
  decide

/-- **An error that changes a canvas**: a comparison with a number of too many digits is placed on the canvas before
the response turns out to be an error. -/
theorem strands_tooManyOnes : Served ordersServed ∧ (ordersServed.handle (totalBelow tooManyOnes)).1.status = 500 ∧
    (ordersServed.handle (totalBelow tooManyOnes)).2.registry.holdings.map (·.2.1.toValue) ≠
      ordersServed.registry.holdings.map (·.2.1.toValue) := by
  have hsound := served_ordersServed.sound
  have hfound : (ordersServed.registry.find? "id-1").isSome = true := by decide +kernel
  obtain ⟨s, hs⟩ := Option.isSome_iff_exists.1 hfound
  have hchecked : (ordersServed.registry.find? "id-1").all (fun s => s.canvas.tables.contains "orders" &&
      ((s.canvasCatalog.lookup? "orders").bind (·.column? "total")).isSome &&
      ((s.catalog.lookup? "orders").bind (·.column? "total")).any Column.isNumeric) = true := by decide +kernel
  rw [hs, Option.all_some, Bool.and_eq_true, Bool.and_eq_true] at hchecked
  obtain ⟨⟨htable, hcolumn⟩, hnumeric⟩ := hchecked
  have href : Refers s.canvasCatalog s.canvas "orders" "total" := by
    obtain ⟨col, hcol⟩ := Option.isSome_iff_exists.1 hcolumn
    obtain ⟨info, hinfo, hcol⟩ := Option.bind_eq_some_iff.1 hcol
    exact ⟨List.contains_iff_mem.1 htable, info, hinfo, col, hcol⟩
  have hlong : SpellsTooLong tooManyOnes := spellsTooLong_ones (by decide)
  obtain ⟨f, hstrands⟩ := strands_of_spellsTooLong hs href hnumeric hlong
  have hones : Json.IsPlainText tooManyOnes := isPlainText_ones 4301
  obtain ⟨hstatus, hholdings⟩ := strands_answered hsound (task?_totalBelow hones) hstrands
  refine ⟨served_ordersServed, hstatus, fun hsame => ?_⟩
  rw [hholdings] at hsame
  have hfilters := hsound.toValue_eq hs hsame
  simp [toValue] at hfilters

end Http

end QueryCanvas
