import QueryCanvas.Proofs.Audit.Trail
import QueryCanvas.Proofs.Http.View
import QueryCanvas.Proofs.Session.Turnover
import QueryCanvas.Proofs.Sql.Total

/-!
# What requests do to the sessions

A request opens a session, closes one, does something with one, or leaves all of them alone.

* `Unshown`: which canvases a response cannot show (`compiled_sessionView`).
* `Strands`: the tasks that are carried out although the response cannot show what they lead to.
* `Effect`: what becomes of the canvas and the result of a session that a request is about, next to the
  result of the request.
* `Serves`: what a request can do to the registry. `serves_atEndpoint` says that every endpoint does one
  of these.
* `Served`: the states that requests lead to, while runs go on. Their registries are sound (`Served.sound`).
-/

namespace QueryCanvas

open Canvas Sql

/-! ## Sessions that are stored -/

/-- **A sound registry**: it holds each session once under its id, ids that were given, and every session
is identified. -/
structure Registry.Sound (r : Registry) (ids : IdSupply) : Prop extends r.Keyed where
  identified : ∀ s ∈ r.sessions, ∀ clock, Identified ⟨s, ids, clock⟩
  given : ∀ key ∈ r.keys, ∃ n ≤ ids.given, key = IdSupply.nth n

namespace Registry.Sound

variable {r : Registry} {ids ids' : IdSupply} {key : String} {s : Session}

theorem empty (capacity : Int) (ids : IdSupply) : (Registry.empty capacity).Sound ids where
  toKeyed := keyed_empty capacity
  identified := by simp [Registry.empty, sessions]
  given := by simp [Registry.empty, keys]

theorem later (h : r.Sound ids) (hids : ids.given ≤ ids'.given) : r.Sound ids' where
  toKeyed := h.toKeyed
  identified s hs clock := (h.identified s hs clock).later hids clock
  given key hkey := by
    obtain ⟨n, hn, heq⟩ := h.given key hkey
    exact ⟨n, Nat.le_trans hn hids, heq⟩

theorem drop (h : r.Sound ids) (key : String) : (r.drop key).Sound ids where
  toKeyed := h.toKeyed.drop key
  identified s hs := h.identified s (mem_sessions_drop hs)
  given k hk := h.given k (by
    rw [h.keys_drop] at hk
    exact List.mem_of_mem_erase hk)

theorem replace (h : r.Sound ids) (hid : s.id = key) (hs : ∀ clock, Identified ⟨s, ids, clock⟩) :
    (r.replace key s).Sound ids where
  toKeyed := h.toKeyed.replace hid
  identified t ht := by
    rcases mem_sessions_replace ht with rfl | ht
    · exact hs
    · exact h.identified t ht
  given k hk := h.given k (by rwa [keys_replace] at hk)

/-- The next id is no key. -/
theorem fresh (h : r.Sound ids) : ids.next.1 ∉ r.keys := by
  intro hmem
  obtain ⟨n, hn, heq⟩ := h.given _ hmem
  have : ids.given + 1 = n := IdSupply.nth_injective heq
  omega

/-- A session is stored under the next id. -/
theorem put (h : r.Sound ids) (hid : s.id = ids.next.1) (hids : ids.given < ids'.given)
    (hs : ∀ clock, Identified ⟨s, ids', clock⟩) : (r.put s.id s).Sound ids' := by
  have hnew : s.id ∉ r.keys := hid ▸ h.fresh
  have hlater := h.later (Nat.le_of_lt hids)
  refine ⟨h.toKeyed.put hnew, fun t ht => ?_, fun k hk => ?_⟩
  · rw [sessions, entries_put hnew, List.map_append, List.mem_append, List.map_singleton,
      List.mem_singleton] at ht
    rcases ht with ht | rfl
    · exact hlater.identified t ht
    · exact hs
  · rw [keys_put hnew, List.mem_append, List.mem_singleton] at hk
    rcases hk with hk | rfl
    · exact hlater.given k hk
    · exact ⟨ids.given + 1, hids, hid⟩

end Registry.Sound

/-- What has the canvas of an identified session is identified. -/
theorem Identified.congr {s s' : Session} {ids : IdSupply} {clock clock' : Clock}
    (h : Identified ⟨s, ids, clock⟩) (hcanvas : s'.canvas = s.canvas)
    (hcat : s'.canvasCatalog = s.canvasCatalog) : Identified ⟨s', ids, clock'⟩ := by
  refine ⟨?_, ?_⟩
  · simp only [hcanvas, hcat]
    exact h.sound
  · simp only [hcanvas]
    exact h.given

/-- A run that was just started ends with what becomes of the answer. -/
theorem Session.finish_started {s : Session} {run : Run} (hrun : s.running = some run)
    (hasked : run.cancelRequested = false) (harr : s.arrived = none) (answer : Answer) :
    ∃ result, s.finish answer = (some (run.outcome s.limit answer),
        { s with running := none, arrived := none, result := result }) ∧
      (∀ r, run.outcome s.limit answer = .ok r → result = some r) ∧
      ∀ e, run.outcome s.limit answer = .error e → result = s.result := by
  simp only [finish, receive, accepts, resume, hrun, harr, hasked, Option.any_some, Option.isSome_some,
    Option.all_none, Bool.and_self, Bool.false_eq_true, if_true, if_false]
  refine ⟨_, rfl, fun r hr => ?_, fun e he => ?_⟩
  · rw [hr]
  · rw [he]

/-- A run ends with rows only if the warehouse answers with some. -/
theorem Run.outcome_eq_ok {run : Run} {limit : Value} {answer : Answer} {r : QueryResult}
    (h : run.outcome limit answer = .ok r) : ∃ rows, answer = .rows rows ∧ r = ⟨run.sql, rows.getD []⟩ := by
  cases answer with
  | rows rows => exact ⟨rows, rfl, (Except.ok.inj h).symm⟩
  | fault | silence | abandoned => cases h

/-- A run starts if the statement can be executed and no other run is under way. -/
theorem Session.begin_eq_ok {s t : Session} {sql : String} {clock clock' : Clock}
    (h : s.begin clock = .ok (sql, t, clock')) :
    s.sql = .ok sql ∧ Sql.isExecutable sql = true ∧ s.isExecuting = false := by
  unfold begin at h
  split at h
  next => cases h
  next sql' hsql =>
    split at h
    next => cases h
    next hsome =>
      split at h
      next => cases h
      next hidle =>
        cases h
        exact ⟨hsql, by simpa using hsome, by simpa using hidle⟩

namespace Http

variable {s s' : Session} {a a' : App} {out : Result × App} {n : Nat} {c : Canvas} {host : Host}

/-! ## Results -/

/-- The status of the response to a result. -/
def Result.status (host : Host) (r : Result) : Nat :=
  (r.settled host).toResponse.status

/-- A result that no host can answer with. -/
def Result.IsLost (r : Result) : Prop :=
  ∀ host, r.settled host = .crashed

theorem Result.IsLost.status {r : Result} (h : r.IsLost) (host : Host) : r.status host = 500 := by
  rw [Result.status, h host]
  rfl

theorem isLost_done {v : Value} (h : Json.encodable v ≠ true) : (Result.done n v).IsLost := fun _ => by
  rw [Result.settled, if_neg h]

/-- What can be sent is answered with its own status. -/
theorem status_done {v : Value} (h : Json.encodable v = true) : (Result.done n v).status host = n := by
  rw [Result.status, Result.settled, if_pos h]
  rfl

/-! ## What can be shown -/

/-- **A canvas that cannot be shown**: it has a table and a number that is too long to be written, or an id, a name or
an operand that no response can carry. -/
def Unshown (cat : Catalog) (c : Canvas) : Prop :=
  (c.tables ≠ [] ∧ ¬NumbersFit cat c) ∨ Unsendable c.toValue

/-- **A session is shown** exactly if its canvas can be. -/
theorem compiled_sessionView (n : Nat) (hshaped : ∀ f ∈ s.canvas.filters, f.value.shape = f.operator.shape) :
    ((∃ v, App.compiled n (sessionView s) = .done n v ∧ Json.encodable v = true) ∧ ¬Unshown s.catalog s.canvas) ∨
      (App.compiled n (sessionView s)).IsLost ∧ Unshown s.catalog s.canvas := by
  have hwritten : ∀ {sql}, s.sql = .ok sql → ¬(s.canvas.tables ≠ [] ∧ ¬NumbersFit s.catalog s.canvas) →
      ((∃ v, App.compiled n (sessionView s) = .done n v ∧ Json.encodable v = true) ∧ ¬Unshown s.catalog s.canvas) ∨
        (App.compiled n (sessionView s)).IsLost ∧ Unshown s.catalog s.canvas := by
    intro sql hsql hfits
    obtain ⟨v, hv⟩ : ∃ v, sessionView s = .ok v := ⟨_, by rw [sessionView, hsql]; rfl⟩
    rw [hv]
    by_cases hsent : Unsendable s.canvas.toValue
    · exact .inr ⟨isLost_done fun h => (encodable_sessionView hv).1 h hsent, .inr hsent⟩
    · exact .inl ⟨⟨v, rfl, (encodable_sessionView hv).2 hsent⟩, not_or.2 ⟨hfits, hsent⟩⟩
  cases compile_cases s.dialect s.catalog hshaped with
  | nothing htables hc => exact hwritten hc fun h => h.1 htables
  | query htables hfits hc => exact hwritten hc fun h => h.2 hfits
  | @tooLong e htables hlong hc =>
    have hview : sessionView s = .error (.numeral e) := by rw [sessionView, Session.sql, hc]; rfl
    rw [hview]
    exact .inr ⟨fun _ => rfl, .inl ⟨htables, hlong⟩⟩

/-- **A renamed empty canvas** cannot be shown exactly if its name cannot be sent. -/
theorem unshown_new (cat : Catalog) (name : Value) (ids : IdSupply) :
    Unshown cat (Canvas.new name .null ids).1 ↔ Unsendable name := by
  have htables : (Canvas.new name .null ids).1.tables = [] := rfl
  have hid : ¬Unsendable (Canvas.new name .null ids).1.id := not_unsendable_text _
  have hoperands : operandsOf (Canvas.new name .null ids).1 = [] := rfl
  have hname : (Canvas.new name .null ids).1.name = name := rfl
  simp [Unshown, htables, unsendable_canvas, hid, hoperands, hname]

/-! ## One session -/

/-- What a session is asked to do. -/
inductive Task where
  | command (c : Command)
  | execute

/-- **A task that strands its session**: it is carried out, with the canvas and the result that it leads to, and the
response cannot show what it shows of them. An edit is accepted and its canvas cannot be shown; an empty canvas
is given a name that cannot be sent; or there are rows, and one of them or the statement cannot be sent. -/
inductive Strands (s : Session) (ids : IdSupply) (w : Warehouse) : Task → Canvas → Option QueryResult → Prop
  | edited {e : Edit} {reply : Reply} {d : Draft}
      (hedit : perform s.canvasCatalog e ⟨s.canvas, ids⟩ = (.ok reply, d)) (hunshown : Unshown s.catalog d.canvas) :
      Strands s ids w (.command (.edit e)) d.canvas s.result
  | renewed {name : Value} (hname : Unsendable name) :
      Strands s ids w (.command (.reset (some name))) (Canvas.new name .null ids).1 none
  | ran {sql : String} {rows : Option (List Row)} (hsql : s.sql = .ok sql) (hsome : Sql.isExecutable sql = true)
      (hidle : s.isExecuting = false) (hrows : (w.run sql).1 = .rows rows)
      (hunsent : (∃ v ∈ operandsOf s.canvas, v.isTorn = true) ∨ ∃ row ∈ rows.getD [], Unsendable (.record row)) :
      Strands s ids w .execute s.canvas (some ⟨sql, rows.getD []⟩)

/-- A session that is used in between is stranded all the same. -/
theorem Strands.touch {clock : Clock} {ids : IdSupply} {w : Warehouse} {task : Task} {c : Canvas}
    {result : Option QueryResult} (h : Strands s ids w task c result) :
    Strands (s.touch clock).1 ids w task c result := by
  cases h with
  | edited hedit hunshown => exact .edited (s := (s.touch clock).1) hedit hunshown
  | renewed hname => exact .renewed hname
  | ran hsql hsome hidle hrows hunsent => exact .ran (s := (s.touch clock).1) hsql hsome hidle hrows hunsent

theorem Strands.of_touch {clock : Clock} {ids : IdSupply} {w : Warehouse} {task : Task} {c : Canvas}
    {result : Option QueryResult} (h : Strands (s.touch clock).1 ids w task c result) :
    Strands s ids w task c result := by
  cases h with
  | edited hedit hunshown => exact .edited hedit hunshown
  | renewed hname => exact .renewed hname
  | ran hsql hsome hidle hrows hunsent => exact .ran hsql hsome hidle hrows hunsent

/-- **What becomes of a session** next to the result of a request that asks it for something, or for nothing. -/
inductive Effect (asked : Option (String × Task)) (s : Session) (ids : IdSupply) (w : Warehouse) :
    Result → Session → Prop
  | kept {result : Result} {s' : Session} (hcanvas : s'.canvas = s.canvas) (hresult : s'.result = s.result) :
      Effect asked s ids w result s'
  | shown {status : Nat} {v : Value} {s' : Session} (hstatus : status < 400) (hsent : Json.encodable v = true) :
      Effect asked s ids w (.done status v) s'
  | stranded {task : Task} {result : Result} {s' : Session} (hasked : asked = some (s.id, task))
      (hstrands : Strands s ids w task s'.canvas s'.result) (hlost : result.IsLost) :
      Effect asked s ids w result s'

variable {asked : Option (String × Task)}

/-- A service that holds a session in its place. -/
structure Holds (a : App) (s : Session) : Prop where
  place : a.registry.replace s.id s = a.registry
  identified : ∀ clock, Identified ⟨s, a.ids, clock⟩

/-- **What a request does with a session** that the service holds: the session becomes another one in the
same place, with its own effect. -/
structure Acts (asked : Option (String × Task)) (s : Session) (a : App) (out : Result × App) (s' : Session) :
    Prop where
  registry : out.2.registry = a.registry.replace s.id s'
  id : s'.id = s.id
  ids : a.ids.given ≤ out.2.ids.given
  identified : ∀ clock, Identified ⟨s', out.2.ids, clock⟩
  effect : Effect asked s a.ids a.warehouse out.1 s'

/-- Whoever only looks leaves the session in its place. -/
theorem acts_left {result : Result} (h : Holds a s) (hreg : a'.registry = a.registry)
    (hids : a.ids.given ≤ a'.ids.given) : Acts asked s a (result, a') s where
  registry := hreg.trans h.place.symm
  id := rfl
  ids := hids
  identified clock := (h.identified clock).later hids clock
  effect := .kept rfl rfl

/-- What an accepted edit leads to: the response shows the session, unless its canvas cannot be shown. -/
theorem edit_accepted {e : Edit} {reply : Reply} {d : Draft} (h : Holds a s)
    (hedit : perform s.canvasCatalog e ⟨s.canvas, a.ids⟩ = (.ok reply, d)) :
    (a.edit e s).2.registry = a.registry.replace s.id { s with canvas := d.canvas } ∧
      (a.edit e s).2.ids = d.ids ∧
      (((∃ v, (a.edit e s).1 = .done 200 v ∧ Json.encodable v = true) ∧ ¬Unshown s.catalog d.canvas) ∨
        (a.edit e s).1.IsLost ∧ Unshown s.catalog d.canvas) := by
  have hsound : Sound s.canvasCatalog d := by
    have := (h.identified a.clock).sound.perform e
    rwa [hedit] at this
  have hout : a.edit e s = App.keep { s with canvas := d.canvas } { a with ids := d.ids } := by
    simp only [App.edit, Session.edit, hedit]
  rw [hout]
  exact ⟨rfl, rfl, compiled_sessionView (s := { s with canvas := d.canvas }) 200 hsound.shaped⟩

theorem acts_edit {e : Edit} (h : Holds a s) (hasked : asked = some (s.id, .command (.edit e))) :
    ∃ s', Acts asked s a (a.edit e s) s' := by
  have hstep := (h.identified a.clock).edit e
  cases hedit : perform s.canvasCatalog e ⟨s.canvas, a.ids⟩ with
  | mk res d =>
    have hidentified : ∀ clock, Identified ⟨{ s with canvas := d.canvas }, d.ids, clock⟩ := fun clock => by
      have := ((h.identified clock).step (.edit e)).1
      simp only [LiveSession.step, Session.edit, hedit] at this
      exact this
    rw [hedit] at hstep
    cases res with
    | error err =>
      have hout : a.edit e s = (.ofEditError err,
          { a with ids := d.ids, registry := a.registry.replace s.id { s with canvas := d.canvas } }) := by
        simp only [App.edit, Session.edit, hedit]
      obtain ⟨hcanvas, -⟩ := perform_refused (h.identified a.clock).sound.rebuilds hedit
      rw [hout]
      exact ⟨_, rfl, rfl, hstep.2.2, hidentified, .kept hcanvas rfl⟩
    | ok reply =>
      obtain ⟨hreg, hids, hresult⟩ := edit_accepted h hedit
      refine ⟨_, hreg, rfl, by rw [hids]; exact hstep.2.2, by rw [hids]; exact hidentified, ?_⟩
      rcases hresult with ⟨⟨v, hv, hsent⟩, -⟩ | ⟨hlost, hunshown⟩
      · rw [hv]
        exact .shown (by decide) hsent
      · exact .stranded hasked (.edited hedit hunshown) hlost

/-- What an empty canvas leads to: the response shows the session, unless its name cannot be sent. -/
theorem reset_done (name : Option Value) (s : Session) (a : App) :
    ((∃ v, (a.command (.reset name) s).1 = .done 200 v ∧ Json.encodable v = true) ∧
        ¬Unsendable (name.getD (.text defaultName))) ∨
      (a.command (.reset name) s).1.IsLost ∧ Unsendable (name.getD (.text defaultName)) := by
  rw [← unshown_new s.catalog _ a.ids]
  exact compiled_sessionView (s := (s.newQuery (name.getD (.text defaultName)) a.ids a.clock).1) 200 nofun

theorem acts_reset {name : Option Value} (h : Holds a s) (hasked : asked = some (s.id, .command (.reset name))) :
    ∃ s', Acts asked s a (a.command (.reset name) s) s' := by
  have hstep := ((h.identified a.clock).step (.newQuery (name.getD (.text defaultName)))).1
  refine ⟨_, rfl, rfl, Nat.le_succ _, fun clock => hstep.later (Nat.le_refl _) clock, ?_⟩
  rcases reset_done name s a with ⟨⟨v, hv, hsent⟩, -⟩ | ⟨hlost, hname⟩
  · rw [hv]
    exact .shown (by decide) hsent
  · cases name with
    | none => exact absurd hname (not_unsendable_text _)
    | some name => exact .stranded hasked (.renewed hname) hlost

theorem acts_execute (h : Holds a s) (hasked : asked = some (s.id, .execute)) :
    ∃ s', Acts asked s a (a.execute s) s' := by
  unfold App.execute
  cases hbegin : s.begin a.clock with
  | error e => exact ⟨s, acts_left h rfl (Nat.le_refl _)⟩
  | ok started =>
    obtain ⟨sql, t, clock⟩ := started
    obtain ⟨hsql, hsome, hidle⟩ := Session.begin_eq_ok hbegin
    have hm := LiveSession.begin_moves hbegin
    cases hm with
    | handed now =>
      obtain ⟨result, hfinish, hrows, hkept⟩ := Session.finish_started
        (s := { s with lastUsed := now, running := some ⟨sql, false⟩, arrived := none }) rfl rfl rfl
        (a.warehouse.run sql).1
      simp only [hfinish]
      cases hout : Run.outcome s.limit ⟨sql, false⟩ (a.warehouse.run sql).1 with
      | ok r =>
        refine ⟨_, rfl, rfl, Nat.le_refl _, fun clock => (h.identified clock).congr rfl rfl, ?_⟩
        by_cases hsent : Json.encodable (resultView s.canvas r) = true
        · exact .shown (by decide) hsent
        · obtain ⟨rows, hanswer, rfl⟩ := Run.outcome_eq_ok hout
          obtain rfl := hrows _ hout
          refine .stranded hasked (.ran hsql hsome hidle hanswer ?_) (isLost_done hsent)
          rw [encodable_resultView, not_and_or] at hsent
          simpa using hsent
      | error e =>
        exact ⟨_, rfl, rfl, Nat.le_refl _, fun clock => (h.identified clock).congr rfl rfl,
          .kept rfl (hkept e hout)⟩

theorem acts_cancel (h : Holds a s) : ∃ s', Acts asked s a (a.cancel s) s' := by
  have hm := LiveSession.cancel_moves ⟨s, a.ids, a.clock⟩
  obtain ⟨hcanvas, hcat⟩ := hm.canvas rfl
  refine ⟨s.cancel.2, by rw [← hm.id]; rfl, hm.id, Nat.le_refl _,
    fun clock => (h.identified clock).congr hcanvas hcat, .kept hcanvas ?_⟩
  unfold Session.cancel
  split <;> rfl

/-! ## One request -/

/-- The session and the kind of body at an endpoint that takes a body. -/
def Endpoint.body? : Endpoint → Option (String × BodyKind)
  | .reset session => some (session, .reset)
  | .rename session => some (session, .rename)
  | .addTable session => some (session, .table)
  | .toggleColumn session => some (session, .column)
  | .addJoin session => some (session, .join)
  | .addFilter session => some (session, .filter)
  | .addSort session => some (session, .sort)
  | .addGroup session => some (session, .group)
  | .addAggregate session => some (session, .aggregate)
  | .setLimit session => some (session, .limit)
  | _ => none

/-- What a body asks for. -/
def BodyKind.command? (k : BodyKind) (host : Host) (body : String) : Option Command :=
  match App.bodyValue host body with
  | .error _ => none
  | .ok v =>
    match k.check v with
    | .ok c => some c
    | .refused _ => none

/-- What is asked for at an endpoint, and the session that it is asked of. -/
def Endpoint.task? (host : Host) (body : String) : Endpoint → Option (String × Task)
  | .removeTable session table => some (session, .command (.edit (.removeTable (.text table))))
  | .removePart session kind item =>
    (App.partKinds.find? (·.1 == kind)).map fun k => (session, .command (.edit (.remove k.2 (.text item))))
  | .execute session => some (session, .execute)
  | e => e.body?.bind fun (session, k) => (k.command? host body).map fun c => (session, .command c)

variable {e : Endpoint} {k : BodyKind} {key body : String} {t : Target}
  {f : Session → App → Result × App}

theorem atEndpoint_body (h : e.body? = some (key, k)) : a.atEndpoint e t body = a.bodyRequest k key body := by
  cases e <;> cases h <;> rfl

theorem task?_body (h : e.body? = some (key, k)) :
    e.task? host body = (k.command? host body).map fun c => (key, .command c) := by
  cases e <;> cases h <;> rfl

/-- **What a request can do** to the sessions. -/
inductive Serves (asked : Option (String × Task)) (a : App) (out : Result × App) : Prop
  | idle (hreg : out.2.registry = a.registry) (hids : a.ids.given ≤ out.2.ids.given)
  | opened {s : Session} {v : Value} (hresult : out.1 = .done 201 v) (hsent : Json.encodable v = true)
      (hid : s.id = a.ids.next.1)
      (hids : a.ids.given < out.2.ids.given) (hs : ∀ clock, Identified ⟨s, out.2.ids, clock⟩)
      (hreg : out.2.registry = a.registry.put s.id s ∨
        ∃ old ∈ a.registry.sessions, out.2.registry = (a.registry.drop old.id).put s.id s)
  | closed {key : String} {v : Value} (hresult : out.1 = .done 200 v) (hsent : Json.encodable v = true)
      (hids : out.2.ids = a.ids)
      (hreg : out.2.registry = a.registry.drop key)
  | acted {key : String} {s s' : Session} (hs : a.registry.find? key = some s) (hid : s'.id = key)
      (hids : a.ids.given ≤ out.2.ids.given) (hidentified : ∀ clock, Identified ⟨s', out.2.ids, clock⟩)
      (hreg : out.2.registry = a.registry.replace key s')
      (heffect : Effect asked s a.ids a.warehouse out.1 s')

/-- The service after the session under a key was used. -/
def App.touched (a : App) (key : String) (s : Session) : App :=
  { a with registry := a.registry.replace key (s.touch a.clock).1, clock := (s.touch a.clock).2 }

theorem registry_touched (a : App) (key : String) (s : Session) :
    (a.touched key s).registry = a.registry.replace key (s.touch a.clock).1 := rfl

theorem withSession_found (h : a.registry.find? key = some s) :
    a.withSession key f = f (s.touch a.clock).1 (a.touched key s) := by
  simp [App.withSession, Registry.get, h, App.touched]

theorem withSession_unknown (h : a.registry.find? key = none) :
    a.withSession key f = (App.sessionUnknown, a) := by
  simp [App.withSession, Registry.get, h]

theorem holds_touched (ha : a.registry.Sound a.ids) (hs : a.registry.find? key = some s) :
    Holds (a.touched key s) (s.touch a.clock).1 where
  place := by
    rw [Session.id_touch, ha.id_eq hs]
    exact Registry.replace_replace
  identified clock := (ha.identified s (ha.mem_sessions hs) clock).congr rfl rfl

/-- What is used in between has the same effect on a session. -/
theorem Effect.of_touch {clock : Clock} {ids : IdSupply} {w : Warehouse} {result : Result}
    (h : Effect asked (s.touch clock).1 ids w result s') : Effect asked s ids w result s' := by
  cases h with
  | kept hcanvas hresult => exact .kept hcanvas hresult
  | shown hstatus hsent => exact .shown hstatus hsent
  | stranded hasked hstrands hlost => exact .stranded hasked hstrands.of_touch hlost

theorem serves_withSession (ha : a.registry.Sound a.ids)
    (hf : ∀ s a', Holds a' s → s.id = key → ∃ s', Acts asked s a' (f s a') s') :
    Serves asked a (a.withSession key f) := by
  cases hs : a.registry.find? key with
  | none =>
    rw [withSession_unknown hs]
    exact .idle rfl (Nat.le_refl _)
  | some s =>
    have hid : s.id = key := ha.id_eq hs
    obtain ⟨s', hact⟩ := hf _ _ (holds_touched ha hs) hid
    rw [withSession_found hs]
    refine .acted hs (hact.id.trans hid) hact.ids hact.identified ?_ hact.effect.of_touch
    rw [hact.registry, Session.id_touch, hid]
    exact Registry.replace_replace

theorem serves_bodyRequest (ha : a.registry.Sound a.ids) :
    Serves ((k.command? a.host body).map fun c => (key, .command c)) a (a.bodyRequest k key body) := by
  unfold App.bodyRequest
  cases hv : App.bodyValue a.host body with
  | error r => exact .idle rfl (Nat.le_refl _)
  | ok v =>
    refine serves_withSession ha fun s a' hholds hid => ?_
    cases hc : k.check v with
    | refused issues => exact ⟨s, acts_left hholds rfl (Nat.le_refl _)⟩
    | ok c =>
      cases c with
      | edit x => exact acts_edit hholds (by simp [BodyKind.command?, hv, hc, hid])
      | reset name => exact acts_reset hholds (by simp [BodyKind.command?, hv, hc, hid])

/-- **A request for a session** opens one under the next id, if there is room for it or another makes room. -/
inductive Opens (a : App) (out : Result × App) : Prop
  | refused (hreg : out.2.registry = a.registry) (hids : a.ids.given ≤ out.2.ids.given)
  | opened {s : Session} {v : Value} (hresult : out.1 = .done 201 v) (hsent : Json.encodable v = true)
      (hid : s.id = a.ids.next.1)
      (hids : a.ids.given < out.2.ids.given) (hs : ∀ clock, Identified ⟨s, out.2.ids, clock⟩)
      (hreg : out.2.registry = a.registry.put s.id s ∨
        ∃ old ∈ a.registry.sessions, out.2.registry = (a.registry.drop old.id).put s.id s)

theorem startSession_opens (a : App) : Opens a a.startSession := by
  unfold App.startSession
  cases Catalog.load a.warehouse.reader none with
  | error e => exact .refused rfl (Nat.le_refl _)
  | ok report =>
    have hopened := identified_opened a.warehouse.dialect report.catalog .null a.ids a.clock
    have hids : a.ids.given < a.ids.next.2.next.2.given := Nat.lt_of_lt_of_le (Nat.lt_succ_self _) (Nat.le_succ _)
    have hshown := compiled_sessionView
      (s := (Session.start a.warehouse.dialect report.catalog .null a.ids a.clock).1) 201 nofun
    have hname : ¬Unshown report.catalog (Canvas.new (.text defaultName) .null a.ids.next.2).1 :=
      mt (unshown_new _ _ _).1 (not_unsendable_text _)
    obtain ⟨⟨v, hv, hsent⟩, -⟩ := hshown.resolve_right fun h => hname h.2
    simp only [hv]
    cases hadd : a.registry.add? (Session.start a.warehouse.dialect report.catalog .null a.ids a.clock).1 with
    | none => exact .refused rfl (Nat.le_of_lt hids)
    | some registry =>
      exact .opened rfl hsent rfl hids (fun clock => hopened.later (Nat.le_refl _) clock)
        (Registry.add?_eq_some hadd)

theorem serves_startSession : Serves asked a a.startSession := by
  cases startSession_opens a with
  | refused hreg hids => exact .idle hreg hids
  | opened hresult hsent hid hids hs hreg => exact .opened hresult hsent hid hids hs hreg

theorem serves_endSession : Serves asked a (a.endSession key) := by
  unfold App.endSession Registry.remove
  cases a.registry.find? key with
  | none => exact .idle rfl (Nat.le_refl _)
  | some s => exact .closed rfl rfl rfl rfl

/-- The joins that are suggested take ids, and give none back. -/
theorem acts_suggestJoins (h : Holds a s) : ∃ s', Acts asked s a (App.suggestJoins t s a) s' := by
  unfold App.suggestJoins
  split
  · exact ⟨s, acts_left h rfl (s.catalog.given_suggestJoins _ _ a.ids)⟩
  · exact ⟨s, acts_left h rfl (Nat.le_refl _)⟩

/-- **Every endpoint does one of these.** -/
theorem serves_atEndpoint (ha : a.registry.Sound a.ids) (e : Endpoint) (t : Target) (body : String) :
    Serves (e.task? a.host body) a (a.atEndpoint e t body) := by
  cases hb : e.body? with
  | some b =>
    rw [atEndpoint_body hb, task?_body hb]
    exact serves_bodyRequest ha
  | none =>
    cases e with
    | documentation | executions | executionSummary => exact .idle rfl (Nat.le_refl _)
    | startSession => exact serves_startSession
    | endSession => exact serves_endSession
    | showSession | showCatalog | showSql =>
      exact serves_withSession ha fun s a' hholds _ => ⟨s, acts_left hholds rfl (Nat.le_refl _)⟩
    | suggestJoins => exact serves_withSession ha fun s a' hholds _ => acts_suggestJoins hholds
    | removeTable session table =>
      exact serves_withSession ha fun s a' hholds hid => acts_edit hholds (by simp [Endpoint.task?, hid])
    | removePart session kind item =>
      refine serves_withSession ha fun s a' hholds hid => ?_
      unfold App.removePart
      cases hkind : App.partKinds.find? (·.1 == kind) with
      | none => exact ⟨s, acts_left hholds rfl (Nat.le_refl _)⟩
      | some k => exact acts_edit hholds (by simp [Endpoint.task?, hkind, hid])
    | execute => exact serves_withSession ha fun s a' hholds hid => acts_execute hholds (by simp [Endpoint.task?, hid])
    | cancel => exact serves_withSession ha fun s a' hholds _ => acts_cancel hholds
    | _ => cases hb

theorem destination_eq_endpoint {method : String} {path : List Char} : destination method path = .endpoint e ↔ endpoint? method path = some e := by
  unfold destination
  cases endpoint? method path with
  | some x => simp
  | none =>
    simp only [reduceCtorEq, iff_false]
    split
    · exact nofun
    · split <;> exact nofun

/-- What a request asks for, and the session that it is asked of. -/
def Request.task? (r : Request) (host : Host) : Option (String × Task) :=
  match destination r.method (Target.ofText r.target).path with
  | .endpoint e => e.task? host r.body
  | _ => none

/-- Nothing is there for the method of preflights. -/
theorem endpoint?_options (path : List Char) : endpoint? "OPTIONS" path = none := by
  have hroutes : ∀ route ∈ routes, "OPTIONS" ∉ route.methods := by decide
  rw [endpoint?, List.findSome?_eq_none_iff]
  exact fun route hmem => if_neg (mt List.contains_iff_mem.1 (hroutes route hmem))

theorem method_of_preflight? {r : Request} {method : String} (h : r.preflight? = some method) :
    r.method = "OPTIONS" := by
  unfold Request.preflight? at h
  split at h
  next hasked => exact hasked.1
  next => cases h

/-- What leads to an endpoint is no preflight. -/
theorem preflight?_of_endpoint {r : Request} {path : List Char} (h : destination r.method path = .endpoint e) :
    r.preflight? = none := by
  rw [Option.eq_none_iff_forall_ne_some]
  intro method hpreflight
  rw [destination_eq_endpoint, method_of_preflight? hpreflight, endpoint?_options] at h
  cases h

/-- A request that leads to an endpoint is answered there. -/
theorem answer_endpoint {r : Request} (h : destination r.method t.path = .endpoint e) :
    a.answer r t = a.atEndpoint e t r.body := by
  rw [App.answer, preflight?_of_endpoint h]
  simp only [App.route, h]

/-- **Every request does one of these.** -/
theorem serves_answer (ha : a.registry.Sound a.ids) (r : Request) :
    Serves (r.task? a.host) a (a.answer r (Target.ofText r.target)) := by
  unfold Request.task?
  cases hdest : destination r.method (Target.ofText r.target).path with
  | endpoint e =>
    rw [answer_endpoint hdest]
    exact serves_atEndpoint ha e _ r.body
  | methodNotAllowed | elsewhere | nowhere =>
    have hsame : (a.answer r (Target.ofText r.target)).2 = a := by
      unfold App.answer App.route
      rw [hdest]
      split <;> rfl
    exact .idle (congrArg App.registry hsame) (Nat.le_of_eq (congrArg (·.ids.given) hsame.symm))

theorem Serves.sound (h : Serves asked a out) (ha : a.registry.Sound a.ids) :
    out.2.registry.Sound out.2.ids := by
  cases h with
  | idle hreg hids =>
    rw [hreg]
    exact ha.later hids
  | opened hresult hsent hid hids hs hreg =>
    rcases hreg with hreg | ⟨old, -, hreg⟩
    · rw [hreg]
      exact ha.put hid hids hs
    · rw [hreg]
      exact (ha.drop old.id).put hid hids hs
  | closed hresult hsent hids hreg =>
    rw [hreg, hids]
    exact ha.drop _
  | acted hs hid hids hidentified hreg =>
    rw [hreg]
    exact (ha.later hids).replace hid hidentified

/-! ## Every state -/

/-- The sessions of a service, with the ids and the clock that they use. -/
def App.live (a : App) : LiveRegistry :=
  ⟨a.registry, a.ids, a.clock⟩

/-- The service after something happened within a session while no request was answered. -/
def App.meanwhile (a : App) (key : String) (e : Event) : App :=
  let r := (a.live.step (.within key e)).2
  { a with registry := r.registry, ids := r.ids, clock := r.clock }

theorem meanwhile_sound {e : Event} (ha : a.registry.Sound a.ids) :
    (a.meanwhile key e).registry.Sound (a.meanwhile key e).ids := by
  simp only [App.meanwhile, App.live, LiveRegistry.step]
  cases hs : a.registry.find? key with
  | none => exact ha
  | some s =>
    obtain ⟨hstep, hids⟩ := (ha.identified s (ha.mem_sessions hs) a.clock).step e
    have hgiven : a.ids.given ≤ (LiveSession.step ⟨s, a.ids, a.clock⟩ e).2.ids.given := by
      rcases hids with ⟨-, -, h⟩ | ⟨-, -, h⟩ <;> exact h
    have hid : (LiveSession.step ⟨s, a.ids, a.clock⟩ e).2.session.id = key :=
      (LiveSession.step_moves _ e).id.trans (ha.id_eq hs)
    exact (ha.later hgiven).replace hid fun clock => hstep.later (Nat.le_refl _) clock

/-- **A service in use**: requests were answered one after the other. In between runs went on, and the
warehouse, the logs and the clock may have changed. -/
inductive Served : App → Prop
  | start (host : Host) (warehouse : Warehouse) (capacity : Int) : Served (.start host warehouse capacity)
  | handled {a : App} (before : Served a) (r : Request) : Served (a.handle r).2
  | meanwhile {a : App} (before : Served a) (key : String) {e : Event} (he : e.keepsCanvas = true) :
      Served (a.meanwhile key e)
  | elsewhere {a : App} (before : Served a) (warehouse : Warehouse) (audit : AuditStore)
      (requestLog : Option (List RequestRow)) (clock : Clock) :
      Served { a with warehouse := warehouse, audit := audit, requestLog := requestLog, clock := clock }

theorem Served.sound (h : Served a) : a.registry.Sound a.ids := by
  induction h with
  | start host warehouse capacity => exact .empty capacity .fresh
  | handled before r ih => exact (serves_answer ih r).sound ih
  | meanwhile before key he ih => exact meanwhile_sound ih
  | elsewhere before warehouse audit requestLog clock ih => exact ih

end Http

end QueryCanvas
