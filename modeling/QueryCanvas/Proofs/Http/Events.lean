import QueryCanvas.Http.Traffic
import QueryCanvas.Proofs.Audit.Alike
import QueryCanvas.Proofs.Http.Body
import QueryCanvas.Proofs.Http.Service

/-!
# Requests as events

What a request does with a session, events within the session do one after the other: it counts as used, and
then at most one thing happens to its canvas, or a run starts and ends.

* `Endpoint.events`: the events that a request comes to.
* `Leaves`: a service after events within one of its sessions. `leaves_atEndpoint` says that every request to
  a session that is open leaves the service so, but for the one that closes the session.
-/

namespace QueryCanvas.Http

open Canvas

/-! ## Events -/

/-- What a command comes to. -/
def Command.event : Command → Event
  | .edit e => .edit e
  | .reset name => .newQuery (name.getD (.text defaultName))

/-- What a body comes to: nothing if it is no JSON, and otherwise what it asks for. -/
def BodyKind.events (k : BodyKind) (host : Host) (body : String) : List Event :=
  match App.bodyValue host body with
  | .error _ => []
  | .ok v =>
    match k.check v with
    | .ok c => [.touch, c.event]
    | .refused _ => [.touch]

/-- What a request for a run comes to: nothing if there is nothing to run, or if a run is under way. -/
def runEvents (warehouse : Warehouse) (s : Session) : List Event :=
  match s.begin .fresh with
  | .error _ => []
  | .ok (sql, _) => [.execute, .answer (warehouse.run sql).1, .proceed]

/-- **The events that a request comes to** in a session that is open. -/
def Endpoint.events (host : Host) (warehouse : Warehouse) (body : String) (s : Session) (e : Endpoint) : List Event :=
  match e.body? with
  | some (_, k) => k.events host body
  | none =>
    match e with
    | .removeTable _ table => [.touch, .edit (.removeTable (.text table))]
    | .removePart _ kind item =>
      match App.partKinds.find? (·.1 == kind) with
      | some (_, k) => [.touch, .edit (.remove k (.text item))]
      | none => [.touch]
    | .execute _ => .touch :: runEvents warehouse s
    | .cancel _ => [.touch, .cancel]
    | .showSession _ | .showCatalog _ | .suggestJoins _ | .showSql _ => [.touch]
    | _ => []

/-- The number of ids that a request takes for joins that are only suggested. -/
def Endpoint.suggested (t : Target) (cat : Catalog) : Endpoint → Nat
  | .suggestJoins _ =>
    match Prod.mk <$> App.parameter t "left" <*> App.parameter t "right" with
    | .ok (left, right) => (cat.suggestJoins (.text left) (.text right) .fresh).2.given
    | .refused _ => 0
  | _ => 0

/-! ## The service after events -/

variable {a out : App} {s s' : Session} {e : Endpoint} {k : BodyKind} {key body : String} {t : Target}
  {events : List Event} {n : Nat} {isWritten : Bool}

/-- A session of the service after events within it. -/
def App.went (a : App) (s : Session) (events : List Event) : AuditedSession :=
  (play AuditedSession.step events (a.audited s)).2

/-- **A service after events within one of its sessions**, and ids that were taken besides. The log may not be able to
take a row about the run that ends with them. -/
structure Leaves (a : App) (s : Session) (events : List Event) (n : Nat) (isWritten : Bool) (out : App) : Prop where
  registry : out.registry = a.registry.replace s.id (a.went s events).live.session
  ids : out.ids.given = (a.went s events).live.ids.given + n
  audit : out.audit = if isWritten then (a.went s events).audit else a.audit

/-- A session that is open is in its place. -/
theorem holds_found (ha : a.registry.Sound a.ids) (hs : a.registry.find? key = some s) : Holds a s where
  place := by
    rw [ha.id_eq hs]
    exact ha.replace_self hs
  identified clock := ha.identified s (ha.mem_sessions hs) clock

/-- Whoever only looks leaves the service as it is. -/
theorem leaves_looked (h : Holds a s) : Leaves a s [] 0 isWritten a where
  registry := h.place.symm
  ids := rfl
  audit := (ite_self _).symm

/-- A session counts as used before anything else happens to it. -/
theorem Leaves.touched (hid : s.id = key)
    (h : Leaves (a.touched key s) (s.touch a.clock).1 events n isWritten out) :
    Leaves a s (.touch :: events) n isWritten out where
  registry := by
    rw [h.registry, Session.id_touch, hid]
    exact Registry.replace_replace
  ids := h.ids
  audit := h.audit

/-! ### What requests do with a session -/

theorem leaves_edit (x : Edit) : Leaves a s [.edit x] 0 isWritten (a.edit x s).2 := by
  unfold App.edit
  generalize hout : s.edit x a.ids = out
  have hwent : a.went s [.edit x] = ⟨⟨out.2.1, out.2.2, a.clock⟩, a.audit⟩ := by rw [← hout]; rfl
  have hid : out.2.1.id = s.id := by rw [← hout]; rfl
  obtain ⟨reply, s', ids⟩ := out
  cases reply with
  | ok r => exact ⟨by rw [hwent, ← hid]; rfl, by rw [hwent]; rfl, by rw [hwent, ite_self]; rfl⟩
  | error err => exact ⟨by rw [hwent, ← hid], by rw [hwent]; rfl, by rw [hwent, ite_self]⟩

theorem leaves_command (c : Command) : Leaves a s [c.event] 0 isWritten (a.command c s).2 := by
  cases c with
  | edit x => exact leaves_edit x
  | reset name => exact ⟨rfl, rfl, (ite_self _).symm⟩

theorem leaves_cancel : Leaves a s [.cancel] 0 isWritten (a.cancel s).2 where
  registry := by
    have hid := (LiveSession.cancel_moves ⟨s, a.ids, a.clock⟩).id
    exact congrArg (fun id => a.registry.replace id s.cancel.2) hid
  ids := rfl
  audit := (ite_self _).symm

/-- The number of joins that are suggested does not depend on the ids. -/
theorem given_suggestJoins_eq (cat : Catalog) (left right : Value) (ids : IdSupply) :
    (cat.suggestJoins left right ids).2.given = ids.given + (cat.suggestJoins left right .fresh).2.given := by
  unfold Catalog.suggestJoins
  split
  · rw [Catalog.given_joinsOf, Catalog.given_joinsOf]
    exact congrArg (ids.given + ·) (Nat.zero_add _).symm
  · rfl

theorem leaves_suggestJoins (h : Holds a s) :
    Leaves a s [] ((Endpoint.suggestJoins key).suggested t s.catalog) isWritten (App.suggestJoins t s a).2 := by
  simp only [App.suggestJoins, Endpoint.suggested]
  cases Prod.mk <$> App.parameter t "left" <*> App.parameter t "right" with
  | ok ends => exact ⟨h.place.symm, given_suggestJoins_eq s.catalog _ _ a.ids, (ite_self _).symm⟩
  | refused issues => exact leaves_looked h

/-- The time has no part in whether a run starts. -/
theorem begin_cases (s : Session) (clock clock' : Clock) :
    (∃ err, s.begin clock = .error err ∧ (s.touch clock').1.begin (s.touch clock').2 = .error err) ∨
      ∃ sql after after', s.begin clock = .ok (sql, after) ∧
        (s.touch clock').1.begin (s.touch clock').2 = .ok (sql, after') := by
  have halike : s.Alike 1 (s.touch clock').1 := { Session.Alike.refl s with }
  have hbegin := halike.begin clock (s.touch clock').2
  generalize s.begin clock = out, (s.touch clock').1.begin (s.touch clock').2 = out' at hbegin
  cases hbegin with
  | refused err => exact .inl ⟨err, rfl, rfl⟩
  | started h => exact .inr ⟨_, _, _, rfl, rfl⟩

/-- A run takes no id. -/
theorem ids_execute (a : App) (s : Session) : (a.execute s).2.ids = a.ids := by
  unfold App.execute
  split
  next => rfl
  next sql s clock hbegin =>
    dsimp only
    split
    next => rfl
    next outcome s hfinish =>
      cases outcome <;> rfl

/-- A request for a run, of a session that was just used. -/
theorem leaves_execute (h : Holds (a.touched key s) (s.touch a.clock).1) :
    Leaves (a.touched key s) (s.touch a.clock).1 (runEvents a.warehouse s) 0 (isRecordable s.canvas)
      ((a.touched key s).execute (s.touch a.clock).1).2 := by
  unfold runEvents
  rcases begin_cases s .fresh a.clock with ⟨err, hbegin, htouched⟩ | ⟨sql, after, ⟨s', clock⟩, hbegin, htouched⟩
  · have hout : ((a.touched key s).execute (s.touch a.clock).1).2 = a.touched key s := by
      unfold App.execute
      rw [show (s.touch a.clock).1.begin (a.touched key s).clock = .error err from htouched]
    rw [hout, hbegin]
    exact leaves_looked h
  · obtain ⟨haudit, hregistry⟩ := execute_played (a := a.touched key s) htouched
    have hid : ((a.touched key s).executed (s.touch a.clock).1 sql).live.session.id = s.id :=
      AuditedSession.id_play _ _
    rw [hbegin]
    have hids : ((a.touched key s).executed (s.touch a.clock).1 sql).live.ids = a.ids :=
      AuditedSession.ids_play_kept (by simp [Event.keepsCanvas]) _
    exact ⟨hid ▸ hregistry, congrArg IdSupply.given ((ids_execute _ _).trans hids.symm), haudit⟩

/-! ### Every request -/

theorem session?_body {b : String × BodyKind} (h : e.body? = some b) : e.session? = some b.1 := by
  cases e <;> cases h <;> rfl

theorem suggested_body {b : String × BodyKind} {cat : Catalog} (h : e.body? = some b) : e.suggested t cat = 0 := by
  cases e <;> cases h <;> rfl

/-- A request with a body. -/
theorem leaves_bodyRequest (ha : a.registry.Sound a.ids) (hs : a.registry.find? key = some s) :
    Leaves a s (k.events a.host body) 0 isWritten (a.bodyRequest k key body).2 := by
  have htouched := holds_touched ha hs
  unfold App.bodyRequest BodyKind.events
  cases App.bodyValue a.host body with
  | error r => exact leaves_looked (holds_found ha hs)
  | ok v =>
    simp only [withSession_found hs]
    cases k.check v with
    | ok c => exact .touched (ha.id_eq hs) (leaves_command c)
    | refused issues => exact .touched (ha.id_eq hs) (leaves_looked htouched)

/-- **What a request leaves** of a session that is open: what its events within the session leave. -/
theorem leaves_atEndpoint (ha : a.registry.Sound a.ids) (hs : a.registry.find? key = some s)
    (he : e.session? = some key) (hend : e ≠ .endSession key) :
    Leaves a s (e.events a.host a.warehouse body s) (e.suggested t s.catalog) (isRecordable s.canvas)
      (a.atEndpoint e t body).2 := by
  have htouched := holds_touched ha hs
  have hid := ha.id_eq hs
  cases hb : e.body? with
  | some b =>
    obtain ⟨key', k⟩ := b
    have hkey : key' = key := Option.some.inj ((session?_body hb).symm.trans he)
    subst hkey
    rw [atEndpoint_body hb, suggested_body hb]
    simp only [Endpoint.events, hb]
    exact leaves_bodyRequest ha hs
  | none =>
    cases e with
    | documentation | startSession => cases he
    | endSession =>
      cases he
      exact absurd rfl hend
    | executions | executionSummary => exact leaves_looked (holds_found ha hs)
    | showSession | showCatalog | showSql =>
      cases he
      simp only [App.atEndpoint, withSession_found hs]
      exact .touched hid (leaves_looked htouched)
    | suggestJoins =>
      cases he
      simp only [App.atEndpoint, withSession_found hs]
      exact .touched hid (leaves_suggestJoins htouched)
    | removeTable session table =>
      cases he
      simp only [App.atEndpoint, withSession_found hs]
      exact .touched hid (leaves_edit _)
    | removePart session kind item =>
      cases he
      simp only [App.atEndpoint, withSession_found hs, App.removePart, Endpoint.events, Endpoint.body?]
      cases App.partKinds.find? (·.1 == kind) with
      | none => exact .touched hid (leaves_looked htouched)
      | some k => exact .touched hid (leaves_edit _)
    | execute =>
      cases he
      simp only [App.atEndpoint, withSession_found hs]
      exact .touched hid (leaves_execute htouched)
    | cancel =>
      cases he
      simp only [App.atEndpoint, withSession_found hs]
      exact .touched hid leaves_cancel
    | _ => cases hb

/-- What is asked of a session that is unknown leaves the service as it is. -/
theorem atEndpoint_unknown (hs : a.registry.find? key = none) (he : e.session? = some key) :
    (a.atEndpoint e t body).2 = a := by
  cases hb : e.body? with
  | some b =>
    obtain ⟨key', k⟩ := b
    have hkey : key' = key := Option.some.inj ((session?_body hb).symm.trans he)
    subst hkey
    rw [atEndpoint_body hb, App.bodyRequest]
    cases App.bodyValue a.host body with
    | error r => rfl
    | ok v => simp only [withSession_unknown hs]
  | none =>
    cases e with
    | documentation | startSession => cases he
    | executions | executionSummary => rfl
    | endSession =>
      cases he
      simp only [App.atEndpoint, App.endSession, Registry.remove, hs]
    | showSession | showCatalog | suggestJoins | removeTable | removePart | showSql | execute | cancel =>
      cases he
      simp only [App.atEndpoint, withSession_unknown hs]
    | _ => cases hb

/-! ## Requests with other ids -/

variable {ρ : Equiv.Perm String} {x : Event}

/-- A request in a session with other ids: only the removal of a part names one. -/
def Endpoint.renamed (ρ : Equiv.Perm String) : Endpoint → Endpoint
  | .removePart session kind item => .removePart session kind (ρ item)
  | e => e

theorem session?_renamed (ρ : Equiv.Perm String) (e : Endpoint) : (e.renamed ρ).session? = e.session? := by
  cases e <;> rfl

/-- No body asks for the removal of a part under its id. -/
theorem renamed_of_check {v : Option Value} {c : Command} (h : k.check v = .ok c) : c.event.renamed ρ = c.event := by
  cases c with
  | reset name => rfl
  | edit x =>
    match v, h with
    | some (.record fs), h =>
      by_cases hk : k = .limit
      · subst hk
        obtain ⟨-, rfl⟩ | ⟨n, -, rfl⟩ := BodyKind.limit_eq_edit.1 h <;> rfl
      · obtain ⟨-, hadmits⟩ := (BodyKind.command_eq_edit hk).1 h
        cases hadmits <;> rfl

/-- **With other ids a request comes to the same events**, with other ids. -/
theorem events_renamed (h : s.Alike ρ s') (host : Host) (warehouse : Warehouse) (body : String) (e : Endpoint) :
    (e.renamed ρ).events host warehouse body s' = (e.events host warehouse body s).map (Event.renamed ρ) := by
  have hrun : runEvents warehouse s' = (runEvents warehouse s).map (Event.renamed ρ) := by
    have hbegin := h.begin .fresh .fresh
    unfold runEvents
    generalize s.begin .fresh = out, s'.begin .fresh = out' at hbegin
    cases hbegin <;> rfl
  have hbody : ∀ k : BodyKind, (k.events host body).map (Event.renamed ρ) = k.events host body := fun k => by
    unfold BodyKind.events
    cases App.bodyValue host body with
    | error r => rfl
    | ok v =>
      cases hc : k.check v with
      | refused issues =>
        simp only [hc]
        rfl
      | ok c =>
        simp only [hc, List.map_cons, List.map_nil, renamed_of_check hc]
        rfl
  cases e with
  | removePart session kind item =>
    simp only [Endpoint.renamed, Endpoint.events, Endpoint.body?]
    cases App.partKinds.find? (·.1 == kind) <;> rfl
  | execute session => exact congrArg (Event.touch :: ·) hrun
  | reset | rename | addTable | toggleColumn | addJoin | addFilter | addSort | addGroup | addAggregate | setLimit =>
    exact (hbody _).symm
  | _ => rfl

/-- A row can be written about a canvas with other ids just as about the canvas. -/
theorem isRecordable_renamed (h : s.Alike ρ s') : isRecordable s'.canvas = isRecordable s.canvas := by
  rw [h.canvas, isRecordable, isRecordable, operandsOf, operandsOf, Canvas.renamed, List.flatMap_map]

/-- Only the last event that a request comes to may change the canvas. -/
theorem events_kept (host : Host) (warehouse : Warehouse) (body : String) (s : Session) (e : Endpoint) :
    ∀ x ∈ (e.events host warehouse body s).dropLast, x.keepsCanvas = true := by
  have hrun : ∀ x ∈ (Event.touch :: runEvents warehouse s).dropLast, x.keepsCanvas = true := by
    unfold runEvents
    split <;> simp [Event.keepsCanvas]
  have hbody : ∀ k : BodyKind, ∀ x ∈ (k.events host body).dropLast, x.keepsCanvas = true := fun k => by
    unfold BodyKind.events
    split
    · simp
    · split <;> simp [Event.keepsCanvas]
  cases e with
  | removePart session kind item =>
    simp only [Endpoint.events, Endpoint.body?]
    cases App.partKinds.find? (·.1 == kind) <;> simp [Event.keepsCanvas]
  | execute session => exact hrun
  | reset | rename | addTable | toggleColumn | addJoin | addFilter | addSort | addGroup | addAggregate | setLimit =>
    exact hbody _
  | _ => simp [Endpoint.events, Endpoint.body?, Event.keepsCanvas]

end QueryCanvas.Http
