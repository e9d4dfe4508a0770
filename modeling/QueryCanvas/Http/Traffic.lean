import QueryCanvas.Audit.Trail
import QueryCanvas.Http.App

/-!
# Traffic

Requests are answered one after the other. In between, things happen within sessions: runs go on that were
started before, and whoever holds a session works on it directly. A session that is closed is not found any more,
but what goes on in it goes on, and a run that ends in it is recorded. One that makes room for another is idle, and
is not followed any further.

The warehouse is no part of the service: what it answers to a request comes with the request.
-/

namespace QueryCanvas.Http

/-- What reaches a service: a request at an endpoint, with the warehouse as it is by then, or something that
happens within a session. -/
inductive Call where
  | request (warehouse : Warehouse) (e : Endpoint) (t : Target) (body : String)
  | within (session : String) (e : Event)

/-- The session that an endpoint is about. -/
def Endpoint.session? : Endpoint → Option String
  | .documentation | .startSession => none
  | .showSession s | .endSession s | .showCatalog s | .suggestJoins s | .reset s | .rename s | .addTable s
  | .removeTable s _ | .toggleColumn s | .addJoin s | .addFilter s | .addSort s | .addGroup s | .addAggregate s
  | .removePart s _ _ | .setLimit s | .showSql s | .execute s | .cancel s | .executions s
  | .executionSummary s => some s

/-- The session that a call is addressed to. -/
def Call.session? : Call → Option String
  | .request _ e _ _ => e.session?
  | .within s _ => some s

/-- A service, and the sessions that were closed, as they go on. -/
structure Traffic where
  app : App
  closed : String → Option Session

namespace Traffic

/-- The session of an id, open or closed. -/
def session? (t : Traffic) (key : String) : Option Session :=
  (t.app.registry.find? key).or (t.closed key)

/-- The closed sessions once a session is put among them. -/
def close (t : Traffic) (key : String) (s : Session) : String → Option Session :=
  fun k => if k = key then some s else t.closed k

/-- The service after an event within one of its sessions. -/
def settle (a : App) (x : AuditedSession) (registry : Registry) : App :=
  { a with registry := registry, ids := x.live.ids, clock := x.live.clock, audit := x.audit }

/-- What an event within a session leads to. -/
def within (t : Traffic) (key : String) (e : Event) : Traffic :=
  match t.app.registry.find? key, t.closed key with
  | some s, _ =>
    let x := (AuditedSession.step ⟨⟨s, t.app.ids, t.app.clock⟩, t.app.audit⟩ e).2
    { t with app := settle t.app x (t.app.registry.replace key x.live.session) }
  | none, some s =>
    let x := (AuditedSession.step ⟨⟨s, t.app.ids, t.app.clock⟩, t.app.audit⟩ e).2
    ⟨settle t.app x t.app.registry, t.close key x.live.session⟩
  | none, none => t

/-- The closed sessions after a request: one that it closes is among them. -/
def closedBy (t : Traffic) : Endpoint → String → Option Session
  | .endSession key =>
    match t.app.registry.remove key with
    | (some s, _) => t.close key s
    | (none, _) => t.closed
  | _ => t.closed

/-- What a call leads to. -/
def step (t : Traffic) : Call → Traffic
  | .request warehouse e target body =>
    ⟨({ t.app with warehouse := warehouse }.atEndpoint e target body).2, t.closedBy e⟩
  | .within key e => t.within key e

/-- What calls lead to, in their order. -/
def run (t : Traffic) (calls : List Call) : Traffic :=
  calls.foldl step t

end Traffic

end QueryCanvas.Http
