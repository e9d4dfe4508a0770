import QueryCanvas.Session.Event
import QueryCanvas.Session.Registry

/-!
# What happens to a registry

Sessions are added to a registry, looked up and removed, and in between each of them goes through events
of its own. `LiveRegistry.step` carries out one such `RegistryEvent` and says in a `RegistryReport` what
came of it.

The ids and the clock are shared with whatever else uses them: between two events others may take ids,
and the clock may be set, also back.
-/

namespace QueryCanvas

/-- What can happen to a registry. -/
inductive RegistryEvent where
  | add (s : Session)
  | get (key : String)
  | remove (key : String)
  | within (key : String) (e : Event)
  | elsewhere (ids : IdSupply) (clock : Clock)

/-- What comes of it: a session is stored, or refused as there is no room; it is found, or it leaves; or
an event comes to something within a session. -/
inductive RegistryReport where
  | stored
  | refused
  | found (s : Session)
  | left (s : Session)
  | within (report : Report)
  | nothing

/-- A registry with the ids and the clock that its sessions use. -/
structure LiveRegistry where
  registry : Registry
  ids : IdSupply
  clock : Clock

namespace LiveRegistry

/-- What comes of one event. -/
def step (r : LiveRegistry) : RegistryEvent → RegistryReport × LiveRegistry
  | .add s =>
    match r.registry.add? s with
    | some registry => (.stored, { r with registry := registry })
    | none => (.refused, r)
  | .get key =>
    match r.registry.get key r.clock with
    | (some s, registry, clock) => (.found s, { r with registry := registry, clock := clock })
    | (none, _, _) => (.nothing, r)
  | .remove key =>
    match r.registry.remove key with
    | (some s, registry) => (.left s, { r with registry := registry })
    | (none, _) => (.nothing, r)
  | .within key e =>
    match r.registry.find? key with
    | some s =>
      let (report, after) := LiveSession.step ⟨s, r.ids, r.clock⟩ e
      (.within report, ⟨r.registry.replace key after.session, after.ids, after.clock⟩)
    | none => (.nothing, r)
  | .elsewhere ids clock => (.nothing, { r with ids := ids, clock := clock })

end LiveRegistry

end QueryCanvas
