import QueryCanvas.Proofs.Http.Answer
import QueryCanvas.Proofs.Http.Events

/-!
# What calls do to the sessions of a service

* `Traffic.Sound`: every session, open or closed, is identified and has an id that was given.
* `Steps`: what a call can do. `step_steps` says that every call does one of these.
* `Untouched`: a call that is addressed to another session, and does not drive this one out of the registry, does
  nothing to it (`Steps.untouched`).
* `Traffic.Alike`, `step_alike`: a call that is addressed to a session does the same to it in two services that
  are alike for that session, if the ids that it takes match.
-/

namespace QueryCanvas.Http

open Canvas

variable {ρ : Equiv.Perm String} {t t' u u' : Traffic} {c : Call} {key : String} {s s' : Session}
  {old : List AuditRow}

/-! ## Sound services -/

/-- A session that is stored under its own id, an id that was given, and that is identified. -/
structure Stored (ids : IdSupply) (key : String) (s : Session) : Prop where
  id : s.id = key
  given : ∃ n ≤ ids.given, key = IdSupply.nth n
  identified : ∀ clock, Identified ⟨s, ids, clock⟩

theorem Stored.later {ids ids' : IdSupply} (h : Stored ids key s) (hids : ids.given ≤ ids'.given) :
    Stored ids' key s where
  id := h.id
  given := by
    obtain ⟨n, hn, hkey⟩ := h.given
    exact ⟨n, Nat.le_trans hn hids, hkey⟩
  identified clock := (h.identified clock).later hids clock

/-- **A sound service**: a sound registry, and closed sessions that are stored as soundly. -/
structure Traffic.Sound (t : Traffic) : Prop where
  registry : t.app.registry.Sound t.app.ids
  closed : ∀ {key s}, t.closed key = some s → Stored t.app.ids key s

/-- A session that is open is stored under its id. -/
theorem Traffic.Sound.stored (ht : t.Sound) (hs : t.app.registry.find? key = some s) : Stored t.app.ids key s where
  id := ht.registry.id_eq hs
  given := ht.registry.given key (Registry.find?_isSome_iff.1 (by rw [hs]; rfl))
  identified := ht.registry.identified s (ht.registry.mem_sessions hs)

/-- One more session is closed. -/
theorem Traffic.Sound.close {ids : IdSupply} (ht : t.Sound) (hids : t.app.ids.given ≤ ids.given)
    (hs : Stored ids key s) {k : String} {s' : Session} (h : t.close key s k = some s') : Stored ids k s' := by
  unfold Traffic.close at h
  by_cases hk : k = key
  · rw [if_pos hk, Option.some.injEq] at h
    rw [hk, ← h]
    exact hs
  · rw [if_neg hk] at h
    exact (ht.closed h).later hids

/-- No event takes an id back. -/
theorem given_step (x : AuditedSession) (e : Event) : x.live.ids.given ≤ (x.step e).2.live.ids.given := by
  obtain ⟨-, clock, hlive⟩ := x.step_live e
  obtain ⟨n, hn, -⟩ := @LiveSession.step_alike 1 x.live x.live (.refl _) e
  rw [hlive]
  simp only [hn]
  exact Nat.le_add_right _ _

theorem given_play (events : List Event) (x : AuditedSession) :
    x.live.ids.given ≤ (play AuditedSession.step events x).2.live.ids.given := by
  induction events generalizing x with
  | nil => exact Nat.le_refl _
  | cons e events ih => exact Nat.le_trans (given_step x e) (ih (x.step e).2)

/-! ## One call -/

/-- **What a call can do**: nothing, open a session, let events happen within an open session, close one, or let an
event happen within a closed one. -/
inductive Steps (t : Traffic) (c : Call) (t' : Traffic) : Prop
  | idle (hreg : t'.app.registry = t.app.registry) (hids : t.app.ids.given ≤ t'.app.ids.given)
      (haudit : t'.app.audit = t.app.audit) (hclosed : t'.closed = t.closed)
  | opened {s : Session} (hnone : c.session? = none) (hid : s.id = t.app.ids.next.1)
      (hids : t.app.ids.given < t'.app.ids.given)
      (hs : ∀ clock, Identified ⟨s, t'.app.ids, clock⟩)
      (hreg : t'.app.registry = t.app.registry.put s.id s ∨
        ∃ old ∈ t.app.registry.sessions, t'.app.registry = (t.app.registry.drop old.id).put s.id s)
      (haudit : t'.app.audit = t.app.audit) (hclosed : t'.closed = t.closed)
  | acted {key : String} {s : Session} {events : List Event} {n : Nat} {isWritten : Bool}
      (hown : c.session? = some key) (hs : t.app.registry.find? key = some s)
      (hleaves : Leaves t.app s events n isWritten t'.app)
      (hclosed : t'.closed = t.closed)
  | ended {key : String} {s : Session} (hown : c.session? = some key) (hs : t.app.registry.find? key = some s)
      (hreg : t'.app.registry = t.app.registry.drop key) (hids : t'.app.ids = t.app.ids)
      (haudit : t'.app.audit = t.app.audit) (hclosed : t'.closed = t.close key s.cancel.2)
  | wentOn {key : String} {s : Session} {e : Event} {x : AuditedSession} (hown : c.session? = some key)
      (hs : t.closed key = some s) (hx : x = ((t.app.audited s).step e).2)
      (hreg : t'.app.registry = t.app.registry) (hids : t'.app.ids = x.live.ids) (haudit : t'.app.audit = x.audit)
      (hclosed : t'.closed = t.close key x.live.session)

/-- The events that a call comes to in a session that is open. -/
def Call.events (c : Call) (host : Host) (s : Session) : List Event :=
  match c with
  | .request warehouse e _ body => e.events host warehouse body s
  | .within _ e => [e]

/-- The number of ids that a call takes for joins that are only suggested. -/
def Call.suggested (c : Call) (cat : Catalog) : Nat :=
  match c with
  | .request _ e target _ => e.suggested target cat
  | .within _ _ => 0

/-- Whether the log can take a row about the run of a session that ends with a call. -/
def Call.isWritten (c : Call) (s : Session) : Bool :=
  match c with
  | .request .. => isRecordable s.canvas
  | .within _ _ => true

/-- Whether a call asks for the end of a session. -/
def Call.isEnd : Call → Bool
  | .request _ (.endSession _) _ _ => true
  | _ => false

/-- A call that asks for the end of its session names it. -/
theorem Call.eq_end (hown : c.session? = some key) (hend : c.isEnd = true) :
    ∃ warehouse target body, c = .request warehouse (.endSession key) target body := by
  cases c with
  | within key' e => cases hend
  | request warehouse e target body =>
    cases e with
    | endSession key' =>
      cases hown
      exact ⟨warehouse, target, body, rfl⟩
    | _ => cases hend

/-- **No call moves the service** to another host. -/
theorem host_step (t : Traffic) (c : Call) : (t.step c).app.host = t.app.host := by
  cases c with
  | request warehouse e target body => exact (unlogged_atEndpoint e target body).host
  | within key e =>
    simp only [Traffic.step, Traffic.within]
    split <;> rfl

section Own

variable {warehouse : Warehouse} {e : Endpoint} {target : Target} {body : String}

/-- **In a session that is open** a call comes to its events, unless it asks for the end of the session. -/
theorem step_leaves (ht : t.Sound) (hs : t.app.registry.find? key = some s) (hown : c.session? = some key)
    (hend : c.isEnd = false) :
    Leaves t.app s (c.events t.app.host s) (c.suggested s.catalog) (c.isWritten s) (t.step c).app ∧
      (t.step c).closed = t.closed := by
  cases c with
  | within key' e =>
    cases hown
    simp only [Traffic.step, Traffic.within, hs]
    exact ⟨⟨by rw [ht.registry.id_eq hs]; rfl, rfl, rfl⟩, trivial⟩
  | request warehouse e target body =>
    have hne : e ≠ .endSession key := by
      rintro rfl
      cases hend
    have hleaves : Leaves { t.app with warehouse := warehouse } s (e.events t.app.host warehouse body s)
        (e.suggested target s.catalog) (isRecordable s.canvas) (t.step (.request warehouse e target body)).app :=
      leaves_atEndpoint ht.registry hs hown hne
    refine ⟨⟨hleaves.registry, hleaves.ids, hleaves.audit⟩, ?_⟩
    cases e with
    | endSession key' => cases hend
    | _ => rfl

/-- A session that is open is closed on request. -/
theorem step_end (hs : t.app.registry.find? key = some s) : t.step (.request warehouse (.endSession key) target body) =
    ⟨{ t.app with warehouse := warehouse, registry := t.app.registry.drop key }, t.close key s.cancel.2⟩ := by
  simp only [Traffic.step, App.atEndpoint, App.endSession, Traffic.closedBy, Registry.remove, hs]

/-- A request to a session that is not open changes nothing. -/
theorem step_unknown (hs : t.app.registry.find? key = none) (he : e.session? = some key) :
    t.step (.request warehouse e target body) = { t with app := { t.app with warehouse := warehouse } } := by
  have hout : (App.atEndpoint e target body { t.app with warehouse := warehouse }).2 =
      { t.app with warehouse := warehouse } := atEndpoint_unknown hs he
  have hclosed : t.closedBy e = t.closed := by
    cases e with
    | endSession key' =>
      cases he
      simp only [Traffic.closedBy, Registry.remove, hs]
    | _ => rfl
  simp only [Traffic.step, hout, hclosed]

end Own

theorem audit_startSession (a : App) : a.startSession.2.audit = a.audit := by
  unfold App.startSession
  split
  next => rfl
  next report hload =>
    dsimp only
    split <;> rfl

/-- **Every call does one of these.** -/
theorem step_steps (ht : t.Sound) (c : Call) : Steps t c (t.step c) := by
  cases hown : c.session? with
  | none =>
    match c, hown with
    | .request warehouse .documentation target body, hown => exact .idle rfl (Nat.le_refl _) rfl rfl
    | .request warehouse .startSession target body, hown =>
      have haudit := audit_startSession { t.app with warehouse := warehouse }
      cases startSession_opens { t.app with warehouse := warehouse } with
      | refused hreg hids => exact .idle hreg hids haudit rfl
      | opened hresult hsent hid hids hs hreg => exact .opened rfl hid hids hs hreg haudit rfl
  | some key =>
    cases hs : t.app.registry.find? key with
    | some s =>
      cases hend : c.isEnd with
      | false =>
        obtain ⟨hleaves, hclosed⟩ := step_leaves ht hs hown hend
        exact .acted hown hs hleaves hclosed
      | true =>
        obtain ⟨warehouse, target, body, rfl⟩ := Call.eq_end hown hend
        rw [step_end hs]
        exact .ended rfl hs rfl rfl rfl rfl
    | none =>
      cases c with
      | request warehouse e target body =>
        rw [step_unknown hs hown]
        exact .idle rfl (Nat.le_refl _) rfl rfl
      | within key' e =>
        cases hown
        simp only [Traffic.step, Traffic.within, hs]
        cases hclosed : t.closed key with
        | some s => exact .wentOn rfl hclosed rfl rfl rfl rfl rfl
        | none => exact .idle rfl (Nat.le_refl _) rfl rfl

/-- An event within a session that is stored leaves it stored. -/
theorem Stored.play (h : Stored t.app.ids key s) (events : List Event) :
    Stored (t.app.went s events).live.ids key (t.app.went s events).live.session where
  id := (AuditedSession.id_play events (t.app.audited s)).trans h.id
  given := by
    obtain ⟨n, hn, hkey⟩ := h.given
    exact ⟨n, Nat.le_trans hn (given_play events (t.app.audited s)), hkey⟩
  identified clock := (AuditedSession.identified_play (a := t.app.audited s) events (h.identified t.app.clock)).later
    (Nat.le_refl _) clock

theorem Steps.given (h : Steps t c t') : t.app.ids.given ≤ t'.app.ids.given := by
  cases h with
  | idle hreg hids => exact hids
  | opened hnone hid hids => exact Nat.le_of_lt hids
  | @acted key s events n isWritten hown hs hleaves =>
    rw [hleaves.ids]
    exact Nat.le_trans (given_play events (t.app.audited s)) (Nat.le_add_right _ _)
  | ended hown hs hreg hids => rw [hids]
  | @wentOn key s e x hown hs hx hreg hids =>
    rw [hids, hx]
    exact given_step (t.app.audited s) e

/-- **A sound service stays sound.** -/
theorem Steps.sound (h : Steps t c t') (ht : t.Sound) : t'.Sound := by
  have hids := h.given
  have hkept : t'.closed = t.closed → ∀ {key s}, t'.closed key = some s → Stored t'.app.ids key s :=
    fun hclosed _ _ hs => (ht.closed (hclosed ▸ hs)).later hids
  cases h with
  | idle hreg _ haudit hclosed =>
    refine ⟨?_, hkept hclosed⟩
    rw [hreg]
    exact ht.registry.later hids
  | opened hnone hid hlt hs hreg haudit hclosed =>
    refine ⟨?_, hkept hclosed⟩
    rcases hreg with hreg | ⟨old, -, hreg⟩
    · rw [hreg]
      exact ht.registry.put hid hlt hs
    · rw [hreg]
      exact (ht.registry.drop old.id).put hid hlt hs
  | @acted key s events n isWritten hown hs hleaves hclosed =>
    have hstored := (ht.stored hs).play events
    refine ⟨?_, hkept hclosed⟩
    rw [hleaves.registry]
    refine (ht.registry.later hids).replace (AuditedSession.id_play events (t.app.audited s)) fun clock => ?_
    exact (hstored.identified clock).later (hleaves.ids ▸ Nat.le_add_right _ _) clock
  | @ended key s hown hs hreg hsame haudit hclosed =>
    refine ⟨?_, fun {k s'} hk => ?_⟩
    · rw [hreg, hsame]
      exact ht.registry.drop key
    · rw [hclosed] at hk
      have hcancelled : Stored t.app.ids key s.cancel.2 := (ht.stored hs).play [.cancel]
      exact ht.close hids (hcancelled.later hids) hk
  | @wentOn key s e x hown hs hx hreg hsame haudit hclosed =>
    refine ⟨?_, fun {k s'} hk => ?_⟩
    · rw [hreg]
      exact ht.registry.later hids
    · rw [hclosed] at hk
      refine ht.close hids ?_ hk
      rw [hsame, hx]
      exact (ht.closed hs).play [e]

/-! ## Other sessions -/

/-- **Nothing was done to a session**: it is as it was, open or closed, and so are its rows in the log. -/
structure Untouched (key : String) (t t' : Traffic) : Prop where
  host : t'.app.host = t.app.host
  opened : t'.app.registry.find? key = t.app.registry.find? key
  closed : t'.closed key = t.closed key
  log : t'.app.audit.of key = t.app.audit.of key

/-- **What is addressed to others** does nothing to a session that stays in the registry. -/
theorem Steps.untouched (h : Steps t c t') (hhost : t'.app.host = t.app.host) (ht : t.Sound)
    (hkey : ∃ n ≤ t.app.ids.given, key = IdSupply.nth n) (hother : c.session? ≠ some key)
    (hstays : key ∈ t.app.registry.keys → key ∈ t'.app.registry.keys) : Untouched key t t' := by
  cases h with
  | idle hreg hids haudit hclosed => exact ⟨hhost, by rw [hreg], by rw [hclosed], by rw [haudit]⟩
  | @opened s hnone hid hids hs hreg haudit hclosed =>
    have hne : key ≠ s.id := by
      obtain ⟨n, hn, hnth⟩ := hkey
      intro hk
      have : n = t.app.ids.given + 1 := IdSupply.nth_injective (hnth.symm.trans (hk.trans hid))
      omega
    have hnew : s.id ∉ t.app.registry.keys := hid ▸ ht.registry.fresh
    refine ⟨hhost, ?_, by rw [hclosed], by rw [haudit]⟩
    rcases hreg with hreg | ⟨old, hold, hreg⟩
    · rw [hreg, Registry.find?_put hnew, if_neg hne]
    · have hput := ht.registry.not_mem_drop hnew old.id
      -- Whoever makes room leaves the registry, so it is not this session.
      have hstaying : key ≠ old.id := by
        rintro rfl
        have hopen := hstays (Registry.find?_isSome_iff.1 (by rw [ht.registry.find?_id hold]; rfl))
        rw [hreg, Registry.keys_put hput, List.mem_append, List.mem_singleton, or_iff_left hne] at hopen
        exact ht.registry.ne_of_mem_drop hopen rfl
      rw [hreg, Registry.find?_put hput, if_neg hne, Registry.find?_drop, if_neg hstaying]
  | @acted key' s events n isWritten hown hs hleaves hclosed =>
    have hne : s.id ≠ key := fun hid => by
      rw [ht.registry.id_eq hs] at hid
      exact hother (hid ▸ hown)
    refine ⟨hhost, ?_, by rw [hclosed], ?_⟩
    · rw [hleaves.registry, Registry.find?_replace, if_neg hne.symm]
    · rw [hleaves.audit]
      split
      · exact AuditedSession.of_play hne events
      · rfl
  | @ended key' s hown hs hreg hsame haudit hclosed =>
    have hne : key ≠ key' := fun hk => hother (hk ▸ hown)
    refine ⟨hhost, ?_, ?_, by rw [haudit]⟩
    · rw [hreg, Registry.find?_drop, if_neg hne]
    · rw [hclosed]
      exact if_neg hne
  | @wentOn key' s e x hown hs hx hreg hsame haudit hclosed =>
    have hne : key ≠ key' := fun hk => hother (hk ▸ hown)
    refine ⟨hhost, by rw [hreg], ?_, ?_⟩
    · rw [hclosed]
      exact if_neg hne
    · rw [haudit, hx]
      refine AuditedSession.of_step (fun hid => hne ?_) e
      exact hid.symm.trans (ht.closed hs).id

/-- A session is not lost: it is open or closed, as long as it is not driven out of the registry. -/
theorem Steps.found (h : Steps t c t') (hhost : t'.app.host = t.app.host) (ht : t.Sound)
    (hfound : (t.session? key).isSome = true)
    (hstays : c.session? ≠ some key → key ∈ t.app.registry.keys → key ∈ t'.app.registry.keys) :
    (t'.session? key).isSome = true := by
  have hkey : ∃ n ≤ t.app.ids.given, key = IdSupply.nth n := by
    rw [Traffic.session?, Option.isSome_or, Bool.or_eq_true] at hfound
    rcases hfound with hopen | hclosed
    · exact ht.registry.given key (Registry.find?_isSome_iff.1 hopen)
    · obtain ⟨s, hs⟩ := Option.isSome_iff_exists.1 hclosed
      exact (ht.closed hs).given
  by_cases hown : c.session? = some key
  · cases h with
    | idle hreg hids haudit hclosed => rwa [Traffic.session?, hreg, hclosed]
    | opened hnone => exact absurd (hnone.symm.trans hown) nofun
    | acted hown' hs hleaves hclosed =>
      cases hown.symm.trans hown'
      rw [Traffic.session?, hleaves.registry, ht.registry.id_eq hs, Registry.find?_replace, if_pos rfl, hs]
      rfl
    | ended hown' hs hreg hids haudit hclosed =>
      cases hown.symm.trans hown'
      rw [Traffic.session?, hreg, hclosed, Registry.find?_drop, if_pos rfl, Traffic.close, if_pos rfl]
      rfl
    | wentOn hown' hs hx hreg hids haudit hclosed =>
      cases hown.symm.trans hown'
      rw [Traffic.session?, hclosed, Traffic.close, if_pos rfl, Option.isSome_or]
      exact Bool.or_true _
  · have hu := h.untouched hhost ht hkey hown (hstays hown)
    rwa [Traffic.session?, hu.opened, hu.closed]

/-! ## Every state -/

/-- A service over a warehouse, before the first call. -/
def Traffic.start (host : Host) (warehouse : Warehouse) (capacity : Int) : Traffic :=
  ⟨.start host warehouse capacity, fun _ => none⟩

/-- **A service in use**: calls were made one after the other. In between the warehouse, the logs and the clock may
have changed. -/
inductive Reached : Traffic → Prop
  | start (host : Host) (warehouse : Warehouse) (capacity : Int) : Reached (.start host warehouse capacity)
  | called {t : Traffic} (before : Reached t) (c : Call) : Reached (t.step c)
  | elsewhere {t : Traffic} (before : Reached t) (warehouse : Warehouse) (audit : AuditStore)
      (requestLog : Option (List RequestRow)) (clock : Clock) :
      Reached { t with app := { t.app with
        warehouse := warehouse, audit := audit, requestLog := requestLog, clock := clock } }

theorem Reached.sound (h : Reached t) : t.Sound := by
  induction h with
  | start host warehouse capacity => exact ⟨.empty capacity .fresh, nofun⟩
  | called before c ih => exact (step_steps ih c).sound ih
  | elsewhere before warehouse audit requestLog clock ih => exact ⟨ih.registry, ih.closed⟩

/-- A request that leads to an endpoint is a call, but for the log of requests. -/
theorem handle_called (t : Traffic) {r : Request} {e : Endpoint}
    (h : destination r.method (Target.ofText r.target).path = .endpoint e) : (t.app.handle r).2 =
      { (t.step (.request t.app.warehouse e (Target.ofText r.target) r.body)).app with
        requestLog := (t.app.handle r).2.requestLog } := by
  simp only [App.handle, answer_endpoint h, Traffic.step]

/-- Every other request leaves the service as it is, but for the log of requests. -/
theorem handle_elsewhere (a : App) {r : Request}
    (h : ∀ e, destination r.method (Target.ofText r.target).path ≠ .endpoint e) :
    (a.handle r).2 = { a with requestLog := (a.handle r).2.requestLog } := by
  have hsame : (a.answer r (Target.ofText r.target)).2 = a := by
    unfold App.answer App.route
    split
    next => rfl
    next =>
      split
      next e hdest => exact absurd hdest (h e)
      all_goals rfl
  simp only [App.handle, hsame]

/-! ## Services that are alike -/

/-- A call in a service with other ids. -/
def Call.renamed (ρ : Equiv.Perm String) : Call → Call
  | .request warehouse e target body => .request warehouse (e.renamed ρ) target body
  | .within key e => .within key (e.renamed ρ)

theorem Call.session?_renamed (ρ : Equiv.Perm String) (c : Call) : (c.renamed ρ).session? = c.session? := by
  cases c with
  | request warehouse e target body => exact QueryCanvas.Http.session?_renamed ρ e
  | within key e => rfl

/-- **Services that are alike for a session**, open or closed, but for ids, times and the numbers of rows. -/
structure Traffic.Alike (ρ : Equiv.Perm String) (key : String) (old : List AuditRow) (t t' : Traffic) : Prop where
  host : t'.app.host = t.app.host
  opened : Option.Rel (Session.Alike ρ) (t.app.registry.find? key) (t'.app.registry.find? key)
  closed : Option.Rel (Session.Alike ρ) (t.closed key) (t'.closed key)
  log : t.app.audit.Alike ρ key old t'.app.audit

/-- Of two services that are alike both have a session, or neither. -/
theorem rel_cases {α β : Type} {R : α → β → Prop} {x : Option α} {y : Option β} (h : Option.Rel R x y) :
    (x = none ∧ y = none) ∨ ∃ a b, x = some a ∧ y = some b ∧ R a b := by
  cases h with
  | none => exact .inl ⟨rfl, rfl⟩
  | some h => exact .inr ⟨_, _, rfl, rfl, h⟩

/-- What does nothing to the session on either side leaves the services alike. -/
theorem Traffic.Alike.untouched (h : t.Alike ρ key old t') (hu : Untouched key t u) (hu' : Untouched key t' u') :
    u.Alike ρ key old u' where
  host := hu'.host.trans (h.host.trans hu.host.symm)
  opened := by
    rw [hu.opened, hu'.opened]
    exact h.opened
  closed := by
    rw [hu.closed, hu'.closed]
    exact h.closed
  log := by
    unfold AuditStore.Alike
    rw [hu.log, hu'.log]
    exact h.log

/-- A call comes to the same events in a session with other ids. -/
theorem Call.events_renamed (h : s.Alike ρ s') (host : Host) (c : Call) :
    (c.renamed ρ).events host s' = (c.events host s).map (Event.renamed ρ) := by
  cases c with
  | request warehouse e target body => exact QueryCanvas.Http.events_renamed h host warehouse body e
  | within key e => rfl

theorem Call.events_kept (c : Call) (host : Host) (s : Session) :
    ∀ x ∈ (c.events host s).dropLast, x.keepsCanvas = true := by
  cases c with
  | request warehouse e target body => exact QueryCanvas.Http.events_kept host warehouse body s e
  | within key e => simp [Call.events]

theorem Call.suggested_renamed (ρ : Equiv.Perm String) (c : Call) (cat : Catalog) :
    (c.renamed ρ).suggested cat = c.suggested cat := by
  cases c with
  | request warehouse e target body => cases e <;> rfl
  | within key e => rfl

theorem Call.isWritten_renamed (h : s.Alike ρ s') (c : Call) : (c.renamed ρ).isWritten s' = c.isWritten s := by
  cases c with
  | request warehouse e target body => exact isRecordable_renamed h
  | within key e => rfl

theorem Call.isEnd_renamed (ρ : Equiv.Perm String) (c : Call) : (c.renamed ρ).isEnd = c.isEnd := by
  cases c with
  | request warehouse e target body => cases e <;> rfl
  | within key e => rfl

/-- Events within a session that is open on both sides. -/
theorem Leaves.alike {events : List Event} {n : Nat} {isWritten : Bool} (ht : t.Sound) (ht' : t'.Sound)
    (h : t.Alike ρ key old t') (hhost : u.app.host = t.app.host) (hhost' : u'.app.host = t'.app.host)
    (hs : t.app.registry.find? key = some s) (hs' : t'.app.registry.find? key = some s') (halike : s.Alike ρ s')
    (hl : Leaves t.app s events n isWritten u.app)
    (hl' : Leaves t'.app s' (events.map (Event.renamed ρ)) n isWritten u'.app)
    (hclosed : u.closed = t.closed) (hclosed' : u'.closed = t'.closed)
    (hkept : ∀ e ∈ events.dropLast, e.keepsCanvas = true) :
    Draws ρ t.app.ids t'.app.ids u.app.ids u'.app.ids (u.Alike ρ key old u') := by
  have hid := ht.registry.id_eq hs
  have hid' := ht'.registry.id_eq hs'
  have haudited : (t.app.audited s).Alike ρ key old (t'.app.audited s') := ⟨halike, hid, h.log⟩
  obtain ⟨m, hids, hids', hafter⟩ := AuditedSession.play_alike haudited hkept
  refine ⟨m + n, ?_, ?_, fun hm => ?_⟩
  · rw [hl.ids]
    exact (congrArg (· + n) hids).trans (Nat.add_assoc _ _ _)
  · rw [hl'.ids]
    exact (congrArg (· + n) hids').trans (Nat.add_assoc _ _ _)
  · have hplayed := hafter fun i hi => hm i (Nat.lt_of_lt_of_le hi (Nat.le_add_right m n))
    constructor
    · rw [hhost, hhost', h.host]
    · rw [hl.registry, hl'.registry, hid, hid', Registry.find?_replace, Registry.find?_replace, if_pos rfl,
        if_pos rfl, hs, hs']
      exact .some hplayed.session
    · rw [hclosed, hclosed']
      exact h.closed
    · rw [hl.audit, hl'.audit]
      split
      · exact hplayed.log
      · exact h.log

/-- **A call that is addressed to a session** does the same to it in services that are alike. -/
theorem Traffic.step_alike (ht : t.Sound) (ht' : t'.Sound) (h : t.Alike ρ key old t')
    (hown : c.session? = some key) :
    Draws ρ t.app.ids t'.app.ids (t.step c).app.ids (t'.step (c.renamed ρ)).app.ids
      ((t.step c).Alike ρ key old (t'.step (c.renamed ρ))) := by
  have hown' : (c.renamed ρ).session? = some key := (Call.session?_renamed ρ c).trans hown
  rcases rel_cases h.opened with ⟨hs, hs'⟩ | ⟨s, s', hs, hs', halike⟩
  · cases c with
    | request warehouse e target body =>
      rw [step_unknown hs hown, Call.renamed, step_unknown hs' hown']
      exact ⟨0, rfl, rfl, fun _ => ⟨h.host, h.opened, h.closed, h.log⟩⟩
    | within key' e =>
      cases hown
      rcases rel_cases h.closed with ⟨hc, hc'⟩ | ⟨s, s', hc, hc', halike⟩
      · simp only [Traffic.step, Call.renamed, Traffic.within, hs, hs', hc, hc']
        exact ⟨0, rfl, rfl, fun _ => h⟩
      · have haudited : (t.app.audited s).Alike ρ key old (t'.app.audited s') := ⟨halike, (ht.closed hc).id, h.log⟩
        obtain ⟨m, hids, hids', hafter⟩ := AuditedSession.step_alike haudited e
        simp only [Traffic.step, Call.renamed, Traffic.within, hs, hs', hc, hc']
        refine ⟨m, hids, hids', fun hm => ⟨h.host, h.opened, ?_, (hafter hm).log⟩⟩
        simp only [Traffic.close, if_true]
        exact .some (hafter hm).session
  · cases hend : c.isEnd with
    | false =>
      have hend' : (c.renamed ρ).isEnd = false := (Call.isEnd_renamed ρ c).trans hend
      obtain ⟨hl, hclosed⟩ := step_leaves ht hs hown hend
      obtain ⟨hl', hclosed'⟩ := step_leaves ht' hs' hown' hend'
      rw [h.host, Call.events_renamed halike, Call.suggested_renamed, Call.isWritten_renamed halike, halike.catalog] at hl'
      exact hl.alike ht ht' h (host_step t c) (host_step t' _) hs hs' halike hl' hclosed hclosed' (c.events_kept _ s)
    | true =>
      obtain ⟨warehouse, target, body, rfl⟩ := Call.eq_end hown hend
      simp only [Call.renamed, Endpoint.renamed, step_end hs, step_end hs']
      refine ⟨0, rfl, rfl, fun _ => ⟨h.host, ?_, ?_, h.log⟩⟩
      · simp only [Registry.find?_drop, if_true]
        exact .none
      · simp only [Traffic.close, if_true]
        exact .some halike.cancel.2

end QueryCanvas.Http
