import QueryCanvas.Proofs.Http.Interleaving
import QueryCanvas.Proofs.Http.Refusal
import QueryCanvas.Proofs.Session.QueryName

/-!
# The names of the queries of a service

Calls name the query of a session as the events do that they come to in it; a session that is opened has a query of
the default name.

* `Traffic.history`: the events that calls come to in a session, open or closed.
* `step_own`, `run_name`: the name of its query is the last that they gave.
* `query_names`: when the name is tidy, of a session that is used directly and of one that a service holds.
-/

namespace QueryCanvas.Http

open Canvas

namespace Traffic

/-- The events that a call comes to in a session, open or closed. -/
def eventsIn (t : Traffic) (key : String) (c : Call) : List Event :=
  if c.session? = some key then
    match t.app.registry.find? key, c with
    | some s, c => c.events t.app.host s
    | none, .within _ e => if (t.closed key).isSome then [e] else []
    | none, .request .. => []
  else []

/-- **The events that calls come to in a session**, in their order. -/
def history (key : String) : Traffic → List Call → List Event
  | _, [] => []
  | t, c :: calls => t.eventsIn key c ++ (t.step c).history key calls

/-- No session is both open and closed. -/
def Apart (t : Traffic) : Prop :=
  ∀ key, (t.closed key).isSome = true → t.app.registry.find? key = none

end Traffic

open Traffic

variable {t t' : Traffic} {c : Call} {calls : List Call} {key : String} {s s' : Session}

theorem history_append (key : String) (t : Traffic) (calls : List Call) (c : Call) :
    t.history key (calls ++ [c]) = t.history key calls ++ (t.run calls).eventsIn key c := by
  induction calls generalizing t with
  | nil => simp [history, run]
  | cons c' calls ih =>
    rw [List.cons_append, history, history, ih, List.append_assoc]
    rfl

/-! ## Open and closed sessions -/

/-- No call opens a session that is closed. -/
theorem Steps.apart (h : Steps t c t') (ht : t.Sound) (ha : t.Apart) : t'.Apart := by
  intro key hclosed'
  cases h with
  | idle hreg hids haudit hclosed =>
    rw [hreg]
    exact ha key (hclosed ▸ hclosed')
  | @opened s hnone hid hids hs hreg haudit hclosed =>
    have hfound := ha key (hclosed ▸ hclosed')
    have hnew : s.id ∉ t.app.registry.keys := hid ▸ ht.registry.fresh
    have hne : key ≠ s.id := by
      obtain ⟨s', hs'⟩ := Option.isSome_iff_exists.1 (hclosed ▸ hclosed')
      obtain ⟨n, hn, hkey⟩ := (ht.closed hs').given
      intro heq
      have : n = t.app.ids.given + 1 := IdSupply.nth_injective (hkey.symm.trans (heq.trans hid))
      omega
    rcases hreg with hreg | ⟨old, -, hreg⟩
    · rw [hreg, Registry.find?_put hnew, if_neg hne, hfound]
    · rw [hreg, Registry.find?_put (ht.registry.not_mem_drop hnew old.id), if_neg hne, Registry.find?_drop, hfound,
        ite_self]
  | acted hown hs hleaves hclosed =>
    rw [hleaves.registry, Registry.find?_replace, ha key (hclosed ▸ hclosed'), Option.map_none, ite_self]
  | @ended key' s hown hs hreg hids haudit hclosed =>
    rw [hreg, Registry.find?_drop]
    split
    · rfl
    · next hne =>
      rw [hclosed, close, if_neg hne] at hclosed'
      exact ha key hclosed'
  | @wentOn key' s e x hown hs hx hreg hids haudit hclosed =>
    rw [hreg]
    by_cases hkey : key = key'
    · exact ha key (by rw [hkey, hs]; rfl)
    · rw [hclosed, close, if_neg hkey] at hclosed'
      exact ha key hclosed'

theorem apart_start (host : Host) (warehouse : Warehouse) (capacity : Int) :
    (Traffic.start host warehouse capacity).Apart :=
  nofun

/-- A session is found where it is, open or closed. -/
theorem session?_eq_some (ha : t.Apart) :
    t.session? key = some s ↔ t.app.registry.find? key = some s ∨ t.closed key = some s := by
  rw [session?, Option.or_eq_some_iff]
  refine or_congr_right ⟨And.right, fun hclosed => ⟨ha key ?_, hclosed⟩⟩
  rw [hclosed]
  rfl

/-! ## Calls to others -/

/-- A session that is opened has a query of the default name. -/
theorem startSession_named {a : App} (ha : a.registry.Sound a.ids)
    (h : a.startSession.2.registry.find? key = some s) :
    a.registry.find? key = some s ∨ key = a.ids.next.1 ∧ s.canvas.name = .text defaultName := by
  unfold App.startSession at h
  split at h
  · exact .inl h
  · next report hload =>
    generalize hopened : Session.start a.warehouse.dialect report.catalog .null a.ids a.clock = opened at h
    obtain ⟨new, ids, clock⟩ := opened
    have hid : new.id = a.ids.next.1 := by
      cases hopened
      rfl
    have hname : new.canvas.name = .text defaultName := by
      cases hopened
      rfl
    have hfresh : new.id ∉ a.registry.keys := hid ▸ ha.fresh
    dsimp only at h
    split at h
    · exact .inl h
    · next registry hadd =>
      rcases Registry.add?_eq_some hadd with rfl | ⟨old, -, rfl⟩
      · rw [Registry.find?_put hfresh] at h
        split at h
        · next hkey => exact .inr ⟨hkey.trans hid, Option.some.inj h ▸ hname⟩
        · exact .inl h
      · rw [Registry.find?_put (ha.not_mem_drop hfresh old.id), Registry.find?_drop] at h
        split at h
        · next hkey => exact .inr ⟨hkey.trans hid, Option.some.inj h ▸ hname⟩
        · split at h
          · cases h
          · exact .inl h

/-- **What is not addressed to a session** leaves it as it is, or opens it. -/
theorem step_other (ht : t.Sound) (ha : t.Apart) (hother : c.session? ≠ some key)
    (h : (t.step c).session? key = some s') :
    t.session? key = some s' ∨ key = t.app.ids.next.1 ∧ s'.canvas.name = .text defaultName := by
  cases hown : c.session? with
  | none =>
    cases c with
    | within key' e => cases hown
    | request warehouse e target body =>
      cases e with
      | documentation => exact .inl h
      | startSession =>
        rw [session?_eq_some ((step_steps ht _).apart ht ha)] at h
        rw [session?_eq_some ha]
        rcases h with hopen | hclosed
        · exact (startSession_named (a := { t.app with warehouse := warehouse }) ht.registry hopen).imp_left .inl
        · exact .inl (.inr hclosed)
      | _ => cases hown
  | some key' =>
    have hne : key ≠ key' := fun hkey => hother (hkey ▸ hown)
    left
    cases step_steps ht c with
    | idle hreg hids haudit hclosed => rwa [session?, hreg, hclosed] at h
    | opened hnone => cases hnone.symm.trans hown
    | acted hown' hs hleaves hclosed =>
      cases hown.symm.trans hown'
      rwa [session?, hleaves.registry, ht.registry.id_eq hs, Registry.find?_replace, if_neg hne, hclosed] at h
    | ended hown' hs hreg hids haudit hclosed =>
      cases hown.symm.trans hown'
      rwa [session?, hreg, Registry.find?_drop, if_neg hne, hclosed, close, if_neg hne] at h
    | wentOn hown' hs hx hreg hids haudit hclosed =>
      cases hown.symm.trans hown'
      rwa [session?, hreg, hclosed, close, if_neg hne] at h

/-! ## Calls to a session -/

/-- What events in a session of a service leave its query named. -/
theorem name_went {a : App} (hs : ∀ clock, Identified ⟨s, a.ids, clock⟩) (events : List Event) :
    (a.went s events).live.session.canvas.name = nameAfter s.canvas.name events :=
  name_play AuditedSession.live (fun x e => (x.step_live e).2) events (hs a.clock)

theorem eventsIn_open (hown : c.session? = some key) (hs : t.app.registry.find? key = some s) :
    t.eventsIn key c = c.events t.app.host s := by
  simp only [eventsIn, hown, hs, if_true]

theorem eventsIn_other (hother : c.session? ≠ some key) : t.eventsIn key c = [] :=
  if_neg hother

theorem eventsIn_request {warehouse : Warehouse} {e : Endpoint} {target : Target} {body : String}
    (hs : t.app.registry.find? key = none) : t.eventsIn key (.request warehouse e target body) = [] := by
  simp only [eventsIn, hs, ite_self]

theorem eventsIn_within {e : Event} (hs : t.app.registry.find? key = none) :
    t.eventsIn key (.within key e) = if (t.closed key).isSome then [e] else [] := by
  simp only [eventsIn, hs, Call.session?, if_true]

/-- What a call comes to in a session that is unknown is nothing. -/
theorem eventsIn_unknown (h : t.session? key = none) : t.eventsIn key c = [] := by
  obtain ⟨hs, hclosed⟩ := Option.or_eq_none_iff.1 h
  by_cases hown : c.session? = some key
  · cases c with
    | request warehouse e target body => exact eventsIn_request hs
    | within key' e =>
      cases hown
      rw [eventsIn_within hs, hclosed]
      rfl
  · exact eventsIn_other hown

/-- A session that is open is left with the last name that a call to it gave. -/
theorem step_open (ht : t.Sound) (hown : c.session? = some key) (hs : t.app.registry.find? key = some s)
    (h : (t.step c).session? key = some s') :
    s'.canvas.name = nameAfter s.canvas.name (c.events t.app.host s) := by
  cases hend : c.isEnd with
  | false =>
    obtain ⟨hleaves, -⟩ := step_leaves ht hs hown hend
    rw [session?, hleaves.registry, ht.registry.id_eq hs, Registry.find?_replace, if_pos rfl, hs, Option.map_some,
      Option.some_or, Option.some.injEq] at h
    rw [← h]
    exact name_went (ht.stored hs).identified _
  | true =>
    obtain ⟨warehouse, target, body, rfl⟩ := Call.eq_end hown hend
    simp only [step_end hs, session?, Registry.find?_drop, close, if_true, Option.none_or, Option.some.injEq] at h
    rw [← h]
    exact congrArg Canvas.name ((LiveSession.cancel_moves ⟨s, t.app.ids, t.app.clock⟩).canvas rfl).1

/-- What still happens within a session that is closed names its query as well. -/
theorem within_closed (ht : t.Sound) {e : Event} (hs : t.app.registry.find? key = none)
    (h : (t.step (.within key e)).session? key = some s') :
    ∃ s, t.closed key = some s ∧ s'.canvas.name = nameAfter s.canvas.name [e] := by
  cases hclosed : t.closed key with
  | none => simp [step, within, hs, hclosed, session?] at h
  | some s =>
    refine ⟨s, rfl, ?_⟩
    simp only [step, within, hs, hclosed, session?, settle, close, if_true, Option.none_or, Option.some.injEq] at h
    rw [← h]
    exact name_went (ht.closed hclosed).identified [e]

/-- **A call that is addressed to a session** finds it, and leaves its query the last name that it gave. -/
theorem step_own (ht : t.Sound) (hown : c.session? = some key) (h : (t.step c).session? key = some s') :
    ∃ s, t.session? key = some s ∧ s'.canvas.name = nameAfter s.canvas.name (t.eventsIn key c) := by
  cases hs : t.app.registry.find? key with
  | some s =>
    rw [eventsIn_open hown hs]
    exact ⟨s, by rw [session?, hs]; rfl, step_open ht hown hs h⟩
  | none =>
    cases c with
    | request warehouse e target body =>
      rw [step_unknown hs hown] at h
      exact ⟨s', h, by rw [eventsIn_request hs]; rfl⟩
    | within key' e =>
      cases hown
      obtain ⟨s, hclosed, hname⟩ := within_closed ht hs h
      refine ⟨s, by rw [session?, hs, hclosed]; rfl, ?_⟩
      rw [eventsIn_within hs, hclosed]
      exact hname

/-! ## Runs -/

theorem Traffic.Sound.apart_run (ht : t.Sound) (ha : t.Apart) (calls : List Call) : (t.run calls).Apart := by
  induction calls generalizing t with
  | nil => exact ha
  | cons c calls ih => exact ih (ht.step c) ((step_steps ht c).apart ht ha)

/-- A session that is found has an id that was given. -/
theorem given_of_found (ht : t.Sound) (hs : t.session? key = some s) :
    ∃ n ≤ t.app.ids.given, key = IdSupply.nth n := by
  rcases Option.or_eq_some_iff.1 hs with hopen | ⟨-, hclosed⟩
  · exact (ht.stored hopen).given
  · exact (ht.closed hclosed).given

/-- A session in which something happened has an id that was given. -/
theorem given_of_history (ht : t.Sound) (h : t.history key calls ≠ []) :
    ∃ n ≤ (t.run calls).app.ids.given, key = IdSupply.nth n := by
  induction calls generalizing t with
  | nil => exact absurd rfl h
  | cons c calls ih =>
    cases hs : t.session? key with
    | none =>
      rw [history, eventsIn_unknown hs] at h
      exact ih (ht.step c) h
    | some s =>
      obtain ⟨n, hn, hkey⟩ := given_of_found ht hs
      exact ⟨n, Nat.le_trans hn (ht.given_run (c :: calls)), hkey⟩

/-- **The name of a query** is the last one that the calls to its session gave, and at first the default name. -/
theorem run_name (host : Host) (warehouse : Warehouse) (capacity : Int) (calls : List Call)
    (h : ((Traffic.start host warehouse capacity).run calls).session? key = some s) :
    s.canvas.name = nameAfter (.text defaultName) ((Traffic.start host warehouse capacity).history key calls) := by
  have hstart := (Reached.start host warehouse capacity).sound
  induction calls using List.reverseRecOn generalizing s with
  | nil => cases h
  | append_singleton calls c ih =>
    have ht := hstart.run calls
    have ha := hstart.apart_run (apart_start host warehouse capacity) calls
    rw [run_append] at h
    rw [history_append, nameAfter_append]
    by_cases hown : c.session? = some key
    · obtain ⟨before, hbefore, hname⟩ := step_own ht hown h
      rw [hname, ih hbefore]
    · rw [eventsIn_other hown]
      rcases step_other ht ha hown h with hbefore | ⟨hkey, hname⟩
      · exact ih hbefore
      · -- A session that was just opened has an id that was never given, so nothing happened to it.
        have hnone : (Traffic.start host warehouse capacity).history key calls = [] := by
          by_contra hsome
          obtain ⟨n, hn, hnth⟩ := given_of_history hstart hsome
          have := IdSupply.nth_injective (hnth.symm.trans hkey)
          omega
        rw [hnone]
        exact hname

/-! ## Names in requests -/

section Requests

variable {host : Host} {warehouse : Warehouse} {e : Endpoint} {k : BodyKind} {fs : BodyFields} {body : String}
  {name : Value}

/-- A body asks for a new query under a name if it is of that kind and has the name. -/
theorem command_eq_reset :
    k.command fs = .ok (.reset (some name)) ↔
      k = .reset ∧ Value.field? fs "name" = some name ∧ name.isText = true := by
  cases k with
  | reset =>
    simp only [BodyKind.command, map_eq_ok, defaulted_eq_ok, orNull_eq_ok, readText_eq_ok, Command.reset.injEq,
      true_and]
    constructor
    · rintro ⟨_, ⟨-, rfl⟩ | ⟨v, hv, ⟨-, rfl⟩ | ⟨-, m, ⟨rfl, htext⟩, rfl⟩⟩, heq⟩
      · cases heq
      · cases heq
      · cases heq
        exact ⟨hv, htext⟩
    · rintro ⟨hfield, htext⟩
      have hne : name ≠ .null := by
        rintro rfl
        cases htext
      exact ⟨some name, .inr ⟨name, hfield, .inr ⟨hne, name, ⟨rfl, htext⟩, rfl⟩⟩, rfl⟩
  | rename | table | column | join | filter | sort | group | aggregate | limit =>
    simp [BodyKind.command, map_eq_ok, seq_eq_ok]

/-- A body starts a query under a name that is not tidy if it asks for a new query and has such a name. -/
theorem newQuery_mem_bodyEvents (hname : ¬TidyName name) : .newQuery name ∈ k.events host body ↔
    k = .reset ∧ ∃ fs, App.bodyValue host body = .ok (some (.record fs)) ∧
      Value.field? fs "name" = some name ∧ name.isText = true := by
  constructor
  · intro h
    unfold BodyKind.events at h
    split at h
    · cases h
    · next v hv =>
      split at h
      · next c hc =>
        match v, hc with
        | some (.record fs), hc =>
          cases c with
          | edit x => simp [Command.event] at h
          | reset named =>
            obtain rfl : name = named.getD (.text defaultName) := by simpa [Command.event] using h
            cases named with
            | none => exact absurd tidyName_default hname
            | some n =>
              obtain ⟨hk, hfield⟩ := command_eq_reset.1 hc
              exact ⟨hk, fs, hv, hfield⟩
      · simp at h
  · rintro ⟨rfl, fs, hbody, hfield⟩
    have hcheck : BodyKind.reset.check (some (.record fs)) = .ok (.reset (some name)) :=
      command_eq_reset.2 ⟨rfl, hfield⟩
    simp [BodyKind.events, hbody, hcheck, Command.event]

/-- **Which requests start a query under a name that is not tidy**: those for a new query whose body has such a
name. -/
theorem newQuery_mem_events (hname : ¬TidyName name) : .newQuery name ∈ e.events host warehouse body s ↔
    ∃ key fs, e = .reset key ∧ App.bodyValue host body = .ok (some (.record fs)) ∧
      Value.field? fs "name" = some name ∧ name.isText = true := by
  cases hb : e.body? with
  | some b =>
    obtain ⟨key, k⟩ := b
    simp only [Endpoint.events, hb, newQuery_mem_bodyEvents hname]
    constructor
    · rintro ⟨rfl, hbody⟩
      have hreset : e = .reset key := by cases e <;> cases hb; rfl
      exact ⟨key, hbody.imp fun fs h => ⟨hreset, h⟩⟩
    · rintro ⟨key', fs, rfl, h⟩
      cases hb
      exact ⟨rfl, fs, h⟩
  | none =>
    refine iff_of_false ?_ ?_
    · cases e with
      | removePart session kind item =>
        simp only [Endpoint.events, Endpoint.body?]
        split <;> simp
      | execute session =>
        simp only [Endpoint.events, Endpoint.body?, runEvents]
        split <;> simp
      | reset | rename | addTable | toggleColumn | addJoin | addFilter | addSort | addGroup | addAggregate | setLimit =>
        cases hb
      | _ => simp [Endpoint.events, Endpoint.body?]
    · rintro ⟨key, fs, rfl, -⟩
      cases hb

end Requests

/-! ## When a name is tidy -/

/-- **The name of a query** is the last that was given, of a session that is used directly and of one that is used
by calls to a service, requests with any body among them. It is neither blank nor has blanks at its ends, unless the
last that gave it was a new query under a name that is not tidy. The requests that do so are those for a new query
whose body has such a name. -/
theorem query_names (dialect : Sql.Dialect) (cat : Catalog) (limit : Value) (ids : IdSupply) (clock : Clock)
    (events : List Event) (host : Host) (warehouse : Warehouse) (capacity : Int) (calls : List Call) :
    (let s := (play LiveSession.step events (.opened dialect cat limit ids clock)).2.session
     s.canvas.name = nameAfter (.text defaultName) events ∧ (TidyName s.canvas.name ↔ ¬EndsUntidy events)) ∧
    (∀ key s, ((Traffic.start host warehouse capacity).run calls).session? key = some s →
      let events := (Traffic.start host warehouse capacity).history key calls
      s.canvas.name = nameAfter (.text defaultName) events ∧ (TidyName s.canvas.name ↔ ¬EndsUntidy events)) ∧
    ∀ warehouse e target body s name, ¬TidyName name →
      (.newQuery name ∈ (Call.request warehouse e target body).events host s ↔
        ∃ key fs, e = .reset key ∧ App.bodyValue host body = .ok (some (.record fs)) ∧
          Value.field? fs "name" = some name ∧ name.isText = true) := by
  have htidy : ∀ {events name}, name = nameAfter (.text defaultName) events →
      name = nameAfter (.text defaultName) events ∧ (TidyName name ↔ ¬EndsUntidy events) := by
    rintro events name rfl
    exact ⟨rfl, by rw [← not_tidyName_nameAfter tidyName_default, not_not]⟩
  refine ⟨htidy ?_, fun key s h => htidy (run_name host warehouse capacity calls h),
    fun warehouse e target body s name hname => newQuery_mem_events hname⟩
  exact name_play id (fun s e => ⟨_, rfl⟩) events (identified_opened dialect cat limit ids clock)

/-- A session is opened, and then a new query is asked for under a name of blanks. -/
def blankReset : List Call :=
  [.request ordersWarehouse .startSession ⟨[], []⟩ "",
    .request ordersWarehouse (.reset "id-1") ⟨[], []⟩ "\x7b\"name\": \"   \"\x7d"]

/-- **Names that are not tidy**: a new query keeps the blanks around its name, and a request for one leaves the query
of its session with a name of nothing but blanks. -/
theorem new_query_untidy :
    (∃ s, (play LiveSession.step [.newQuery (.text "  Padded ")] (.opened .ansi ⟨[], []⟩ .null .fresh .fresh)).2 = s ∧
      s.session.canvas.name = .text "  Padded " ∧ ¬TidyName s.session.canvas.name) ∧
    ∃ s, ((Traffic.start .usual ordersWarehouse 5).run blankReset).session? "id-1" = some s ∧
      s.canvas.name = .text "   " ∧ ¬TidyName s.canvas.name := by
  have hpadded : ¬TidyName (.text "  Padded ") := by
    rintro (⟨s, ⟨⟩, -, htrim⟩ | ⟨t, ⟨⟩, -⟩)
    exact absurd htrim (by decide +kernel)
  have hblank : ¬TidyName (.text "   ") := by
    rintro (⟨s, ⟨⟩, -, htrim⟩ | ⟨t, ⟨⟩, -⟩)
    exact absurd htrim (by decide +kernel)
  have hfound : (((Traffic.start .usual ordersWarehouse 5).run blankReset).session? "id-1").any
      (fun s => s.canvas.name.text? == some "   ") = true := by decide +kernel
  refine ⟨⟨_, rfl, rfl, hpadded⟩, ?_⟩
  obtain ⟨s, hs, hname⟩ := Option.any_eq_true _ _ |>.1 hfound
  have htext : s.canvas.name = .text "   " := by
    cases hv : s.canvas.name <;> simp_all [Value.text?]
  exact ⟨s, hs, htext, htext ▸ hblank⟩

end QueryCanvas.Http
