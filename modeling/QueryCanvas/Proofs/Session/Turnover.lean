import Mathlib.Data.List.Nodup
import QueryCanvas.Proofs.Session.History
import QueryCanvas.Session.Turnover

/-!
# Who stays in the registry

A registry holds its sessions under their ids, each once, and no more of them than there may be. Nobody
leaves it unasked but one: the session that makes room for another in a full registry, which is idle and
was used longest ago.

* `Turns`: what one event does to the registry. `step_turns` says that every event does one of these.
* `Keyed`, `Tidy`: what holds of the registry between events (`Turns.keyed`, `Turns.tidy`).
* `turnover`: what each event does to each session, in every registry that events lead to.
-/

namespace QueryCanvas

namespace Registry

variable {r r' : Registry} {key k : String} {s t : Session} {c : Int} {e : String × Session}
  {es : List (String × Session)}

/-! ## Look-up -/

theorem find?_cons : find? ⟨c, e :: es⟩ key = if e.1 = key then some e.2 else find? ⟨c, es⟩ key := by
  unfold find?
  rw [List.find?_cons]
  by_cases he : e.1 = key
  · simp [he]
  · simp [he, beq_eq_false_iff_ne.2 he]

theorem replace_cons : replace ⟨c, e :: es⟩ key s =
    ⟨c, (if e.1 = key then (key, s) else e) :: (replace ⟨c, es⟩ key s).entries⟩ := by
  simp [replace]

theorem drop_cons : drop ⟨c, e :: es⟩ key =
    if e.1 = key then drop ⟨c, es⟩ key else ⟨c, e :: (drop ⟨c, es⟩ key).entries⟩ := by
  unfold drop
  by_cases he : e.1 = key <;> simp [he]

theorem find?_isSome_iff : (r.find? key).isSome = true ↔ key ∈ r.keys := by
  simp [find?, keys]

/-- Under distinct keys the look-up finds what is stored. -/
theorem find?_eq_some (hr : r.keys.Nodup) : r.find? key = some s ↔ (key, s) ∈ r.entries := by
  obtain ⟨c, es⟩ := r
  induction es with
  | nil => simp [find?]
  | cons e es ih =>
    obtain ⟨hnew, hes⟩ := List.nodup_cons.1 hr
    rw [find?_cons, List.mem_cons]
    by_cases he : e.1 = key
    · subst he
      have hnot : (e.1, s) ∉ es := fun hs => hnew (List.mem_map.2 ⟨_, hs, rfl⟩)
      rw [if_pos rfl, Option.some.injEq, or_iff_left hnot]
      exact ⟨fun h => by rw [← h], fun h => by rw [← h]⟩
    · have hne : (key, s) ≠ e := fun h => he (by rw [← h])
      rw [if_neg he, or_iff_right hne]
      exact ih hes

theorem find?_replace : (r.replace key s).find? k = if k = key then (r.find? k).map fun _ => s else r.find? k := by
  obtain ⟨c, es⟩ := r
  induction es with
  | nil => simp [find?, replace]
  | cons e es ih =>
    have ih : find? ⟨c, (replace ⟨c, es⟩ key s).entries⟩ k = _ := ih
    rw [replace_cons, find?_cons, find?_cons, ih]
    by_cases he : e.1 = key <;> by_cases hk : k = key <;> by_cases hek : e.1 = k <;> simp_all

/-- A session that takes a place twice takes it once. -/
theorem replace_replace : (r.replace key s).replace key t = r.replace key t := by
  simp only [replace, List.map_map, Registry.mk.injEq, true_and]
  refine List.map_congr_left fun e _ => ?_
  simp only [Function.comp]
  split <;> simp_all

theorem mem_sessions_replace (h : t ∈ (r.replace key s).sessions) : t = s ∨ t ∈ r.sessions := by
  obtain ⟨e', he', rfl⟩ := List.mem_map.1 h
  obtain ⟨e, he, rfl⟩ := List.mem_map.1 he'
  split
  · exact .inl rfl
  · exact .inr (List.mem_map_of_mem he)

theorem mem_sessions_drop (h : t ∈ (r.drop key).sessions) : t ∈ r.sessions := by
  obtain ⟨e, he, rfl⟩ := List.mem_map.1 h
  exact List.mem_map_of_mem (List.mem_filter.1 he).1

theorem find?_drop : (r.drop key).find? k = if k = key then none else r.find? k := by
  obtain ⟨c, es⟩ := r
  induction es with
  | nil => simp [find?, drop]
  | cons e es ih =>
    have ih' : find? ⟨c, (drop ⟨c, es⟩ key).entries⟩ k = _ := ih
    rw [drop_cons, find?_cons]
    by_cases he : e.1 = key <;> by_cases hk : k = key <;> by_cases hek : e.1 = k <;>
      simp_all [find?_cons]

/-- What is stored under a new key is found there, and nothing else changes. -/
theorem find?_put (h : key ∉ r.keys) : (r.put key s).find? k = if k = key then some s else r.find? k := by
  have hnone : r.find? key = none := by
    rw [← find?_isSome_iff, Option.not_isSome_iff_eq_none] at h
    exact h
  unfold find? at *
  rw [entries_put h, List.find?_append]
  by_cases hk : k = key
  · subst hk
    rw [Option.map_eq_none_iff] at hnone
    simp [hnone]
  · have hne : key ≠ k := fun h => hk h.symm
    cases r.entries.find? (·.1 == k) <;> simp [hk, hne]

theorem get_fst (clock : Clock) (h : r.find? key = some s) : (r.get key clock).1 = some (s.touch clock).1 := by
  simp [get, h]

/-! ## Room -/

theorem keys_put (h : key ∉ r.keys) : (r.put key s).keys = r.keys ++ [key] := by
  simp [keys, entries_put h]

theorem length_drop_lt (h : key ∈ r.keys) : (r.drop key).entries.length < r.entries.length := by
  obtain ⟨e, he, hkey⟩ := List.mem_map.1 h
  exact List.length_filter_lt_length_iff_exists.2 ⟨e, he, by simp [hkey]⟩

theorem add?_of_room (h : r.isFull = false) : r.add? s = some (r.put s.id s) := by
  simp [add?, h]

theorem add?_of_full (h : r.isFull = true) : r.add? s = r.makeRoom?.map (·.put s.id s) := by
  unfold add?
  rw [if_pos h]
  cases r.makeRoom? <;> rfl

/-- No room can be made exactly if every session is executing. -/
theorem makeRoom?_eq_none : r.makeRoom? = none ↔ ∀ t ∈ r.sessions, t.isExecuting = true := by
  rw [makeRoom?, Option.map_eq_none_iff, longestUnused?_eq_none, List.filter_eq_nil_iff]
  simp

/-- Room is made by a session that is idle and was used longest ago of those. -/
theorem makeRoom?_eq_some (h : r.makeRoom? = some r') : ∃ old ∈ r.sessions, old.isExecuting = false ∧
    (∀ t ∈ r.sessions, t.isExecuting = false → old.lastUsed ≤ t.lastUsed) ∧ r' = r.drop old.id := by
  obtain ⟨old, hold, rfl⟩ := Option.map_eq_some_iff.1 h
  obtain ⟨hmem, hidle⟩ := List.mem_filter.1 (longestUnused?_mem hold)
  refine ⟨old, hmem, by simpa using hidle, fun t ht hti => ?_, rfl⟩
  exact lastUsed_longestUnused? hold t (List.mem_filter.2 ⟨ht, by simp [hti]⟩)

/-- A session that is added is stored under its id, at most after another one has left. -/
theorem add?_eq_some (h : r.add? s = some r') :
    r' = r.put s.id s ∨ ∃ old ∈ r.sessions, r' = (r.drop old.id).put s.id s := by
  cases hfull : r.isFull with
  | false =>
    rw [add?_of_room hfull, Option.some.injEq] at h
    exact .inl h.symm
  | true =>
    rw [add?_of_full hfull] at h
    obtain ⟨rest, hroom, rfl⟩ := Option.map_eq_some_iff.1 h
    obtain ⟨old, hold, -, -, rfl⟩ := makeRoom?_eq_some hroom
    exact .inr ⟨old, hold, rfl⟩

/-! ## What holds between events -/

/-- **A keyed registry** holds its sessions under their ids, each once. -/
structure Keyed (r : Registry) : Prop where
  once : r.keys.Nodup
  keyed : ∀ e ∈ r.entries, e.1 = e.2.id

/-- **A tidy registry** is keyed and holds no more sessions than there may be. -/
structure Tidy (r : Registry) : Prop extends Keyed r where
  fits : r.entries.length ≤ r.capacity

theorem keyed_empty (c : Int) : (empty c).Keyed := ⟨List.nodup_nil, by simp [empty]⟩

theorem Keyed.id_eq (h : r.Keyed) (hs : r.find? key = some s) : s.id = key :=
  (h.keyed _ ((find?_eq_some h.once).1 hs)).symm

theorem Keyed.mem_sessions (h : r.Keyed) (hs : r.find? key = some s) : s ∈ r.sessions :=
  List.mem_map_of_mem ((find?_eq_some h.once).1 hs)

/-- Every session is found under its id. -/
theorem Keyed.find?_id (h : r.Keyed) (hs : s ∈ r.sessions) : r.find? s.id = some s := by
  obtain ⟨e, he, rfl⟩ := List.mem_map.1 hs
  rw [find?_eq_some h.once, ← h.keyed e he]
  exact he

/-- A session that is put in its own place changes nothing. -/
theorem Keyed.replace_self (h : r.Keyed) (hs : r.find? key = some s) : r.replace key s = r := by
  have hsame : ∀ e ∈ r.entries, (if e.1 == key then (key, s) else e) = e := fun e he => by
    by_cases hkey : e.1 = key
    · have hfound : r.find? e.1 = some e.2 := (find?_eq_some h.once).2 he
      rw [hkey, hs, Option.some.injEq] at hfound
      rw [if_pos (beq_iff_eq.2 hkey), hfound, ← hkey]
    · exact if_neg (by simpa using hkey)
  exact congrArg (Registry.mk r.capacity) ((List.map_congr_left hsame).trans (List.map_id' _))

theorem Keyed.keys_drop (h : r.Keyed) (key : String) : (r.drop key).keys = r.keys.erase key := by
  rw [Registry.keys_drop, h.once.erase_eq_filter]

theorem Keyed.not_mem_drop (h : r.Keyed) (hk : k ∉ r.keys) (key : String) : k ∉ (r.drop key).keys := by
  rw [h.keys_drop]
  exact fun hmem => hk (List.mem_of_mem_erase hmem)

theorem Keyed.ne_of_mem_drop (h : r.Keyed) (hk : k ∈ (r.drop key).keys) : k ≠ key := by
  rintro rfl
  rw [h.keys_drop] at hk
  exact h.once.not_mem_erase hk

theorem Keyed.drop (h : r.Keyed) (key : String) : (r.drop key).Keyed where
  once := by
    rw [h.keys_drop]
    exact h.once.erase key
  keyed e he := h.keyed e (List.mem_filter.1 he).1

theorem Keyed.replace (h : r.Keyed) (hid : s.id = key) : (r.replace key s).Keyed where
  once := by
    rw [keys_replace]
    exact h.once
  keyed := by
    intro e he
    obtain ⟨e', he', rfl⟩ := List.mem_map.1 he
    split
    · exact hid.symm
    · exact h.keyed e' he'

theorem Keyed.put (h : r.Keyed) (hnew : s.id ∉ r.keys) : (r.put s.id s).Keyed where
  once := by
    rw [keys_put hnew]
    exact List.nodup_append.2 ⟨h.once, List.nodup_singleton _, by
      intro a ha b hb hab
      rw [List.mem_singleton.1 hb] at hab
      exact hnew (hab ▸ ha)⟩
  keyed := by
    intro e he
    rw [entries_put hnew, List.mem_append, List.mem_singleton] at he
    rcases he with he | rfl
    · exact h.keyed e he
    · rfl

end Registry

/-! ## One event -/

/-- The session that an event looks up or happens within. -/
def RegistryEvent.own? : RegistryEvent → Option String
  | .get key | .within key _ => some key
  | _ => none

/-- Whether an event adds a session. -/
def RegistryEvent.isAdd : RegistryEvent → Bool
  | .add _ => true
  | _ => false

/-- Whether a session was refused. -/
def RegistryReport.isRefused : RegistryReport → Bool
  | .refused => true
  | _ => false

/-- A session that is added is none of those that are stored. -/
def RegistryEvent.AddsNew (e : RegistryEvent) (r : Registry) : Prop :=
  ∀ s, e = .add s → s.id ∉ r.keys

theorem addsNew_add {s : Session} {r : Registry} (h : s.id ∉ r.keys) : (RegistryEvent.add s).AddsNew r := by
  intro t ht
  cases ht
  exact h

theorem addsNew_of_isAdd {e : RegistryEvent} {r : Registry} (h : e.isAdd = false) : e.AddsNew r := by
  intro s hs
  rw [hs] at h
  cases h

/-- **What one event can do** to a registry, and its report. -/
inductive Turns (r : Registry) : RegistryEvent → RegistryReport → Registry → Prop
  | placed (s : Session) (hroom : r.isFull = false) : Turns r (.add s) .stored (r.put s.id s)
  | displaced (s old : Session) (hfull : r.isFull = true) (hold : old ∈ r.sessions)
      (hidle : old.isExecuting = false)
      (holdest : ∀ t ∈ r.sessions, t.isExecuting = false → old.lastUsed ≤ t.lastUsed) :
      Turns r (.add s) .stored ((r.drop old.id).put s.id s)
  | refused (s : Session) (hfull : r.isFull = true) (hbusy : ∀ t ∈ r.sessions, t.isExecuting = true) :
      Turns r (.add s) .refused r
  | removed (key : String) (gone : Session) : Turns r (.remove key) (.left gone) (r.drop key)
  | changed {e : RegistryEvent} {report : RegistryReport} (key : String) {s : Session} (s' : Session)
      (hown : e.own? = some key) (hreport : report.isRefused = false) (hs : r.find? key = some s)
      (hid : s'.id = s.id) : Turns r e report (r.replace key s')
  | nothing {e : RegistryEvent} (hadd : e.isAdd = false) (hgone : ∀ key, e = .remove key → key ∉ r.keys) :
      Turns r e .nothing r

namespace LiveRegistry

theorem add_turns (r : LiveRegistry) (s : Session) :
    Turns r.registry (.add s) (r.step (.add s)).1 (r.step (.add s)).2.registry := by
  simp only [step]
  cases hfull : r.registry.isFull with
  | false =>
    rw [Registry.add?_of_room hfull]
    exact .placed s hfull
  | true =>
    rw [Registry.add?_of_full hfull]
    cases hroom : r.registry.makeRoom? with
    | none => exact .refused s hfull (Registry.makeRoom?_eq_none.1 hroom)
    | some r' =>
      obtain ⟨old, hold, hidle, holdest, rfl⟩ := Registry.makeRoom?_eq_some hroom
      exact .displaced s old hfull hold hidle holdest

theorem remove_turns (r : LiveRegistry) (key : String) :
    Turns r.registry (.remove key) (r.step (.remove key)).1 (r.step (.remove key)).2.registry := by
  simp only [step, Registry.remove]
  cases hs : r.registry.find? key with
  | none =>
    have hgone : ∀ k, RegistryEvent.remove key = .remove k → k ∉ r.registry.keys := by
      intro k hk
      cases hk
      simp [← Registry.find?_isSome_iff, hs]
    exact .nothing rfl hgone
  | some s => exact .removed key _

/-- An event within a stored session changes that session. -/
theorem within_turns (r : LiveRegistry) (key : String) (e : Event) :
    Turns r.registry (.within key e) (r.step (.within key e)).1 (r.step (.within key e)).2.registry := by
  simp only [step]
  cases hs : r.registry.find? key with
  | none => exact .nothing rfl nofun
  | some s => exact .changed key _ rfl rfl hs (LiveSession.step_moves ⟨s, r.ids, r.clock⟩ e).id

/-- **Every event does one of these.** -/
theorem step_turns (r : LiveRegistry) (e : RegistryEvent) :
    Turns r.registry e (r.step e).1 (r.step e).2.registry := by
  cases e with
  | add s => exact add_turns r s
  | get key =>
    simp only [step, Registry.get]
    cases hs : r.registry.find? key with
    | none => exact .nothing rfl nofun
    | some s => exact .changed key _ rfl rfl hs rfl
  | remove key => exact remove_turns r key
  | within key x => exact within_turns r key x
  | elsewhere ids clock => exact .nothing rfl nofun

end LiveRegistry

section Turns

variable {r r' : Registry} {e : RegistryEvent} {report : RegistryReport}

theorem Turns.capacity (h : Turns r e report r') : r'.capacity = r.capacity := by
  cases h with
  | placed | displaced =>
    unfold Registry.put
    split <;> rfl
  | _ => rfl

/-- A keyed registry stays keyed. -/
theorem Turns.keyed (h : Turns r e report r') (hr : r.Keyed) (hnew : e.AddsNew r) : r'.Keyed := by
  cases h with
  | placed s => exact hr.put (hnew s rfl)
  | displaced s old => exact (hr.drop old.id).put (hr.not_mem_drop (hnew s rfl) old.id)
  | removed key => exact hr.drop key
  | changed key s' hown hreport hs hid => exact hr.replace (hid.trans (hr.id_eq hs))
  | refused | nothing => exact hr

/-- A tidy registry stays tidy: who is added finds room, or takes the room of another. -/
theorem Turns.tidy (h : Turns r e report r') (hr : r.Tidy) (hnew : e.AddsNew r) : r'.Tidy where
  toKeyed := h.keyed hr.toKeyed hnew
  fits := by
    have hcap := h.capacity
    have hfits := hr.fits
    rw [hcap]
    cases h with
    | placed s hroom =>
      rw [Bool.eq_false_iff, ne_eq, Registry.isFull_iff] at hroom
      rw [Registry.entries_put (hnew s rfl), List.length_append, List.length_singleton]
      omega
    | displaced s old hfull hold =>
      have hkey : old.id ∈ r.keys := Registry.find?_isSome_iff.1 (by rw [hr.find?_id hold]; rfl)
      have hlt := Registry.length_drop_lt hkey
      rw [Registry.entries_put (hr.not_mem_drop (hnew s rfl) old.id), List.length_append, List.length_singleton]
      omega
    | removed key =>
      have hle : (r.drop key).entries.length ≤ r.entries.length := List.length_filter_le _ _
      omega
    | changed key s' =>
      rw [Registry.length_entries_replace]
      exact hfits
    | refused | nothing => exact hfits

/-- Whoever stays is found under the same key, and only an event of its own changes a session. -/
theorem Turns.find? {key : String} {s : Session} (h : Turns r e report r') (hr : r.Keyed) (hnew : e.AddsNew r)
    (hs : r.find? key = some s) (hkey : key ∈ r'.keys) :
    ∃ s', r'.find? key = some s' ∧ s'.id = s.id ∧ (s' = s ∨ e.own? = some key) := by
  have hmem : key ∈ r.keys := Registry.find?_isSome_iff.1 (by rw [hs]; rfl)
  cases h with
  | placed added =>
    have hne : key ≠ added.id := fun h => hnew added rfl (h ▸ hmem)
    exact ⟨s, by rw [Registry.find?_put (hnew added rfl), if_neg hne, hs], rfl, .inl rfl⟩
  | displaced added old =>
    have hput := hr.not_mem_drop (hnew added rfl) old.id
    have hne : key ≠ added.id := fun h => hnew added rfl (h ▸ hmem)
    rw [Registry.keys_put hput, List.mem_append, List.mem_singleton, or_iff_left hne] at hkey
    refine ⟨s, ?_, rfl, .inl rfl⟩
    rw [Registry.find?_put hput, if_neg hne, Registry.find?_drop, if_neg (hr.ne_of_mem_drop hkey), hs]
  | removed other =>
    exact ⟨s, by rw [Registry.find?_drop, if_neg (hr.ne_of_mem_drop hkey), hs], rfl, .inl rfl⟩
  | changed other after hown hreport hfound hid =>
    rw [Registry.find?_replace, hs]
    by_cases hother : key = other
    · subst hother
      rw [hs, Option.some.injEq] at hfound
      exact ⟨after, if_pos rfl, hfound ▸ hid, .inr hown⟩
    · exact ⟨s, if_neg hother, rfl, .inl rfl⟩
  | refused | nothing => exact ⟨s, hs, rfl, .inl rfl⟩

/-- Who is gone was removed, or made room in a full registry. -/
theorem Turns.leaves {key : String} (h : Turns r e report r') (hr : r.Keyed) (hnew : e.AddsNew r)
    (hkey : key ∈ r.keys) (hgone : key ∉ r'.keys) :
    e = .remove key ∨ ∃ s, e = .add s ∧ r.isFull = true := by
  cases h with
  | placed s =>
    rw [Registry.keys_put (hnew s rfl)] at hgone
    exact absurd (List.mem_append_left _ hkey) hgone
  | displaced s old hfull => exact .inr ⟨s, rfl, hfull⟩
  | removed other =>
    rw [hr.keys_drop] at hgone
    by_cases hother : key = other
    · exact .inl (by rw [hother])
    · exact absurd ((List.mem_erase_of_ne hother).2 hkey) hgone
  | changed =>
    rw [Registry.keys_replace] at hgone
    exact absurd hkey hgone
  | refused | nothing => exact absurd hkey hgone

/-- A session is refused exactly if there is no room and none can be made. -/
theorem Turns.refused_iff (h : Turns r e report r') : report.isRefused = true ↔
    e.isAdd = true ∧ r.isFull = true ∧ ∀ t ∈ r.sessions, t.isExecuting = true := by
  cases h with
  | placed s hroom => simp [RegistryReport.isRefused, hroom]
  | displaced s old hfull hold hidle =>
    have hnot : ¬∀ t ∈ r.sessions, t.isExecuting = true := fun hall => by simp [hall old hold] at hidle
    simp [RegistryReport.isRefused, hnot]
  | refused s hfull hbusy => exact iff_of_true rfl ⟨rfl, hfull, hbusy⟩
  | removed => simp [RegistryReport.isRefused, RegistryEvent.isAdd]
  | changed key s' hown hreport =>
    cases e with
    | get | within => simp [hreport, RegistryEvent.isAdd]
    | add | remove | elsewhere => cases hown
  | nothing hadd => simp [RegistryReport.isRefused, hadd]

end Turns

/-! ## Every event -/

/-- **What becomes of the sessions** in one event. -/
structure Orderly (r : Registry) (e : RegistryEvent) (report : RegistryReport) (r' : Registry) : Prop where
  /-- A session leaves only by its removal, or by an addition to a full registry. -/
  leaves : ∀ key ∈ r.keys, key ∉ r'.keys → e = .remove key ∨ ∃ s, e = .add s ∧ r.isFull = true
  /-- A removal takes that session out, and no other. -/
  removes : ∀ key, e = .remove key → r'.keys = r.keys.erase key
  /-- With room, a session is stored behind the others, and nobody leaves. -/
  places : ∀ s, e = .add s → r.isFull = false →
    report.isRefused = false ∧ r'.entries = r.entries ++ [(s.id, s)]
  /-- Without room, exactly one session leaves for it: it is idle, and no idle one was used before it. -/
  displaces : ∀ s, e = .add s → r.isFull = true → report.isRefused = false →
    ∃ old, r.find? old.id = some old ∧ old.isExecuting = false ∧
      (∀ t ∈ r.sessions, t.isExecuting = false → old.lastUsed ≤ t.lastUsed) ∧
      r'.keys = r.keys.erase old.id ++ [s.id]
  /-- A session is refused exactly if there is no room and every session is executing. -/
  refuses : report.isRefused = true ↔
    e.isAdd = true ∧ r.isFull = true ∧ ∀ t ∈ r.sessions, t.isExecuting = true
  /-- A refusal changes nothing. -/
  unchanged : report.isRefused = true → r' = r
  /-- Who stays is found under the same id, and is changed only by an event of its own. -/
  stays : ∀ key s, r.find? key = some s → key ∈ r'.keys → ∃ s', s'.id = key ∧ (s' = s ∨ e.own? = some key) ∧
    ∀ clock, (r'.get key clock).1 = some (s'.touch clock).1

theorem Turns.orderly {r r' : Registry} {e : RegistryEvent} {report : RegistryReport}
    (h : Turns r e report r') (hr : r.Keyed) (hnew : e.AddsNew r) : Orderly r e report r' where
  leaves key hkey hgone := h.leaves hr hnew hkey hgone
  removes key he := by
    subst he
    cases h with
    | removed => exact hr.keys_drop key
    | changed key s' hown => cases hown
    | nothing hadd hgone => exact (List.erase_of_not_mem (hgone key rfl)).symm
  places s he hroom := by
    subst he
    cases h with
    | placed => exact ⟨rfl, Registry.entries_put (hnew s rfl)⟩
    | displaced _ old hfull | refused _ hfull => simp [hroom] at hfull
    | changed key s' hown => cases hown
    | nothing hadd => cases hadd
  displaces s he hfull hstored := by
    subst he
    cases h with
    | placed _ hroom => simp [hroom] at hfull
    | displaced _ old _ hold hidle holdest =>
      refine ⟨old, hr.find?_id hold, hidle, holdest, ?_⟩
      rw [Registry.keys_put (hr.not_mem_drop (hnew s rfl) old.id), hr.keys_drop]
    | refused => cases hstored
    | changed key s' hown => cases hown
    | nothing hadd => cases hadd
  refuses := h.refused_iff
  unchanged hrefused := by
    cases h with
    | changed key s' hown hreport => simp [hrefused] at hreport
    | placed | displaced | removed => cases hrefused
    | refused | nothing => rfl
  stays key s hs hkey := by
    obtain ⟨s', hs', hid, hsame⟩ := h.find? hr hnew hs hkey
    exact ⟨s', hid.trans (hr.id_eq hs), hsame, fun clock => Registry.get_fst clock hs'⟩

/-- **A registry in use**: events led to it from an empty one, and no stored session was added again. -/
inductive Kept (capacity : Int) : LiveRegistry → Prop
  | empty (ids : IdSupply) (clock : Clock) : Kept capacity ⟨.empty capacity, ids, clock⟩
  | step {r : LiveRegistry} (before : Kept capacity r) (e : RegistryEvent) (hnew : e.AddsNew r.registry) :
      Kept capacity (r.step e).2

theorem Kept.tidy {capacity : Int} {r : LiveRegistry} (h : Kept capacity r) (hcap : 0 ≤ capacity) :
    r.registry.Tidy ∧ r.registry.capacity = capacity := by
  induction h with
  | empty => exact ⟨⟨Registry.keyed_empty capacity, by simpa [Registry.empty] using hcap⟩, rfl⟩
  | @step r before e hnew ih =>
    have hturn := r.step_turns e
    exact ⟨hturn.tidy ih.1 hnew, hturn.capacity.trans ih.2⟩

/-- **Who stays in the registry.** Whatever was added, looked up and removed, and whatever happened within the
sessions in between: there are never more sessions than there may be, each is stored under its id, and every
further event is orderly. -/
theorem turnover {capacity : Int} (hcap : 1 ≤ capacity) {r : LiveRegistry} (h : Kept capacity r) :
    r.registry.entries.length ≤ capacity ∧ r.registry.keys.Nodup ∧
      (∀ key s, (key, s) ∈ r.registry.entries → key = s.id) ∧
      ∀ e, e.AddsNew r.registry → Orderly r.registry e (r.step e).1 (r.step e).2.registry := by
  obtain ⟨htidy, hcapacity⟩ := h.tidy (by omega)
  refine ⟨hcapacity ▸ htidy.fits, htidy.once, fun key s hs => htidy.keyed _ hs, fun e hnew => ?_⟩
  exact (r.step_turns e).orderly htidy.toKeyed hnew

/-! ## A full registry -/

/-- The `n`-th session that is opened on a catalog of one table. -/
def visitor (n : Nat) : Session :=
  (Session.start .ansi ⟨[⟨"orders", []⟩], []⟩ .null ⟨2 * n⟩ ⟨n⟩).1

/-- What happens to the first of two sessions: it places the table and starts a run. -/
def firstExecutes : List RegistryEvent :=
  [.add (visitor 0), .add (visitor 1), .within "id-1" (.edit (.addTable (.text "orders"))),
   .within "id-1" .execute]

/-- A registry with room for two: the session that was opened first is executing, the other is idle. -/
def crowded : LiveRegistry :=
  firstExecutes.foldl (fun r e => (r.step e).2) ⟨.empty 2, ⟨4⟩, ⟨2⟩⟩

theorem kept_crowded : Kept 2 crowded :=
  .step (.step (.step (.step (.empty ⟨4⟩ ⟨2⟩) (.add (visitor 0)) (addsNew_add (by decide)))
    (.add (visitor 1)) (addsNew_add (by decide)))
    (.within "id-1" (.edit (.addTable (.text "orders")))) (addsNew_of_isAdd rfl))
    (.within "id-1" .execute) (addsNew_of_isAdd rfl)

/-- The idle session makes room for a third one, although the other was opened before it. -/
theorem crowded_displaces : (crowded.step (.add (visitor 2))).2.registry.keys = ["id-1", "id-5"] := by
  have hids : crowded.registry.keys = ["id-1", "id-3"] := by decide
  have hbusy : (crowded.registry.find? "id-1").map Session.isExecuting = some true := by decide
  have hnew : RegistryEvent.AddsNew (.add (visitor 2)) crowded.registry := addsNew_add (by decide)
  obtain ⟨-, -, -, horderly⟩ := turnover (by decide) kept_crowded
  have hstored : (crowded.step (.add (visitor 2))).1.isRefused = false := by
    decide
  obtain ⟨old, hold, hidle, -, hkeys⟩ := (horderly _ hnew).displaces (visitor 2) rfl (by decide) hstored
  have hmem : old.id ∈ crowded.registry.keys := Registry.find?_isSome_iff.1 (by rw [hold]; rfl)
  have hother : old.id = "id-3" := by
    rw [hids] at hmem
    rcases List.mem_pair.1 hmem with hid | hid
    · rw [hid] at hold
      simp [hold, hidle] at hbusy
    · exact hid
  rw [hkeys, hother, hids]
  decide

end QueryCanvas
