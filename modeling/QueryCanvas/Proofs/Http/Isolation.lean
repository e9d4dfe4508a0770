import Mathlib.Logic.Equiv.Basic
import QueryCanvas.Proofs.Audit.Reading
import QueryCanvas.Proofs.Http.Interleaving
import QueryCanvas.Proofs.Http.Refusal

/-!
# Sessions are isolated

Calls to several sessions, in any order, do to each session what the calls to it alone would do, and what the same
calls would do in another order.

* `Naming`: names for the ids that are taken in one order by those that are taken in another.
* `exists_naming`: there are such names, for every order of the calls that keeps the order of the calls to each
  session, and for the calls to some of the sessions only.
* `isolated`: then each session is the same in both orders, but for ids, times and the numbers of rows.
-/

namespace QueryCanvas.Http

variable {ρ : Equiv.Perm String} {t u u' : Traffic} {c : Call} {calls calls' : List Call} {key : String}

/-- Other names can be given to some ids; all others keep theirs. -/
theorem exists_names (ρ : Equiv.Perm String) {xs ys : List String} (hx : xs.Nodup) (hy : ys.Nodup) :
    ∃ τ : Equiv.Perm String, Names τ xs ys ∧ ∀ z, z ∉ xs → ρ z ∉ ys → τ z = ρ z := by
  induction xs generalizing ys with
  | nil => exact ⟨ρ, by simp [Names], fun _ _ _ => rfl⟩
  | cons x xs ih =>
    cases ys with
    | nil => exact ⟨ρ, by simp [Names], fun _ _ _ => rfl⟩
    | cons y ys =>
      obtain ⟨hxnew, hx⟩ := List.nodup_cons.1 hx
      obtain ⟨hynew, hy⟩ := List.nodup_cons.1 hy
      obtain ⟨τ, hnames, hkept⟩ := ih hx hy
      refine ⟨τ.trans (Equiv.swap (τ x) y), fun p hp => ?_, fun z hz hρz => ?_⟩
      · rcases List.mem_cons.1 hp with rfl | hp
        · exact Equiv.swap_apply_left _ _
        · have hpx : p.1 ≠ x := fun h => hxnew (h ▸ (List.of_mem_zip hp).1)
          have hpy : p.2 ≠ y := fun h => hynew (h ▸ (List.of_mem_zip hp).2)
          rw [Equiv.trans_apply, hnames p hp]
          refine Equiv.swap_apply_of_ne_of_ne (fun h => hpx (τ.injective ?_)) hpy
          rw [hnames p hp, h]
      · rw [List.mem_cons, not_or] at hz hρz
        have hτz := hkept z hz.2 hρz.2
        rw [Equiv.trans_apply, hτz]
        refine Equiv.swap_apply_of_ne_of_ne (fun h => hz.1 (τ.injective ?_)) hρz.1
        rw [hτz, h]

theorem Call.renamed_trans (ρ τ : Equiv.Perm String) (c : Call) : (c.renamed ρ).renamed τ = c.renamed (ρ.trans τ) := by
  have hedit : ∀ x : Edit, (x.renamed ρ).renamed τ = x.renamed (ρ.trans τ) := fun x => by
    cases x with
    | remove k id => cases id <;> rfl
    | _ => rfl
  cases c with
  | request warehouse e target body => cases e <;> rfl
  | within key e =>
    cases e with
    | edit x => exact congrArg (fun x => Call.within key (.edit x)) (hedit x)
    | _ => rfl

namespace Traffic

/-- The rows of a session in the log. -/
def rows (t : Traffic) (key : String) : List AuditRow :=
  (t.app.audit.of key).getD []

/-- A service is like itself if the ids that were given keep their names. -/
theorem Sound.alike_self (ht : t.Sound) (hfixed : ∀ n ≤ t.app.ids.given, ρ (IdSupply.nth n) = IdSupply.nth n)
    (key : String) : t.Alike ρ key (t.rows key) t := by
  have hsession : ∀ {s key}, Stored t.app.ids key s → s.Alike ρ s := fun {s key} hs => by
    have hidentified := hs.identified t.app.clock
    obtain ⟨n, hn, hid⟩ := hidentified.given
    refine .of_fixed (Canvas.renamed_of_fixed ?_ fun id hid => ?_)
    · simp only at hid
      rw [hid, Value.renamed, hfixed n hn]
    · obtain ⟨n, hn, rfl⟩ := hidentified.sound.supplied id hid
      exact hfixed n hn
  constructor
  · rfl
  · cases hs : t.app.registry.find? key with
    | none => exact .none
    | some s => exact .some (hsession (ht.stored hs))
  · cases hs : t.closed key with
    | none => exact .none
    | some s => exact .some (hsession (ht.closed hs))
  · unfold AuditStore.Alike rows
    cases t.app.audit.of key with
    | none => exact .none
    | some rows => exact .some ⟨[], [], by simp, by simp, .nil⟩

end Traffic

open Traffic

/-- **Names for ids**: those that were given before keep theirs, and those that the calls to a session take are names
for those that the calls take in another order. -/
structure Naming (ρ : Equiv.Perm String) (t : Traffic) (calls calls' : List Call) : Prop where
  fixed : ∀ n ≤ t.app.ids.given, ρ (IdSupply.nth n) = IdSupply.nth n
  names : ∀ key, Names ρ (taken key t calls) (taken key t (calls'.map (Call.renamed ρ)))

/-- **Another order of calls**, or of some of them: every call is addressed to a session that is open, and the first
calls to each session are the same. -/
structure Reorders (t : Traffic) (calls calls' : List Call) : Prop where
  opened : ∀ c ∈ calls', ∃ key ∈ t.app.registry.keys, c.session? = some key
  own : ∀ key, own key calls' <+: own key calls

theorem Reorders.addressed_open (h : Reorders t calls calls') :
    ∀ c ∈ calls'.map (Call.renamed ρ), ∃ key ∈ t.app.registry.keys, c.session? = some key := by
  simpa only [List.forall_mem_map, Call.session?_renamed] using h.opened

theorem Reorders.addressed (h : Reorders t calls calls') : ∀ c ∈ calls'.map (Call.renamed ρ), c.session? ≠ none := by
  intro c hc
  obtain ⟨key, -, hown⟩ := h.addressed_open c hc
  simp [hown]

theorem Reorders.init (h : Reorders t calls (calls' ++ [c])) : Reorders t calls calls' where
  opened c hc := h.opened c (List.mem_append_left _ hc)
  own key := by
    have hfirst := h.own key
    rw [Http.own, List.filter_append] at hfirst
    exact (List.prefix_append _ _).trans hfirst

theorem gave_of_open (ht : t.Sound) (hkey : key ∈ t.app.registry.keys) : t.Gave key :=
  ht.registry.given key hkey

namespace Naming

section Compared

variable (h : Naming ρ t calls calls') (ht : t.Sound) (hstay : t.NoneEvicted calls) (hre : Reorders t calls calls')

include h ht hstay hre

/-- Under its names a session is the same in both orders, and takes the same ids. -/
theorem compared (hkey : key ∈ t.app.registry.keys) :
    taken key t (calls'.map (Call.renamed ρ)) <+: (taken key t calls).map ρ ∧
      (own key calls' = own key calls →
        (t.run calls).Alike ρ key (t.rows key) (t.run (calls'.map (Call.renamed ρ)))) := by
  have hgave := gave_of_open ht hkey
  have hown : own key (calls'.map (Call.renamed ρ)) <+: (own key calls).map (Call.renamed ρ) := by
    rw [own_map_renamed]
    exact (hre.own key).map _
  obtain ⟨hstarts, halike⟩ := run_compared ht ht hgave hgave (ht.alike_self h.fixed key) hstay
    (noneEvicted_of_addressed ht hre.addressed) hown (h.names key)
  exact ⟨hstarts, fun hall => halike (by rw [own_map_renamed, hall])⟩

/-- The ids that a session still has to take are no names for ids that are in use. -/
theorem not_dropped (hkey : key ∈ t.app.registry.keys) {n : Nat}
    (hn : n ≤ (t.run (calls'.map (Call.renamed ρ))).app.ids.given) :
    ρ.symm (IdSupply.nth n) ∉
      (taken key t calls).drop (taken key t (calls'.map (Call.renamed ρ))).length := by
  intro hdrop
  have htaken := List.mem_of_mem_drop hdrop
  by_cases hbefore : n ≤ t.app.ids.given
  · rw [ρ.symm_apply_eq.2 (h.fixed n hbefore).symm] at htaken
    obtain ⟨i, hlt, -, hi⟩ := mem_taken ht htaken
    have : n = i := IdSupply.nth_injective hi
    omega
  · obtain ⟨key', hkey'⟩ := exists_taken ht hre.addressed (Nat.lt_of_not_le hbefore) hn
    have hopen : key' ∈ t.app.registry.keys := by
      by_contra hnot
      rw [taken_of_own_nil (own_of_addressed hre.addressed_open hnot)] at hkey'
      cases hkey'
    have hstarts := (h.compared ht hstay hre hopen).1
    rw [List.prefix_iff_eq_take.1 hstarts, ← List.map_take] at hkey'
    obtain ⟨id, hid, hname⟩ := List.mem_map.1 hkey'
    rw [← hname, Equiv.symm_apply_apply] at hdrop htaken
    by_cases hsame : key' = key
    · subst hsame
      exact List.disjoint_take_drop (taken_nodup ht key' calls) (Nat.le_refl _) hid hdrop
    · exact taken_disjoint ht hsame (List.mem_of_mem_take hid) htaken

end Compared

variable {τ : Equiv.Perm String}

/-- Names that are given anew: those that are in use by the end of a run stay the same. -/
def Extends (ρ τ : Equiv.Perm String) (t : Traffic) : Prop :=
  ∀ n ≤ t.app.ids.given, τ (ρ.symm (IdSupply.nth n)) = IdSupply.nth n

/-- The ids that a call takes are given the names that the calls to its session take next. -/
theorem exists_extension (h : Naming ρ t calls calls') (ht : t.Sound) (hstay : t.NoneEvicted calls)
    (hre : Reorders t calls calls') (hkey : key ∈ t.app.registry.keys) (c : Call) :
    ∃ τ : Equiv.Perm String, Extends ρ τ (t.run (calls'.map (Call.renamed ρ))) ∧
      Names τ ((taken key t calls).drop (taken key t (calls'.map (Call.renamed ρ))).length)
        ((t.run (calls'.map (Call.renamed ρ))).drawn c) := by
  obtain ⟨τ, hnew, hkept⟩ := exists_names ρ
    ((taken_nodup ht key calls).sublist (List.drop_sublist (taken key t (calls'.map (Call.renamed ρ))).length _))
    ((t.run (calls'.map (Call.renamed ρ))).drawn_nodup c)
  refine ⟨τ, fun n hn => ?_, hnew⟩
  have hundrawn : IdSupply.nth n ∉ (t.run (calls'.map (Call.renamed ρ))).drawn c := fun hdrawn => by
    obtain ⟨i, hlt, -, hi⟩ := mem_drawn (ht.run _) hdrawn
    have : n = i := IdSupply.nth_injective hi
    omega
  rw [hkept _ (h.not_dropped ht hstay hre hkey hn) (by rwa [Equiv.apply_symm_apply]), Equiv.apply_symm_apply]

theorem Extends.fixed (hτ : Extends ρ τ (t.run (calls'.map (Call.renamed ρ)))) (h : Naming ρ t calls calls')
    (ht : t.Sound) : ∀ n ≤ t.app.ids.given, τ (IdSupply.nth n) = IdSupply.nth n := by
  intro n hn
  have hkept := hτ n (Nat.le_trans hn (ht.given_run _))
  rwa [ρ.symm_apply_eq.2 (h.fixed n hn).symm] at hkept

/-- What was taken so far is named as before. -/
theorem Extends.names (hτ : Extends ρ τ (t.run (calls'.map (Call.renamed ρ)))) (h : Naming ρ t calls calls')
    (ht : t.Sound) (key : String) : Names τ (taken key t calls) (taken key t (calls'.map (Call.renamed ρ))) := by
  intro p hp
  obtain ⟨n, -, hn, hname⟩ := mem_taken ht (List.of_mem_zip hp).2
  have hkept := hτ n hn
  rwa [← hname, ← h.names key p hp, Equiv.symm_apply_apply, h.names key p hp] at hkept

theorem renamed_extended (ρ τ : Equiv.Perm String) (c : Call) :
    (c.renamed ρ).renamed (ρ.symm.trans τ) = c.renamed τ := by
  rw [Call.renamed_trans, ← Equiv.trans_assoc, Equiv.self_trans_symm, Equiv.refl_trans]

/-- **With the new names the run is the same**: it takes the same ids, and one more call takes the same ones next. -/
theorem Extends.retaken (hτ : Extends ρ τ (t.run (calls'.map (Call.renamed ρ)))) (ht : t.Sound)
    (hre : Reorders t calls calls') (hkey : key ∈ t.app.registry.keys) (hown : c.session? = some key) :
    (∀ k, taken k t (calls'.map (Call.renamed τ)) = taken k t (calls'.map (Call.renamed ρ))) ∧
      (t.run (calls'.map (Call.renamed τ))).drawn (c.renamed τ) =
        (t.run (calls'.map (Call.renamed ρ))).drawn (c.renamed ρ) := by
  have hfixed : ∀ n ≤ t.app.ids.given, (ρ.symm.trans τ) (IdSupply.nth n) = IdSupply.nth n :=
    fun n hn => hτ n (Nat.le_trans hn (ht.given_run _))
  obtain ⟨hids, halike, htaken⟩ := @run_renamed (ρ.symm.trans τ) t t (calls'.map (Call.renamed ρ)) _ t.rows ht ht rfl
    (fun key hkey => gave_of_open ht hkey) (fun key _ => ht.alike_self hfixed key) hre.addressed_open hτ
  have hcalls : (calls'.map (Call.renamed ρ)).map (Call.renamed (ρ.symm.trans τ)) = calls'.map (Call.renamed τ) := by
    rw [List.map_map]
    exact List.map_congr_left fun c _ => renamed_extended ρ τ c
  rw [hcalls] at hids halike htaken
  have hdrawn := drawn_alike (ht.run _) (ht.run _) (halike key hkey) hids ((Call.session?_renamed ρ c).trans hown)
  rw [renamed_extended] at hdrawn
  exact ⟨htaken, hdrawn⟩

/-- **One more call.** -/
theorem snoc (h : Naming ρ t calls calls') (ht : t.Sound) (hstay : t.NoneEvicted calls)
    (hre : Reorders t calls (calls' ++ [c])) : ∃ τ, Naming τ t calls (calls' ++ [c]) := by
  obtain ⟨key, hkey, hown⟩ := hre.opened c (List.mem_append_right _ List.mem_cons_self)
  obtain ⟨τ, hτ, hnew⟩ := h.exists_extension ht hstay hre.init hkey (c.renamed ρ)
  obtain ⟨htaken, hdrawn⟩ := hτ.retaken ht hre.init hkey hown
  refine ⟨τ, hτ.fixed h ht, fun k => ?_⟩
  have hold := hτ.names h ht k
  rw [List.map_append, taken_append, htaken]
  by_cases hk : k = key
  · subst hk
    have hlast : taken k (t.run (calls'.map (Call.renamed τ))) ([c].map (Call.renamed τ)) =
        (t.run (calls'.map (Call.renamed ρ))).drawn (c.renamed ρ) := by
      simp only [List.map_cons, List.map_nil, taken, Call.session?_renamed, hown, if_true, List.append_nil, hdrawn]
    rw [hlast]
    exact hold.append hnew (by simpa using (h.compared ht hstay hre.init hkey).1.length_le)
  · have hnone : taken k (t.run (calls'.map (Call.renamed τ))) ([c].map (Call.renamed τ)) = [] := by
      have hother : ¬ key = k := fun h => hk h.symm
      simp [taken, Call.session?_renamed, hown, hother]
    rw [hnone, List.append_nil]
    exact hold

end Naming

/-- **There are such names** for every order. -/
theorem exists_naming (ht : t.Sound) (hstay : t.NoneEvicted calls) (hre : Reorders t calls calls') :
    ∃ ρ, Naming ρ t calls calls' := by
  induction calls' using List.reverseRecOn with
  | nil => exact ⟨1, fun _ _ => rfl, fun key => by simp [Names, taken]⟩
  | append_singleton calls' c ih =>
    obtain ⟨ρ, h⟩ := ih hre.init
    exact h.snoc ht hstay hre

/-! ## Sessions -/

/-- **The same session** after two runs of a service, but for ids, times and the numbers of rows. -/
structure SameSession (ρ : Equiv.Perm String) (key : String) (t u u' : Traffic) : Prop where
  /-- There is a session, -/
  found : (u.session? key).isSome = true
  /-- open in both or closed in both. -/
  isOpen : (u'.app.registry.find? key).isSome = (u.app.registry.find? key).isSome
  /-- The canvas is the same, with other ids. -/
  canvas : (u'.session? key).map (·.canvas) = (u.session? key).map (·.canvas.renamed ρ)
  /-- It compiles to the same statement. -/
  sql : (u'.session? key).map (·.sql) = (u.session? key).map (·.sql)
  /-- The latest result is the same. -/
  result : (u'.session? key).map (·.result) = (u.session? key).map (·.result)
  /-- The same run is under way, and the same answer has arrived for it. -/
  running : (u'.session? key).map (fun s => (s.running, s.arrived)) =
    (u.session? key).map fun s => (s.running, s.arrived)
  /-- The rows that the log had before are the same, and those that were added say the same. -/
  log : u.app.audit.Alike ρ key (t.rows key) u'.app.audit
  /-- So does a summary of them. -/
  summary : (u'.app.audit.map fun rows => AuditLog.summary rows key) =
    u.app.audit.map fun rows => AuditLog.summary rows key

theorem Traffic.Alike.sameSession (h : u.Alike ρ key (t.rows key) u') (hfound : (u.session? key).isSome = true) :
    SameSession ρ key t u u' := by
  have hsession : Option.Rel (Session.Alike ρ) (u.session? key) (u'.session? key) := by
    unfold Traffic.session?
    rcases rel_cases h.opened with ⟨hs, hs'⟩ | ⟨s, s', hs, hs', halike⟩
    · rw [hs, hs', Option.none_or, Option.none_or]
      exact h.closed
    · rw [hs, hs']
      exact .some halike
  obtain ⟨hs, -⟩ | ⟨s, s', hs, hs', halike⟩ := rel_cases hsession
  · rw [hs] at hfound
    cases hfound
  · constructor
    · exact hfound
    · rcases rel_cases h.opened with ⟨ho, ho'⟩ | ⟨o, o', ho, ho', -⟩
      · rw [ho, ho']
      · rw [ho, ho']
        rfl
    · rw [hs, hs', Option.map_some, Option.map_some, halike.canvas]
    · rw [hs, hs', Option.map_some, Option.map_some, halike.sql]
    · rw [hs, hs', Option.map_some, Option.map_some, halike.result]
    · rw [hs, hs', Option.map_some, Option.map_some, halike.running, halike.arrived]
    · exact h.log
    · exact h.log.summary

theorem found_run (ht : t.Sound) (hstay : t.NoneEvicted calls) (hfound : (t.session? key).isSome = true) :
    ((t.run calls).session? key).isSome = true := by
  induction calls generalizing t with
  | nil => exact hfound
  | cons c calls ih =>
    exact ih (ht.step c) hstay.2
      ((step_steps ht c).found (host_step t c) ht hfound fun hother hkey => hstay.1 key hkey hother)

/-- Under names for the ids of another order the sessions are the same in both. -/
theorem Naming.sameSession (h : Naming ρ t calls calls') (ht : t.Sound) (hstay : t.NoneEvicted calls)
    (hre : Reorders t calls calls') (hkey : key ∈ t.app.registry.keys) (hown : own key calls' = own key calls) :
    SameSession ρ key t (t.run calls) (t.run (calls'.map (Call.renamed ρ))) := by
  refine ((h.compared ht hstay hre hkey).2 hown).sameSession (found_run ht hstay ?_)
  rw [Traffic.session?, Option.isSome_or, Registry.find?_isSome_iff.2 hkey]
  rfl

/-- The calls to one session alone. -/
theorem reorders_own (hkey : key ∈ t.app.registry.keys) : Reorders t calls (own key calls) where
  opened c hc := ⟨key, hkey, by simpa using (List.mem_filter.1 hc).2⟩
  own k := by
    by_cases hk : k = key
    · rw [hk, own_own]
    · have hto : ∀ c ∈ own key calls, ∃ k ∈ [key], c.session? = some k := fun c hc =>
        ⟨key, List.mem_cons_self, by simpa using (List.mem_filter.1 hc).2⟩
      rw [own_of_addressed hto (by simpa using hk)]
      exact ⟨_, rfl⟩

/-- Another order of the calls to open sessions. -/
theorem reorders_of_own (hopened : ∀ c ∈ calls', ∃ key ∈ t.app.registry.keys, c.session? = some key)
    (hown : ∀ key ∈ t.app.registry.keys, own key calls' = own key calls) : Reorders t calls calls' where
  opened := hopened
  own k := by
    by_cases hk : k ∈ t.app.registry.keys
    · rw [hown k hk]
    · rw [own_of_addressed hopened hk]
      exact ⟨_, rfl⟩

/-- **Sessions are isolated.** Whatever calls are made, as long as nobody is driven out of the registry: each session
that was open is what the calls to it alone leave; and in any other order of the calls to the sessions, in which the
calls to each session come in the same order, every session is the same. -/
theorem isolated (h : Reached t) (hstay : t.NoneEvicted calls) :
    (∀ key ∈ t.app.registry.keys, ∃ ρ : Equiv.Perm String,
      (∀ n ≤ t.app.ids.given, ρ (IdSupply.nth n) = IdSupply.nth n) ∧
      SameSession ρ key t (t.run calls) (t.run ((own key calls).map (Call.renamed ρ)))) ∧
    ∀ calls', (∀ c ∈ calls', ∃ key ∈ t.app.registry.keys, c.session? = some key) →
      (∀ key ∈ t.app.registry.keys, own key calls' = own key calls) →
      ∃ ρ : Equiv.Perm String, (∀ n ≤ t.app.ids.given, ρ (IdSupply.nth n) = IdSupply.nth n) ∧
        ∀ key ∈ t.app.registry.keys, SameSession ρ key t (t.run calls) (t.run (calls'.map (Call.renamed ρ))) := by
  have ht := h.sound
  constructor
  · intro key hkey
    have hre : Reorders t calls (own key calls) := reorders_own hkey
    obtain ⟨ρ, hρ⟩ := exists_naming ht hstay hre
    exact ⟨ρ, hρ.fixed, hρ.sameSession ht hstay hre hkey (own_own key calls)⟩
  · intro calls' hopened hown
    have hre := reorders_of_own hopened hown
    obtain ⟨ρ, hρ⟩ := exists_naming ht hstay hre
    exact ⟨ρ, hρ.fixed, fun key hkey => hρ.sameSession ht hstay hre hkey (hown key hkey)⟩

/-- A service with two sessions. -/
def twoSessions : Traffic :=
  ((Traffic.start .usual ordersWarehouse 5).step (.request ordersWarehouse .startSession ⟨[], []⟩ "")).step
    (.request ordersWarehouse .startSession ⟨[], []⟩ "")

/-- Calls to both of them. The second session removes the sorting that it added, under the id that it got; the first
one took an id before. -/
def crossing : List Call :=
  [.within "id-1" (.edit (.addTable (.text "orders"))),
   .within "id-3" (.edit (.addTable (.text "orders"))),
   .within "id-1" (.edit (.addGroup (.text "orders") (.text "total"))),
   .within "id-3" (.edit (.addSort (.text "orders") (.text "total") (.text "ASC"))),
   .request ordersWarehouse (.execute "id-1") ⟨[], []⟩ "",
   .request ordersWarehouse (.removePart "id-3" "sorts" "id-6") ⟨[], []⟩ ""]

theorem isolated_crossing : twoSessions.app.registry.keys = ["id-1", "id-3"] ∧
    (∃ ρ, SameSession ρ "id-3" twoSessions (twoSessions.run crossing)
      (twoSessions.run ((own "id-3" crossing).map (Call.renamed ρ)))) ∧
    ∃ ρ, ∀ key ∈ ["id-1", "id-3"], SameSession ρ key twoSessions (twoSessions.run crossing)
      (twoSessions.run ((own "id-3" crossing ++ own "id-1" crossing).map (Call.renamed ρ))) := by
  have hreached : Reached twoSessions := .called (.called (.start .usual ordersWarehouse 5) _) _
  have hkeys : twoSessions.app.registry.keys = ["id-1", "id-3"] := by decide +kernel
  have hstay : twoSessions.NoneEvicted crossing :=
    noneEvicted_of_addressed hreached.sound (by simp [crossing, Call.session?, Endpoint.session?])
  obtain ⟨halone, hordered⟩ := isolated hreached hstay
  rw [hkeys] at halone hordered
  obtain ⟨ρ, -, hsame⟩ := halone "id-3" (by simp)
  obtain ⟨τ, -, hall⟩ := hordered (own "id-3" crossing ++ own "id-1" crossing)
    (by simp [own, crossing, Call.session?, Endpoint.session?])
    (by simp [own, crossing, Call.session?, Endpoint.session?])
  exact ⟨hkeys, ⟨ρ, hsame⟩, τ, hall⟩

end QueryCanvas.Http
