import Mathlib.Data.List.Nodup
import QueryCanvas.Proofs.Http.Traffic

/-!
# Calls to several sessions

What calls do to a session is compared in two services, to which calls to other sessions are made in between, not
the same ones, and not at the same time.

* `own`: the calls that are addressed to a session.
* `taken`: the ids that they take. No id is taken twice (`taken_nodup`, `taken_disjoint`).
* `run_compared`: the same calls to a session do the same to it in both services, if the ids that they take in one
  are names for the ids that they take in the other.
* `run_renamed`: with other names for ids that are not in use yet, all calls do the same.
-/

namespace QueryCanvas.Http

variable {ρ : Equiv.Perm String} {t t' : Traffic} {c : Call} {calls calls' : List Call} {key key' : String}
  {old : List AuditRow}

/-! ## Ids and their names -/

/-- The next ids of a supply. -/
def upcoming (ids : IdSupply) (n : Nat) : List String :=
  (List.range n).map fun i => IdSupply.nth (ids.given + 1 + i)

theorem mem_upcoming {ids : IdSupply} {n : Nat} {id : String} :
    id ∈ upcoming ids n ↔ ∃ i, ids.given < i ∧ i ≤ ids.given + n ∧ id = IdSupply.nth i := by
  simp only [upcoming, List.mem_map, List.mem_range]
  constructor
  · rintro ⟨i, hi, rfl⟩
    exact ⟨ids.given + 1 + i, by omega, by omega, rfl⟩
  · rintro ⟨i, hlt, hle, rfl⟩
    exact ⟨i - (ids.given + 1), by omega, by congr 1; omega⟩

theorem nodup_upcoming (ids : IdSupply) (n : Nat) : (upcoming ids n).Nodup := by
  refine List.nodup_range.map fun i j hij => ?_
  have := IdSupply.nth_injective hij
  omega

/-- **Names for ids**: those of the first list, as far as it goes, are names for those of the second. -/
def Names (ρ : Equiv.Perm String) (xs ys : List String) : Prop :=
  ∀ p ∈ xs.zip ys, ρ p.1 = p.2

theorem names_append {xs xs' ys ys' : List String} (h : xs.length = ys.length) :
    Names ρ (xs ++ xs') (ys ++ ys') ↔ Names ρ xs ys ∧ Names ρ xs' ys' := by
  unfold Names
  rw [List.zip_append h, List.forall_mem_append]

/-- The names of the first ids of a list. -/
theorem Names.starts {xs ys : List String} (h : Names ρ xs ys) (hle : ys.length ≤ xs.length) :
    ys <+: xs.map ρ := by
  induction ys generalizing xs with
  | nil => exact ⟨_, rfl⟩
  | cons y ys ih =>
    cases xs with
    | nil => cases hle
    | cons x xs =>
      have hxy : ρ x = y := h (x, y) List.mem_cons_self
      rw [List.map_cons, hxy]
      exact List.cons_prefix_cons.2 ⟨rfl, ih (fun p hp => h p (List.mem_cons_of_mem _ hp)) (Nat.le_of_succ_le_succ hle)⟩

/-- Names for further ids. -/
theorem Names.append {xs ys ys' : List String} (h : Names ρ xs ys) (h' : Names ρ (xs.drop ys.length) ys')
    (hle : ys.length ≤ xs.length) : Names ρ xs (ys ++ ys') := by
  induction ys generalizing xs with
  | nil => exact h'
  | cons y ys ih =>
    cases xs with
    | nil => cases hle
    | cons x xs =>
      have hxy := h (x, y) List.mem_cons_self
      have hrest := ih (fun p hp => h p (List.mem_cons_of_mem _ hp)) h' (Nat.le_of_succ_le_succ hle)
      exact List.forall_mem_cons.2 ⟨hxy, hrest⟩

theorem Names.matches {ids ids' : IdSupply} {n : Nat} (h : Names ρ (upcoming ids n) (upcoming ids' n)) :
    Matches ρ ids ids' n := by
  intro i hi
  refine h (IdSupply.nth (ids.given + 1 + i), IdSupply.nth (ids'.given + 1 + i)) ?_
  simp only [upcoming, List.zip_map', List.mem_map, List.mem_range]
  exact ⟨i, hi, rfl⟩

namespace Traffic

/-! ## Calls in a row -/

theorem run_append (t : Traffic) (calls calls' : List Call) : t.run (calls ++ calls') = (t.run calls).run calls' :=
  List.foldl_append

theorem Sound.step (ht : t.Sound) (c : Call) : (t.step c).Sound :=
  (step_steps ht c).sound ht

theorem Sound.run (ht : t.Sound) (calls : List Call) : (t.run calls).Sound := by
  induction calls generalizing t with
  | nil => exact ht
  | cons c calls ih => exact ih (ht.step c)

theorem Sound.given_run (ht : t.Sound) (calls : List Call) : t.app.ids.given ≤ (t.run calls).app.ids.given := by
  induction calls generalizing t with
  | nil => exact Nat.le_refl _
  | cons c calls ih => exact Nat.le_trans (step_steps ht c).given (ih (ht.step c))

/-- **Nobody is driven out**: no session leaves the registry but by a call of its own. -/
def NoneEvicted : Traffic → List Call → Prop
  | _, [] => True
  | t, c :: calls =>
    (∀ key ∈ t.app.registry.keys, c.session? ≠ some key → key ∈ (t.step c).app.registry.keys) ∧
      (t.step c).NoneEvicted calls

theorem noneEvicted_append : t.NoneEvicted (calls ++ calls') ↔ t.NoneEvicted calls ∧ (t.run calls).NoneEvicted calls' := by
  induction calls generalizing t with
  | nil => exact (and_iff_right trivial).symm
  | cons c calls ih => simp only [List.cons_append, NoneEvicted, ih, and_assoc]; rfl

/-- Whoever is opened may drive out another. What is addressed to a session drives nobody out. -/
theorem step_stays (ht : t.Sound) (hc : c.session? ≠ none) (hother : c.session? ≠ some key)
    (hkey : key ∈ t.app.registry.keys) : key ∈ (t.step c).app.registry.keys := by
  cases step_steps ht c with
  | idle hreg => rwa [hreg]
  | opened hnone => exact absurd hnone hc
  | acted hown hs hleaves => rwa [hleaves.registry, Registry.keys_replace]
  | @ended key' s hown hs hreg =>
    have hne : key ≠ key' := fun hk => hother (hk ▸ hown)
    rw [hreg, Registry.keys_drop]
    exact List.mem_filter.2 ⟨hkey, by simpa using hne⟩
  | wentOn hown hs hx hreg => rwa [hreg]

theorem noneEvicted_of_addressed (ht : t.Sound) (h : ∀ c ∈ calls, c.session? ≠ none) : t.NoneEvicted calls := by
  induction calls generalizing t with
  | nil => trivial
  | cons c calls ih =>
    rw [List.forall_mem_cons] at h
    exact ⟨fun key hkey hother => step_stays ht h.1 hother hkey, ih (ht.step c) h.2⟩

end Traffic

/-! ## The calls to a session -/

/-- The calls that are addressed to a session. -/
def own (key : String) (calls : List Call) : List Call :=
  calls.filter (·.session? == some key)

theorem own_cons_self (h : c.session? = some key) : own key (c :: calls) = c :: own key calls := by
  simp [own, h]

theorem own_cons_other (h : c.session? ≠ some key) : own key (c :: calls) = own key calls := by
  simp [own, h]

theorem own_eq_nil : own key calls = [] ↔ ∀ c ∈ calls, c.session? ≠ some key := by
  simp [own]

/-- Calls to some sessions are none to another one. -/
theorem own_of_addressed {keys : List String} (h : ∀ c ∈ calls, ∃ k ∈ keys, c.session? = some k) (hkey : key ∉ keys) :
    own key calls = [] := by
  refine own_eq_nil.2 fun c hc hown => ?_
  obtain ⟨k, hk, hto⟩ := h c hc
  exact hkey (Option.some.inj (hto.symm.trans hown) ▸ hk)

theorem own_own (key : String) (calls : List Call) : own key (own key calls) = own key calls := by
  simp [own]

/-- The calls that are addressed to a session, of calls in which some name other ids. -/
theorem own_map_renamed (ρ : Equiv.Perm String) (key : String) (calls : List Call) :
    own key (calls.map (Call.renamed ρ)) = (own key calls).map (Call.renamed ρ) := by
  have hsame : ((fun c : Call => c.session? == some key) ∘ Call.renamed ρ) = (·.session? == some key) := by
    funext c
    simp [Call.session?_renamed]
  rw [own, List.filter_map, hsame, own]

/-- The calls around the first one that is addressed to a session. -/
theorem own_eq_cons {cs : List Call} (h : own key calls = c :: cs) : ∃ before after, calls = before ++ c :: after ∧
    own key before = [] ∧ c.session? = some key ∧ own key after = cs := by
  obtain ⟨before, after, hcalls, hbefore, hc, hafter⟩ := List.filter_eq_cons_iff.1 h
  exact ⟨before, after, hcalls, own_eq_nil.2 (by simpa using hbefore), by simpa using hc, hafter⟩

namespace Traffic

/-- The ids that a call takes. -/
def drawn (t : Traffic) (c : Call) : List String :=
  upcoming t.app.ids ((t.step c).app.ids.given - t.app.ids.given)

/-- **The ids that the calls to a session take.** -/
def taken (key : String) : Traffic → List Call → List String
  | _, [] => []
  | t, c :: calls => (if c.session? = some key then t.drawn c else []) ++ taken key (t.step c) calls

theorem taken_append (key : String) (t : Traffic) (calls calls' : List Call) :
    taken key t (calls ++ calls') = taken key t calls ++ taken key (t.run calls) calls' := by
  induction calls generalizing t with
  | nil => rfl
  | cons c calls ih =>
    simp only [List.cons_append, taken, ih, List.append_assoc]
    rfl

theorem taken_of_own_nil (h : own key calls = []) (t : Traffic) : taken key t calls = [] := by
  induction calls generalizing t with
  | nil => rfl
  | cons c calls ih =>
    have hc := own_eq_nil.1 h
    rw [List.forall_mem_cons] at hc
    rw [taken, if_neg hc.1, ih (own_eq_nil.2 hc.2), List.nil_append]

/-- A call takes the ids from the first to the last one that was given meanwhile. -/
theorem mem_drawn (ht : t.Sound) {id : String} (h : id ∈ t.drawn c) :
    ∃ i, t.app.ids.given < i ∧ i ≤ (t.step c).app.ids.given ∧ id = IdSupply.nth i := by
  have hgiven := (step_steps ht c).given
  obtain ⟨i, hlt, hle, hid⟩ := mem_upcoming.1 h
  exact ⟨i, hlt, by omega, hid⟩

theorem mem_taken (ht : t.Sound) {id : String} (h : id ∈ taken key t calls) :
    ∃ i, t.app.ids.given < i ∧ i ≤ (t.run calls).app.ids.given ∧ id = IdSupply.nth i := by
  induction calls generalizing t with
  | nil => cases h
  | cons c calls ih =>
    rw [taken, List.mem_append] at h
    rcases h with h | h
    · split at h
      · obtain ⟨i, hlt, hle, hid⟩ := mem_drawn ht h
        exact ⟨i, hlt, Nat.le_trans hle ((ht.step c).given_run calls), hid⟩
      · cases h
    · obtain ⟨i, hlt, hle, hid⟩ := ih (ht.step c) h
      exact ⟨i, Nat.lt_of_le_of_lt (step_steps ht c).given hlt, hle, hid⟩

theorem drawn_nodup (t : Traffic) (c : Call) : (t.drawn c).Nodup :=
  nodup_upcoming _ _

/-- What a call takes is not taken later. -/
theorem not_taken_of_drawn (ht : t.Sound) {id : String} (h : id ∈ t.drawn c) :
    id ∉ taken key (t.step c) calls := by
  intro hlater
  obtain ⟨i, -, hle, hid⟩ := mem_drawn ht h
  obtain ⟨j, hlt, -, hjd⟩ := mem_taken (ht.step c) hlater
  have : i = j := IdSupply.nth_injective (hid.symm.trans hjd)
  omega

theorem taken_nodup (ht : t.Sound) (key : String) (calls : List Call) : (taken key t calls).Nodup := by
  induction calls generalizing t with
  | nil => exact List.nodup_nil
  | cons c calls ih =>
    rw [taken]
    split
    · exact (t.drawn_nodup c).append (ih (ht.step c)) fun id h hlater => not_taken_of_drawn ht h hlater
    · exact ih (ht.step c)

/-- **No id is taken by two sessions.** -/
theorem taken_disjoint (ht : t.Sound) (hne : key ≠ key') {id : String} (h : id ∈ taken key t calls) :
    id ∉ taken key' t calls := by
  intro h'
  induction calls generalizing t with
  | nil => cases h
  | cons c calls ih =>
    rw [taken, List.mem_append] at h h'
    rcases h with h | h
    · split at h
      next hown =>
        have hother : c.session? ≠ some key' := fun hk => hne (Option.some.inj (hown.symm.trans hk))
        rw [if_neg hother] at h'
        rcases h' with h' | h'
        · cases h'
        · exact not_taken_of_drawn ht h h'
      next => cases h
    · rcases h' with h' | h'
      · split at h'
        · exact not_taken_of_drawn ht h' h
        · cases h'
      · exact ih (ht.step c) h h'

/-- Whatever id was given meanwhile was taken for some session, if every call is addressed to one. -/
theorem exists_taken (ht : t.Sound) (hto : ∀ c ∈ calls, c.session? ≠ none) {n : Nat} (hlt : t.app.ids.given < n)
    (hle : n ≤ (t.run calls).app.ids.given) : ∃ key, IdSupply.nth n ∈ taken key t calls := by
  induction calls generalizing t with
  | nil => exact absurd hle (Nat.not_le.2 hlt)
  | cons c calls ih =>
    rw [List.forall_mem_cons] at hto
    by_cases hn : n ≤ (t.step c).app.ids.given
    · obtain ⟨key, hkey⟩ := Option.ne_none_iff_exists'.1 hto.1
      refine ⟨key, List.mem_append_left _ ?_⟩
      rw [if_pos hkey]
      exact mem_upcoming.2 ⟨n, hlt, by omega, rfl⟩
    · obtain ⟨key, hkey⟩ := ih (ht.step c) hto.2 (Nat.lt_of_not_le hn) hle
      exact ⟨key, List.mem_append_right _ hkey⟩

/-! ## Two services -/

/-- A service has given an id. -/
def Gave (t : Traffic) (key : String) : Prop :=
  ∃ n ≤ t.app.ids.given, key = IdSupply.nth n

theorem Gave.step (h : t.Gave key) (ht : t.Sound) (c : Call) : (t.step c).Gave key := by
  obtain ⟨n, hn, hkey⟩ := h
  exact ⟨n, Nat.le_trans hn (step_steps ht c).given, hkey⟩

theorem Gave.run (h : t.Gave key) (ht : t.Sound) (calls : List Call) : (t.run calls).Gave key := by
  obtain ⟨n, hn, hkey⟩ := h
  exact ⟨n, Nat.le_trans hn (ht.given_run calls), hkey⟩

/-- Calls to other sessions do nothing to a session. -/
theorem run_untouched (ht : t.Sound) (hkey : t.Gave key) (hstay : t.NoneEvicted calls) (hown : own key calls = []) :
    Untouched key t (t.run calls) := by
  induction calls generalizing t with
  | nil => exact ⟨rfl, rfl, rfl, rfl⟩
  | cons c calls ih =>
    have hothers := own_eq_nil.1 hown
    rw [List.forall_mem_cons] at hothers
    have hstep := (step_steps ht c).untouched (host_step t c) ht hkey hothers.1 fun hopen =>
      hstay.1 key hopen hothers.1
    have hrest := ih (ht.step c) (hkey.step ht c) hstay.2 (own_eq_nil.2 hothers.2)
    exact ⟨hrest.host.trans hstep.host, hrest.opened.trans hstep.opened, hrest.closed.trans hstep.closed,
      hrest.log.trans hstep.log⟩

/-- **The same calls to a session** do the same to it in two services that are alike for it, whatever other calls are
made in between, if the ids that they take in one service are names for those in the other. As long as only some of
the calls were made in the other service, they take the names of as many ids. -/
theorem run_compared (ht : t.Sound) (ht' : t'.Sound) (hkey : t.Gave key) (hkey' : t'.Gave key)
    (halike : t.Alike ρ key old t') (hstay : t.NoneEvicted calls) (hstay' : t'.NoneEvicted calls')
    (hown : own key calls' <+: (own key calls).map (Call.renamed ρ))
    (hnames : Names ρ (taken key t calls) (taken key t' calls')) :
    taken key t' calls' <+: (taken key t calls).map ρ ∧
      (own key calls' = (own key calls).map (Call.renamed ρ) → (t.run calls).Alike ρ key old (t'.run calls')) := by
  induction calls generalizing t t' calls' with
  | nil =>
    have hnone : own key calls' = [] := List.prefix_nil.1 hown
    rw [taken_of_own_nil hnone]
    exact ⟨⟨_, rfl⟩, fun _ => halike.untouched ⟨rfl, rfl, rfl, rfl⟩ (run_untouched ht' hkey' hstay' hnone)⟩
  | cons c calls ih =>
    by_cases hc : c.session? = some key
    · rw [own_cons_self hc, List.map_cons] at hown ⊢
      cases hcase : own key calls' with
      | nil =>
        rw [taken_of_own_nil hcase]
        exact ⟨⟨_, rfl⟩, nofun⟩
      | cons d ds =>
        rw [hcase] at hown
        obtain ⟨rfl, hds⟩ := List.cons_prefix_cons.1 hown
        obtain ⟨before, after, rfl, hbefore, hd, hafter⟩ := own_eq_cons hcase
        obtain ⟨hstayBefore, hstayAfter⟩ := noneEvicted_append.1 hstay'
        -- Up to the call the other service does nothing to the session.
        have hu := run_untouched ht' hkey' hstayBefore hbefore
        have htu := ht'.run before
        obtain ⟨n, hids, hids', hafterwards⟩ := step_alike ht htu (halike.untouched ⟨rfl, rfl, rfl, rfl⟩ hu) hc
        have hdrawn : t.drawn c = upcoming t.app.ids n := by
          rw [drawn, hids, Nat.add_sub_cancel_left]
        have hdrawn' : (t'.run before).drawn (c.renamed ρ) = upcoming (t'.run before).app.ids n := by
          rw [drawn, hids', Nat.add_sub_cancel_left]
        have htaken : taken key t (c :: calls) = upcoming t.app.ids n ++ taken key (t.step c) calls := by
          rw [taken, if_pos hc, hdrawn]
        have htaken' : taken key t' (before ++ c.renamed ρ :: after) = upcoming (t'.run before).app.ids n ++
            taken key ((t'.run before).step (c.renamed ρ)) after := by
          rw [taken_append, taken_of_own_nil hbefore, List.nil_append, taken, if_pos hd, hdrawn']
        have hlength : (upcoming t.app.ids n).length = (upcoming (t'.run before).app.ids n).length := by
          simp [upcoming]
        rw [htaken, htaken', names_append hlength] at hnames
        obtain ⟨hstarts, hend⟩ := ih (ht.step c) (htu.step _) (hkey.step ht c) ((hkey'.run ht' before).step htu _)
          (hafterwards hnames.1.matches) hstay.2 hstayAfter.2 (hafter ▸ hds) hnames.2
        have hfirst : (upcoming t.app.ids n).map ρ = upcoming (t'.run before).app.ids n := by
          refine (hnames.1.starts (Nat.le_of_eq hlength.symm)).eq_of_length ?_ |>.symm
          rw [List.length_map, hlength]
        rw [htaken, htaken', List.map_append, hfirst]
        refine ⟨(List.prefix_append_right_inj _).2 hstarts, fun hall => ?_⟩
        rw [run_append]
        exact hend (hafter.trans (List.cons.inj hall).2)
    · rw [own_cons_other hc] at hown ⊢
      have hu := (step_steps ht c).untouched (host_step t c) ht hkey hc fun hopen => hstay.1 key hopen hc
      rw [taken, if_neg hc, List.nil_append] at hnames ⊢
      exact ih (ht.step c) ht' (hkey.step ht c) hkey' (halike.untouched hu ⟨rfl, rfl, rfl, rfl⟩) hstay.2 hstay' hown hnames

/-- A call to a session takes as many ids in two services that are alike. -/
theorem drawn_alike (ht : t.Sound) (ht' : t'.Sound) (halike : t.Alike ρ key old t') (hids : t'.app.ids = t.app.ids)
    (hc : c.session? = some key) : t'.drawn (c.renamed ρ) = t.drawn c := by
  obtain ⟨n, hgiven, hgiven', -⟩ := step_alike ht ht' halike hc
  rw [drawn, drawn, hgiven, hgiven', hids]

/-! ## Other names for ids that are not in use -/

/-- Two supplies that have given as many ids give the same ones, and these keep their names if all names so far are
kept. -/
theorem matches_of_fixed {ids ids' : IdSupply} {n bound : Nat} (hids : ids' = ids)
    (hfixed : ∀ i ≤ bound, ρ (IdSupply.nth i) = IdSupply.nth i) (hbound : ids.given + n ≤ bound) :
    Matches ρ ids ids' n := by
  intro i hi
  rw [hids]
  exact hfixed _ (by omega)

/-- **With other names for ids that are not in use** by the end, calls to sessions do the same to each of them, and
take the same ids. -/
theorem run_renamed {keys : List String} {olds : String → List AuditRow} (ht : t.Sound) (ht' : t'.Sound)
    (hids : t'.app.ids = t.app.ids) (hkeys : ∀ key ∈ keys, t.Gave key)
    (halike : ∀ key ∈ keys, t.Alike ρ key (olds key) t')
    (hto : ∀ c ∈ calls, ∃ key ∈ keys, c.session? = some key)
    (hfixed : ∀ n ≤ (t.run calls).app.ids.given, ρ (IdSupply.nth n) = IdSupply.nth n) :
    (t'.run (calls.map (Call.renamed ρ))).app.ids = (t.run calls).app.ids ∧
      (∀ key ∈ keys, (t.run calls).Alike ρ key (olds key) (t'.run (calls.map (Call.renamed ρ)))) ∧
      ∀ key, taken key t' (calls.map (Call.renamed ρ)) = taken key t calls := by
  induction calls generalizing t t' with
  | nil => exact ⟨hids, halike, fun _ => rfl⟩
  | cons c calls ih =>
    rw [List.forall_mem_cons] at hto
    obtain ⟨key, hkey, hown⟩ := hto.1
    obtain ⟨n, hgiven, hgiven', hafter⟩ := step_alike ht ht' (halike key hkey) hown
    have hbound : t.app.ids.given + n ≤ (t.run (c :: calls)).app.ids.given := by
      rw [← hgiven]
      exact (ht.step c).given_run calls
    have hidsAfter : (t'.step (c.renamed ρ)).app.ids = (t.step c).app.ids := by
      cases hafter : (t'.step (c.renamed ρ)).app.ids
      cases hafter' : (t.step c).app.ids
      simp_all
    have hstep : ∀ k ∈ keys, (t.step c).Alike ρ k (olds k) (t'.step (c.renamed ρ)) := fun k hk => by
      by_cases hsame : k = key
      · subst hsame
        exact hafter (matches_of_fixed hids hfixed hbound)
      · have hother : c.session? ≠ some k := fun h => hsame (Option.some.inj (h.symm.trans hown))
        have hother' : (c.renamed ρ).session? ≠ some k := by rwa [Call.session?_renamed]
        have hc : c.session? ≠ none := by simp [hown]
        have hc' : (c.renamed ρ).session? ≠ none := by rwa [Call.session?_renamed]
        have hgave : t'.Gave k := by
          unfold Gave
          rw [hids]
          exact hkeys k hk
        exact (halike k hk).untouched
          ((step_steps ht c).untouched (host_step t c) ht (hkeys k hk) hother (step_stays ht hc hother))
          ((step_steps ht' _).untouched (host_step t' _) ht' hgave hother' (step_stays ht' hc' hother'))
    obtain ⟨hidsEnd, halikeEnd, htaken⟩ := ih (ht.step c) (ht'.step _) hidsAfter
      (fun k hk => (hkeys k hk).step ht c) hstep hto.2 hfixed
    refine ⟨hidsEnd, halikeEnd, fun k => ?_⟩
    rw [List.map_cons, taken, taken, htaken, drawn, drawn, hids, hidsAfter, Call.session?_renamed]

end Traffic

end QueryCanvas.Http
