import QueryCanvas.Proofs.Http.Body
import QueryCanvas.Proofs.Http.Refusal

/-!
# Requests and direct edits

A request with a body edits the canvas of a session; so does the edit that takes the values of the body as its
arguments, whatever they are. The first checks the forms of the fields before the second checks the edit, and
the two accept the same values but for four cases.

* `BodyKind.admitted`: what the edit accepts has the form that the body requires, unless a column is deselected
  or a name is torn.
* `Agrees`: the request is accepted exactly if the edit is, and leaves the canvas that the edit leaves.
* `Disagreement`: a limit that is read as a whole number without being one, an alias that a deselected column
  does not look at, a torn name, and a canvas that cannot be shown.
* `agrees_iff`: a request agrees with the edit exactly if it is none of these.
* `limit_coerced`: a limit that is set although the edit refuses it.
-/

namespace QueryCanvas

open Canvas Sql

/-! ## What an edit accepts -/

namespace Canvas

variable {v : Value}

theorem choose_eq_ok {α : Type} {what : String} {all : List α} {name : α → String} {a : α}
    (h : choose what all name v = .ok a) : ∃ s ∈ all.map name, v = .text s := by
  unfold choose at h
  split at h
  next b hb =>
    obtain ⟨s, hs, hfind⟩ := Option.bind_eq_some_iff.1 hb
    have hname : name b = s := by simpa using List.find?_some hfind
    refine ⟨s, hname ▸ List.mem_map_of_mem (List.mem_of_find?_eq_some hfind), ?_⟩
    cases v <;> cases hs
    rfl
  next => cases h

theorem connectiveOf_eq_ok {asked : Option Connective} (h : connectiveOf v = .ok asked) :
    ∃ k : Option String, (∀ s, k = some s → s ∈ Connective.all.map Connective.name) ∧
      v = (k.map Value.text).getD .null := by
  have hchosen : ∀ w, (do return some (← choose "logical connective" Connective.all Connective.name w)) =
      Except.ok asked → ∃ s ∈ Connective.all.map Connective.name, w = .text s := by
    intro w hw
    obtain ⟨k, hk, -⟩ := bind_eq_ok.1 hw
    exact choose_eq_ok hk
  cases v with
  | null => exact ⟨none, nofun, rfl⟩
  | _ =>
    obtain ⟨s, hs, hv⟩ := hchosen _ h
    exact ⟨some s, by rintro t ⟨⟩; exact hs, hv⟩

theorem chooseOperator_eq_ok {o : FilterOperator} (h : chooseOperator v = .ok o) : ∃ s, v = .text s := by
  cases v with
  | text s => exact ⟨s, rfl⟩
  | _ => cases h

/-- An alias is taken from a text or from nothing. -/
theorem isOptionalText_of_aliasOf {name : Option String} (h : aliasOf v = .ok name) : Http.IsOptionalText v := by
  cases v with
  | null => exact .inl rfl
  | text s => exact .inr rfl
  | _ => cases h

end Canvas

namespace Http

section Admitted

variable {cat : Catalog} {d d' : Draft} {e : Edit} {reply : Reply} {k : BodyKind} {fs : BodyFields}

/-- The kind of body that asks for an edit. -/
def bodyKindOf? : Edit → Option BodyKind
  | .rename _ => some .rename
  | .addTable _ => some .table
  | .toggleColumn .. => some .column
  | .addJoin .. => some .join
  | .addFilter .. => some .filter
  | .addSort .. => some .sort
  | .addGroup .. => some .group
  | .addAggregate .. => some .aggregate
  | .setLimit _ => some .limit
  | _ => none

theorem bodyKindOf_direct (he : k.direct? fs = some e) : bodyKindOf? e = some k := by
  cases k with
  | reset => cases he
  | rename | table =>
    obtain ⟨v, -, rfl⟩ := Option.map_eq_some_iff.1 he
    rfl
  | limit =>
    cases he
    rfl
  | column =>
    simp only [BodyKind.direct?, columnEdit, toOption_eq_some, bind_eq_ok] at he
    obtain ⟨fs, -, t, -, c, -, h⟩ := he
    cases h
    rfl
  | join =>
    simp only [BodyKind.direct?, joinEdit, toOption_eq_some, bind_eq_ok] at he
    obtain ⟨fs, -, lt, -, lc, -, rt, -, rc, -, h⟩ := he
    cases h
    rfl
  | filter =>
    simp only [BodyKind.direct?, filterEdit, toOption_eq_some, bind_eq_ok] at he
    obtain ⟨fs, -, t, -, c, -, o, -, h⟩ := he
    cases h
    rfl
  | sort =>
    simp only [BodyKind.direct?, sortEdit, toOption_eq_some, bind_eq_ok] at he
    obtain ⟨fs, -, t, -, c, -, h⟩ := he
    cases h
    rfl
  | group =>
    simp only [BodyKind.direct?, groupEdit, toOption_eq_some, bind_eq_ok] at he
    obtain ⟨fs, -, t, -, c, -, h⟩ := he
    cases h
    rfl
  | aggregate =>
    simp only [BodyKind.direct?, aggregateEdit, toOption_eq_some, bind_eq_ok] at he
    obtain ⟨fs, -, f, -, t, -, c, -, h⟩ := he
    cases h
    rfl

/-- **What an edit accepts is admitted** by the body, but for the alias of a column that it deselects and for a
torn name. -/
theorem BodyKind.admitted (hk : k ≠ .limit) (he : k.direct? fs = some e) (h : Change cat d e reply d') :
    k.Admits e ∨
      (∃ t col a, e = .toggleColumn (.text t) (.text col) a ∧ Refers cat d.canvas t col ∧
        d.canvas.columns.any (selects t col) = true ∧ ¬IsOptionalText a) ∨
      ∃ t, e = .rename (.torn t) := by
  have hkind := bodyKindOf_direct he
  cases h with
  | revision h =>
    cases h with
    | tableKept | tablePlaced =>
      cases hkind
      exact .inl (.table rfl)
    | @columnDropped t col a href hsel =>
      cases hkind
      by_cases ha : IsOptionalText a
      · exact .inl (.column rfl rfl ha)
      · exact .inr (.inl ⟨t, col, a, rfl, href, hsel, ha⟩)
    | columnSelected href hsel hname =>
      cases hkind
      exact .inl (.column rfl rfl (isOptionalText_of_aliasOf hname))
    | renamed hname =>
      cases hkind
      obtain ⟨s, rfl, hs, -⟩ | ⟨t, rfl, -⟩ := nameOf_eq_ok.1 hname
      · refine .inl (.rename ?_)
        rintro rfl
        exact hs rfl
      · exact .inr (.inr ⟨t, rfl⟩)
    | limitCleared | limitSet =>
      cases hkind
      exact absurd rfl hk
    | _ => cases hkind
  | addition h =>
    left
    cases h with
    | join hleft hright hjoin =>
      cases hkind
      obtain ⟨s, hs, rfl⟩ := choose_eq_ok hjoin
      exact .join rfl rfl rfl rfl hs
    | filter href hop hasked hv hu =>
      cases hkind
      obtain ⟨o, rfl⟩ := chooseOperator_eq_ok hop
      obtain ⟨asked, hnamed, rfl⟩ := connectiveOf_eq_ok hasked
      exact .filter rfl rfl rfl hnamed
    | sort href hdir =>
      cases hkind
      obtain ⟨s, hs, rfl⟩ := choose_eq_ok hdir
      exact .sort rfl rfl hs
    | group href =>
      cases hkind
      exact .group rfl rfl
    | aggregate href hfn hname =>
      cases hkind
      obtain ⟨f, hf, rfl⟩ := choose_eq_ok hfn
      exact .aggregate hf rfl rfl (isOptionalText_of_aliasOf hname)

end Admitted

/-! ## What a request does -/

section Requests

variable {a : App} {r : Request} {key : String} {s : Session} {k : BodyKind} {fs : BodyFields} {e : Edit}
  {reply : Reply} {err : EditError} {d : Draft} {issues : List Issue}

/-- The canvas of the session under a key. -/
def App.canvas? (a : App) (key : String) : Option Canvas :=
  (a.registry.find? key).map Session.canvas

/-- **A request with a body** for a session that is open: the body is a record with these fields. -/
structure Asks (a : App) (r : Request) (key : String) (s : Session) (k : BodyKind) (fs : BodyFields) : Prop where
  leads : ∃ x, destination r.method (Target.ofText r.target).path = .endpoint x ∧ x.body? = some (key, k)
  reads : App.bodyValue a.host r.body = .ok (some (.record fs))
  finds : a.registry.find? key = some s

theorem status_kind (kind : FaultKind) : 400 ≤ kind.status := by
  cases kind with
  | foreign name isTimeout isExecution => cases isExecution <;> simp [FaultKind.status, FaultKind.isExecution]
  | _ => decide

theorem status_crashed (host : Host) : Result.crashed.status host = 500 := rfl

theorem status_failed (host : Host) (kind : FaultKind) (message : String) :
    400 ≤ (Result.failed kind message).status host := by
  unfold Result.status Result.settled
  dsimp only
  split
  · exact status_kind kind
  · exact Nat.le_of_ble_eq_true rfl

theorem status_invalid (host : Host) (issues : List Issue) : 400 ≤ (Result.invalid issues).status host := by
  unfold Result.status Result.settled
  dsimp only
  split <;> exact Nat.le_of_ble_eq_true rfl

theorem status_ofEditError (host : Host) (err : EditError) : 400 ≤ (Result.ofEditError err).status host := by
  unfold Result.ofEditError
  split
  · rw [status_crashed]
    omega
  · exact status_failed host err.kind err.message

/-- The request is answered by what its body asks for, once the session is found. -/
theorem Asks.answer (h : Asks a r key s k fs) : a.answer r (Target.ofText r.target) =
    match k.command fs with
    | .ok c => (a.touched key s).command c (s.touch a.clock).1
    | .refused issues => (.invalid issues, a.touched key s) := by
  obtain ⟨x, hdest, hx⟩ := h.leads
  rw [answer_endpoint hdest, atEndpoint_body hx, App.bodyRequest, h.reads]
  exact withSession_found h.finds

theorem canvas?_replace {t : Session} {b : App} (h : Asks a r key s k fs)
    (hb : b.registry = (a.touched key s).registry.replace key t) : b.canvas? key = some t.canvas := by
  rw [App.canvas?, hb, registry_touched, Registry.replace_replace, Registry.find?_replace, if_pos rfl, h.finds]
  rfl

/-- Fields that are refused are answered with an error, and the canvas stays. -/
theorem Asks.refused (h : Asks a r key s k fs) (hc : k.command fs = .refused issues) :
    400 ≤ (a.handle r).1.status ∧ (a.handle r).2.canvas? key = some s.canvas := by
  have hout := h.answer
  rw [hc] at hout
  rw [status_handle, App.canvas?, registry_handle, hout]
  refine ⟨status_invalid a.host issues, ?_⟩
  rw [registry_touched, Registry.find?_replace, if_pos rfl, h.finds]
  rfl

/-- An edit that is refused is answered with an error, and the canvas stays. -/
theorem Asks.edit_refused (h : Asks a r key s k fs) (ha : a.registry.Sound a.ids)
    (hc : k.command fs = .ok (.edit e)) (he : perform s.canvasCatalog e ⟨s.canvas, a.ids⟩ = (.error err, d)) :
    400 ≤ (a.handle r).1.status ∧ (a.handle r).2.canvas? key = some s.canvas := by
  have hout := h.answer
  rw [hc] at hout
  have hedit : perform (s.touch a.clock).1.canvasCatalog e ⟨(s.touch a.clock).1.canvas, (a.touched key s).ids⟩ =
      (.error err, d) := he
  simp only [App.command, App.edit, Session.edit, hedit] at hout
  have hcanvas : d.canvas = s.canvas :=
    (perform_refused (ha.identified s (ha.mem_sessions h.finds) a.clock).sound.rebuilds he).1
  rw [status_handle, ← hcanvas]
  have hreg := registry_handle a r
  rw [hout] at hreg ⊢
  refine ⟨status_ofEditError a.host err, ?_⟩
  dsimp only at hreg
  rw [Session.id_touch, ha.id_eq h.finds] at hreg
  exact canvas?_replace h hreg

/-- An edit that is accepted changes the canvas; it is answered with the session, unless its canvas cannot be shown. -/
theorem Asks.edit_accepted (h : Asks a r key s k fs) (ha : a.registry.Sound a.ids)
    (hc : k.command fs = .ok (.edit e)) (he : perform s.canvasCatalog e ⟨s.canvas, a.ids⟩ = (.ok reply, d)) :
    ((a.handle r).1.status < 400 ↔ ¬Unshown s.catalog d.canvas) ∧
      (a.handle r).2.canvas? key = some d.canvas := by
  have hout := h.answer
  rw [hc] at hout
  have hout : a.answer r (Target.ofText r.target) = (a.touched key s).edit e (s.touch a.clock).1 := hout
  obtain ⟨hreg, -, hresult⟩ := Http.edit_accepted (holds_touched ha h.finds) he
  rw [Session.id_touch, ha.id_eq h.finds, ← hout, ← registry_handle] at hreg
  refine ⟨?_, canvas?_replace h hreg⟩
  rw [status_handle, hout]
  obtain ⟨⟨v, hv, hsent⟩, hshown⟩ | ⟨hlost, hunshown⟩ := hresult
  · rw [hv, status_done hsent]
    exact iff_of_true (by decide) hshown
  · rw [hlost.status]
    exact iff_of_false (by decide) (not_not_intro hunshown)

/-- A body that cannot be read is answered with an error. -/
theorem status_bodyValue {host : Host} {body : String} {result : Result}
    (h : App.bodyValue host body = .error result) : 400 ≤ result.status host := by
  unfold App.bodyValue at h
  split at h
  · cases h
  · split at h
    · cases h
    · cases h
      exact status_invalid host _
    all_goals
      cases h
      exact Nat.le_refl _

/-- A body that is no record is refused. -/
theorem BodyKind.check_unread {body : Option Value} (h : ∀ fs, body ≠ some (.record fs)) :
    ∃ issues, k.check body = .refused issues := by
  cases body with
  | none => exact ⟨_, rfl⟩
  | some v =>
    cases v with
    | record fs => exact absurd rfl (h fs)
    | _ => exact ⟨_, rfl⟩

/-- A body that is not read as a record is answered with an error, and every canvas stays. -/
theorem unread_refused {x : Endpoint} (hdest : destination r.method (Target.ofText r.target).path = .endpoint x)
    (hx : x.body? = some (key, k)) (hbody : ∀ fs, App.bodyValue a.host r.body ≠ .ok (some (.record fs))) :
    400 ≤ (a.handle r).1.status ∧ ∀ other, (a.handle r).2.canvas? other = a.canvas? other := by
  have hout : a.answer r (Target.ofText r.target) = a.bodyRequest k key r.body :=
    (answer_endpoint hdest).trans (atEndpoint_body hx)
  rw [status_handle]
  simp only [App.canvas?, registry_handle, hout, App.bodyRequest]
  cases hv : App.bodyValue a.host r.body with
  | error result => exact ⟨status_bodyValue hv, fun _ => rfl⟩
  | ok v =>
    obtain ⟨issues, hissues⟩ : ∃ issues, k.check v = .refused issues :=
      BodyKind.check_unread fun fs hrecord => hbody fs (hrecord ▸ hv)
    cases hs : a.registry.find? key with
    | none =>
      simp only [withSession_unknown hs]
      exact ⟨Nat.le_of_ble_eq_true rfl, fun _ => trivial⟩
    | some s =>
      simp only [withSession_found hs, hissues]
      refine ⟨status_invalid a.host issues, fun other => ?_⟩
      rw [registry_touched, Registry.find?_replace]
      split
      next hother =>
        rw [hother, hs]
        rfl
      next => rfl

end Requests

/-! ## Agreement -/

section Agreement

variable {a : App} {r : Request} {key : String} {s : Session} {k : BodyKind} {fs : BodyFields} {e : Edit}

/-- **A request agrees with an edit** of its session: it is accepted exactly if the edit is, and it leaves the
canvas that the edit leaves, which is the one before if the edit is refused. -/
structure Agrees (a : App) (r : Request) (key : String) (s : Session) (e : Edit) : Prop where
  accepted : (a.handle r).1.status < 400 ↔
    ∃ reply d, perform s.canvasCatalog e ⟨s.canvas, a.ids⟩ = (.ok reply, d)
  changed : ∀ reply d, perform s.canvasCatalog e ⟨s.canvas, a.ids⟩ = (.ok reply, d) →
    (a.handle r).2.canvas? key = some d.canvas
  kept : ∀ err d, perform s.canvasCatalog e ⟨s.canvas, a.ids⟩ = (.error err, d) →
    (a.handle r).2.canvas? key = some s.canvas

/-- **Where a request and the edit with its values part**: a limit that is no whole number is read as one that
can be set, a column is deselected whatever its alias is, a query is given a torn name, or the edit is accepted
and its canvas cannot be shown. A limit that is read as one does no harm only if the session has it already and
cannot be shown. -/
inductive Disagreement (a : App) (s : Session) : BodyKind → Edit → Prop
  | coerced {v : Value} {n : Int} (hv : v ≠ .int n) (hread : wholeOf v = .ok n) (hn : 0 ≤ n)
      (hseen : ¬(s.canvas.limit = some n ∧ Unshown s.catalog s.canvas)) : Disagreement a s .limit (.setLimit v)
  | unread {t col : String} {v : Value} (href : Refers s.canvasCatalog s.canvas t col)
      (hsel : s.canvas.columns.any (selects t col) = true) (hv : ¬IsOptionalText v) :
      Disagreement a s .column (.toggleColumn (.text t) (.text col) v)
  | torn {t : Text.Torn} : Disagreement a s .rename (.rename (.torn t))
  | unshown {k : BodyKind} {e : Edit} {reply : Reply} {d : Draft}
      (hedit : perform s.canvasCatalog e ⟨s.canvas, a.ids⟩ = (.ok reply, d)) (hshown : Unshown s.catalog d.canvas) :
      Disagreement a s k e

variable {reply : Reply} {err : EditError} {d : Draft} {c : Canvas}

/-- A body that asks for an edit is not read as anything but this edit, a limit apart. -/
theorem command_edit {asked : Edit} (hk : k ≠ .limit) (he : k.direct? fs = some e)
    (hc : k.command fs = .ok (.edit asked)) : asked = e :=
  Option.some.inj (((BodyKind.command_eq_edit hk).1 hc).1.symm.trans he)

/-- A body that has the arguments of an edit asks for an edit, if it is accepted. -/
theorem command_cases (he : k.direct? fs = some e) :
    (∃ asked, k.command fs = .ok (.edit asked)) ∨ ∃ issues, k.command fs = .refused issues := by
  cases hc : k.command fs with
  | refused issues => exact .inr ⟨issues, rfl⟩
  | ok command =>
    cases command with
    | edit asked => exact .inl ⟨asked, rfl⟩
    | reset name =>
      have hreset : k = .reset := by
        cases k with
        | reset => rfl
        | rename | table | column | join | filter | sort | group | aggregate | limit =>
          simp [BodyKind.command, map_eq_ok, seq_eq_ok] at hc
      subst hreset
      cases he

/-- A limit that has the form of one is no limit that is read as another value. -/
theorem form_of_limit {v : Value} (he : BodyKind.limit.direct? fs = some (.setLimit v))
    (hc : BodyKind.limit.command fs = .ok (.edit (.setLimit v))) : v = .null ∨ ∃ n, v = .int n := by
  cases he
  rcases BodyKind.limit_eq_edit.1 hc with ⟨hnull, -⟩ | ⟨n, -, h⟩
  · exact .inl hnull
  · exact .inr ⟨n, Edit.setLimit.inj h⟩

/-- What asks for the very edit that its values give parts from it only where its canvas cannot be shown. -/
theorem Disagreement.unshown_of_edit (h : Disagreement a s k e) (he : k.direct? fs = some e)
    (hc : k.command fs = .ok (.edit e)) :
    ∃ reply d, perform s.canvasCatalog e ⟨s.canvas, a.ids⟩ = (.ok reply, d) ∧ Unshown s.catalog d.canvas := by
  cases h with
  | coerced hv hread hn hseen =>
    rcases form_of_limit he hc with rfl | ⟨m, rfl⟩
    · cases hread
    · cases hread
      exact absurd rfl hv
  | unread href hsel hv =>
    cases ((BodyKind.command_eq_edit (by decide)).1 hc).2 with
    | column ht hcol ha => exact absurd ha hv
  | torn => cases ((BodyKind.command_eq_edit (by decide)).1 hc).2
  | unshown hedit hshown => exact ⟨_, _, hedit, hshown⟩

/-- What parts from a refused edit is a limit. -/
theorem Disagreement.limit (h : Disagreement a s k e)
    (hp : perform s.canvasCatalog e ⟨s.canvas, a.ids⟩ = (.error err, d)) :
    k = .limit ∧ ∃ v n, e = .setLimit v ∧ v ≠ .int n ∧ wholeOf v = .ok n ∧ 0 ≤ n ∧
      ¬(s.canvas.limit = some n ∧ Unshown s.catalog s.canvas) := by
  have hrefused : ∀ {reply d'}, perform s.canvasCatalog e ⟨s.canvas, a.ids⟩ ≠ (.ok reply, d') := fun hok => by
    cases hp.symm.trans hok
  cases h with
  | coerced hv hread hn hseen => exact ⟨rfl, _, _, rfl, hv, hread, hn, hseen⟩
  | unread href hsel hv => exact absurd (Revision.columnDropped href hsel).performed hrefused
  | torn => exact absurd (Revision.renamed rfl).performed hrefused
  | unshown hedit hshown => exact absurd hedit hrefused

/-- An accepted edit that its body does not ask for deselects a column whatever the alias is, or gives a torn name. -/
theorem unread_of_accepted (he : k.direct? fs = some e)
    (h : Change s.canvasCatalog ⟨s.canvas, a.ids⟩ e reply d) (hc : k.command fs ≠ .ok (.edit e)) :
    Disagreement a s k e ∧ ∃ issues, k.command fs = .refused issues := by
  by_cases hk : k = .limit
  · subst hk
    cases he
    refine absurd (BodyKind.limit_eq_edit.2 ?_) hc
    generalize Value.fieldOr fs "limit" .null = v at h
    cases h with
    | revision h =>
      cases h with
      | limitCleared => exact .inl ⟨rfl, rfl⟩
      | limitSet _ => exact .inr ⟨_, rfl, rfl⟩
    | addition h => cases h
  · have hkind := bodyKindOf_direct he
    refine ⟨?_, (command_cases he).resolve_left ?_⟩
    · obtain hadmits | ⟨t, col, v, rfl, href, hsel, hv⟩ | ⟨t, rfl⟩ := BodyKind.admitted hk he h
      · exact absurd ((BodyKind.command_eq_edit hk).2 ⟨he, hadmits⟩) hc
      · cases hkind
        exact .unread href hsel hv
      · cases hkind
        exact .torn
    · rintro ⟨asked, hasked⟩
      exact hc (command_edit hk he hasked ▸ hasked)

/-- An accepted edit that the body asks for. -/
theorem Asks.agrees_accepted (h : Asks a r key s k fs) (ha : a.registry.Sound a.ids)
    (he : k.direct? fs = some e) (hc : k.command fs = .ok (.edit e))
    (hp : perform s.canvasCatalog e ⟨s.canvas, a.ids⟩ = (.ok reply, d)) :
    Agrees a r key s e ↔ ¬Disagreement a s k e := by
  obtain ⟨hstatus, hcanvas⟩ := h.edit_accepted ha hc hp
  constructor
  · intro hagrees hpart
    obtain ⟨reply', d', hedit, hunshown⟩ := hpart.unshown_of_edit he hc
    obtain ⟨-, rfl⟩ := Prod.mk.inj (hp.symm.trans hedit)
    exact hstatus.1 (hagrees.accepted.2 ⟨reply, d, hp⟩) hunshown
  · intro hnone
    refine ⟨iff_of_true (hstatus.2 fun hunshown => hnone (.unshown hp hunshown)) ⟨reply, d, hp⟩, ?_, ?_⟩
    · intro reply' d' hp'
      rw [hp] at hp'
      cases hp'
      exact hcanvas
    · intro err d' hp'
      rw [hp] at hp'
      cases hp'

/-- A request that is answered with an error and leaves the canvas agrees with an edit that is refused. -/
theorem Agrees.of_refused (hp : perform s.canvasCatalog e ⟨s.canvas, a.ids⟩ = (.error err, d))
    (hstatus : 400 ≤ (a.handle r).1.status) (hcanvas : (a.handle r).2.canvas? key = some s.canvas) :
    Agrees a r key s e := by
  refine ⟨iff_of_false (Nat.not_lt.2 hstatus) ?_, ?_, fun _ _ _ => hcanvas⟩
  · rintro ⟨reply, d', hp'⟩
    rw [hp] at hp'
    cases hp'
  · intro reply d' hp'
    rw [hp] at hp'
    cases hp'

/-- Where a limit that is read as another value parts from the refused edit. -/
theorem Disagreement.limit_iff {v : Value} {n : Int} (hv : v ≠ .int n) (hread : wholeOf v = .ok n)
    (hp : perform s.canvasCatalog (.setLimit v) ⟨s.canvas, a.ids⟩ = (.error err, d)) :
    Disagreement a s .limit (.setLimit v) ↔ 0 ≤ n ∧ ¬(s.canvas.limit = some n ∧ Unshown s.catalog s.canvas) := by
  constructor
  · intro hpart
    obtain ⟨-, w, m, hw, -, hm, hle, hseen⟩ := hpart.limit hp
    obtain rfl := Edit.setLimit.inj hw
    obtain rfl := Except.ok.inj (hm.symm.trans hread)
    exact ⟨hle, hseen⟩
  · rintro ⟨hn, hseen⟩
    exact .coerced hv hread hn hseen

/-- A limit that is read as another value. -/
theorem Asks.agrees_coerced {v : Value} {n : Int} (h : Asks a r key s .limit fs) (ha : a.registry.Sound a.ids)
    (hv : v ≠ .int n) (hread : wholeOf v = .ok n) (hc : BodyKind.limit.command fs = .ok (.edit (.setLimit (.int n))))
    (hp : perform s.canvasCatalog (.setLimit v) ⟨s.canvas, a.ids⟩ = (.error err, d)) :
    Agrees a r key s (.setLimit v) ↔ ¬Disagreement a s .limit (.setLimit v) := by
  rw [Disagreement.limit_iff hv hread hp]
  by_cases hn : 0 ≤ n
  · obtain ⟨hstatus, hcanvas⟩ := h.edit_accepted ha hc (Revision.limitSet hn).performed
    constructor
    · rintro hagrees ⟨-, hseen⟩
      have hsame : { s.canvas with limit := some n } = s.canvas :=
        Option.some.inj (hcanvas.symm.trans (hagrees.kept _ _ hp))
      have herror : ¬(a.handle r).1.status < 400 := fun hlt => by
        obtain ⟨reply, d', hp'⟩ := hagrees.accepted.1 hlt
        rw [hp] at hp'
        cases hp'
      dsimp only at hstatus
      rw [hsame] at hstatus
      exact hseen ⟨congrArg Canvas.limit hsame.symm, by_contra fun hshown => herror (hstatus.2 hshown)⟩
    · intro hnone
      have hseen : s.canvas.limit = some n ∧ Unshown s.catalog s.canvas := by
        by_contra hseen
        exact hnone ⟨hn, hseen⟩
      have hsame : { s.canvas with limit := some n } = s.canvas := by rw [← hseen.1]
      dsimp only at hstatus hcanvas
      rw [hsame] at hstatus hcanvas
      exact .of_refused hp (Nat.not_lt.1 fun hlt => hstatus.1 hlt hseen.2) hcanvas
  · have hnegative : perform s.canvasCatalog (.setLimit (.int n)) ⟨s.canvas, a.ids⟩ =
        (.error (.limitNegative n), ⟨s.canvas, a.ids⟩) := by
      simp only [perform, edit, setLimit, Int.not_le.1 hn, if_true]
      rfl
    obtain ⟨hstatus, hcanvas⟩ := h.edit_refused ha hc hnegative
    exact iff_of_true (.of_refused hp hstatus hcanvas) fun hnone => hn hnone.1

/-- **Requests and direct edits agree**, but for the four cases of `Disagreement`. In every sound state, so in all
that requests lead to, a request whose body holds the fields that have to be there is accepted exactly if the
edit with the values of the body is, and leaves the canvas that this edit leaves, unless it is one of these
cases, in which it does not. A request whose body is not read as a record is refused and leaves every canvas. -/
theorem agrees_iff (ha : a.registry.Sound a.ids) :
    (∀ r key s k fs e, Asks a r key s k fs → k.direct? fs = some e →
      (Agrees a r key s e ↔ ¬Disagreement a s k e)) ∧
    ∀ r x key k, destination r.method (Target.ofText r.target).path = .endpoint x → x.body? = some (key, k) →
      (∀ fs, App.bodyValue a.host r.body ≠ .ok (some (.record fs))) →
      400 ≤ (a.handle r).1.status ∧ ∀ other, (a.handle r).2.canvas? other = a.canvas? other := by
  refine ⟨fun r key s k fs e h he => ?_, fun r x key k => unread_refused⟩
  cases hp : perform s.canvasCatalog e ⟨s.canvas, a.ids⟩ with
  | mk res d =>
    cases res with
    | ok reply =>
      have hchange := perform_eq_ok.1 hp
      by_cases hc : k.command fs = .ok (.edit e)
      · exact h.agrees_accepted ha he hc hp
      · obtain ⟨hpart, issues, hissues⟩ := unread_of_accepted he hchange hc
        refine iff_of_false (fun hagrees => ?_) (not_not_intro hpart)
        have := hagrees.accepted.2 ⟨reply, d, hp⟩
        have := (h.refused hissues).1
        omega
    | error err =>
      rcases command_cases he with ⟨asked, hc⟩ | ⟨issues, hissues⟩
      · by_cases hasked : asked = e
        · subst hasked
          obtain ⟨hstatus, hcanvas⟩ := h.edit_refused ha hc hp
          refine iff_of_true (.of_refused hp hstatus hcanvas) fun hpart => ?_
          obtain ⟨reply, d', hedit, -⟩ := hpart.unshown_of_edit he hc
          cases hp.symm.trans hedit
        · by_cases hk : k = .limit
          · subst hk
            cases he
            rcases BodyKind.limit_eq_edit.1 hc with ⟨hnull, rfl⟩ | ⟨n, hread, rfl⟩
            · exact absurd (by rw [hnull]) hasked
            · exact h.agrees_coerced ha (fun hv => hasked (by rw [hv])) hread hc hp
          · exact absurd (command_edit hk he hc) hasked
      · obtain ⟨hstatus, hcanvas⟩ := h.refused hissues
        refine iff_of_true (.of_refused hp hstatus hcanvas) fun hpart => ?_
        obtain ⟨rfl, v, n, rfl, -, hread, -⟩ := hpart.limit hp
        cases he
        have hc := BodyKind.limit_eq_edit.2 (.inr ⟨n, hread, rfl⟩)
        rw [hissues] at hc
        cases hc

end Agreement

/-! ## Two requests -/

/-- The session of the service with one session. -/
theorem ordersServed_found : ∃ s, ordersServed.registry.find? "id-1" = some s ∧ s.canvas.filters = [] ∧
    s.canvas.limit = none ∧ ¬Unsendable s.canvas.id ∧ ¬Unsendable s.canvas.name := by
  have hfound : (ordersServed.registry.find? "id-1").isSome = true := by decide +kernel
  obtain ⟨s, hs⟩ := Option.isSome_iff_exists.1 hfound
  have hchecked : (ordersServed.registry.find? "id-1").all (fun s =>
      s.canvas.filters.isEmpty && decide (s.canvas.limit = none) && Json.encodable (wire s.canvas.id) &&
        Json.encodable (wire s.canvas.name)) = true := by decide +kernel
  rw [hs, Option.all_some] at hchecked
  simp only [Bool.and_eq_true, decide_eq_true_eq, List.isEmpty_iff, encodable_wire] at hchecked
  obtain ⟨⟨⟨hfilters, hlimit⟩, hid⟩, hname⟩ := hchecked
  exact ⟨s, hs, hfilters, hlimit, hid, hname⟩

/-- A request that selects the column under another name. -/
def totalToggled : Request :=
  posted "/id-1/columns/toggle" [("table", "orders"), ("column", "total"), ("alias", "sum")]

/-- The fields of its body. -/
def totalFields : BodyFields :=
  [("table", .text "orders"), ("column", .text "total"), ("alias", .text "sum")]

/-- The request agrees with the edit that has its values, which names the column. -/
theorem toggled_agrees : ordersServed.registry.Sound ordersServed.ids ∧
    ∃ s, Asks ordersServed totalToggled "id-1" s .column totalFields ∧
      BodyKind.column.direct? totalFields = some (.toggleColumn (.text "orders") (.text "total") (.text "sum")) ∧
      Agrees ordersServed totalToggled "id-1" s (.toggleColumn (.text "orders") (.text "total") (.text "sum")) ∧
      (ordersServed.handle totalToggled).1.status = 200 := by
  have hsound := served_ordersServed.sound
  obtain ⟨s, hs, hfilters, hlimit, hid, hname⟩ := ordersServed_found
  have hdest : destination totalToggled.method (Target.ofText totalToggled.target).path =
      .endpoint (.toggleColumn "id-1") := by decide +kernel
  have hbody : App.bodyValue ordersServed.host totalToggled.body = .ok (some (.record totalFields)) :=
    @bodyValue_print [("table", "orders"), ("column", "total"), ("alias", "sum")] (by decide) (by simp) (by simp)
  have hasks : Asks ordersServed totalToggled "id-1" s .column totalFields := ⟨⟨_, hdest, rfl⟩, hbody, hs⟩
  have hdirect : BodyKind.column.direct? totalFields =
      some (.toggleColumn (.text "orders") (.text "total") (.text "sum")) := rfl
  have hstatus : (ordersServed.handle totalToggled).1.status = 200 := by decide +kernel
  refine ⟨hsound, s, hasks, hdirect, ((agrees_iff hsound).1 _ _ _ _ _ _ hasks hdirect).2 fun hpart => ?_, hstatus⟩
  cases hpart with
  | unread href hsel hv => exact hv (.inr rfl)
  | unshown hedit hunshown =>
    obtain ⟨-, hlong⟩ | hunsendable := hunshown
    · refine hlong ⟨?_, ?_⟩ <;> cases perform_eq_ok.1 hedit with
        | revision h => cases h <;> simp [hfilters, hlimit]
        | addition h => cases h
    · rw [unsendable_canvas] at hunsendable
      cases perform_eq_ok.1 hedit with
      | revision h =>
        cases h <;> simp [operandsOf, hfilters, hid, hname] at hunsendable
      | addition h => cases h

/-- A request that sets the limit to a truth value. -/
def limitFlagged : Request :=
  ⟨"PUT", "/api/query-builder/sessions/id-1/limit", "\x7b\"limit\": true\x7d", []⟩

/-- **A limit that is no number**: the edit with this value is refused, and the request is accepted and sets the
limit to one. -/
theorem limit_coerced : Served ordersServed ∧
    ∃ s, Asks ordersServed limitFlagged "id-1" s .limit [("limit", .bool true)] ∧
      BodyKind.limit.direct? [("limit", .bool true)] = some (.setLimit (.bool true)) ∧
      (perform s.canvasCatalog (.setLimit (.bool true)) ⟨s.canvas, ordersServed.ids⟩).1 =
        .error (.limitNotWhole (.bool true)) ∧
      (ordersServed.handle limitFlagged).1.status = 200 ∧
      ((ordersServed.handle limitFlagged).2.canvas? "id-1").map Canvas.limit = some (some 1) ∧
      ¬Agrees ordersServed limitFlagged "id-1" s (.setLimit (.bool true)) := by
  obtain ⟨s, hs, -⟩ := ordersServed_found
  have hdest : destination limitFlagged.method (Target.ofText limitFlagged.target).path =
      .endpoint (.setLimit "id-1") := by decide +kernel
  have hbody : App.bodyValue ordersServed.host limitFlagged.body = .ok (some (.record [("limit", .bool true)])) := by
    rw [host_ordersServed]
    cbv
  have hrefused : (perform s.canvasCatalog (.setLimit (.bool true)) ⟨s.canvas, ordersServed.ids⟩).1 =
      .error (.limitNotWhole (.bool true)) := rfl
  have hstatus : (ordersServed.handle limitFlagged).1.status = 200 := by decide +kernel
  have hlimit : ((ordersServed.handle limitFlagged).2.canvas? "id-1").map Canvas.limit = some (some 1) := by
    decide +kernel
  refine ⟨served_ordersServed, s, ⟨⟨_, hdest, rfl⟩, hbody, hs⟩, rfl, hrefused, hstatus, hlimit, fun hagrees => ?_⟩
  obtain ⟨reply, d, haccepted⟩ := hagrees.accepted.1 (by omega)
  rw [haccepted] at hrefused
  cases hrefused

end Http

end QueryCanvas
