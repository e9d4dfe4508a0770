import QueryCanvas.Proofs.Canvas.Withdrawal
import QueryCanvas.Proofs.Http.Refusal
import QueryCanvas.Proofs.Http.Routing

/-!
# What can be removed by requests

A table and an item of a session are removed by a request whose path ends in the name of the table or in the kind and
the id of the item. The path is decoded before it is routed, so a slash in a name separates segments however it is
written: a table with such a name is placed on a canvas by a request and not removed by one.

* `Deletes`: the requests whose path is written with a name or an id as its last segment.
* `TakesTo`: one canvas becomes another one, and nothing else changes.
* `removed_by_request`: every item is removed by such a request, and a table exactly if its name is not empty and holds
  no slash.
* `slashed_stays`: a table that stays.
-/

namespace QueryCanvas.Http

open Canvas Sql

variable {a : App} {r : Request} {key kind last : String} {s : Session} {c : Canvas} {d : Draft} {e : Edit}
  {reply : Reply}

/-! ## Edits that are asked for -/

/-- **One canvas becomes another one**, and every other session and every result stays. The response shows the session,
unless its canvas cannot be shown. -/
structure TakesTo (a : App) (r : Request) (key : String) (s : Session) (c : Canvas) : Prop where
  holdings : (a.handle r).2.registry.holdings = Registry.withHolding key c s.result a.registry.holdings
  status : (a.handle r).1.status = 200 ∧ ¬Unshown s.catalog c ∨ (a.handle r).1.status = 500 ∧ Unshown s.catalog c

/-- **An edit that is asked for** and accepted takes the canvas to the edited one. -/
theorem takesTo_of_edit (ha : a.registry.Sound a.ids) (hasked : r.task? a.host = some (key, .command (.edit e)))
    (hs : a.registry.find? key = some s)
    (hedit : perform s.canvasCatalog e ⟨s.canvas, a.ids⟩ = (.ok reply, d)) : TakesTo a r key s d.canvas := by
  obtain ⟨hreg, -, hresult⟩ := edit_accepted (holds_touched ha hs) hedit
  have hanswer : a.answer r (Target.ofText r.target) = (a.touched key s).edit e (s.touch a.clock).1 :=
    answer_task hasked hs
  constructor
  · rw [registry_handle, hanswer, hreg, Session.id_touch, ha.id_eq hs, registry_touched, Registry.replace_replace,
      Registry.holdings_replace]
    rfl
  · rw [status_handle, hanswer]
    obtain ⟨⟨v, hv, hsent⟩, hshown⟩ | ⟨hlost, hunshown⟩ := hresult
    · rw [hv, status_done hsent]
      exact .inl ⟨rfl, hshown⟩
    · exact .inr ⟨hlost.status a.host, hunshown⟩

/-! ## Requests that remove something -/

/-- The segments of the path of something that belongs to a session. -/
def removalSegments (key kind last : String) : List (List Char) :=
  [[], "api".toList, "query-builder".toList, "sessions".toList, key.toList, kind.toList, last.toList]

/-- **A request to remove something** of a session. Its path is written segment by segment, in any way, and no segment
is written as one that stands for a place. -/
structure Deletes (r : Request) (key kind last : String) : Prop where
  method : r.method = "DELETE"
  target : ∃ segments, List.Forall₂ WritesSegment (removalSegments key kind last) segments ∧
    (∀ w ∈ segments, ¬IsDots w) ∧ r.target = String.ofList (['/'].intercalate segments)

theorem Deletes.path (h : Deletes r key kind last) :
    (Target.ofText r.target).path = sessionPath [key.toList, kind.toList, last.toList] := by
  obtain ⟨segments, hwritten, hdots, htarget⟩ := h.target
  have hne : segments ≠ [] := by
    rintro rfl
    exact absurd hwritten.length_eq (by simp [removalSegments])
  rw [htarget, path_of_segments hwritten hdots hne]
  rfl

/-- There is such a request for every name. -/
theorem exists_deletes (key kind last : String) : ∃ r, Deletes r key kind last := by
  obtain ⟨segments, hwritten, hdots⟩ := exists_written (removalSegments key kind last)
  exact ⟨⟨"DELETE", String.ofList (['/'].intercalate segments), "", []⟩, rfl, segments, hwritten, hdots, rfl⟩

/-- An id has a character and no slash. -/
theorem id_segment {id : String} (h : ∃ n, id = IdSupply.nth n) : id.toList ≠ [] ∧ '/' ∉ id.toList := by
  obtain ⟨n, rfl⟩ := h
  have hchars : (IdSupply.nth n).toList = "id-".toList ++ Nat.toDigits 10 n := by
    rw [IdSupply.nth, String.toList_append, Nat.toString_eq_repr, Nat.toList_repr]
  rw [hchars]
  refine ⟨by simp, fun hmem => ?_⟩
  rcases List.mem_append.1 hmem with hmem | hmem
  · revert hmem
    decide
  · have := Nat.isDigit_of_mem_toDigits (by decide) (by decide) hmem
    revert this
    decide

/-- The key of a session that is stored is one of the ids. -/
theorem key_segment (ha : a.registry.Sound a.ids) (hs : a.registry.find? key = some s) :
    key.toList ≠ [] ∧ '/' ∉ key.toList := by
  obtain ⟨n, -, hkey⟩ := ha.given key (Registry.find?_isSome_iff.1 (Option.isSome_iff_exists.2 ⟨s, hs⟩))
  exact id_segment ⟨n, hkey⟩

/-- A request to remove something whose path fits no route leaves the sessions alone. -/
theorem handle_unknown (hr : Deletes r key kind last) (h : isKnown (Target.ofText r.target).path = false) :
    (a.handle r).2.registry = a.registry ∧ ((a.handle r).1.status = 404 ∨ (a.handle r).1.status = 307) := by
  have hpreflight : r.preflight? = none := by
    rw [Request.preflight?, hr.method, if_neg (by simp)]
  rw [registry_handle, status_handle, App.answer, hpreflight]
  dsimp only [App.route]
  rcases destination_of_unknown r.method h with hdest | hdest
  · rw [hdest]
    exact ⟨rfl, .inr rfl⟩
  · rw [hdest]
    exact ⟨rfl, .inl rfl⟩

/-! ## Tables and items -/

section Session

variable (h : Served a) (hs : a.registry.find? key = some s)

include h hs

theorem identified_found : Identified ⟨s, a.ids, a.clock⟩ :=
  h.sound.identified s (h.sound.mem_sessions hs) a.clock

/-- **A table** with a name that is not empty and has no slash is removed, with everything that names it. -/
theorem table_removed {t : String} (ht : t ∈ s.canvas.tables) (hr : Deletes r key "tables" t) (hname : t ≠ "")
    (hslash : '/' ∉ t.toList) :
    destination r.method (Target.ofText r.target).path = .endpoint (.removeTable key t) ∧
      TakesTo a r key s (s.canvas.keeping (.off t)) := by
  obtain ⟨hkey, hk⟩ := key_segment h.sound hs
  have hfilled : t.toList ≠ [] := fun hnil => hname (String.toList_injective hnil)
  have hdest : destination r.method (Target.ofText r.target).path = .endpoint (.removeTable key t) := by
    rw [hr.method, hr.path, destination_removeTable hkey hk hfilled hslash, String.ofList_toList, String.ofList_toList]
  have hasked : r.task? a.host = some (key, .command (.edit (.removeTable (.text t)))) := by
    rw [Request.task?, hdest]
    rfl
  exact ⟨hdest, takesTo_of_edit h.sound hasked hs (perform_removeTable (identified_found h hs).sound.rebuilds ht)⟩

/-- **A table** with another name stays, and everything else does. -/
theorem table_stays {t : String} (hr : Deletes r key "tables" t) (hname : t = "" ∨ '/' ∈ t.toList) :
    (a.handle r).2.registry = a.registry ∧ ((a.handle r).1.status = 404 ∨ (a.handle r).1.status = 307) := by
  obtain ⟨hkey, hk⟩ := key_segment h.sound hs
  refine handle_unknown hr ?_
  rw [hr.path]
  rcases hname with rfl | hslash
  · exact isKnown_unnamed hkey hk
  · exact isKnown_slashed hk hslash

/-- **Every item** is removed at the name of its kind and its id. -/
theorem item_removed {f : String × PartKind} (hf : f ∈ App.partKinds) {item : Item} (hitem : item ∈ s.canvas.items f.2)
    (hr : Deletes r key f.1 item.id) :
    destination r.method (Target.ofText r.target).path = .endpoint (.removePart key f.1 item.id) ∧
      ∃ c, LosesItem s.canvas item.id f.2 c ∧ TakesTo a r key s c := by
  obtain ⟨hkey, hk⟩ := key_segment h.sound hs
  have hsound := (identified_found h hs).sound
  obtain ⟨n, -, hid⟩ := hsound.supplied item.id (ids_items_sublist.mem (List.mem_map_of_mem hitem))
  obtain ⟨hfilled, hslash⟩ := id_segment ⟨n, hid⟩
  have hnames : ∀ f ∈ App.partKinds, f.1.toList ≠ [] ∧ '/' ∉ f.1.toList ∧ f.1.toList ≠ "tables".toList ∧
      App.partKinds.find? (·.1 == f.1) = some f := by decide
  obtain ⟨hkind, hkslash, htables, hfound⟩ := hnames f hf
  have hdest : destination r.method (Target.ofText r.target).path = .endpoint (.removePart key f.1 item.id) := by
    rw [hr.method, hr.path, destination_removePart hkey hk hkind hkslash htables hfilled hslash, String.ofList_toList,
      String.ofList_toList, String.ofList_toList]
  have hasked : r.task? a.host = some (key, .command (.edit (.remove f.2 (.text item.id)))) := by
    rw [Request.task?, hdest]
    simp only [Endpoint.task?, hfound, Option.map_some]
  exact ⟨hdest, _, losesItem_withoutItem hsound.ids_nodup hitem,
    takesTo_of_edit h.sound hasked hs (revision_remove hsound.rebuilds hitem).performed⟩

end Session

/-- **What requests remove.** Whatever state requests have led to, and whatever session is open: for each of its tables
and items there is a request to remove it. The request for a table leads to the removal of exactly this table, and takes
the canvas to what does not name the table, if the name is not empty and holds no slash; otherwise no session is changed
and the response is an error or leads to another path. The request for an item leads to the removal of exactly this
item, and takes the canvas to the one without it. -/
theorem removed_by_request (h : Served a) (hs : a.registry.find? key = some s) :
    (∀ t ∈ s.canvas.tables, (∃ r, Deletes r key "tables" t) ∧ ∀ r, Deletes r key "tables" t →
      (t ≠ "" → '/' ∉ t.toList →
        destination r.method (Target.ofText r.target).path = .endpoint (.removeTable key t) ∧
          TakesTo a r key s (s.canvas.keeping (.off t))) ∧
      (t = "" ∨ '/' ∈ t.toList →
        (a.handle r).2.registry = a.registry ∧ ((a.handle r).1.status = 404 ∨ (a.handle r).1.status = 307))) ∧
    ∀ f ∈ App.partKinds, ∀ item ∈ s.canvas.items f.2, (∃ r, Deletes r key f.1 item.id) ∧
      ∀ r, Deletes r key f.1 item.id →
        destination r.method (Target.ofText r.target).path = .endpoint (.removePart key f.1 item.id) ∧
          ∃ c, LosesItem s.canvas item.id f.2 c ∧ TakesTo a r key s c := by
  constructor
  · intro t ht
    exact ⟨exists_deletes key "tables" t, fun r hr => ⟨table_removed h hs ht hr, table_stays h hs hr⟩⟩
  · intro f hf item hitem
    exact ⟨exists_deletes key f.1 item.id, fun r hr => item_removed h hs hf hitem hr⟩

/-- A request to remove a table of the first session. -/
def tableDropped (written : String) : Request :=
  ⟨"DELETE", "/api/query-builder/sessions/id-1/tables/" ++ written, "", []⟩

/-- A word of letters, digits and dashes is written as it is. -/
theorem word_written {w : List Char} (h : (w.all fun c => c.isAlphanum || c == '-') = true) :
    WritesSegment w w ∧ ¬IsDots w := by
  have hchars : ∀ c ∈ w, c.isAlphanum = true ∨ c = '-' := fun c hc => by
    have := List.all_eq_true.1 h c hc
    rwa [Bool.or_eq_true, beq_iff_eq] at this
  constructor
  · refine writesSegment_plain fun c hc => ?_
    rcases hchars c hc with halpha | rfl
    · exact .inl halpha
    · exact .inr (by decide)
  · have hdot : '.' ∉ w := fun hmem => by
      have := hchars '.' hmem
      revert this
      decide
    rintro (rfl | rfl) <;> exact hdot List.mem_cons_self

/-- The path of the request is written segment by segment, if its last segment is. -/
theorem deletes_tableDropped {written t : String} (h : WritesSegment t.toList written.toList)
    (hdots : ¬IsDots written.toList) : Deletes (tableDropped written) "id-1" "tables" t := by
  have hword : ∀ s : String, (s.toList.all fun c => c.isAlphanum || c == '-') = true →
      WritesSegment s.toList s.toList ∧ ¬IsDots s.toList := fun _ => word_written
  obtain ⟨hempty, hempty'⟩ := hword "" rfl
  obtain ⟨hapi, hapi'⟩ := hword "api" rfl
  obtain ⟨hservice, hservice'⟩ := hword "query-builder" rfl
  obtain ⟨hsessions, hsessions'⟩ := hword "sessions" rfl
  obtain ⟨hkey, hkey'⟩ := hword "id-1" rfl
  obtain ⟨hkind, hkind'⟩ := hword "tables" rfl
  refine ⟨rfl, ["".toList, "api".toList, "query-builder".toList, "sessions".toList, "id-1".toList, "tables".toList,
    written.toList], ?_, ?_, ?_⟩
  · exact .cons hempty (.cons hapi (.cons hservice (.cons hsessions (.cons hkey (.cons hkind (.cons h .nil))))))
  · exact List.forall_mem_cons.2 ⟨hempty', List.forall_mem_cons.2 ⟨hapi', List.forall_mem_cons.2 ⟨hservice',
      List.forall_mem_cons.2 ⟨hsessions', List.forall_mem_cons.2 ⟨hkey', List.forall_mem_cons.2 ⟨hkind',
        List.forall_mem_singleton.2 hdots⟩⟩⟩⟩⟩⟩
  · apply String.toList_injective
    rw [tableDropped, String.toList_append, String.toList_ofList]
    simp [List.intercalate_cons_cons]

/-- A table is removed, whatever letters of its name are written as bytes. -/
theorem orders_removed : ∃ s, ordersServed.registry.find? "id-1" = some s ∧ "orders" ∈ s.canvas.tables ∧
    Deletes (tableDropped "%6Frders") "id-1" "tables" "orders" ∧
    TakesTo ordersServed (tableDropped "%6Frders") "id-1" s (s.canvas.keeping (.off "orders")) := by
  have hplaced : (ordersServed.registry.find? "id-1").any (fun s => s.canvas.tables.contains "orders") = true := by
    decide +kernel
  have hbyte : List.Forall₂ SpellsByte (Text.utf8Bytes 'o') [('6', 'F')] := .cons ⟨by decide, by decide⟩ .nil
  have hletter : Writes 'o' ['%', '6', 'F'] := .bytes hbyte
  have hwritten : WritesSegment "orders".toList "%6Frders".toList := .cons hletter (word_written (w := "rders".toList) rfl).1
  have hdots : ¬IsDots "%6Frders".toList := by decide
  obtain ⟨s, hs, htable⟩ := (Option.any_eq_true _ _).1 hplaced
  have horders : "orders" ∈ s.canvas.tables := List.contains_iff_mem.1 htable
  have hdeletes := deletes_tableDropped hwritten hdots
  have hremoved := ((removed_by_request served_ordersServed hs).1 "orders" horders).2 _ hdeletes
  exact ⟨s, hs, horders, hdeletes, (hremoved.1 (by decide) (by decide)).2⟩

/-- A service with one session, on whose canvas a table is placed that has a slash in its name. -/
def slashedServed : App :=
  (((App.start .usual { ordersWarehouse with tables := [⟨"a/b", [⟨"total", .text "integer", true⟩], [], [], none⟩] } 5).handle
    (posted "" [])).2.handle (posted "/id-1/tables" [("table", "a/b")])).2

/-- **A table that stays**: the slash in its name is written as its byte, and the path leads nowhere. -/
theorem slashed_stays : Deletes (tableDropped "a%2Fb") "id-1" "tables" "a/b" ∧
    (slashedServed.registry.find? "id-1").map (·.canvas.tables) = some ["a/b"] ∧
    (slashedServed.handle (tableDropped "a%2Fb")).1.status = 404 ∧
    ((slashedServed.handle (tableDropped "a%2Fb")).2.registry.find? "id-1").map (·.canvas.tables) = some ["a/b"] := by
  have hbyte : List.Forall₂ SpellsByte (Text.utf8Bytes '/') [('2', 'F')] := .cons ⟨by decide, by decide⟩ .nil
  have hslash : Writes '/' ['%', '2', 'F'] := .bytes hbyte
  have hwritten : WritesSegment "a/b".toList "a%2Fb".toList :=
    .cons (.plain (.inl (by decide))) (.cons hslash (.cons (.plain (.inl (by decide))) .nil))
  have hdots : ¬IsDots "a%2Fb".toList := by decide
  exact ⟨deletes_tableDropped hwritten hdots, by decide +kernel, by decide +kernel, by decide +kernel⟩

end QueryCanvas.Http
