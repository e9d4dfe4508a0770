import Mathlib.Data.List.FinRange
import Mathlib.Data.List.Sort
import QueryCanvas.Audit.Log
import QueryCanvas.Proofs.Calendar

/-!
# What the log shows

The two ways of reading the execution log, as functions of its rows.

* `summary_eq`: a summary counts the rows of a session, the successful ones and the failed ones.
* `Ascending`: rows of which each has a later timestamp than those before it.
* `bySession_eq`: of ascending rows, the last ones of a session are shown, the newest first.
-/

namespace QueryCanvas

/-! ## Sorting what is in reverse order -/

/-- The places of a list in descending order. -/
theorem mergeSort_finRange (n : Nat) :
    (List.finRange n).mergeSort (fun i j => decide (j ≤ i)) = (List.finRange n).reverse := by
  refine @List.Perm.eq_of_pairwise _ (fun i j => j ≤ i) _ _ (fun i j _ _ hij hji => ?_) ?_ ?_ ?_
  · exact Fin.le_antisymm hji hij
  · exact List.pairwise_mergeSort' _ _
  · rw [List.pairwise_reverse]
    exact (List.pairwise_lt_finRange n).imp Nat.le_of_lt
  · exact (List.mergeSort_perm _ _).trans (List.reverse_perm _).symm

/-- A list of which any two entries stand in the wrong order is sorted by reversing it. -/
theorem mergeSort_eq_reverse {α : Type} {le : α → α → Bool} {l : List α}
    (h : l.Pairwise fun a b => le a b = false ∧ le b a = true) (hrefl : ∀ a ∈ l, le a a = true) :
    l.mergeSort le = l.reverse := by
  have hpair := List.pairwise_iff_getElem.1 h
  have hle : ∀ i j : Fin l.length, decide (j ≤ i) = le (l.get i) (l.get j) := fun i j => by
    rcases Nat.lt_trichotomy i j with hij | hij | hij
    · exact (decide_eq_false (Nat.not_le.2 hij)).trans (hpair i j i.2 j.2 hij).1.symm
    · rw [Fin.ext hij, hrefl _ (List.get_mem l j)]
      exact decide_eq_true (Nat.le_refl _)
    · exact (decide_eq_true (Nat.le_of_lt hij)).trans (hpair j i j.2 i.2 hij).2.symm
  -- The places are sorted in place of the entries: the order of places is total.
  calc l.mergeSort le
      = ((List.finRange l.length).map l.get).mergeSort le := by rw [List.map_get_finRange]
    _ = ((List.finRange l.length).mergeSort fun i j => decide (j ≤ i)).map l.get :=
        (List.map_mergeSort fun i _ j _ => hle i j).symm
    _ = l.reverse := by rw [mergeSort_finRange, List.map_reverse, List.map_get_finRange]

namespace AuditLog

variable {rows : List AuditRow} {session : String}

/-! ## Counting -/

theorem cellMatches_text (s t : String) : cellMatches (.text s) (.text t) = (s == t) := rfl

theorem cellMatches_bool (b c : Bool) : cellMatches (.bool b) (.bool c) = (b == c) := by
  cases b <;> cases c <;> decide +kernel

theorem count_session (rows : List AuditRow) (session : String) :
    count rows [("session_id", .text session)] = rows.countP (·.sessionId == session) := by
  refine List.countP_congr fun r _ => ?_
  simp [passes, AuditRow.column?, AuditRow.columns, Value.field?, cellMatches_text]

theorem count_failed (rows : List AuditRow) (session : String) :
    count rows [("session_id", .text session), ("success", .bool false)] =
      rows.countP fun r => r.sessionId == session && !r.success := by
  refine List.countP_congr fun r _ => ?_
  simp [passes, AuditRow.column?, AuditRow.columns, Value.field?, cellMatches_text, cellMatches_bool]

/-- The rows of a session are the successful ones and the failed ones. -/
theorem countP_session (rows : List AuditRow) (session : String) :
    rows.countP (·.sessionId == session) =
      rows.countP (fun r => r.sessionId == session && r.success) +
        rows.countP fun r => r.sessionId == session && !r.success := by
  have hsplit := List.length_eq_countP_add_countP (fun r : AuditRow => r.success)
    (l := rows.filter (·.sessionId == session))
  rw [← List.countP_eq_length_filter, List.countP_filter, List.countP_filter] at hsplit
  simpa only [Bool.and_comm, Bool.not_eq_true, Bool.decide_eq_false] using hsplit

/-- **A summary** counts the rows of a session, and those of either outcome. -/
theorem summary_eq (rows : List AuditRow) (session : String) :
    summary rows session =
      ⟨rows.countP (·.sessionId == session), rows.countP fun r => r.sessionId == session && r.success,
        rows.countP fun r => r.sessionId == session && !r.success⟩ := by
  rw [summary, count_session, count_failed, countP_session rows session, Nat.add_sub_cancel]

/-! ## Listing -/

/-- **Rows in the order of their timestamps**: each is later than those before it. -/
structure Ascending (rows : List AuditRow) : Prop where
  stamped : ∀ r ∈ rows, ∃ m : Moment, r.executedAt = .moment m ∧ m.IsLocal
  later : rows.Pairwise fun r r' =>
    ∀ m m' : Moment, r.executedAt = .moment m → r'.executedAt = .moment m' → m.Earlier m'

theorem Ascending.filter (h : Ascending rows) (p : AuditRow → Bool) : Ascending (rows.filter p) where
  stamped r hr := h.stamped r (List.mem_of_mem_filter hr)
  later := h.later.filter p

theorem compareCells_moment (m n : Moment) : compareCells (.moment m) (.moment n) =
    compare (Value.moment m).toText (Value.moment n).toText := rfl

/-- The cells of two moments are in the order of the moments. -/
theorem compareCells_earlier {m n : Moment} (hm : m.IsLocal) (hn : n.IsLocal) (h : m.Earlier n) :
    compareCells (.moment m) (.moment n) = .lt ∧ compareCells (.moment n) (.moment m) = .gt := by
  have hlt : (Value.moment m).toText < (Value.moment n).toText := by
    rw [Value.toText, Value.toText, String.lt_iff, String.toList_ofList, String.toList_ofList]
    exact Calendar.momentChars_lt hm hn h
  rw [compareCells_moment, compareCells_moment]
  generalize (Value.moment m).toText = s, (Value.moment n).toText = t at hlt
  have hcells : compare s t = .lt := compareOfLessAndEq_eq_lt.2 hlt
  exact ⟨hcells, Std.OrientedCmp.gt_iff_lt.2 hcells⟩

theorem column?_executedAt (r : AuditRow) : r.column? "executed_at" = some r.executedAt := by
  simp [AuditRow.column?, AuditRow.columns, Value.field?]

theorem descending_eq_reverse (h : Ascending rows) : descending "executed_at" rows = rows.reverse := by
  unfold descending
  simp only [column?_executedAt, Option.getD_some]
  refine mergeSort_eq_reverse ?_ fun r hr => ?_
  · refine h.later.imp_of_mem fun {r r'} hr hr' hlater => ?_
    obtain ⟨m, hm, hlocal⟩ := h.stamped r hr
    obtain ⟨m', hm', hlocal'⟩ := h.stamped r' hr'
    obtain ⟨hlt, hgt⟩ := compareCells_earlier hlocal hlocal' (hlater m m' hm hm')
    rw [hm, hm', hlt, hgt]
    exact ⟨rfl, rfl⟩
  · obtain ⟨m, hm, -⟩ := h.stamped r hr
    have hself : ∀ s : String, compare s s = .eq := fun s => Std.ReflCmp.compare_self
    rw [hm, compareCells_moment, hself]
    rfl

theorem byField_session (rows : List AuditRow) (session : String) :
    rows.filter (fun r => (r.column? "session_id").any (cellMatches · (.text session))) =
      rows.filter (·.sessionId == session) := by
  refine List.filter_congr fun r _ => ?_
  simp [AuditRow.column?, AuditRow.columns, Value.field?, cellMatches_text]

/-- **The executions of a session** are shown newest first, as many as are asked for. -/
theorem bySession_eq (h : Ascending rows) (session : String) (n : Nat) :
    bySession rows (.text session) (some n) = (rows.filter (·.sessionId == session)).reverse.take n := by
  have hcolumn : columnNames.contains "executed_at" = true := by decide
  have hn : ¬(n : Int) < 0 := Int.not_lt.2 (Int.natCast_nonneg n)
  simp only [bySession, byField, byField_session, hcolumn, if_true, limited, hn, if_false, Int.toNat_natCast]
  rw [descending_eq_reverse (h.filter _)]

end AuditLog

end QueryCanvas
