import Mathlib.Logic.Relation
import QueryCanvas.Catalog.Fetch
import QueryCanvas.Proofs.Catalog.Load

/-!
# Loading in any order

Whatever order the answers of a batch arrive in, a loading comes to the catalog of the names asked for one
after the other.

* `Underway`: what holds of a loading between two steps. `Step.underway` is one step, `underway_of_reaches`
  any number of them.
* `exists_step`, `Step.remaining_lt`: a loading that is not done goes on, and not forever.
* `load_unordered`: what a loading comes to, in every order.
-/

namespace QueryCanvas

open Catalog

variable {reader : SchemaReader} {names : List Value} {size : Nat} {done : List Value} {l l' : Loading}

/-! ## Answers of a batch -/

/-- What has been answered is what the reader answers for that name. -/
def Fetch.IsFaithful (reader : SchemaReader) (f : Fetch) : Prop :=
  ∀ a, f.answer = some a → a = loadTable reader f.name

/-- When all tables of a batch are answered, their answers are those of the batch. -/
theorem settled_eq {fetches : List Fetch} {answers : List (Value × Except Fault Table)}
    (h : fetches.mapM Fetch.settled? = some answers) (hf : ∀ f ∈ fetches, f.IsFaithful reader) :
    answers = answersOf reader (fetches.map Fetch.name) := by
  induction fetches generalizing answers with
  | nil =>
    cases h
    rfl
  | cons f fetches ih =>
    obtain ⟨hfirst, hrest⟩ := List.forall_mem_cons.1 hf
    rw [List.mapM_cons] at h
    obtain ⟨pair, hpair, h⟩ := Option.bind_eq_some_iff.1 h
    obtain ⟨rest, hrest', h⟩ := Option.bind_eq_some_iff.1 h
    obtain ⟨a, ha, rfl⟩ := Option.map_eq_some_iff.1 hpair
    cases h
    rw [hfirst a ha, ih hrest' hrest]
    rfl

/-- A batch is settled once none of its tables waits for an answer. -/
theorem exists_settled {fetches : List Fetch} (h : ∀ f ∈ fetches, f.answer.isSome = true) :
    ∃ answers, fetches.mapM Fetch.settled? = some answers := by
  induction fetches with
  | nil => exact ⟨[], rfl⟩
  | cons f fetches ih =>
    obtain ⟨hfirst, hrest⟩ := List.forall_mem_cons.1 h
    obtain ⟨a, ha⟩ := Option.isSome_iff_exists.1 hfirst
    obtain ⟨answers, hanswers⟩ := ih hrest
    exact ⟨(f.name, a) :: answers, by simp [List.mapM_cons, Fetch.settled?, ha, hanswers]⟩

/-! ## What holds between steps -/

namespace Loading

/-- **A loading under way** that has added the names in `done`: the names are cut into those, the batch at
hand and the batches behind it; they are asked for in order; and the catalog is that of the names done. -/
structure Underway (reader : SchemaReader) (names : List Value) (size : Nat) (done : List Value)
    (l : Loading) : Prop where
  whole : names = done ++ (l.fetches.map Fetch.name ++ l.waiting) ++ l.later.flatten
  asked : l.requested = done ++ l.fetches.map Fetch.name
  loaded : l.catalog = oneByOne reader done
  faithful : ∀ f ∈ l.fetches, f.IsFaithful reader
  small : l.fetches.length + l.waiting.length ≤ size
  cut : ∀ batch ∈ l.later, batch ≠ [] ∧ batch.length ≤ size

theorem underway_start (h : 0 < size) (names : List Value) :
    Underway reader names size [] (start (chunks size names)) where
  whole := by simp [start, flatten_chunks h]
  asked := rfl
  loaded := rfl
  faithful := nofun
  small := Nat.zero_le _
  cut := forall_mem_chunks size names

/-- What is added is what the reader answers for the batch, and adding it does not fail. -/
theorem Underway.added (h : Underway reader names size done l) (hheeds : Heeds reader)
    {answers : List (Value × Except Fault Table)} (hsettled : l.settled? = some answers) :
    l.waiting = [] ∧
      l.catalog.addBatch answers = .ok (oneByOne reader (done ++ l.fetches.map Fetch.name)) := by
  unfold settled? at hsettled
  split at hsettled
  next hready =>
    rw [Bool.and_eq_true] at hready
    rw [settled_eq hsettled h.faithful, h.loaded]
    exact ⟨List.isEmpty_iff.1 hready.1, addBatch_oneByOne hheeds done _⟩
  next => cases hsettled

/-- **One step** keeps a loading under way. -/
theorem Step.underway (hstep : Step reader l l') (h : Underway reader names size done l)
    (hheeds : Heeds reader) : ∃ done', Underway reader names size done' l' := by
  cases hstep with
  | opens =>
    obtain ⟨hbatch, hlater⟩ := List.forall_mem_cons.1 h.cut
    refine ⟨done, ⟨?_, h.asked, h.loaded, nofun, ?_, hlater⟩⟩
    · simpa using h.whole
    · simpa using hbatch.2
  | asks =>
    refine ⟨done, ⟨?_, ?_, h.loaded, ?_, ?_, h.cut⟩⟩
    · simpa using h.whole
    · exact (congrArg (· ++ _) h.asked).trans (by simp)
    · exact List.forall_mem_append.2 ⟨h.faithful, List.forall_mem_singleton.2 nofun⟩
    · have hsmall := h.small
      simp only [List.length_append, List.length_cons, List.length_nil] at hsmall ⊢
      omega
  | answers before after =>
    obtain ⟨hbefore, hafter⟩ := List.forall_mem_append.1 h.faithful
    refine ⟨done, ⟨?_, ?_, h.loaded, ?_, ?_, h.cut⟩⟩
    · simpa using h.whole
    · simpa using h.asked
    · refine List.forall_mem_append.2 ⟨hbefore, List.forall_mem_cons.2 ⟨?_, (List.forall_mem_cons.1 hafter).2⟩⟩
      intro a ha
      exact (Option.some.inj ha).symm
    · simpa using h.small
  | adds hsettled hadded =>
    obtain ⟨hwaiting, hok⟩ := h.added hheeds hsettled
    rw [hadded, Except.ok.injEq] at hok
    have hwhole := h.whole
    have hsmall := h.small
    rw [hwaiting, List.append_nil] at hwhole
    exact ⟨done ++ l.fetches.map Fetch.name, ⟨by simpa [hwaiting] using hwhole, by simpa using h.asked, hok, nofun,
      by simp [hwaiting], h.cut⟩⟩

/-- **Any number of steps** keeps a loading under way. -/
theorem underway_of_reaches (hheeds : Heeds reader) (hsize : 0 < size)
    (h : Relation.ReflTransGen (Step reader) (start (chunks size names)) l) :
    ∃ done, Underway reader names size done l := by
  induction h with
  | refl => exact ⟨[], underway_start hsize names⟩
  | tail _ hstep ih =>
    obtain ⟨done, hdone⟩ := ih
    exact hstep.underway hdone hheeds

/-! ## Progress -/

/-- How much there is left to do: a table that is not asked for counts three times, one that is not answered
twice, and one that is not added once; and every batch counts. -/
def remaining (l : Loading) : Nat :=
  3 * (l.waiting.length + l.later.flatten.length) + l.later.length + l.fetches.length + l.inFlight

/-- Every step leaves less to do. -/
theorem Step.remaining_lt (hstep : Step reader l l') : l'.remaining < l.remaining := by
  unfold remaining inFlight
  cases hstep with
  | opens =>
    simp only [List.length_nil, List.flatten_cons, List.length_append, List.length_cons, List.countP_nil]
    omega
  | asks =>
    simp only [List.length_cons, List.length_append, List.length_nil, List.countP_append,
      List.countP_singleton, Option.isNone_none, if_true]
    omega
  | answers before after =>
    simp only [List.length_append, List.length_cons, List.countP_append, List.countP_cons, Option.isNone_none,
      Option.isNone_some, if_true, Bool.false_eq_true, if_false]
    omega
  | adds hsettled hadded =>
    have hne : l.fetches ≠ [] := by
      rintro hnil
      simp [settled?, hnil] at hsettled
    have hpos := List.length_pos_iff.2 hne
    simp only [List.length_nil, List.countP_nil]
    omega

/-- A loading that is not done goes on. -/
theorem Underway.exists_step (h : Underway reader names size done l) (hheeds : Heeds reader)
    (hdone : l.isDone = false) : ∃ l', Step reader l l' := by
  obtain ⟨waiting, fetches, later, c, requested⟩ := l
  cases waiting with
  | cons name waiting => exact ⟨_, .asks⟩
  | nil =>
    cases hfetches : fetches with
    | nil =>
      cases later with
      | nil => simp [isDone, hfetches] at hdone
      | cons batch later => exact ⟨_, .opens⟩
    | cons f rest =>
      rw [← hfetches]
      by_cases hall : ∀ f ∈ fetches, f.answer.isSome = true
      · obtain ⟨answers, hanswers⟩ := exists_settled hall
        have hsettled : settled? ⟨[], fetches, later, c, requested⟩ = some answers := by
          simp [settled?, hfetches, ← hanswers]
        exact ⟨_, .adds hsettled (h.added hheeds hsettled).2⟩
      · obtain ⟨⟨name, answer⟩, hmem, rfl⟩ : ∃ f ∈ fetches, f.answer = none := by simpa using hall
        obtain ⟨before, after, rfl⟩ := List.append_of_mem hmem
        exact ⟨_, .answers before after⟩

/-- **A loading on its way**, in whatever order it came there. -/
structure OnItsWay (reader : SchemaReader) (names : List Value) (size : Nat) (l : Loading) : Prop where
  /-- No more tables wait for an answer than fit into a batch. -/
  few : l.inFlight ≤ size
  /-- The names are asked for in order, none of them again. -/
  inOrder : l.requested <+: names
  /-- Nothing that is answered ends it. -/
  unfailing : ∀ e, ¬l.FailsWith e
  /-- It goes on until it is done. -/
  goesOn : l.isDone = false → ∃ l', Step reader l l'
  /-- It does not go on forever. -/
  ends : ∀ l', Step reader l l' → l'.remaining < l.remaining
  /-- When it is done, all names were asked for, and the catalog is the one of the names. -/
  comesTo : l.isDone = true → l.requested = names ∧ l.catalog = oneByOne reader names

theorem Underway.onItsWay (h : Underway reader names size done l) (hheeds : Heeds reader) :
    l.OnItsWay reader names size where
  few := by
    have hcount : l.inFlight ≤ l.fetches.length := List.countP_le_length
    have hsmall := h.small
    omega
  inOrder := by
    refine ⟨l.waiting ++ l.later.flatten, ?_⟩
    rw [h.asked, h.whole]
    simp only [List.append_assoc]
  unfailing := by
    rintro e ⟨answers, hsettled, hfails⟩
    rw [(h.added hheeds hsettled).2] at hfails
    cases hfails
  goesOn := h.exists_step hheeds
  ends _ hstep := hstep.remaining_lt
  comesTo hdone := by
    simp only [isDone, Bool.and_eq_true, List.isEmpty_iff] at hdone
    obtain ⟨⟨hwaiting, hfetches⟩, hlater⟩ := hdone
    have hnames : names = done := by simpa [hwaiting, hfetches, hlater] using h.whole
    refine ⟨?_, hnames ▸ h.loaded⟩
    rw [h.asked, hfetches, hnames, List.map_nil, List.append_nil]

end Loading

/-! ## What a loading comes to -/

/-- **A report of names** that were asked for in batches of a size. -/
structure LoadReport.IsOf (reader : SchemaReader) (names : List String) (size : Nat) (report : LoadReport) :
    Prop where
  /-- Each name is asked for once, in order, and never more of them at once than fit into a batch. -/
  requested : report.requested = names.map .text
  few : report.inFlight ≤ size
  /-- The tables are those of the names that give one, in order. -/
  tables : report.catalog.tables = names.filterMap fun s => (loadTable reader (.text s)).toOption
  tableNames : report.catalog.tableNames = names.filter fun s => (loadTable reader (.text s)).toOption.isSome
  /-- The warnings are about the other names, in order, with the reason why they give none. -/
  warnings : report.catalog.warnings = names.filterMap fun s => warningOf? reader (.text s)
  /-- A name gives a table if there are rows for it and each describes a column, no two of one name. -/
  parsed : ∀ s t, loadTable reader (.text s) = .ok t ↔ ∃ rows entries columns,
    reader.rows (.text s) = .ok rows ∧ rows ≠ .null ∧ entriesOf? rows = some entries ∧
      entries.mapM Column.ofRow = .ok columns ∧ (columns.map (·.name)).Nodup ∧ t = ⟨s, columns⟩
  /-- What is known of a name depends on what is answered for that name alone. -/
  found : ∀ s ∈ names, report.catalog.lookup? s = (loadTable reader (.text s)).toOption
  warned : ∀ s ∈ names, ∀ reason, ⟨.text s, reason⟩ ∈ report.catalog.warnings ↔
    ∃ f, loadTable reader (.text s) = .error f ∧ f.reason = reason

/-- **Loading in batches** is asking for one table after the other. Whatever is listed under names that are
texts and whatever is answered for each of them, a catalog is loaded; a batch size decides neither what is
in it nor what is asked for; the answers of a batch may come in any order; and what is answered for one
name has no part in what is known of another. -/
theorem load_unordered {entries : List Value} (hlist : reader.listing = .ok (.list entries))
    (hnamed : ∀ entry ∈ entries, NamedByText entry) (hheeds : Heeds reader) {setting : Option Int}
    (hsetting : ∀ n, setting = some n → 0 ≤ n) :
    (∃ report, load reader setting = .ok report ∧ report.IsOf reader (listed entries) (batchSizeOf setting) ∧
      ∀ other, (∀ n, other = some n → 0 ≤ n) →
        ∃ report', load reader other = .ok report' ∧ report'.catalog = report.catalog) ∧
    (∀ l, Relation.ReflTransGen (Loading.Step reader)
        (.start (chunks (batchSizeOf setting) ((listed entries).map .text))) l →
      l.OnItsWay reader ((listed entries).map .text) (batchSizeOf setting) ∧
        (l.isDone = true → ∃ report, load reader setting = .ok report ∧ l.catalog.built = .ok report.catalog)) ∧
    ∀ s ∈ listed entries, ∀ reader', reader'.listing = reader.listing → Heeds reader' →
      reader'.rows (.text s) = reader.rows (.text s) →
      ∃ report report', load reader setting = .ok report ∧ load reader' setting = .ok report' ∧
        report'.catalog.lookup? s = report.catalog.lookup? s ∧
        ∀ reason, ⟨.text s, reason⟩ ∈ report'.catalog.warnings ↔ ⟨.text s, reason⟩ ∈ report.catalog.warnings := by
  have hnodup := nodup_listed entries
  obtain ⟨report, hload, hcatalog, hrequested, hfew⟩ := load_oneByOne hlist hnamed hheeds hsetting
  refine ⟨⟨report, hload, ?isOf, ?sizes⟩, ?unordered, ?apart⟩
  case isOf =>
    refine ⟨hrequested, hfew, ?_, ?_, ?_, fun s t => ?_, fun s hs => ?_, fun s hs reason => ?_⟩
    · simp only [hcatalog, oneByOne, List.filterMap_map, Function.comp_def]
    · rw [hcatalog]
      exact tableNames_oneByOne _
    · simp only [hcatalog, oneByOne, List.filterMap_map, Function.comp_def]
    · simp only [loadTable_eq_ok, ofRows_eq_ok, Value.toText, exists_and_left]
    · rw [hcatalog]
      exact lookup?_oneByOne hnodup hs
    · rw [hcatalog]
      exact mem_warnings_oneByOne hs
  case sizes =>
    intro other hother
    obtain ⟨report', hload', hcatalog', -⟩ := load_oneByOne hlist hnamed hheeds hother
    exact ⟨report', hload', hcatalog'.trans hcatalog.symm⟩
  case unordered =>
    intro l hl
    obtain ⟨done, hunderway⟩ := Loading.underway_of_reaches hheeds (batchSizeOf_pos hsetting) hl
    have honway := hunderway.onItsWay hheeds
    refine ⟨honway, fun hdone => ⟨report, hload, ?_⟩⟩
    rw [(honway.comesTo hdone).2, hcatalog]
    exact built_oneByOne hnodup
  case apart =>
    intro s hs reader' hlist' hheeds' hrows
    obtain ⟨report', hload', hcatalog', -⟩ := load_oneByOne (hlist'.trans hlist) hnamed hheeds' hsetting
    have htable : loadTable reader' (.text s) = loadTable reader (.text s) := by
      unfold loadTable
      rw [hrows]
    refine ⟨report, report', hload, hload', ?_, fun reason => ?_⟩
    · rw [hcatalog, hcatalog', lookup?_oneByOne hnodup hs, lookup?_oneByOne hnodup hs, htable]
    · rw [hcatalog, hcatalog', mem_warnings_oneByOne hs, mem_warnings_oneByOne hs, htable]

/-! ## A listing with a table that is lost -/

/-- A listing of two names, one of them twice, and of something that is none. -/
def someEntries : List Value :=
  [.text "orders", .int 5, .record [("table_name", .null), ("name", .text "lost")], .text "orders"]

/-- A reader that answers for one of the two names and takes too long for the other. -/
def halfReader : SchemaReader where
  listing := .ok (.list someEntries)
  rows name :=
    if name.text? = some "orders" then .ok (.list [.record [("name", .text "id")]]) else .error ⟨.timeout, none⟩

/-- The lost table is warned of, and the other one is loaded. -/
theorem load_halfReader : ∃ report, load halfReader (some 1) = .ok report ∧
    report.requested = [.text "orders", .text "lost"] ∧ report.catalog.tableNames = ["orders"] ∧
    report.catalog.warnings = [⟨.text "lost", "TimeoutError"⟩] ∧ report.inFlight ≤ 1 := by
  have hnamed : ∀ entry ∈ someEntries, NamedByText entry := by
    simp [someEntries, NamedByText, HoldsText, Value.field?, Value.truthy]
  have hheeds : Heeds halfReader := by
    intro name f hf
    simp only [halfReader] at hf
    split at hf
    · cases hf
    · cases hf
      decide
  have hsetting : ∀ n : Int, some 1 = some n → 0 ≤ n := by
    intro n hn
    cases hn
    decide
  have hlisted : listed someEntries = ["orders", "lost"] := by decide
  obtain ⟨⟨report, hload, hreport, -⟩, -, -⟩ := load_unordered rfl hnamed hheeds hsetting
  refine ⟨report, hload, ?_, ?_, ?_, hreport.few⟩
  · rw [hreport.requested, hlisted]
    rfl
  · rw [hreport.tableNames, hlisted]
    decide
  · rw [hreport.warnings, hlisted]
    rfl

end QueryCanvas
