import QueryCanvas.Canvas.Snapshot
import QueryCanvas.Session.Run

/-!
# Sessions

A session holds a catalog, the canvas under construction and the latest result. Its statement is
compiled from the canvas whenever it is asked for.

* At most one run is under way: `begin` refuses a second one, and refuses a canvas without tables.
* The answer of the warehouse arrives (`receive`) before the run goes on with it and ends (`resume`).
  In between the run is still under way, but no longer waits.
* `cancel` only marks a run that waits. The warehouse is then called off, and the answer that arrives
  is that nobody waits any more; `finish` does all this at once.
* A new query discards canvas and result but does not stop a run; the result of that run is kept
  when it comes.
-/

namespace QueryCanvas

/-- A clock that counts how often it was read. -/
structure Clock where
  readings : Nat
  deriving DecidableEq, Repr

/-- A clock that has not been read yet. -/
def Clock.fresh : Clock := ⟨0⟩

/-- Reads the clock: the time, and the clock after it. -/
def Clock.read (c : Clock) : Nat × Clock :=
  (c.readings + 1, ⟨c.readings + 1⟩)

/-- One user's query, the catalog it is checked against, and its latest result. The canvas may be
edited against a catalog of its own; statements are always compiled against the session's. -/
structure Session where
  id : String
  limit : Value
  dialect : Sql.Dialect
  catalog : Catalog
  canvasCatalog : Catalog
  canvas : Canvas
  result : Option QueryResult
  lastUsed : Nat
  running : Option Run
  arrived : Option Answer

namespace Session

/-- The time limit in seconds if nothing else is said. -/
def defaultLimit : Value :=
  .float (.ofInt 30)

/-- Opens a session on a catalog with an empty canvas. -/
def start (dialect : Sql.Dialect) (catalog : Catalog) (limit : Value) (ids : IdSupply) (clock : Clock) :
    Session × IdSupply × Clock :=
  let (id, ids) := ids.next
  let (canvas, ids) := Canvas.new (.text Canvas.defaultName) .null ids
  let (now, clock) := clock.read
  (⟨id, limit.orElse defaultLimit, dialect, catalog, catalog, canvas, none, now, none, none⟩, ids, clock)

/-- The statement that the canvas compiles to. -/
def sql (s : Session) : Except Sql.CompileError String :=
  Sql.compile s.dialect s.catalog s.canvas

/-- Whether the canvas compiles to a statement. -/
def isExecutable (s : Session) : Except Sql.CompileError Bool :=
  s.sql.map Sql.isExecutable

/-- Whether a run is under way. -/
def isExecuting (s : Session) : Bool :=
  s.running.isSome

/-- Whether a run waits for its answer. -/
def isWaiting (s : Session) : Bool :=
  s.running.isSome && s.arrived.isNone

/-- Marks a session as used now. -/
def touch (s : Session) (clock : Clock) : Session × Clock :=
  let (now, clock) := clock.read
  ({ s with lastUsed := now }, clock)

/-- Carries out an edit of the canvas. -/
def edit (e : Edit) (s : Session) (ids : IdSupply) : Except EditError Reply × Session × IdSupply :=
  let (reply, d) := Canvas.perform s.canvasCatalog e ⟨s.canvas, ids⟩
  (reply, { s with canvas := d.canvas }, d.ids)

/-- Starts an empty canvas; the result of the old one is dropped. -/
def newQuery (name : Value) (s : Session) (ids : IdSupply) (clock : Clock) : Session × IdSupply × Clock :=
  let (canvas, ids) := Canvas.new name .null ids
  let (s, clock) := { s with canvas := canvas, canvasCatalog := s.catalog, result := none }.touch clock
  (s, ids, clock)

/-! ## Runs -/

/-- Whether the time limit leaves any time to wait. -/
def waits (s : Session) : Bool :=
  match s.limit with
  | .int n => 0 < n
  | .float x => !x.nonPositive
  | _ => true

/-- Starts a run of the current statement, unless there is none or a run is under way. -/
def begin (s : Session) (clock : Clock) : Except RunError (String × Session × Clock) :=
  match s.sql with
  | .error e => .error (.uncompilable e)
  | .ok sql =>
    if !Sql.isExecutable sql then .error .nothing
    else if s.isExecuting then .error .busy
    else
      let (s, clock) := s.touch clock
      .ok (sql, { s with running := some ⟨sql, false⟩, arrived := none }, clock)

/-- Asks for the cancellation of the run that waits; false if there is none. -/
def cancel (s : Session) : Bool × Session :=
  if s.isWaiting then
    (true, { s with running := s.running.map fun run => { run with cancelRequested := true } })
  else (false, s)

/-- Whether an answer takes the place of the one that has arrived. -/
def accepts (s : Session) (answer : Answer) : Bool :=
  s.running.isSome && s.arrived.all (·.force < answer.force)

/-- Lets an answer arrive. -/
def receive (answer : Answer) (s : Session) : Session :=
  if s.accepts answer then { s with arrived := some answer } else s

/-- Lets the run go on with the answer that has arrived, and end; rows become the latest result. -/
def resume (s : Session) : Option Outcome × Session :=
  match s.running, s.arrived with
  | some run, some answer =>
    let outcome := run.outcome s.limit answer
    let result := match outcome with
      | .ok r => some r
      | .error _ => s.result
    (some outcome, { s with running := none, arrived := none, result := result })
  | _, _ => (none, s)

/-- Settles the run under way with an answer, unless its cancellation was asked for. -/
def finish (answer : Answer) (s : Session) : Option Outcome × Session :=
  (s.receive (if s.running.any (·.cancelRequested) then .abandoned else answer)).resume

/-! ## Lemmas -/

theorem id_touch (s : Session) (clock : Clock) : (s.touch clock).1.id = s.id := rfl

theorem isWaiting_iff {s : Session} : s.isWaiting = true ↔ s.isExecuting = true ∧ s.arrived = none := by
  simp [isWaiting, isExecuting]

theorem accepts_iff {s : Session} {a : Answer} :
    s.accepts a = true ↔ s.isExecuting = true ∧ ∀ b, s.arrived = some b → b.force < a.force := by
  simp only [accepts, isExecuting, Bool.and_eq_true, and_congr_right_iff]
  intro _
  cases s.arrived <;> simp

theorem accepts_of_isWaiting {s : Session} (h : s.isWaiting = true) (a : Answer) : s.accepts a = true := by
  obtain ⟨hex, harr⟩ := isWaiting_iff.1 h
  exact accepts_iff.2 ⟨hex, by simp [harr]⟩

theorem cancel_fst (s : Session) : s.cancel.1 = s.isWaiting := by
  unfold cancel
  split <;> simp_all

end Session

end QueryCanvas
