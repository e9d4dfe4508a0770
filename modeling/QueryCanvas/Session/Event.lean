import QueryCanvas.Session.Basic

/-!
# What happens to a session

A session is used by several callers at once. What they do comes one after the other: a run is asked
for, an answer arrives, the run goes on with it, its cancellation is asked for, a new query is started,
the canvas is edited. `LiveSession.step` carries out one such `Event` and says in a `Report` what came
of it; `play` carries out any number of them.

* An answer may arrive, and a run may go on, between any two other events. Whether the warehouse heeds
  the end of the time limit, or that it was called off, is its own matter: it may answer all the same.
* An answer that comes for no run, or too late to count, comes to nothing.
-/

namespace QueryCanvas

/-- What can happen to a session. -/
inductive Event where
  | execute
  | answer (a : Answer)
  | proceed
  | cancel
  | newQuery (name : Value)
  | edit (e : Edit)
  | touch

/-- What comes of an event: an execution is refused or its statement is handed to the warehouse; the
warehouse answers, or the wait for the answer is interrupted; the run ends. -/
inductive Report where
  | refused (e : RunError)
  | handed (sql : String)
  | answered (a : Answer)
  | interrupted (a : Answer)
  | ended (outcome : Outcome)
  | cancelled (asked : Bool)
  | newQuery
  | edited (reply : Except EditError Reply)
  | nothing

namespace Report

/-- Whether a statement was handed to the warehouse. -/
def isHanded : Report → Bool
  | .handed _ => true
  | _ => false

/-- Whether the warehouse answered. -/
def isAnswered : Report → Bool
  | .answered _ => true
  | _ => false

/-- Whether a run ended. -/
def isEnded : Report → Bool
  | .ended _ => true
  | _ => false

/-- Whether a run ended with rows. -/
def isRows : Report → Bool
  | .ended (.ok _) => true
  | _ => false

/-- Whether a new query was started. -/
def isNewQuery : Report → Bool
  | .newQuery => true
  | _ => false

end Report

/-- What comes of events in their order, the oldest first, if `step` says what comes of one. -/
def play {S : Type} (step : S → Event → Report × S) : List Event → S → List Report × S
  | [], s => ([], s)
  | e :: es, s =>
    let (report, s) := step s e
    let (reports, s) := play step es s
    (report :: reports, s)

/-- A session with the ids and the clock that it uses. -/
structure LiveSession where
  session : Session
  ids : IdSupply
  clock : Clock

namespace LiveSession

/-- A session as it is opened. -/
def opened (dialect : Sql.Dialect) (catalog : Catalog) (limit : Value) (ids : IdSupply) (clock : Clock) :
    LiveSession :=
  let (session, ids, clock) := Session.start dialect catalog limit ids clock
  ⟨session, ids, clock⟩

/-- What comes of one event. -/
def step (s : LiveSession) : Event → Report × LiveSession
  | .execute =>
    match s.session.begin s.clock with
    | .error e => (.refused e, s)
    | .ok (sql, session, clock) => (.handed sql, { s with session := session, clock := clock })
  | .answer a =>
    let report := if s.session.isWaiting then .answered a
      else if s.session.accepts a then .interrupted a
      else .nothing
    (report, { s with session := s.session.receive a })
  | .proceed =>
    match s.session.resume with
    | (some outcome, session) => (.ended outcome, { s with session := session })
    | (none, _) => (.nothing, s)
  | .cancel =>
    let (asked, session) := s.session.cancel
    (.cancelled asked, { s with session := session })
  | .newQuery name =>
    let (session, ids, clock) := s.session.newQuery name s.ids s.clock
    (.newQuery, ⟨session, ids, clock⟩)
  | .edit e =>
    let (reply, session, ids) := s.session.edit e s.ids
    (.edited reply, { s with session := session, ids := ids })
  | .touch =>
    let (session, clock) := s.session.touch s.clock
    (.nothing, { s with session := session, clock := clock })

end LiveSession

/-! ## Lemmas -/

section Play

variable {S : Type} (step : S → Event → Report × S)

theorem play_append (es es' : List Event) (s : S) :
    play step (es ++ es') s =
      ((play step es s).1 ++ (play step es' (play step es s).2).1, (play step es' (play step es s).2).2) := by
  induction es generalizing s with
  | nil => rfl
  | cons e es ih => simp only [List.cons_append, play, ih]

theorem play_snoc (es : List Event) (e : Event) (s : S) :
    play step (es ++ [e]) s =
      ((play step es s).1 ++ [(step (play step es s).2 e).1], (step (play step es s).2 e).2) := by
  rw [play_append]
  rfl

end Play

end QueryCanvas
