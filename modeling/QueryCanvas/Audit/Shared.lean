import QueryCanvas.Audit.Trail

/-!
# Sessions that share a log

Any number of sessions take turns, an event of one of them at a time. They share the ids, the clock and the
execution log. A write to the log may fail: then nothing is added, and what it holds is kept.

No registry is asked here. Whoever holds a session can go on with it after it was closed.
-/

namespace QueryCanvas

/-- Sessions, with the ids, the clock and the log that they share. -/
structure SharedTrail (ι : Type) where
  sessions : ι → Session
  ids : IdSupply
  clock : Clock
  rows : List AuditRow

/-- An event of a session, and whether the log can be written at that moment. -/
structure Turn (ι : Type) where
  who : ι
  event : Event
  isWritable : Bool

/-- What came of a turn. -/
structure Happening (ι : Type) where
  who : ι
  report : Report
  isWritable : Bool

namespace SharedTrail

variable {ι : Type}

/-- One of the sessions with the log, which may not be written. -/
def audited (t : SharedTrail ι) (i : ι) (isWritable : Bool) : AuditedSession :=
  ⟨⟨t.sessions i, t.ids, t.clock⟩, if isWritable then some t.rows else none⟩

variable [DecidableEq ι]

/-- What comes of one turn. -/
def step (t : SharedTrail ι) (turn : Turn ι) : Happening ι × SharedTrail ι :=
  let (report, a) := (t.audited turn.who turn.isWritable).step turn.event
  (⟨turn.who, report, turn.isWritable⟩,
    { sessions := fun j => if j = turn.who then a.live.session else t.sessions j
      ids := a.live.ids
      clock := a.live.clock
      rows := a.audit.getD t.rows })

/-- What comes of turns in their order. -/
def play : List (Turn ι) → SharedTrail ι → List (Happening ι) × SharedTrail ι
  | [], t => ([], t)
  | turn :: turns, t =>
    let (happening, t) := t.step turn
    let (happenings, t) := play turns t
    (happening :: happenings, t)

end SharedTrail

end QueryCanvas
