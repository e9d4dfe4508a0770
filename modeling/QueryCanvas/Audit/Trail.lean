import QueryCanvas.Audit.Record
import QueryCanvas.Session.Event

/-!
# The trail of a session

A session whose executions are recorded. The row of an execution is written when its run ends, with the
statement that was handed over when it started.
-/

namespace QueryCanvas

/-- A session and the execution log. -/
structure AuditedSession where
  live : LiveSession
  audit : AuditStore

namespace AuditedSession

/-- What comes of one event. The end of a run is recorded. -/
def step (s : AuditedSession) (e : Event) : Report × AuditedSession :=
  let (report, live) := s.live.step e
  match report, s.live.session.running with
  | .ended outcome, some run =>
    let (audit, clock) := s.audit.record live.session run.sql outcome live.clock
    (report, ⟨{ live with clock := clock }, audit⟩)
  | _, _ => (report, { s with live := live })

end AuditedSession

end QueryCanvas
