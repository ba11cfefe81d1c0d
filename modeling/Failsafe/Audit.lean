import Failsafe.Bus
/-
  The audit subscriber, which writes every event to the log.
-/

namespace Failsafe.Audit

/-- The name under which the subscriber is logged. -/
def name : String := "audit_log"

/-- The log record of an event. -/
def record (e : Event) : Log.Record :=
  ⟨.info, "ploy_sentinel::cli", "event",
    [("event_type", .word e.kind.name), ("source", .word e.source.name),
      ("severity", .word e.severity.name), ("reason_code", .word e.reason.name),
      ("details", .word (Json.Value.obj e.details).compress)]⟩

end Failsafe.Audit
