import SplitPanel.Keys.EventSource

/-!
# Report queue

Reports wait here in line until they are sent.  A full queue refuses further ones.
-/

namespace SplitPanel.Keys

/-- Reports in line, with room for so many, or any number. -/
structure ReportQueue where
  room : Option Nat
  reports : List Report
deriving DecidableEq

/-- There was no room for a report. -/
inductive QueueFull where
  | full
deriving DecidableEq, Repr

namespace ReportQueue

def empty (room : Option Nat) : ReportQueue where
  room := room
  reports := []

/-- Whether one more report fits. -/
def hasRoom (queue : ReportQueue) : Bool :=
  match queue.room with
  | none => true
  | some room => queue.reports.length < room

def accept (report : Report) (queue : ReportQueue) : Except QueueFull ReportQueue :=
  if queue.hasRoom then .ok { queue with reports := queue.reports ++ [report] }
  else .error .full

instance : ReportSink ReportQueue QueueFull where
  accept := accept

theorem reports_accept {report : Report} {queue next : ReportQueue}
    (h : queue.accept report = .ok next) : next.reports = queue.reports ++ [report] := by
  rw [accept] at h
  split at h
  · injection h with h
    rw [← h]
  · contradiction

end ReportQueue

end SplitPanel.Keys
