import SplitPanel.Host.Fault

/-!
# Connections

A connection is the host's access to the keyboard: it sends and receives single reports, and
owns the clock that waiting is measured with.  Times are in microseconds.

A connection may do anything in answer to a write, fail at any time, and let its clock stand
still or jump.  It may also bring reports without end, but only so many of them before a
deadline: every wait that has a deadline comes to an end.
-/

namespace SplitPanel.Host

/-- Access to a keyboard through states of type `σ`. -/
class Connection (σ : Type) where
  /-- Sends one report. -/
  write : Report → σ → σ × Except HostFault Unit
  /-- Waits some time for a report; `none` when nothing came. -/
  read : Nat → σ → σ × Except HostFault (Option Frame)
  /-- Looks at the clock. -/
  clock : σ → σ × Nat
  /-- Lets some time pass. -/
  pause : Nat → σ → σ
  /-- A bound on the reports that can be read one after the other before a deadline. -/
  stock : Nat → σ → Nat
  stock_read_lt : ∀ deadline connection frame next, deadline - (clock connection).2 ≠ 0 →
    read (deadline - (clock connection).2) (clock connection).1 = (next, .ok (some frame)) →
    stock deadline next < stock deadline connection

end SplitPanel.Host
