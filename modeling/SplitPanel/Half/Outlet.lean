/-!
# Outlets

What a half writes to: its host, its link or its panel.  A write can be held up or get lost.
-/

namespace SplitPanel

structure Outlet (α : Type) where
  /-- Whether writes wait. -/
  stalled : Bool
  /-- Whether the next write is lost. -/
  failing : Bool
  /-- Everything written and not collected yet. -/
  written : List α
deriving DecidableEq

namespace Outlet

variable {α : Type}

def ready : Outlet α where
  stalled := false
  failing := false
  written := []

/-- Writes, whether stalled or not. -/
def put (a : α) (outlet : Outlet α) : Outlet α :=
  if outlet.failing then { outlet with failing := false }
  else { outlet with written := outlet.written ++ [a] }

/-- Writes, unless that has to wait. -/
def write? (a : α) (outlet : Outlet α) : Option (Outlet α) :=
  if outlet.stalled then none else some (outlet.put a)

/-- Forgets what was written. -/
def collected (outlet : Outlet α) : Outlet α :=
  { outlet with written := [] }

end Outlet

end SplitPanel
