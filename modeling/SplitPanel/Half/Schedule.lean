import SplitPanel.Half.Work

/-!
# Schedule of a half

Whenever something happens, the tasks run until each of them waits.  A task goes on for as long
as it can before the next one has its turn, and the panel comes last, so that it is redrawn once
for everything that happened.
-/

namespace SplitPanel

/-- All tasks, in the order of their turns. -/
def Task.all : List Task :=
  [.keys, .host, .sender, .receiver, .panel]

theorem Task.mem_all (task : Task) : task ∈ all := by
  cases task <;> decide

/-- What happens to a half. -/
inductive Happening where
  /-- A report comes from the host. -/
  | hostReport (bytes : List UInt8)
  /-- A read from the host fails. -/
  | hostReadFails
  /-- The next report to the host is lost. -/
  | hostWriteFails
  /-- Writes to the host begin or cease to wait. -/
  | hostStalls (on : Bool)
  /-- Bytes come from the link. -/
  | linkBytes (bytes : List UInt8)
  /-- A read from the link fails. -/
  | linkReadFails
  /-- The next packet to the link is lost. -/
  | linkWriteFails
  /-- Writes to the link begin or cease to wait. -/
  | linkStalls (on : Bool)
  /-- The next frame for the panel is lost. -/
  | panelFails
  /-- A switch closes or opens. -/
  | switch (row col : Nat) (closed : Bool)
  | time (milliseconds : Nat)

/-- What a half shows to the outside. -/
structure Observation where
  layersOn : Screen.LayerMask
  /-- Whether a frame is parked. -/
  pending : Bool
  toHost : List Report
  toLink : List UInt8
  /-- The frames sent to the panel. -/
  toPanel : List (List Screen.PanelText)

namespace Half

variable {capacity rows cols : Nat}

/-- The first step that any task can take. -/
def turn (half : Half capacity rows cols) : Option (Half capacity rows cols) :=
  Task.all.findSome? fun task => half.step task

theorem work_turn {half next : Half capacity rows cols} (h : half.turn = some next) :
    next.work < half.work := by
  obtain ⟨task, -, hstep⟩ := List.exists_of_findSome?_eq_some h
  exact work_step hstep

/-- Lets the tasks run until each of them waits. -/
def settle (half : Half capacity rows cols) : Half capacity rows cols :=
  match _h : half.turn with
  | none => half
  | some next => next.settle
termination_by half.work
decreasing_by exact work_turn _h

/-! ## Time -/

/-- The time between the samples of two rows, in microseconds. -/
def rowSettling : Nat := 1

/-- Samples the switches of a row.  Each row has its moment in the millisecond. -/
def sampleRow (half : Half capacity rows cols) (row : Fin rows) : Half capacity rows cols :=
  let now := half.elapsed * 1000 + (row.val + 1) * rowSettling
  let (scanner, findings) := half.scanner.sampleRow row (half.closed.get row) now
  { half with
    scanner
    keyEvents := (half.keyEvents ++ findings.keyEvents).take keyEventRoom
    screenChanged := half.screenChanged || findings.layersChanged }

/-- The milliseconds from one redraw to the next while nothing changes. -/
def redrawPeriod : Nat := 100

/-- Lets a millisecond pass.  The tasks run after every row. -/
def passMillisecond (half : Half capacity rows cols) : Half capacity rows cols :=
  let sampled := (List.finRange rows).foldl (fun half row => (half.sampleRow row).settle) half
  let elapsed := sampled.elapsed + 1
  settle { sampled with
    elapsed, redrawDue := sampled.redrawDue || elapsed % redrawPeriod = 0 }

/-- Lets time pass. -/
def pass : Nat → Half capacity rows cols → Half capacity rows cols
  | 0, half => half
  | milliseconds + 1, half => pass milliseconds half.passMillisecond

/-! ## Happenings -/

/-- Closes or opens a switch.  A position outside the matrix has none. -/
def setSwitch (row col : Nat) (closed : Bool) (half : Half capacity rows cols) :
    Half capacity rows cols :=
  match Keys.Position.make? rows cols row col with
  | none => half
  | some position => { half with closed := Keys.Grid.put position closed half.closed }

/-- What happens to a half, before its tasks take notice. -/
def receive (happening : Happening) (half : Half capacity rows cols) : Half capacity rows cols :=
  match happening with
  | .hostReport bytes => { half with fromHost := half.fromHost ++ [.data bytes] }
  | .hostReadFails => { half with fromHost := half.fromHost ++ [.failure] }
  | .hostWriteFails => { half with toHost := { half.toHost with failing := true } }
  | .hostStalls on => { half with toHost := { half.toHost with stalled := on } }
  | .linkBytes bytes => { half with fromLink := half.fromLink ++ [.data bytes] }
  | .linkReadFails => { half with fromLink := half.fromLink ++ [.failure] }
  | .linkWriteFails => { half with toLink := { half.toLink with failing := true } }
  | .linkStalls on => { half with toLink := { half.toLink with stalled := on } }
  | .panelFails => { half with toPanel := { half.toPanel with failing := true } }
  | .switch row col closed => half.setSwitch row col closed
  | .time milliseconds => half.pass milliseconds

/-- Lets something happen. -/
def take (happening : Happening) (half : Half capacity rows cols) : Half capacity rows cols :=
  settle (half.receive happening)

/-- What was seen of a half since the last time, and the half to go on with. -/
def observe (half : Half capacity rows cols) : Observation × Half capacity rows cols :=
  ({ layersOn := half.layersOn
     pending := half.station.outbox.pending
     toHost := half.toHost.written
     toLink := half.toLink.written.flatten
     toPanel := half.toPanel.written },
    { half with
      toHost := half.toHost.collected
      toLink := half.toLink.collected
      toPanel := half.toPanel.collected })

/-- A half that has just been started. -/
def start (config : Board.Config) (keymap : Keys.Keymap rows cols) (role : Side)
    (panelStarts : Bool) : Except Screen.GeometryFault (Half config.geometry.cells rows cols) :=
  (make config keymap role panelStarts).map settle

end Half

end SplitPanel
