import SplitPanel.Host.Session
import SplitPanel.Link.Carrier

/-!
# Connections without hardware

Stand-ins for a keyboard, to rehearse conversations with one.  A script answers reads from a
list, whatever is written.  A loopback has both halves and the link between them behind the
connection.  A rehearsal puts a script behind a loopback and surrounds it with what a session
needs.

None of them has a clock that moves, so a wait of no time is over at once and every other wait
lasts as long as it takes.
-/

namespace SplitPanel.Host

/-- What one read gives: a frame, nothing, or a failure. -/
abbrev ReadResult : Type := Except HostFault (Option Frame)

/-- The read of a report with these bytes. -/
def readOf (bytes : List UInt8) : ReadResult :=
  match Frame.ofBytes bytes with
  | .ok frame => .ok (some frame)
  | .error e => .error (.malformed e)

/-- A connection that answers reads from a list. -/
structure Script where
  reads : List ReadResult
  /-- The failure of the next write, if it is to fail. -/
  writeFailure : Option HostFault
  written : List Report

namespace Script

def empty : Script where
  reads := []
  writeFailure := none
  written := []

def write (report : Report) (script : Script) : Script × Except HostFault Unit :=
  match script.writeFailure with
  | some e => ({ script with writeFailure := none }, .error e)
  | none => ({ script with written := script.written ++ [report] }, .ok ())

def read (script : Script) : Script × ReadResult :=
  match script.reads with
  | [] => (script, .ok none)
  | next :: rest => ({ script with reads := rest }, next)

theorem length_reads_read_lt {script next : Script} {frame : Frame}
    (h : script.read = (next, .ok (some frame))) : next.reads.length < script.reads.length := by
  rw [read] at h
  split at h
  · simp at h
  · rename_i hreads
    simp only [Prod.mk.injEq] at h
    simp [← h.1, hreads]

instance : Connection Script where
  write := write
  read _ := read
  clock script := (script, 0)
  pause _ script := script
  stock _ script := script.reads.length
  stock_read_lt _ _ _ _ _ := length_reads_read_lt

end Script

/-- Both halves of a keyboard and the link between them, behind a queue of reports. -/
structure Loopback (capacity : Nat) where
  master : Station capacity
  slave : Station capacity
  terminal : Link.Terminal
  /-- Whether the link is served after every report. -/
  autoLink : Bool
  /-- Whether responses get lost. -/
  muted : Bool
  /-- A byte of the next packet, and what is mixed into it. -/
  corruption : Option (Nat × UInt8)
  /-- Reports that get in ahead of the next response. -/
  beforeReply : List Frame
  reads : List Frame
  /-- What the slave half made of the bytes that reached it. -/
  arrivals : List Link.Arrival

namespace Loopback

variable {capacity : Nat}

def make (master slave : Screen.Geometry) (autoLink : Bool) :
    Except Screen.GeometryFault (Loopback capacity) := do
  let master ← Station.make .master master
  let slave ← Station.make .slave slave
  return {
    master, slave, terminal := .start, autoLink, muted := false, corruption := none
    beforeReply := [], reads := [], arrivals := [] }

/-- The bytes of a packet with one of them changed. -/
def corrupt : Option (Nat × UInt8) → List UInt8 → List UInt8
  | none, bytes => bytes
  | some (place, mask), bytes => bytes.modify place (· ^^^ mask)

/-- Carries the parked frame over the link, if there is one. -/
def serveLink (board : Loopback capacity) : Loopback capacity :=
  match Link.takeOutgoing board.master with
  | (_, none) => board
  | (master, some bytes) =>
    let (terminal, slave, arrivals) :=
      board.terminal.feedAll (corrupt board.corruption bytes) board.slave
    { board with
      master, terminal, slave, corruption := none, arrivals := board.arrivals ++ arrivals }

def write (report : Report) (board : Loopback capacity) : Loopback capacity :=
  let (master, response) := board.master.serve (Frame.ofReport report)
  let heard := if board.muted then [] else response.toList
  let next := { board with
    master, reads := board.reads ++ board.beforeReply ++ heard, beforeReply := [] }
  if next.autoLink then next.serveLink else next

def read (board : Loopback capacity) : Loopback capacity × ReadResult :=
  match board.reads with
  | [] => (board, .ok none)
  | next :: rest => ({ board with reads := rest }, .ok (some next))

theorem length_reads_read_lt {board next : Loopback capacity} {frame : Frame}
    (h : board.read = (next, .ok (some frame))) : next.reads.length < board.reads.length := by
  rw [read] at h
  split at h
  · simp at h
  · rename_i hreads
    simp only [Prod.mk.injEq] at h
    simp [← h.1, hreads]

instance : Connection (Loopback capacity) where
  write report board := (board.write report, .ok ())
  read _ := read
  clock board := (board, 0)
  pause _ board := board
  stock _ board := board.reads.length
  stock_read_lt _ _ _ _ _ := length_reads_read_lt

end Loopback

/-- A loopback with a script of what comes when it has nothing to say, and with a place for a
fault.  The session is stopped at the end of the script. -/
structure Rehearsal (capacity : Nat) where
  board : Loopback capacity
  script : List ReadResult
  running : Bool
  written : List Report
  /-- The write that fails, and how. -/
  failAt : Option (Nat × HostFault)
  /-- The write from which on nothing comes back. -/
  muteAt : Option Nat

namespace Rehearsal

variable {capacity : Nat}

/-- Whether responses get lost from the next write on. -/
def mutes (stage : Rehearsal capacity) : Bool :=
  match stage.muteAt with
  | none => false
  | some place => place ≤ stage.written.length

def write (report : Report) (stage : Rehearsal capacity) :
    Rehearsal capacity × Except HostFault Unit :=
  match stage.failAt.filter (·.1 = stage.written.length) with
  | some (_, e) => (stage, .error e)
  | none =>
    let board := { stage.board with muted := stage.mutes }.write report
    ({ stage with board, written := stage.written ++ [report] }, .ok ())

def read (stage : Rehearsal capacity) : Rehearsal capacity × ReadResult :=
  match stage.board.reads with
  | next :: rest => ({ stage with board := { stage.board with reads := rest } }, .ok (some next))
  | [] =>
    if stage.board.muted then
      (stage, .ok none)
    else
      match stage.script with
      | next :: rest => ({ stage with script := rest }, next)
      | [] => ({ stage with running := false }, .ok none)

/-- The reports that are still to come. -/
def stock (stage : Rehearsal capacity) : Nat :=
  stage.board.reads.length + stage.script.length

theorem stock_read_lt {stage next : Rehearsal capacity} {frame : Frame}
    (h : stage.read = (next, .ok (some frame))) : next.stock < stage.stock := by
  rw [read] at h
  split at h
  · rename_i hreads
    simp only [Prod.mk.injEq] at h
    simp [← h.1, stock, hreads]
  · split at h
    · simp at h
    · split at h
      · rename_i hscript
        simp only [Prod.mk.injEq] at h
        simp [← h.1, stock, hscript]
      · simp at h

instance : Surroundings (Rehearsal capacity) where
  write := write
  read _ := read
  clock stage := (stage, 0)
  pause _ stage := stage
  stock _ := stock
  stock_read_lt _ _ _ _ _ := stock_read_lt
  running stage := (stage, stage.running)
  sample stage := (stage, { cpu := 0, memory := 0, swap := 0, disk := 0 })

/-- Rehearses a session.  Every turn uses up something of the script, or is the last one. -/
def run (options : Options) (stage : Rehearsal capacity) :
    Session (Rehearsal capacity) × Except HostFault SessionEnd :=
  Session.run options (stage.script.length + 2) stage

end Rehearsal

end SplitPanel.Host
