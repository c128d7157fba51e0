import SplitPanel.Station
import SplitPanel.Proofs.BufferStates
import SplitPanel.Proofs.FrameBytes

/-!
# What running a frame does

A frame is relayed, applied or refused, and which of the three is read off the frame and the
role of the station alone.  A relayed frame changes the outbox and nothing else, an applied one
the screen and nothing else, and a refused one nothing at all.
-/

namespace SplitPanel.Station

open Screen (Buffers)

variable {capacity : ℕ}

/-- A frame that the master's station parks for the other half. -/
def IsForOther (station : Station capacity) (frame : Frame) : Prop :=
  station.role = .master ∧ headerSize ≤ frame.length ∧
    frame.screenByte = Side.slave.toByte

/-- A frame for the screen of this half.  The slave's station takes frames for either screen
as its own. -/
def IsForHere (station : Station capacity) (frame : Frame) : Prop :=
  headerSize ≤ frame.length ∧
    (frame.screenByte = Side.master.toByte ∨
      station.role = .slave ∧ frame.screenByte = Side.slave.toByte)

/-- A frame that runs the given command here.  A line can only be set if it is named and on the
screen. -/
def IsRunnable (station : Station capacity) (frame : Frame) (command : Command) : Prop :=
  station.IsForHere frame ∧ Command.ofByte? frame.commandByte = some command ∧
    (command = .setLine →
      ∃ line, frame.bytes[headerSize]? = some line ∧ line < station.screen.geometry.rows)

/-- What a command with a payload makes of a screen. -/
inductive Stores : Command → List UInt8 → Buffers capacity → Buffers capacity → Prop where
  | setUp (payload : List UInt8) (screen : Buffers capacity) :
      Stores .setUp payload screen screen.clear
  | clear (payload : List UInt8) (screen : Buffers capacity) :
      Stores .clear payload screen screen.clear
  | setLine {line : UInt8} {text : List UInt8} {screen next : Buffers capacity}
      (hnext : screen.composeRow line (lineText text) = .ok next) :
      Stores .setLine (line :: text) screen next
  | present (payload : List UInt8) (screen : Buffers capacity) :
      Stores .present payload screen screen.present

/-- Only a line that cannot be set makes a command fail. -/
theorem runOnScreen_cases (command : Command) (payload : List UInt8)
    (screen : Buffers capacity) :
    (∃ next answer, runOnScreen command payload screen = .ok (next, answer) ∧
      Stores command payload screen next ∧
      (command = .setLine →
        ∃ line, payload.head? = some line ∧ line < screen.geometry.rows)) ∨
    (∃ fault, runOnScreen command payload screen = .error fault) ∧ command = .setLine ∧
      ∀ line, payload.head? = some line → ¬ line < screen.geometry.rows := by
  cases command with
  | setUp => exact .inl ⟨_, _, rfl, .setUp payload screen, by simp⟩
  | clear => exact .inl ⟨_, _, rfl, .clear payload screen, by simp⟩
  | present => exact .inl ⟨_, _, rfl, .present payload screen, by simp⟩
  | setLine =>
      cases payload with
      | nil => exact .inr ⟨⟨_, rfl⟩, rfl, by simp⟩
      | cons line text =>
          by_cases hline : line < screen.geometry.rows
          · have hnext := screen.composeRow_of_lt (lineText text) hline
            refine .inl ⟨_, none, ?_, .setLine hnext, fun _ => ⟨line, rfl, hline⟩⟩
            rw [runOnScreen, hnext]
          · have hfault := screen.composeRow_of_not_lt (lineText text) hline
            refine .inr ⟨⟨.lineOutOfBounds line screen.geometry.rows, ?_⟩, rfl, ?_⟩
            · rw [runOnScreen, hfault]
            · simpa using hline

theorem make_eq_ok {role : Side} {geometry : Screen.Geometry} {station : Station capacity}
    (hmake : make role geometry = .ok station) :
    station.role = role ∧ station.outbox = .empty := by
  cases hscreen : (Buffers.make geometry : Except _ (Buffers capacity)) with
  | error fault => simp [make, hscreen, bind, Except.bind] at hmake
  | ok screen =>
      simp only [make, hscreen, bind, Except.bind, pure, Except.pure, Except.ok.injEq] at hmake
      subst hmake
      exact ⟨rfl, rfl⟩

/-! ## The three ends of a frame -/

theorem IsForOther.not_isForHere {station : Station capacity} {frame : Frame}
    (hother : station.IsForOther frame) : ¬ station.IsForHere frame := by
  obtain ⟨hrole, -, hscreen⟩ := hother
  rintro ⟨-, hmaster | ⟨hslave, -⟩⟩
  · rw [hscreen] at hmaster
    exact absurd hmaster (by decide)
  · rw [hrole] at hslave
    contradiction

theorem IsRunnable.command_unique {station : Station capacity} {frame : Frame}
    {first second : Command} (hfirst : station.IsRunnable frame first)
    (hsecond : station.IsRunnable frame second) : first = second :=
  Option.some.inj (hfirst.2.1.symm.trans hsecond.2.1)

theorem effectOf_of_isForOther {station : Station capacity} {frame : Frame}
    (hother : station.IsForOther frame) :
    station.effectOf frame = .ok (station.relay frame) := by
  obtain ⟨hrole, hheader, hscreen⟩ := hother
  simp [effectOf, Frame.request_of_header hheader, hscreen, hrole]

/-- A frame that is neither relayed nor for this half is refused before its command is read. -/
theorem effectOf_of_unknownScreen {station : Station capacity} {frame : Frame}
    (hheader : headerSize ≤ frame.length) (hother : ¬ station.IsForOther frame)
    (hhere : ¬ station.IsForHere frame) :
    station.effectOf frame = .error (.unknownScreen frame.screenByte) := by
  rw [effectOf, Frame.request_of_header hheader]
  cases hscreen : Side.ofByte? frame.screenByte with
  | none => simp [hscreen]
  | some side =>
      have hbyte := Side.ofByte?_eq_some_iff.mp hscreen
      cases side with
      | master => exact absurd ⟨hheader, .inl hbyte⟩ hhere
      | slave =>
          cases hrole : station.role with
          | master => exact absurd ⟨hrole, hheader, hbyte⟩ hother
          | slave => exact absurd ⟨hheader, .inr ⟨hrole, hbyte⟩⟩ hhere

theorem effectOf_of_short {station : Station capacity} {frame : Frame}
    (hshort : frame.length < headerSize) :
    station.effectOf frame = .error .frameTooShort := by
  rw [effectOf, Frame.request_of_short hshort]

/-- A frame for this half is a command for its screen, and does what that does. -/
theorem effectOf_of_isForHere {station : Station capacity} {frame : Frame}
    (hhere : station.IsForHere frame) :
    station.effectOf frame =
      match Command.ofByte? frame.commandByte with
      | none => .error (.unknownCommand frame.commandByte)
      | some command =>
        match runOnScreen command (frame.bytes.drop headerSize) station.screen with
        | .error fault => .error fault
        | .ok (screen, payload) =>
          .ok { station := { station with screen }, outcome := .applied command, payload } := by
  obtain ⟨hheader, hscreen⟩ := hhere
  rw [effectOf, Frame.request_of_header hheader]
  rcases hscreen with hmaster | ⟨hrole, hslave⟩
  · simp only [hmaster, Side.ofByte?_toByte]
    rfl
  · simp only [hslave, Side.ofByte?_toByte, hrole]
    rfl

/-- Whatever is asked of a station, it parks the frame, or stores into the screen what the
command says, or fails. -/
theorem effectOf_cases (station : Station capacity) (frame : Frame) :
    station.IsForOther frame ∧ station.effectOf frame = .ok (station.relay frame) ∨
    (∃ command screen payload, station.IsRunnable frame command ∧
      Stores command (frame.bytes.drop headerSize) station.screen screen ∧
      station.effectOf frame =
        .ok { station := { station with screen }, outcome := .applied command, payload }) ∨
    ¬ station.IsForOther frame ∧ (∀ command, ¬ station.IsRunnable frame command) ∧
      ∃ fault, station.effectOf frame = .error fault := by
  by_cases hother : station.IsForOther frame
  · exact .inl ⟨hother, effectOf_of_isForOther hother⟩
  by_cases hhere : station.IsForHere frame
  · rw [effectOf_of_isForHere hhere]
    cases hcommand : Command.ofByte? frame.commandByte with
    | none =>
        refine .inr (.inr ⟨hother, fun command hrun => ?_, _, rfl⟩)
        exact absurd (hcommand.symm.trans hrun.2.1) (by simp)
    | some command =>
        rcases runOnScreen_cases command (frame.bytes.drop headerSize) station.screen with
          ⟨screen, payload, hrun, hstores, hline⟩ | ⟨⟨fault, hfault⟩, rfl, hline⟩
        · rw [List.head?_drop] at hline
          refine .inr (.inl ⟨command, screen, payload, ⟨hhere, hcommand, hline⟩, hstores, ?_⟩)
          simp only [hrun]
        · refine .inr (.inr ⟨hother, fun other hrunnable => ?_, fault, ?_⟩)
          · obtain ⟨-, hbyte, hnamed⟩ := hrunnable
            obtain ⟨line, hhead, hrows⟩ := hnamed (Option.some.inj (hbyte.symm.trans hcommand))
            rw [← List.head?_drop] at hhead
            exact hline line hhead hrows
          · simp only [hfault]
  · refine .inr (.inr ⟨hother, fun _ hrun => hhere hrun.1, ?_⟩)
    by_cases hheader : headerSize ≤ frame.length
    · exact ⟨_, effectOf_of_unknownScreen hheader hother hhere⟩
    · exact ⟨_, effectOf_of_short (Nat.not_le.mp hheader)⟩

theorem IsForOther.minResponse_le {station : Station capacity} {frame : Frame}
    (hother : station.IsForOther frame) : minResponse ≤ frame.length :=
  le_trans (by decide) hother.2.1

theorem IsRunnable.minResponse_le {station : Station capacity} {frame : Frame}
    {command : Command} (hrun : station.IsRunnable frame command) :
    minResponse ≤ frame.length :=
  le_trans (by decide) hrun.1.1

/-- A frame that cannot carry a response is not run. -/
theorem run_of_short {station : Station capacity} {frame : Frame}
    (hshort : frame.length < minResponse) :
    station.run frame =
      { station, response := frame, outcome := .error .frameTooShort } := by
  rw [run, if_pos hshort]

theorem run_of_fault {station : Station capacity} {frame : Frame} {fault : RunFault}
    (hlength : minResponse ≤ frame.length) (hfault : station.effectOf frame = .error fault) :
    station.run frame =
      { station, response := frame.markResponse .failure, outcome := .error fault } := by
  simp only [run, if_neg (Nat.not_lt.mpr hlength), hfault]

theorem run_of_effect {station : Station capacity} {frame : Frame} {effect : Effect capacity}
    (hlength : minResponse ≤ frame.length) (heffect : station.effectOf frame = .ok effect) :
    station.run frame =
      { station := effect.station
        response := (answered effect.payload (frame.markResponse .failure)).markResult .success
        outcome := .ok effect.outcome } := by
  simp only [run, if_neg (Nat.not_lt.mpr hlength), heffect]

/-- What one frame does to a station, in three cases. -/
theorem run_cases (station : Station capacity) (frame : Frame) :
    -- The frame waits in the outbox, as it came, for the other half.
    (station.IsForOther frame ∧
      (station.run frame).outcome = .ok (.relayed station.outbox.pending) ∧
      (station.run frame).station =
        { station with
          outbox := { message := Report.ofBytes frame.bytes, pending := true } }) ∨
    -- The screen is what the command makes of it.
    (∃ command screen, station.IsRunnable frame command ∧
      Stores command (frame.bytes.drop headerSize) station.screen screen ∧
      (station.run frame).outcome = .ok (.applied command) ∧
      (station.run frame).station = { station with screen }) ∨
    -- Nothing happens.
    (¬ station.IsForOther frame ∧ (∀ command, ¬ station.IsRunnable frame command) ∧
      (∃ fault, (station.run frame).outcome = .error fault) ∧
      (station.run frame).station = station) := by
  rcases effectOf_cases station frame with
    ⟨hother, heffect⟩ | ⟨command, screen, payload, hrun, hstores, heffect⟩ |
    ⟨hother, hrun, fault, hfault⟩
  · rw [run_of_effect hother.minResponse_le heffect]
    exact .inl ⟨hother, rfl, rfl⟩
  · rw [run_of_effect hrun.minResponse_le heffect]
    exact .inr (.inl ⟨command, screen, hrun, hstores, rfl, rfl⟩)
  · refine .inr (.inr ⟨hother, hrun, ?_⟩)
    by_cases hshort : frame.length < minResponse
    · rw [run_of_short hshort]
      exact ⟨⟨_, rfl⟩, rfl⟩
    · rw [run_of_fault (Nat.not_lt.mp hshort) hfault]
      exact ⟨⟨fault, rfl⟩, rfl⟩

@[simp]
theorem role_run (station : Station capacity) (frame : Frame) :
    (station.run frame).station.role = station.role := by
  rcases run_cases station frame with
    ⟨-, -, hstation⟩ | ⟨_, _, -, -, -, hstation⟩ | ⟨-, -, -, hstation⟩ <;> rw [hstation]

/-- A frame leaves the screen as it is, or a command is stored into it. -/
theorem screen_run_eq_or_stores (station : Station capacity) (frame : Frame) :
    (station.run frame).station.screen = station.screen ∨
      ∃ command, Stores command (frame.bytes.drop headerSize) station.screen
        (station.run frame).station.screen := by
  rcases run_cases station frame with
    ⟨-, -, hstation⟩ | ⟨command, screen, -, hstores, -, hstation⟩ | ⟨-, -, -, hstation⟩
  · rw [hstation]
    exact .inl rfl
  · rw [hstation]
    exact .inr ⟨command, hstores⟩
  · rw [hstation]
    exact .inl rfl

theorem Stores.geometry_eq {command : Command} {payload : List UInt8}
    {screen next : Buffers capacity} (hstores : Stores command payload screen next) :
    next.geometry = screen.geometry := by
  cases hstores with
  | setUp => rfl
  | clear => rfl
  | setLine hnext =>
      obtain ⟨-, rfl⟩ := Buffers.composeRow_eq_ok hnext
      rfl
  | present => exact Buffers.geometry_present _

/-- No frame changes the size of the screen. -/
@[simp]
theorem geometry_run (station : Station capacity) (frame : Frame) :
    (station.run frame).station.screen.geometry = station.screen.geometry := by
  rcases screen_run_eq_or_stores station frame with hscreen | ⟨_, hstores⟩
  · rw [hscreen]
  · exact hstores.geometry_eq

/-- Only the slave's station runs frames from the link. -/
theorem runRelayed_of_master {station : Station capacity} (hrole : station.role = .master)
    (bytes : List UInt8) : station.runRelayed bytes = (station, .error .notSlave) := by
  rw [runRelayed, if_pos hrole]

/-- At the slave's station a report from the link is run as a full frame. -/
theorem runRelayed_of_slave {station : Station capacity} (hrole : station.role = .slave)
    (report : Report) :
    station.runRelayed report.toList =
      ((station.run (.ofReport report)).station, (station.run (.ofReport report)).outcome) := by
  have hmaster : station.role ≠ .master := by simp [hrole]
  have hframe : Frame.ofPrefix report.toList = .ok (.ofReport report) := by
    have hempty : report.toList.isEmpty = false := by
      rw [← Bool.not_eq_true, List.isEmpty_iff_length_eq_zero, Vector.length_toList]
      decide
    have htake : report.toList.take reportSize = report.toList :=
      List.take_of_length_le (le_of_eq report.length_toList)
    simp [Frame.ofPrefix, hempty, htake, Frame.holding, Frame.ofReport]
  simp only [runRelayed, if_neg hmaster, hframe]

theorem outcome_eq_relayed_iff (station : Station capacity) (frame : Frame)
    (overwritten : Bool) :
    (station.run frame).outcome = .ok (.relayed overwritten) ↔
      station.IsForOther frame ∧ overwritten = station.outbox.pending := by
  rcases run_cases station frame with
    ⟨hother, houtcome, -⟩ | ⟨command, screen, hrun, -, houtcome, -⟩ |
    ⟨hother, -, ⟨fault, houtcome⟩, -⟩
  · simp [houtcome, hother, eq_comm]
  · have hother : ¬ station.IsForOther frame := fun hother => hother.not_isForHere hrun.1
    simp [houtcome, hother]
  · simp [houtcome, hother]

theorem outcome_eq_applied_iff (station : Station capacity) (frame : Frame)
    (command : Command) :
    (station.run frame).outcome = .ok (.applied command) ↔
      station.IsRunnable frame command := by
  rcases run_cases station frame with
    ⟨hother, houtcome, -⟩ | ⟨other, screen, hrun, -, houtcome, -⟩ |
    ⟨-, hrun, ⟨fault, houtcome⟩, -⟩
  · have hrun : ¬ station.IsRunnable frame command :=
      fun hrun => hother.not_isForHere hrun.1
    simp [houtcome, hrun]
  · rw [houtcome]
    constructor
    · rintro ⟨⟩
      exact hrun
    · intro hcommand
      rw [hrun.command_unique hcommand]
  · simp [houtcome, hrun command]

/-- A refused frame leaves the station alone. -/
theorem station_run_of_fault {station : Station capacity} {frame : Frame} {fault : RunFault}
    (hfault : (station.run frame).outcome = .error fault) :
    (station.run frame).station = station := by
  rcases run_cases station frame with
    ⟨-, houtcome, -⟩ | ⟨_, _, -, -, houtcome, -⟩ | ⟨-, -, -, hstation⟩
  · simp [houtcome] at hfault
  · simp [houtcome] at hfault
  · exact hstation

/-- A relayed frame goes to the outbox as it came, filled up with zeros. -/
theorem station_run_of_relayed {station : Station capacity} {frame : Frame}
    {overwritten : Bool} (hrelayed : (station.run frame).outcome = .ok (.relayed overwritten)) :
    (station.run frame).station =
      { station with
        outbox := { message := Report.ofBytes frame.bytes, pending := true } } := by
  rcases run_cases station frame with
    ⟨-, -, hstation⟩ | ⟨_, _, -, -, houtcome, -⟩ | ⟨-, -, ⟨_, houtcome⟩, -⟩
  · exact hstation
  · simp [houtcome] at hrelayed
  · simp [houtcome] at hrelayed

/-- What waits in the outbox are the bytes of the frame, with zeros behind them. -/
theorem toList_message_of_relayed {station : Station capacity} {frame : Frame}
    {overwritten : Bool} (hrelayed : (station.run frame).outcome = .ok (.relayed overwritten)) :
    (station.run frame).station.outbox.message.toList =
      frame.bytes ++ List.replicate (reportSize - frame.bytes.length) 0 := by
  rw [station_run_of_relayed hrelayed]
  exact Report.toList_ofBytes frame.length_bytes_le

/-- An applied frame changes the screen as its command says. -/
theorem station_run_of_applied {station : Station capacity} {frame : Frame}
    {command : Command} (happlied : (station.run frame).outcome = .ok (.applied command)) :
    ∃ screen, Stores command (frame.bytes.drop headerSize) station.screen screen ∧
      (station.run frame).station = { station with screen } := by
  rcases run_cases station frame with
    ⟨-, houtcome, -⟩ | ⟨other, screen, -, hstores, houtcome, hstation⟩ |
    ⟨-, -, ⟨_, houtcome⟩, -⟩
  · simp [houtcome] at happlied
  · rw [houtcome] at happlied
    cases happlied
    exact ⟨screen, hstores, hstation⟩
  · simp [houtcome] at happlied

/-- A frame does all of what it asks for or nothing.  A refused one leaves the station alone.
One is relayed exactly if it is for the other half, and then waits in the outbox as it came, with
zeros behind its bytes; one is applied exactly if it is runnable here, and then only the screen is
stored to. -/
theorem run_all_or_nothing (station : Station capacity) (frame : Frame) :
    (∀ fault, (station.run frame).outcome = .error fault →
      (station.run frame).station = station) ∧
    (∀ overwritten, (station.run frame).outcome = .ok (.relayed overwritten) ↔
      station.IsForOther frame ∧ overwritten = station.outbox.pending) ∧
    (∀ overwritten, (station.run frame).outcome = .ok (.relayed overwritten) →
      (station.run frame).station =
        { station with
          outbox := { message := Report.ofBytes frame.bytes, pending := true } } ∧
      (station.run frame).station.outbox.message.toList =
        frame.bytes ++ List.replicate (reportSize - frame.bytes.length) 0) ∧
    (∀ command, (station.run frame).outcome = .ok (.applied command) ↔
      station.IsRunnable frame command) ∧
    (∀ command, (station.run frame).outcome = .ok (.applied command) →
      ∃ screen, Stores command (frame.bytes.drop headerSize) station.screen screen ∧
        (station.run frame).station = { station with screen }) ∧
    (∀ bytes, station.role = .master →
      station.runRelayed bytes = (station, .error .notSlave)) :=
  ⟨fun _ hfault => station_run_of_fault hfault,
    outcome_eq_relayed_iff station frame,
    fun _ hrelayed =>
      ⟨station_run_of_relayed hrelayed, toList_message_of_relayed hrelayed⟩,
    outcome_eq_applied_iff station frame,
    fun _ happlied => station_run_of_applied happlied,
    fun bytes hrole => runRelayed_of_master hrole bytes⟩

end SplitPanel.Station
