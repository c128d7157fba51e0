import Mathlib.Data.List.TakeWhile
import SplitPanel.Proofs.Execution

/-!
# Whole grids

Frames may hold any bytes, but a text ends at its first zero before it is set.  So the back grid
never holds a zero, and the front grid, which is shown as a whole or emptied as a whole, holds
nothing but zeros or none at all.  The first cell alone tells whether the host has put something
on the screen.
-/

namespace SplitPanel

namespace Screen.Buffers

variable {capacity : ℕ}

/-- Grids into which no zero got but by emptying the front grid as a whole. -/
structure Whole (buffers : Buffers capacity) : Prop where
  fits : buffers.geometry.check capacity = .ok ()
  zero_notMem_back : 0 ∉ buffers.back
  front_empty_or_full :
    buffers.front = List.replicate buffers.geometry.cells 0 ∨ 0 ∉ buffers.front

theorem mem_back_iff {buffers : Buffers capacity} {byte : UInt8} :
    byte ∈ buffers.back ↔ ∃ (place : ℕ) (hplace : place < capacity),
      place < buffers.geometry.cells ∧ buffers.backCells[place] = byte := by
  rw [back, List.mem_take_iff_getElem]
  constructor
  · rintro ⟨place, hplace, hbyte⟩
    rw [Vector.length_toList] at hplace
    rw [Vector.getElem_toList] at hbyte
    exact ⟨place, lt_of_lt_of_le hplace (min_le_right _ _),
      lt_of_lt_of_le hplace (min_le_left _ _), hbyte⟩
  · rintro ⟨place, hplace, hcells, hbyte⟩
    refine ⟨place, ?_, ?_⟩
    · rw [Vector.length_toList]
      exact lt_min hcells hplace
    · rw [Vector.getElem_toList]
      exact hbyte

theorem whole_cleared {geometry : Geometry} (hcheck : geometry.check capacity = .ok ()) :
    (cleared geometry : Buffers capacity).Whole where
  fits := hcheck
  zero_notMem_back := by
    rw [mem_back_iff]
    rintro ⟨place, hplace, -, hzero⟩
    have hblank : (cleared geometry : Buffers capacity).backCells[place] = blankCell :=
      Vector.getElem_replicate hplace
    rw [hblank] at hzero
    exact absurd hzero (by decide)
  front_empty_or_full := by
    left
    rw [front_cleared, min_eq_left (Geometry.check_eq_ok_iff.mp hcheck).2.2]
    rfl

theorem Whole.clear {buffers : Buffers capacity} (hwhole : buffers.Whole) :
    buffers.clear.Whole :=
  whole_cleared hwhole.fits

/-- A text without zeros puts none into its row. -/
theorem Whole.composeRow {buffers next : Buffers capacity} {line : UInt8} {text : List UInt8}
    (hwhole : buffers.Whole) (htext : 0 ∉ text) (hnext : buffers.composeRow line text = .ok next) :
    next.Whole := by
  obtain ⟨-, rfl⟩ := composeRow_eq_ok hnext
  refine ⟨hwhole.fits, ?_, hwhole.front_empty_or_full⟩
  rw [mem_back_iff]
  rintro ⟨place, hplace, hcells, hzero⟩
  simp only [withRow, Vector.getElem_ofFn] at hzero
  split at hzero
  · rw [List.getD_eq_getElem?_getD] at hzero
    cases hletter : text[place - line.toNat * buffers.geometry.cols.toNat]? with
    | none =>
        rw [hletter] at hzero
        exact absurd hzero (by decide)
    | some letter =>
        rw [hletter, Option.getD_some] at hzero
        subst hzero
        exact htext (List.mem_of_getElem? hletter)
  · exact hwhole.zero_notMem_back (mem_back_iff.mpr ⟨place, hplace, hcells, hzero⟩)

theorem Whole.present {buffers : Buffers capacity} (hwhole : buffers.Whole) :
    buffers.present.Whole where
  fits := by
    rw [geometry_present]
    exact hwhole.fits
  zero_notMem_back := by
    have hback : buffers.present.back = buffers.back := by
      rw [Buffers.present]
      split <;> rfl
    rw [hback]
    exact hwhole.zero_notMem_back
  front_empty_or_full := by
    by_cases hcomposed : buffers.composed = true
    · right
      rw [front_present_of_composed hcomposed]
      exact hwhole.zero_notMem_back
    · left
      rw [front_present_of_not_composed hcomposed, geometry_present,
        min_eq_left (Geometry.check_eq_ok_iff.mp hwhole.fits).2.2]

/-- The first cell speaks for the whole front grid. -/
theorem Whole.isFilled_iff {buffers : Buffers capacity} (hwhole : buffers.Whole) :
    buffers.isFilled = true ↔ ∃ cell ∈ buffers.front, cell ≠ 0 := by
  obtain ⟨hcols, hrows, hcells⟩ := Geometry.check_eq_ok_iff.mp hwhole.fits
  have hpos : 0 < buffers.geometry.cells :=
    Nat.mul_pos (UInt8.pos_iff_ne_zero.mpr hcols) (UInt8.pos_iff_ne_zero.mpr hrows)
  cases hfront : buffers.frontCells.toList with
  | nil =>
      have hlength : buffers.frontCells.toList.length = capacity := Vector.length_toList ..
      rw [hfront] at hlength
      exact absurd (lt_of_lt_of_le hpos hcells) (Nat.not_lt.mpr (le_of_eq hlength.symm))
  | cons first rest =>
      have hmem : first ∈ buffers.front := by
        rw [front, hfront, List.mem_take_iff_getElem]
        exact ⟨0, lt_min hpos (Nat.succ_pos _), rfl⟩
      have hfilled : buffers.isFilled = true ↔ first ≠ 0 := by
        simp [isFilled, hfront]
      rw [hfilled]
      constructor
      · intro hfirst
        exact ⟨first, hmem, hfirst⟩
      · rintro ⟨cell, hcell, hne⟩ rfl
        rcases hwhole.front_empty_or_full with hempty | hfull
        · rw [hempty] at hcell
          exact hne (List.eq_of_mem_replicate hcell)
        · exact hfull hmem

end Screen.Buffers

namespace Station

open Screen (Buffers)

variable {capacity : ℕ}

/-- The ways in which bytes are given to a station. -/
inductive Intake where
  /-- A report of the host, which is answered. -/
  | served (frame : Frame)
  | ran (frame : Frame)
  /-- Bytes that came over the link. -/
  | relayed (bytes : List UInt8)
  /-- Whatever lies in an inbox. -/
  | delivered (inbox : Inbox)

def accept (station : Station capacity) : Intake → Station capacity
  | .served frame => (station.serve frame).1
  | .ran frame => (station.run frame).station
  | .relayed bytes => (station.runRelayed bytes).1
  | .delivered inbox => (station.runInbox inbox).2.1

def acceptAll (intakes : List Intake) (station : Station capacity) : Station capacity :=
  intakes.foldl accept station

theorem relayed_eq_self_or_run (station : Station capacity) (bytes : List UInt8) :
    (station.runRelayed bytes).1 = station ∨
      ∃ frame, (station.runRelayed bytes).1 = (station.run frame).station := by
  rw [runRelayed]
  split
  · exact .inl rfl
  · cases Frame.ofPrefix bytes with
    | error _ => exact .inl rfl
    | ok frame => exact .inr ⟨frame, rfl⟩

/-- However bytes are given to a station, they are run as a frame or not at all. -/
theorem accept_eq_self_or_run (station : Station capacity) (intake : Intake) :
    station.accept intake = station ∨
      ∃ frame, station.accept intake = (station.run frame).station := by
  cases intake with
  | served frame => exact .inr ⟨frame, rfl⟩
  | ran frame => exact .inr ⟨frame, rfl⟩
  | relayed bytes => exact station.relayed_eq_self_or_run bytes
  | delivered inbox =>
      rw [accept, runInbox, Inbox.take]
      cases inbox.fresh with
      | false => exact .inl rfl
      | true => exact station.relayed_eq_self_or_run inbox.message.toList

theorem zero_notMem_lineText (bytes : List UInt8) : 0 ∉ lineText bytes := by
  intro hmem
  have hzero := List.mem_takeWhile_imp hmem
  exact absurd hzero (by decide)

theorem Stores.whole {command : Command} {payload : List UInt8} {screen next : Buffers capacity}
    (hstores : Stores command payload screen next) (hwhole : screen.Whole) : next.Whole := by
  cases hstores with
  | setUp => exact hwhole.clear
  | clear => exact hwhole.clear
  | setLine hnext => exact hwhole.composeRow (zero_notMem_lineText _) hnext
  | present => exact hwhole.present

theorem whole_run {station : Station capacity} (hwhole : station.screen.Whole) (frame : Frame) :
    (station.run frame).station.screen.Whole := by
  rcases screen_run_eq_or_stores station frame with hscreen | ⟨_, hstores⟩
  · rw [hscreen]
    exact hwhole
  · exact hstores.whole hwhole

/-- What every frame keeps holds after any number of them, in whatever way they are given. -/
theorem acceptAll_induction {P : Station capacity → Prop}
    (hrun : ∀ station frame, P station → P (station.run frame).station) {station : Station capacity}
    (hstart : P station) (intakes : List Intake) : P (station.acceptAll intakes) := by
  induction intakes generalizing station with
  | nil => exact hstart
  | cons intake rest ih =>
      apply ih
      rcases accept_eq_self_or_run station intake with hself | ⟨frame, htaken⟩
      · rw [hself]
        exact hstart
      · rw [htaken]
        exact hrun station frame hstart

theorem whole_acceptAll {station : Station capacity} (hwhole : station.screen.Whole)
    (intakes : List Intake) : (station.acceptAll intakes).screen.Whole :=
  acceptAll_induction (P := fun next => next.screen.Whole)
    (fun _ frame hnext => whole_run hnext frame) hwhole intakes

theorem geometry_acceptAll (station : Station capacity) (intakes : List Intake) :
    (station.acceptAll intakes).screen.geometry = station.screen.geometry :=
  acceptAll_induction (P := fun next => next.screen.geometry = station.screen.geometry)
    (fun next frame hnext => (geometry_run next frame).trans hnext) rfl intakes

/-- Whatever is given to the new station of a half, its back grid holds no zero, and its front grid
holds nothing but zeros or none.  So a look at the first cell of the front grid is enough to find
whether there is anything on the screen. -/
theorem grids_acceptAll {geometry : Screen.Geometry} (hcheck : geometry.check capacity = .ok ())
    (role : Side) :
    ∃ start : Station capacity, make role geometry = .ok start ∧ ∀ intakes : List Intake,
      0 ∉ (start.acceptAll intakes).screen.back ∧
      ((start.acceptAll intakes).screen.front = List.replicate geometry.cells 0 ∨
        0 ∉ (start.acceptAll intakes).screen.front) ∧
      ((start.acceptAll intakes).screen.isFilled = true ↔
        ∃ cell ∈ (start.acceptAll intakes).screen.front, cell ≠ 0) := by
  have hmake : make role geometry =
      .ok { role, screen := (.cleared geometry : Buffers capacity), outbox := .empty } := by
    rw [make, Buffers.make, hcheck]
    rfl
  refine ⟨_, hmake, ?_⟩
  intro intakes
  have hstart : (Station.mk role (.cleared geometry : Buffers capacity) .empty).screen.Whole :=
    Buffers.whole_cleared hcheck
  have hwhole := whole_acceptAll hstart intakes
  refine ⟨hwhole.zero_notMem_back, ?_, hwhole.isFilled_iff⟩
  have hempty := hwhole.front_empty_or_full
  rw [geometry_acceptAll] at hempty
  exact hempty

/-- A text with a zero in the middle, set over the link and then shown. -/
theorem grids_acceptAll_of_zero_in_text :
    Screen.Geometry.check ⟨3, 2⟩ 8 = .ok () ∧ ∃ start : Station 8, make .slave ⟨3, 2⟩ = .ok start ∧
      0 ∉ (start.acceptAll [.relayed [2, 0, 2, 1, 0, 0x61, 0, 0x62]]).screen.back ∧
      ((start.acceptAll [.relayed [2, 0, 2, 1, 0, 0x61, 0, 0x62],
        .served (.holding [2, 0, 3, 1])]).screen.isFilled = true ↔
        ∃ cell ∈ (start.acceptAll [.relayed [2, 0, 2, 1, 0, 0x61, 0, 0x62],
          .served (.holding [2, 0, 3, 1])]).screen.front, cell ≠ 0) := by
  have hcheck : Screen.Geometry.check ⟨3, 2⟩ 8 = .ok () := rfl
  obtain ⟨start, hmake, hgrids⟩ := grids_acceptAll hcheck .slave
  exact ⟨hcheck, start, hmake, (hgrids _).1, (hgrids _).2.2⟩

end Station

end SplitPanel
