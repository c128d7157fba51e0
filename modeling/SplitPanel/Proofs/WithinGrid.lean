import SplitPanel.Proofs.BufferStates
import SplitPanel.Proofs.PanelUpkeep
import SplitPanel.Proofs.Rendering
import SplitPanel.Screen.Drawing

/-!
# Staying within the grid

No row is rendered to more than its width, so a screen never renders to more bytes than it has
cells, whatever a line was set to and however much is written for the name of a layer.  A blank grid
of the same size takes all of them one after the other, and the cells behind them stay blank.
-/

namespace SplitPanel.Screen

variable {capacity : ℕ}

theorem take_succ_set {cells : List UInt8} {place : ℕ} (hplace : place < cells.length)
    (cell : UInt8) : (cells.set place cell).take (place + 1) = cells.take place ++ [cell] := by
  have hlength : (cells.take place ++ [cell]).length = place + 1 := by
    rw [List.length_append, List.length_take_of_le hplace.le, List.length_singleton]
  rw [List.set_eq_take_append_cons_drop, if_pos hplace, List.append_cons]
  exact List.take_left' hlength

namespace CharGrid

variable {grid : CharGrid capacity}

theorem fits_of_make {geometry : Geometry} (hmake : make geometry = .ok grid) :
    geometry.cells ≤ capacity := by
  cases hcheck : geometry.check capacity with
  | error fault => simp [make, hcheck, bind, Except.bind] at hmake
  | ok _ => exact (Geometry.check_eq_ok_iff.mp hcheck).2.2

/-- A character with room for it is set at the cursor, which moves on. -/
theorem putChar_of_room {c : UInt8} (hbreak : c ≠ lineBreak)
    (hroom : grid.cursor < grid.geometry.cells) :
    ∃ next, putChar c grid = .ok next ∧ next.geometry = grid.geometry ∧
      next.cursor = grid.cursor + 1 ∧ next.content = grid.content.set grid.cursor c := by
  rw [putChar, if_neg hbreak, if_neg (Nat.not_le.mpr hroom)]
  refine ⟨_, rfl, rfl, rfl, ?_⟩
  rw [content, content, Vector.toList_setIfInBounds, List.take_set]

theorem length_content (hfits : grid.geometry.cells ≤ capacity) :
    grid.content.length = grid.geometry.cells := by
  rw [content, List.length_take, Vector.length_toList]
  exact min_eq_left hfits

/-- Characters with room for them are written one after the other, from the cursor on. -/
theorem write_of_room (grid : CharGrid capacity) (hfits : grid.geometry.cells ≤ capacity)
    {shown : List UInt8} (hbreak : lineBreak ∉ shown)
    (hroom : grid.cursor + shown.length ≤ grid.geometry.cells) :
    ∃ drawn, Display.write shown grid = (drawn, .ok ()) ∧
      drawn.content = grid.content.take grid.cursor ++ shown ++
        grid.content.drop (grid.cursor + shown.length) := by
  induction shown generalizing grid with
  | nil =>
      refine ⟨grid, rfl, ?_⟩
      rw [List.append_nil]
      exact (List.take_append_drop ..).symm
  | cons c rest ih =>
      rw [List.length_cons] at hroom ⊢
      have hcursor : grid.cursor < grid.geometry.cells := by omega
      have hplain : c ≠ lineBreak := by
        rintro rfl
        simp at hbreak
      obtain ⟨next, hput, hgeometry, hmoved, hset⟩ := putChar_of_room hplain hcursor
      rw [← hgeometry] at hfits hroom
      obtain ⟨drawn, hwrite, hcontent⟩ :=
        ih next hfits (List.not_mem_of_not_mem_cons hbreak) (by omega)
      refine ⟨drawn, ?_, ?_⟩
      · rw [Display.write, show Display.put c grid = .ok next from hput]
        exact hwrite
      · have hplace : grid.cursor < grid.content.length := by
          rw [length_content (hgeometry ▸ hfits)]
          exact hcursor
        rw [hcontent, hset, hmoved, take_succ_set hplace, List.drop_set_of_lt (by omega),
          List.append_assoc (grid.content.take grid.cursor), Nat.add_assoc, Nat.add_comm 1]
        rfl

/-- What fits into a new grid fills it from its first cell on, and the rest of it is blank. -/
theorem write_blank {geometry : Geometry} (hfits : geometry.cells ≤ capacity) {shown : List UInt8}
    (hbreak : lineBreak ∉ shown) (hroom : shown.length ≤ geometry.cells) :
    ∃ drawn, Display.write shown (blank geometry : CharGrid capacity) = (drawn, .ok ()) ∧
      drawn.content = shown ++ List.replicate (geometry.cells - shown.length) blankCell := by
  have hblank : (blank geometry : CharGrid capacity).content =
      List.replicate geometry.cells blankCell := by
    rw [content, blank, Vector.toList_replicate, List.take_replicate, min_eq_left hfits]
    rfl
  obtain ⟨drawn, hwrite, hcontent⟩ := write_of_room (blank geometry) hfits hbreak
    (le_of_eq_of_le (Nat.zero_add _) hroom)
  refine ⟨drawn, hwrite, ?_⟩
  rw [hcontent, hblank, List.drop_replicate, show (blank geometry : CharGrid capacity).cursor = 0
    from rfl, List.take_zero, List.nil_append, Nat.zero_add]

end CharGrid

namespace Buffers

variable {buffers : Buffers capacity}

/-- There are never more bytes to draw than cells. -/
theorem length_render_le (source : NameSource) (buffers : Buffers capacity) :
    (buffers.render source).length ≤ buffers.geometry.cells := by
  rw [render]
  split
  · rw [Geometry.cells, Nat.mul_comm]
    exact length_expandRows_le ..
  · exact (List.takeWhile_prefix _).length_le.trans (List.length_take_le ..)

/-- A screen renders to at most as many bytes as it has cells, and a new grid of its size takes all
of them, whatever lines were set, shown and cleared, and whatever is written for a layer name. -/
theorem rendered_within_grid (hreachable : buffers.Reachable) (source : NameSource) :
    (buffers.render source).length ≤ buffers.geometry.cells ∧
    (buffers.renderer source).Yields (buffers.render source) ∧
    (∀ count, ((buffers.renderer source).after count).InRange) ∧
    ∀ {room : ℕ} {grid : CharGrid room}, CharGrid.make buffers.geometry = .ok grid →
      lineBreak ∉ buffers.render source →
      ∃ drawn, buffers.draw source grid = (drawn, .ok buffers.isFilled) ∧
        (buffers.isFilled = true → drawn.content = buffers.render source ++
          List.replicate (buffers.geometry.cells - (buffers.render source).length) blankCell) ∧
        (buffers.isFilled = false → drawn = grid) := by
  have hcols := (Geometry.check_eq_ok_iff.mp hreachable.fits).1
  have hlength := length_render_le source buffers
  refine ⟨hlength, yields_renderer hcols source, (inRange_renderer hcols source).after, ?_⟩
  intro room grid hmake hbreak
  have hfits := CharGrid.fits_of_make hmake
  obtain rfl := CharGrid.make_eq_ok hmake
  cases hfilled : buffers.isFilled with
  | false =>
      refine ⟨.blank buffers.geometry, ?_, fun hshown => absurd hshown Bool.false_ne_true,
        fun _ => rfl⟩
      rw [draw, hfilled]
      rfl
  | true =>
      obtain ⟨drawn, hwrite, hcontent⟩ := CharGrid.write_blank hfits hbreak hlength
      refine ⟨drawn, ?_, fun _ => hcontent, fun hnone => absurd hnone.symm Bool.false_ne_true⟩
      rw [draw, hfilled, if_pos rfl, hwrite]

/-- On a screen of one column there is no room for a name.  The cells behind it move up, and are
shown in their own rows as well. -/
theorem rendered_within_grid_of_one_column :
    let buffers : Buffers 3 := {
      geometry := ⟨1, 3⟩
      frontCells := #v[0x25, 0x6C, 0x78]
      backCells := #v[0x25, 0x6C, 0x78]
      holdsVariable := true
      composed := true }
    let source : NameSource := { pieces := [[0x42, 0x61], [0x73, 0x65]], completed := false }
    buffers.render source = [0x78, 0x6C, 0x78] ∧
      (buffers.renderer source).Yields [0x78, 0x6C, 0x78] ∧
      ∃ drawn, buffers.draw source (CharGrid.blank ⟨1, 3⟩ : CharGrid 4) = (drawn, .ok true) ∧
        drawn.content = [0x78, 0x6C, 0x78] := by
  intro buffers source
  have hreachable : buffers.Reachable := by
    have hmake : Buffers.make ⟨1, 3⟩ = .ok (cleared ⟨1, 3⟩ : Buffers 3) := rfl
    exact ((((Reachable.make hmake).composeRow
      (composeRow_of_lt [0x25] (by decide : (0 : UInt8) < 3))).composeRow
      (composeRow_of_lt [0x6C] (by decide : (1 : UInt8) < 3))).composeRow
      (composeRow_of_lt [0x78] (by decide : (2 : UInt8) < 3))).present
  have hrender : buffers.render source = [0x78, 0x6C, 0x78] := by decide
  obtain ⟨-, hyields, -, hdrawn⟩ := rendered_within_grid hreachable source
  have hgrid : CharGrid.make ⟨1, 3⟩ = .ok (CharGrid.blank ⟨1, 3⟩ : CharGrid 4) := rfl
  obtain ⟨drawn, hdraw, hcontent, -⟩ := hdrawn hgrid (by decide)
  rw [hrender] at hyields hcontent
  exact ⟨hrender, hyields, drawn, hdraw, hcontent rfl⟩

end Buffers

end SplitPanel.Screen
