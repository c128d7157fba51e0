import SplitPanel.Proofs.Rendering
import SplitPanel.Proofs.ShownRows

/-!
# Two ways of drawing

A grid that is noted to hold no variable is drawn as it is, which is quicker than going through it
row by row.  The two ways come to the same for a grid without a zero and without a mark, and for one
of zeros alone.  Marks that nothing comes of do not make a difference either, but for one in the
last cell, which is not drawn when variables are expanded.
-/

namespace SplitPanel.Screen

/-- A whole grid of plain cells is shown as it is, without a mark in its last cell. -/
theorem Plain.expandRows_whole {name grid : List UInt8} (hplain : Plain name grid)
    (hzero : 0 ∉ grid) {cols rows : ℕ} (hlength : grid.length = rows * cols) :
    expandRows name cols grid rows 0 =
      if grid.getLast? = some variableMark then grid.dropLast else grid := by
  split
  · next hlast =>
    have hsplit : grid.dropLast ++ [variableMark] = grid :=
      List.dropLast_append_getLast? variableMark hlast
    have hgrid : (0 + rows) * cols = grid.dropLast.length + 1 := by
      rw [Nat.zero_add, ← hlength, ← hsplit, List.length_append, List.length_singleton, hsplit]
    have hrows : 0 < rows := by
      apply Nat.pos_of_ne_zero
      rintro rfl
      rw [Nat.zero_add, Nat.zero_mul] at hgrid
      contradiction
    rw [← hsplit] at hplain hzero
    have hshown := hplain.expandRows_eq_of_last hzero hgrid hrows
    rw [hsplit, Nat.zero_mul, List.drop_zero] at hshown
    exact hshown
  · next hlast =>
    rw [hplain.expandRows_eq hzero (by rw [Nat.zero_add, hlength]) fun _ => hlast, Nat.zero_mul,
      List.drop_zero, ← hlength, List.take_length]

namespace Buffers

variable {capacity : ℕ} {buffers : Buffers capacity}

/-- The buffers as if a variable was noted. -/
def expanding (buffers : Buffers capacity) : Buffers capacity :=
  { buffers with holdsVariable := true }

/-- The buffers as if no variable was noted. -/
def verbatim (buffers : Buffers capacity) : Buffers capacity :=
  { buffers with holdsVariable := false }

theorem render_expanding_of_plain (hfits : buffers.geometry.cells ≤ capacity)
    {source : NameSource} (hzero : 0 ∉ buffers.front)
    (hplain : Plain source.written buffers.front) :
    buffers.expanding.render source =
      if buffers.front.getLast? = some variableMark then buffers.front.dropLast
      else buffers.front := by
  have hlength : buffers.front.length =
      buffers.geometry.rows.toNat * buffers.geometry.cols.toNat := by
    rw [front, List.length_take, Vector.length_toList, min_eq_left hfits, Geometry.cells,
      Nat.mul_comm]
  exact hplain.expandRows_whole hzero hlength

theorem render_verbatim_of_no_zero (hzero : 0 ∉ buffers.front) (source : NameSource) :
    buffers.verbatim.render source = buffers.front := by
  show buffers.front.takeWhile (· != 0) = buffers.front
  rw [List.takeWhile_eq_self_iff]
  rintro cell hmem
  exact bne_iff_ne.mpr fun hcell => hzero (hcell ▸ hmem)

theorem render_verbatim_of_zeros (hzeros : ∀ cell ∈ buffers.front, cell = 0)
    (source : NameSource) : buffers.verbatim.render source = [] := by
  show buffers.front.takeWhile (· != 0) = []
  rw [List.takeWhile_eq_nil_iff]
  intro hlength
  rw [hzeros _ (List.get_mem ..)]
  exact Bool.false_ne_true

theorem render_expanding_of_no_mark (hfits : buffers.geometry.cells ≤ capacity)
    (hzero : 0 ∉ buffers.front) (hmark : variableMark ∉ buffers.front) (source : NameSource) :
    buffers.expanding.render source = buffers.front := by
  have hlast : buffers.front.getLast? ≠ some variableMark :=
    fun hlast => hmark (List.mem_of_getLast? hlast)
  rw [render_expanding_of_plain hfits hzero (plain_of_no_mark hmark), if_neg hlast]

theorem render_expanding_of_zeros (hzeros : ∀ cell ∈ buffers.front, cell = 0)
    (source : NameSource) : buffers.expanding.render source = [] :=
  expandRows_of_zeros _ hzeros _ _

/-- The way of drawing that is noted comes to the same as expanding. -/
theorem render_eq_render_expanding (hreachable : buffers.Reachable)
    (hgrid : 0 ∉ buffers.front ∨ ∀ cell ∈ buffers.front, cell = 0) (source : NameSource) :
    buffers.render source = buffers.expanding.render source := by
  rcases hgrid with hzero | hzeros
  · exact render_eq_expandRows hreachable hzero source
  · rw [render_expanding_of_zeros hzeros, render]
    split
    · exact render_expanding_of_zeros hzeros source
    · exact render_verbatim_of_zeros hzeros source

/-- Expanding draws plain cells as they are, but for a mark in the last one.  So for a grid without
a mark, and for an empty one, it does not matter which of the two ways is chosen, and neither does
it for a grid with marks of which it is noted that they are there. -/
theorem plain_grids_drawn_verbatim (hfits : buffers.geometry.check capacity = .ok ())
    (source : NameSource) :
    (0 ∉ buffers.front → Plain source.written buffers.front →
      (buffers.expanding.renderer source).Yields
        (if buffers.front.getLast? = some variableMark then buffers.front.dropLast
          else buffers.front)) ∧
    (0 ∉ buffers.front → variableMark ∉ buffers.front →
      (buffers.expanding.renderer source).Yields buffers.front ∧
        (buffers.verbatim.renderer source).Yields buffers.front) ∧
    ((∀ cell ∈ buffers.front, cell = 0) →
      (buffers.expanding.renderer source).Yields [] ∧
        (buffers.verbatim.renderer source).Yields []) ∧
    (buffers.Reachable → (0 ∉ buffers.front ∨ ∀ cell ∈ buffers.front, cell = 0) →
      ∃ shown, (buffers.renderer source).Yields shown ∧
        (buffers.expanding.renderer source).Yields shown) := by
  obtain ⟨hcols, -, hcells⟩ := Geometry.check_eq_ok_iff.mp hfits
  have hnoted := yields_renderer hcols source
  have hexpanding := yields_renderer (show buffers.expanding.geometry.cols ≠ 0 from hcols) source
  have hverbatim := yields_renderer (show buffers.verbatim.geometry.cols ≠ 0 from hcols) source
  refine ⟨?_, ?_, ?_, ?_⟩
  · intro hzero hplain
    rw [← render_expanding_of_plain hcells hzero hplain]
    exact hexpanding
  · intro hzero hmark
    rw [render_expanding_of_no_mark hcells hzero hmark] at hexpanding
    rw [render_verbatim_of_no_zero hzero] at hverbatim
    exact ⟨hexpanding, hverbatim⟩
  · intro hzeros
    rw [render_expanding_of_zeros hzeros] at hexpanding
    rw [render_verbatim_of_zeros hzeros] at hverbatim
    exact ⟨hexpanding, hverbatim⟩
  · intro hreachable hgrid
    rw [render_eq_render_expanding hreachable hgrid] at hnoted
    exact ⟨_, hnoted, hexpanding⟩

/-- Without a name a mark and a selector are drawn as they are, also across two rows; the mark in
the last cell is not. -/
theorem plain_grids_drawn_verbatim_of_empty_name :
    let buffers : Buffers 6 := {
      geometry := ⟨3, 2⟩
      frontCells := #v[0x25, 0x78, 0x25, 0x6C, 0x31, 0x25]
      backCells := #v[0x25, 0x78, 0x25, 0x6C, 0x31, 0x25]
      holdsVariable := true
      composed := true }
    let source : NameSource := { pieces := [[], []], completed := false }
    (buffers.expanding.renderer source).Yields [0x25, 0x78, 0x25, 0x6C, 0x31] := by
  intro buffers source
  have hfits : buffers.geometry.check 6 = .ok () := by decide
  exact (plain_grids_drawn_verbatim hfits source).1 (by decide) (.inl rfl)

/-- A zero among other cells ends its row in one way of drawing, and the whole screen in the
other. -/
example :
    let buffers : Buffers 4 := {
      geometry := ⟨2, 2⟩
      frontCells := #v[0x61, 0, 0x62, 0x63]
      backCells := #v[0x61, 0, 0x62, 0x63]
      holdsVariable := false
      composed := true }
    let source : NameSource := { pieces := [], completed := true }
    buffers.expanding.render source = [0x61, 0x62, 0x63] ∧
      buffers.verbatim.render source = [0x61] := by
  decide

end Buffers

end SplitPanel.Screen
