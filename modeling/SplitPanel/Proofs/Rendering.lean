import Mathlib.Data.Nat.Notation
import SplitPanel.Proofs.RowExpansion
import SplitPanel.Screen.Renderer

/-!
# Rendering

What a renderer will still hand out can be told from where it is.  A turn that returns nothing does
not change it, and one that returns a byte takes away the first.  So a renderer hands out the bytes
of its screen one after the other, and nothing behind them.  On its way it never leaves its row by
more than one column, and an expansion never fills the room that is kept for it.
-/

namespace SplitPanel.Screen

/-! ## The expansion writer -/

namespace Clip

theorem kept_foldl_write (pieces : List (List UInt8)) (clip : Clip) :
    (pieces.foldl write clip).kept =
      clip.kept ++ pieces.flatten.take (clip.limit - clip.kept.length) := by
  induction pieces generalizing clip with
  | nil => simp
  | cons piece rest ih =>
      rw [List.foldl_cons, ih, List.flatten_cons, List.take_append, write, List.append_assoc,
        List.length_append, List.length_take]
      congr 3
      show clip.limit - (clip.kept.length + _) = clip.limit - clip.kept.length - piece.length
      omega

theorem total_foldl_write (pieces : List (List UInt8)) (clip : Clip) :
    (pieces.foldl write clip).total = clip.total + pieces.flatten.length := by
  induction pieces generalizing clip with
  | nil => rfl
  | cons piece rest ih =>
      rw [List.foldl_cons, ih, List.flatten_cons, List.length_append, ← Nat.add_assoc]
      rfl

end Clip

/-! ## What is left to draw -/

namespace Expanded

/-- A row with what is below it, which is left out if the screen ends in the row. -/
def atop (below : List UInt8) (expanded : Expanded) : List UInt8 :=
  if expanded.ended then expanded.bytes else expanded.bytes ++ below

theorem atop_prepend (below shown : List UInt8) (expanded : Expanded) :
    (expanded.prepend shown).atop below = shown ++ expanded.atop below := by
  rw [atop, atop, prepend]
  split <;> simp

end Expanded

namespace Renderer

variable {renderer : Renderer}

/-- There is always a place left for the terminator. -/
theorem expansionLimit_lt (cols col : ℕ) : expansionLimit cols col < expansionRoom :=
  lt_of_le_of_lt ((min_le_right _ _).trans (Nat.sub_le_sub_right (min_le_right _ _) 1))
    (by decide)

theorem kept_expansion (renderer : Renderer) : renderer.expansion.kept =
    renderer.source.written.take (expansionLimit renderer.cols renderer.col) :=
  Clip.kept_foldl_write ..

theorem total_expansion_pos_iff :
    0 < renderer.expansion.total ↔ renderer.source.written ≠ [] := by
  rw [expansion, Clip.total_foldl_write, Nat.zero_add, List.length_pos_iff]
  rfl

/-- What the rows from the current place on are expanded to. -/
def ahead (renderer : Renderer) : List UInt8 :=
  if renderer.row < renderer.rows then
    (expandRow renderer.source.written renderer.cols renderer.col
      (renderer.grid.drop renderer.index)).atop
      (expandRows renderer.source.written renderer.cols renderer.grid
        (renderer.rows - (renderer.row + 1)) (renderer.row + 1))
  else
    []

/-- All that is left to draw. -/
def remaining (renderer : Renderer) : List UInt8 :=
  renderer.pending ++
    if renderer.ended then []
    else if renderer.expands then renderer.ahead
    else (renderer.grid.drop renderer.index).takeWhile (· != 0)

/-- At the start of a row nothing but the rows from there on is left. -/
theorem ahead_of_row_start (renderer : Renderer) (row : ℕ) :
    ({ renderer with
        row := row
        col := 0
        index := row * renderer.cols } : Renderer).ahead =
      expandRows renderer.source.written renderer.cols renderer.grid (renderer.rows - row) row := by
  rw [ahead]
  rcases Nat.lt_or_ge row renderer.rows with hrow | hend
  · rw [if_pos hrow, show renderer.rows - row = renderer.rows - (row + 1) + 1 by omega]
    rfl
  · rw [if_neg (Nat.not_lt.mpr hend), Nat.sub_eq_zero_of_le hend]
    rfl

theorem ahead_wrapped (renderer : Renderer) : renderer.wrapped.ahead = renderer.ahead := by
  rcases Nat.lt_or_ge renderer.col renderer.cols with hcol | hfull
  · rw [wrapped_of_lt hcol]
  · rw [wrapped_of_full hfull, ahead_of_row_start, ahead, expandRow_of_full _ hfull]
    rcases Nat.lt_or_ge renderer.row renderer.rows with hrow | hend
    · rw [if_pos hrow]
      rfl
    · rw [if_neg (Nat.not_lt.mpr hend), Nat.sub_eq_zero_of_le (Nat.le_succ_of_le hend)]
      rfl

theorem pending_wrapped (renderer : Renderer) : renderer.wrapped.pending = renderer.pending := by
  rw [wrapped]
  split <;> rfl

theorem ended_wrapped (renderer : Renderer) : renderer.wrapped.ended = renderer.ended := by
  rw [wrapped]
  split <;> rfl

theorem expands_wrapped (renderer : Renderer) : renderer.wrapped.expands = renderer.expands := by
  rw [wrapped]
  split <;> rfl

theorem col_wrapped_lt (hcols : 0 < renderer.cols) :
    renderer.wrapped.col < renderer.wrapped.cols := by
  rcases Nat.lt_or_ge renderer.col renderer.cols with hcol | hfull
  · rw [wrapped_of_lt hcol]
    exact hcol
  · rw [wrapped_of_full hfull]
    exact hcols

theorem remaining_wrapped (renderer : Renderer) (hexpands : renderer.expands = true) :
    renderer.wrapped.remaining = renderer.remaining := by
  rw [remaining, remaining, pending_wrapped, ended_wrapped, expands_wrapped, hexpands,
    ahead_wrapped]
  rfl

/-- A renderer inside a row in which variables are expanded. -/
structure Expanding (renderer : Renderer) : Prop where
  ended_eq : renderer.ended = false
  expands_eq : renderer.expands = true
  row_lt : renderer.row < renderer.rows

theorem Expanding.remaining_eq (hexpanding : renderer.Expanding) :
    renderer.remaining = renderer.pending ++
      (expandRow renderer.source.written renderer.cols renderer.col
        (renderer.grid.drop renderer.index)).atop
        (expandRows renderer.source.written renderer.cols renderer.grid
          (renderer.rows - (renderer.row + 1)) (renderer.row + 1)) := by
  rw [remaining, hexpanding.ended_eq, if_neg Bool.false_ne_true, if_pos hexpanding.expands_eq,
    ahead, if_pos hexpanding.row_lt]

theorem remaining_finish (hpending : renderer.pending = []) :
    renderer.finish.1.remaining = [] := by
  rw [remaining, finish, hpending]
  rfl

/-! ## Turns -/

/-- What a turn does to what is left to draw: nothing, or it takes the first byte away. -/
def Turn.Draws (before after : List UInt8) : Turn → Prop
  | .again => after = before
  | .returned byte? => byte? = before.head? ∧ after = before.tail

theorem draws_finish (hpending : renderer.pending = []) (hnone : renderer.remaining = []) :
    renderer.finish.2.Draws renderer.remaining renderer.finish.1.remaining := by
  rw [hnone, remaining_finish hpending]
  exact ⟨rfl, rfl⟩

theorem drop_succ_of_drop {cells rest : List UInt8} {index : ℕ} {cell : UInt8}
    (hcells : cells.drop index = cell :: rest) : cells.drop (index + 1) = rest := by
  rw [← List.drop_drop, hcells, List.drop_one, List.tail_cons]

/-- A cell that the row is expanded to itself is drawn. -/
theorem Expanding.draws_emit (hexpanding : renderer.Expanding) (hpending : renderer.pending = [])
    {cell : UInt8} {rest : List UInt8} (hcells : renderer.grid.drop renderer.index = cell :: rest)
    (hrow : expandRow renderer.source.written renderer.cols renderer.col (cell :: rest) =
      (expandRow renderer.source.written renderer.cols (renderer.col + 1) rest).prepend [cell]) :
    (renderer.emit cell).2.Draws renderer.remaining (renderer.emit cell).1.remaining := by
  have hnext : (renderer.emit cell).1.Expanding := ⟨hexpanding.1, hexpanding.2, hexpanding.3⟩
  have hafter := hnext.remaining_eq
  rw [show (renderer.emit cell).1.pending = [] from hpending,
    show (renderer.emit cell).1.grid.drop (renderer.emit cell).1.index = rest from
      drop_succ_of_drop hcells, List.nil_append] at hafter
  rw [hexpanding.remaining_eq, hpending, hcells, hrow, Expanded.atop_prepend]
  exact ⟨rfl, hafter⟩

theorem Expanding.draws_turnExpanding (hexpanding : renderer.Expanding)
    (hpending : renderer.pending = []) (hcol : renderer.col < renderer.cols) :
    renderer.turnExpanding.2.Draws renderer.remaining renderer.turnExpanding.1.remaining := by
  have hremaining := hexpanding.remaining_eq
  rw [hpending, List.nil_append] at hremaining
  fun_cases turnExpanding renderer with
  | case1 hcells =>
      apply draws_finish hpending
      rw [hremaining, hcells, expandRow, decide_eq_true hcol]
      rfl
  | case2 rest hcells =>
      have hdone : ({ renderer with col := renderer.cols } : Renderer).Expanding :=
        ⟨hexpanding.1, hexpanding.2, hexpanding.3⟩
      have hafter := hdone.remaining_eq
      rw [expandRow_of_full _ le_rfl] at hafter
      rw [hremaining, hcells, expandRow_zero]
      exact hafter.trans (congrArg (· ++ _) hpending)
  | case3 _ hcells =>
      apply draws_finish hpending
      rw [hremaining, hcells, expandRow_mark_alone _ hcol (.inl rfl)]
      rfl
  | case4 _ _ hcells =>
      apply draws_finish hpending
      rw [hremaining, hcells, expandRow_mark_alone _ hcol (.inr rfl)]
      rfl
  | case5 selector after hselector hlayer _ hcells =>
      obtain ⟨rfl, htotal⟩ := hlayer
      have hname := total_expansion_pos_iff.mp htotal
      have hdone : ({ renderer with
          index := renderer.index + 2
          col := renderer.col + renderer.expansion.kept.length
          pending := renderer.expansion.kept } : Renderer).Expanding :=
        ⟨hexpanding.1, hexpanding.2, hexpanding.3⟩
      have hafter := hdone.remaining_eq
      rw [drop_succ_of_drop (drop_succ_of_drop hcells)] at hafter
      rw [hremaining, hcells, expandRow_layer _ hcol hname, Expanded.atop_prepend,
        ← kept_expansion]
      exact hafter
  | case6 selector after hselector hother _ hcells =>
      rw [total_expansion_pos_iff] at hother
      exact hexpanding.draws_emit hpending hcells (expandRow_mark _ hcol hselector hother after)
  | case7 cell rest hcells hzero hmark =>
      exact hexpanding.draws_emit hpending hcells (expandRow_cell _ hcol hzero hmark rest)

theorem draws_turnVerbatim (hpending : renderer.pending = []) (hended : renderer.ended = false)
    (hexpands : renderer.expands = false) :
    renderer.turnVerbatim.2.Draws renderer.remaining renderer.turnVerbatim.1.remaining := by
  have hremaining : renderer.remaining =
      (renderer.grid.drop renderer.index).takeWhile (· != 0) := by
    rw [remaining, hpending, hended, hexpands]
    rfl
  fun_cases turnVerbatim renderer with
  | case1 hcells =>
      apply draws_finish hpending
      rw [hremaining, hcells]
      rfl
  | case2 rest hcells =>
      apply draws_finish hpending
      rw [hremaining, hcells]
      rfl
  | case3 cell rest hcells hzero =>
      have hdrawn : (cell != 0) = true := bne_iff_ne.mpr hzero
      rw [hremaining, hcells, List.takeWhile_cons, if_pos hdrawn]
      refine ⟨rfl, ?_⟩
      rw [remaining, hpending, hended, hexpands, drop_succ_of_drop hcells]
      rfl

theorem draws_turn (hcols : 0 < renderer.cols) :
    renderer.turn.2.Draws renderer.remaining renderer.turn.1.remaining := by
  fun_cases turn renderer with
  | case1 byte rest hpending =>
      refine ⟨?_, ?_⟩
      · rw [remaining, hpending]
        rfl
      · rw [remaining, remaining, hpending]
        rfl
  | case2 hpending hended =>
      have hnone : renderer.remaining = [] := by
        rw [remaining, hpending, hended]
        rfl
      rw [hnone]
      exact ⟨rfl, rfl⟩
  | case3 hpending hended hexpands hend =>
      rw [← remaining_wrapped renderer hexpands]
      apply draws_finish ((pending_wrapped renderer).trans hpending)
      rw [remaining_wrapped renderer hexpands, remaining, hpending, if_neg hended,
        if_pos hexpands, ← ahead_wrapped, ahead, if_neg (Nat.not_lt.mpr hend)]
      rfl
  | case4 hpending hended hexpands hrow =>
      have hexpanding : renderer.wrapped.Expanding := {
        ended_eq := (ended_wrapped renderer).trans (Bool.eq_false_iff.mpr hended)
        expands_eq := (expands_wrapped renderer).trans hexpands
        row_lt := Nat.lt_of_not_le hrow }
      rw [← remaining_wrapped renderer hexpands]
      exact hexpanding.draws_turnExpanding ((pending_wrapped renderer).trans hpending)
        (col_wrapped_lt hcols)
  | case5 hpending hended hexpands =>
      exact draws_turnVerbatim hpending (Bool.eq_false_iff.mpr hended)
        (Bool.eq_false_iff.mpr hexpands)

/-! ## Bounds -/

/-- A renderer in its grid: the rest of a row and the room for an expansion can be counted. -/
structure InRange (renderer : Renderer) : Prop where
  cols_pos : 0 < renderer.cols
  col_le : renderer.col ≤ renderer.cols
  pending_lt : renderer.pending.length < expansionRoom

theorem InRange.wrapped (hrange : renderer.InRange) : renderer.wrapped.InRange := by
  rcases Nat.lt_or_ge renderer.col renderer.cols with hcol | hfull
  · rw [wrapped_of_lt hcol]
    exact hrange
  · rw [wrapped_of_full hfull]
    exact ⟨hrange.cols_pos, Nat.zero_le _, hrange.pending_lt⟩

theorem InRange.turnExpanding (hrange : renderer.InRange) (hcol : renderer.col < renderer.cols) :
    renderer.turnExpanding.1.InRange := by
  fun_cases Renderer.turnExpanding renderer with
  | case1 | case3 | case4 => exact ⟨hrange.cols_pos, hrange.col_le, hrange.pending_lt⟩
  | case2 => exact ⟨hrange.cols_pos, le_rfl, hrange.pending_lt⟩
  | case5 =>
      have hkept : renderer.expansion.kept.length ≤ expansionLimit renderer.cols renderer.col := by
        rw [kept_expansion]
        exact List.length_take_le _ _
      refine ⟨hrange.cols_pos, ?_, lt_of_le_of_lt hkept (expansionLimit_lt _ _)⟩
      have hroom := hkept.trans (min_le_left _ _)
      show renderer.col + renderer.expansion.kept.length ≤ renderer.cols
      omega
  | case6 | case7 => exact ⟨hrange.cols_pos, hcol, hrange.pending_lt⟩

theorem InRange.turn (hrange : renderer.InRange) : renderer.turn.1.InRange := by
  fun_cases Renderer.turn renderer with
  | case1 byte rest hpending =>
      have hlength := hrange.pending_lt
      rw [hpending, List.length_cons] at hlength
      exact ⟨hrange.cols_pos, hrange.col_le, Nat.lt_of_succ_lt hlength⟩
  | case2 => exact hrange
  | case3 =>
      have hwrapped := hrange.wrapped
      exact ⟨hwrapped.cols_pos, hwrapped.col_le, hwrapped.pending_lt⟩
  | case4 => exact hrange.wrapped.turnExpanding (col_wrapped_lt hrange.cols_pos)
  | case5 =>
      fun_cases Renderer.turnVerbatim renderer with
      | case1 | case2 | case3 => exact ⟨hrange.cols_pos, hrange.col_le, hrange.pending_lt⟩

/-! ## Byte by byte -/

theorem InRange.next (hrange : renderer.InRange) : renderer.next.1.InRange := by
  fun_induction Renderer.next renderer with
  | case1 renderer later hturn ih =>
      have hlater := hrange.turn
      rw [hturn] at hlater
      exact ih hlater
  | case2 renderer later byte? hturn =>
      have hlater := hrange.turn
      rw [hturn] at hlater
      exact hlater

/-- The next byte is the first of those that are left. -/
theorem InRange.draws_next (hrange : renderer.InRange) :
    renderer.next.2 = renderer.remaining.head? ∧
      renderer.next.1.remaining = renderer.remaining.tail := by
  fun_induction Renderer.next renderer with
  | case1 renderer later hturn ih =>
      have hlater := hrange.turn
      have hdraws := renderer.draws_turn hrange.cols_pos
      rw [hturn] at hlater hdraws
      have hsame : later.remaining = renderer.remaining := hdraws
      rw [← hsame]
      exact ih hlater
  | case2 renderer later byte? hturn =>
      have hdraws := renderer.draws_turn hrange.cols_pos
      rw [hturn] at hdraws
      exact hdraws

theorem InRange.after (hrange : renderer.InRange) (count : ℕ) :
    (renderer.after count).InRange := by
  induction count generalizing renderer with
  | zero => exact hrange
  | succ count ih => exact ih hrange.next

theorem InRange.remaining_after (hrange : renderer.InRange) (count : ℕ) :
    (renderer.after count).remaining = renderer.remaining.drop count := by
  induction count generalizing renderer with
  | zero => rfl
  | succ count ih =>
      rw [Renderer.after, ih hrange.next, hrange.draws_next.2, List.drop_tail]

/-- The renderer hands out these bytes, and nothing however often it is asked after them. -/
def Yields (bytes : List UInt8) (renderer : Renderer) : Prop :=
  ∀ count, (renderer.after count).next.2 = bytes[count]?

theorem InRange.yields_remaining (hrange : renderer.InRange) :
    renderer.Yields renderer.remaining := by
  intro count
  rw [(hrange.after count).draws_next.1, hrange.remaining_after, List.head?_drop]

end Renderer

namespace Buffers

variable {capacity : ℕ} {buffers : Buffers capacity}

theorem inRange_renderer (hcols : buffers.geometry.cols ≠ 0) (source : NameSource) :
    (buffers.renderer source).InRange where
  cols_pos := Nat.pos_of_ne_zero fun hzero => hcols (UInt8.toNat_inj.mp hzero)
  col_le := Nat.zero_le _
  pending_lt := Nat.succ_pos 31

theorem remaining_renderer (source : NameSource) (buffers : Buffers capacity) :
    (buffers.renderer source).remaining = buffers.render source := by
  have hstart := (buffers.renderer source).ahead_of_row_start 0
  rw [Nat.zero_mul, Nat.sub_zero] at hstart
  rw [render]
  exact congrArg (if buffers.holdsVariable then · else _) hstart

/-- A renderer hands out what is rendered. -/
theorem yields_renderer (hcols : buffers.geometry.cols ≠ 0) (source : NameSource) :
    (buffers.renderer source).Yields (buffers.render source) := by
  rw [← remaining_renderer]
  exact (inRange_renderer hcols source).yields_remaining

end Buffers

end SplitPanel.Screen
