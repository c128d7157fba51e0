import SplitPanel.Screen.Expansion

/-!
# Drawing byte by byte

A screen is drawn without a buffer for what is drawn: a renderer goes through the front grid and
hands out one byte at a time.  A grid without a variable is handed out as it is, up to its first
zero.  Otherwise the renderer keeps a row, a column and a place in the grid.  The column counts what
was drawn of the row, the place what was read, and both are set anew at the start of a row.  An
expansion is written as a whole and then handed out.

Looking for the next byte takes turns.  A turn that comes to a zero or writes an expansion returns
nothing yet, and another one follows.
-/

namespace SplitPanel.Screen

/-- A writer that keeps the first `limit` bytes and counts all of them. -/
structure Clip where
  limit : Nat
  kept : List UInt8 := []
  total : Nat := 0

namespace Clip

def write (clip : Clip) (piece : List UInt8) : Clip :=
  { clip with
    kept := clip.kept ++ piece.take (clip.limit - clip.kept.length)
    total := clip.total + piece.length }

end Clip

/-- A renderer between two bytes. -/
structure Renderer where
  grid : List UInt8
  cols : Nat
  rows : Nat
  /-- Whether variables are expanded. -/
  expands : Bool
  source : NameSource
  row : Nat := 0
  col : Nat := 0
  index : Nat := 0
  /-- What is left of an expansion. -/
  pending : List UInt8 := []
  ended : Bool := false

namespace Renderer

/-- How a turn ends. -/
inductive Turn where
  | again
  | returned (byte? : Option UInt8)

/-- At the end of a row, the start of the next one. -/
def wrapped (renderer : Renderer) : Renderer :=
  if renderer.cols ≤ renderer.col then
    { renderer with
      row := renderer.row + 1
      col := 0
      index := (renderer.row + 1) * renderer.cols }
  else
    renderer

/-- What the source writes when it is asked, as far as there is room for it. -/
def expansion (renderer : Renderer) : Clip :=
  renderer.source.pieces.foldl Clip.write
    { limit := expansionLimit renderer.cols renderer.col }

/-- Nothing more is drawn. -/
def finish (renderer : Renderer) : Renderer × Turn :=
  ({ renderer with ended := true }, .returned none)

/-- Draws a cell as it is. -/
def emit (cell : UInt8) (renderer : Renderer) : Renderer × Turn :=
  ({ renderer with index := renderer.index + 1, col := renderer.col + 1 }, .returned (some cell))

/-- A turn in a grid that is drawn as it is.  There is no column to keep. -/
def turnVerbatim (renderer : Renderer) : Renderer × Turn :=
  match renderer.grid.drop renderer.index with
  | [] => renderer.finish
  | cell :: _ =>
    if cell = 0 then renderer.finish
    else ({ renderer with index := renderer.index + 1 }, .returned (some cell))

/-- A turn inside a row in which variables are expanded. -/
def turnExpanding (renderer : Renderer) : Renderer × Turn :=
  match renderer.grid.drop renderer.index with
  | [] => renderer.finish
  | cell :: rest =>
    if cell = 0 then
      ({ renderer with col := renderer.cols }, .again)
    else if cell = variableMark then
      match rest with
      | [] => renderer.finish
      | selector :: _ =>
        if selector = 0 then
          renderer.finish
        else if selector = layerSelector ∧ 0 < renderer.expansion.total then
          ({ renderer with
            index := renderer.index + 2
            col := renderer.col + renderer.expansion.kept.length
            pending := renderer.expansion.kept }, .again)
        else
          renderer.emit cell
    else
      renderer.emit cell

def turn (renderer : Renderer) : Renderer × Turn :=
  match renderer.pending with
  | byte :: rest => ({ renderer with pending := rest }, .returned (some byte))
  | [] =>
    if renderer.ended then (renderer, .returned none)
    else if renderer.expands then
      if renderer.wrapped.rows ≤ renderer.wrapped.row then renderer.wrapped.finish
      else renderer.wrapped.turnExpanding
    else renderer.turnVerbatim

theorem wrapped_of_full {renderer : Renderer} (hfull : renderer.cols ≤ renderer.col) :
    renderer.wrapped = { renderer with
      row := renderer.row + 1
      col := 0
      index := (renderer.row + 1) * renderer.cols } :=
  if_pos hfull

theorem wrapped_of_lt {renderer : Renderer} (hcol : renderer.col < renderer.cols) :
    renderer.wrapped = renderer :=
  if_neg (Nat.not_le.mpr hcol)

/-- A turn that returns nothing is over with its row, or has read two cells of it. -/
theorem turnExpanding_again {renderer : Renderer} (hagain : renderer.turnExpanding.2 = .again) :
    renderer.turnExpanding.1 = { renderer with col := renderer.cols } ∨
      renderer.index < renderer.grid.length ∧
        renderer.turnExpanding.1 = { renderer with
          index := renderer.index + 2
          col := renderer.col + renderer.expansion.kept.length
          pending := renderer.expansion.kept } := by
  revert hagain
  fun_cases turnExpanding renderer with
  | case2 => exact fun _ => .inl rfl
  | case5 selector after _ _ _ hcells =>
      intro _
      refine .inr ⟨?_, rfl⟩
      apply Nat.lt_of_not_le
      intro hend
      rw [List.drop_eq_nil_of_le hend] at hcells
      contradiction
  | case1 | case3 | case4 | case6 | case7 => intro hagain; contradiction

/-- What is left to do for a renderer: rows, then the row that it is in, then cells. -/
def work (renderer : Renderer) : Nat × Nat × Nat :=
  (renderer.rows - renderer.row, (decide (renderer.col < renderer.cols)).toNat,
    renderer.grid.length - renderer.index)

theorem work_turn_lt {renderer : Renderer} (hagain : renderer.turn.2 = .again) :
    Prod.Lex (· < ·) (Prod.Lex (· < ·) (· < ·)) renderer.turn.1.work renderer.work := by
  revert hagain
  fun_cases turn renderer with
  | case1 | case2 | case3 => intro hagain; contradiction
  | case4 _ _ _ hrow =>
      intro hagain
      by_cases hfull : renderer.cols ≤ renderer.col
      · rw [wrapped_of_full hfull] at hrow hagain ⊢
        have hless : renderer.rows - (renderer.row + 1) < renderer.rows - renderer.row :=
          Nat.sub_succ_lt_self renderer.rows renderer.row
            (Nat.lt_of_succ_lt (Nat.lt_of_not_le hrow))
        rcases turnExpanding_again hagain with hdone | ⟨-, hread⟩
        · rw [hdone]
          exact .left _ _ hless
        · rw [hread]
          exact .left _ _ hless
      · have hcol := Nat.lt_of_not_le hfull
        rw [wrapped_of_lt hcol] at hagain ⊢
        apply Prod.lex_def.mpr
        rcases turnExpanding_again hagain with hdone | ⟨hindex, hread⟩
        · rw [hdone]
          simp [work, Prod.lex_def, hcol]
        · rw [hread]
          refine .inr ⟨rfl, Prod.lex_def.mpr ?_⟩
          simp only [work, hcol]
          by_cases hleft : renderer.col + renderer.expansion.kept.length < renderer.cols
          · exact .inr ⟨by simp [hleft], by omega⟩
          · exact .inl (by simp [hleft])
  | case5 =>
      fun_cases turnVerbatim renderer <;> intro hagain <;> contradiction

/-- The next byte to draw. -/
def next (renderer : Renderer) : Renderer × Option UInt8 :=
  match _turned : renderer.turn with
  | (later, .again) => next later
  | (later, .returned byte?) => (later, byte?)
termination_by renderer.work
decreasing_by
  have hagain := work_turn_lt (congrArg Prod.snd _turned)
  rw [_turned] at hagain
  exact hagain

/-- The renderer after some bytes were asked for. -/
def after : Nat → Renderer → Renderer
  | 0, renderer => renderer
  | count + 1, renderer => after count renderer.next.1

end Renderer

/-- A renderer for the front grid. -/
def Buffers.renderer {capacity : Nat} (source : NameSource) (buffers : Buffers capacity) :
    Renderer where
  grid := buffers.front
  cols := buffers.geometry.cols.toNat
  rows := buffers.geometry.rows.toNat
  expands := buffers.holdsVariable
  source := source

end SplitPanel.Screen
