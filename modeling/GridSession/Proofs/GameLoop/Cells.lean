import GridSession.Proofs.GameLoop.Operations
import Mathlib.Data.Set.Function
import Mathlib.Order.Interval.Set.Defs

namespace GridSession

namespace Grid

section Index

variable {grid : Grid}

theorem index_injOn (grid : Grid) :
    Set.InjOn grid.index {position | grid.Contains position} :=
  fun _ hfirst _ hsecond h => (index_inj hfirst hsecond).mp h

theorem RowMajor.index_mapsTo (h : grid.RowMajor) :
    Set.MapsTo grid.index {position | grid.Contains position} (Set.Iio grid.cells.size) := by
  intro position hposition
  rw [Set.mem_Iio, h.size_eq]
  exact index_lt hposition

/-- Every place is that of a position, for it lies in some row. -/
theorem RowMajor.index_surjOn (h : grid.RowMajor) :
    Set.SurjOn grid.index {position | grid.Contains position} (Set.Iio grid.cells.size) := by
  intro index hindex
  rw [Set.mem_Iio, h.size_eq, Nat.mul_comm] at hindex
  -- quotient and remainder by the width are the row and the column
  have hwidth : 0 < grid.width.toNat := Nat.pos_of_lt_mul_left hindex
  have hx : index % grid.width.toNat < grid.width.toNat := Nat.mod_lt _ hwidth
  have hy : index / grid.width.toNat < grid.height.toNat := by
    apply Nat.div_lt_of_lt_mul
    rwa [Nat.mul_comm]
  have hx_eq : (UInt32.ofNat (index % grid.width.toNat)).toNat = index % grid.width.toNat :=
    UInt32.toNat_ofNat_of_lt' (hx.trans grid.width.toNat_lt)
  have hy_eq : (UInt32.ofNat (index / grid.width.toNat)).toNat = index / grid.width.toNat :=
    UInt32.toNat_ofNat_of_lt' (hy.trans grid.height.toNat_lt)
  refine ⟨⟨UInt32.ofNat (index % grid.width.toNat), UInt32.ofNat (index / grid.width.toNat)⟩,
    ⟨?_, ?_⟩, ?_⟩
  · rwa [UInt32.lt_iff_toNat_lt, hx_eq]
  · rwa [UInt32.lt_iff_toNat_lt, hy_eq]
  · rw [Grid.index, hx_eq, hy_eq, Nat.mul_comm, Nat.div_add_mod]

theorem RowMajor.index_bijOn (h : grid.RowMajor) :
    Set.BijOn grid.index {position | grid.Contains position} (Set.Iio grid.cells.size) :=
  ⟨h.index_mapsTo, grid.index_injOn, h.index_surjOn⟩

end Index

theorem toNat_mul_add (row width column : UInt32) :
    (row.toUInt64 * width.toUInt64 + column.toUInt64).toNat
      = row.toNat * width.toNat + column.toNat := by
  have hproduct : row.toNat * width.toNat ≤ 4294967295 * 4294967295 :=
    Nat.mul_le_mul (Nat.le_of_lt_succ row.toNat_lt) (Nat.le_of_lt_succ width.toNat_lt)
  have hcolumn := column.toNat_lt
  simp only [UInt64.toNat_add, UInt64.toNat_mul, UInt32.toNat_toUInt64]
  omega

end Grid

namespace Game

variable {params : GameParams} {game : Game} {position : Position}

theorem cell_of_putOnCell (hgrid : game.grid.RowMajor) {written : Game} {player : Option UInt32}
    (h : game.putOnCell position player = .ok written) (other : Position) :
    written.cell other
      = if other = position then .ok ⟨position, player⟩ else game.cell other := by
  unfold putOnCell at h
  split_ifs at h with hposition
  cases h
  by_cases hother : game.grid.Contains other
  · rw [cell_eq_ok (hgrid.put position player) (Grid.contains_put.mpr hother),
      cell_eq_ok hgrid hother]
    simp only [hgrid.playerAt_put hposition hother]
    split_ifs with hsame
    · rw [hsame]
    · rfl
  · -- a cell off the grid is not the one that was written
    have hne : other ≠ position := by
      rintro rfl
      exact hother hposition
    have hoff : ¬ (game.grid.put position player).Contains other := mt Grid.contains_put.mp hother
    rw [cell_eq_offGrid hoff, cell_eq_offGrid hother, if_neg hne]
    simp [offGrid]

/-- Whatever was done to a game since it was new, its table has as many cells as width times height.
Positions on the grid and places in the table correspond one to one, 64 bits are enough to compute a
place, and the cell there has the position written on it. Writing who stands on a cell changes the
answer for that position alone. -/
theorem cells_are_addressed (h : Arises params game) :
    let grid := game.grid
    (∀ position, grid.Contains position
      ↔ position.x < params.width ∧ position.y < params.height)
    ∧ grid.cells.size = params.width.toNat * params.height.toNat
    ∧ (params.width.toUInt64 * params.height.toUInt64).toNat = grid.cells.size
    ∧ Set.BijOn grid.index {position | grid.Contains position} (Set.Iio grid.cells.size)
    ∧ (∀ position, grid.Contains position →
      (position.y.toUInt64 * params.width.toUInt64 + position.x.toUInt64).toNat
        = grid.index position
      ∧ ∃ player, grid.cells[grid.index position]? = some ⟨position, player⟩
        ∧ game.cell position = .ok ⟨position, player⟩)
    ∧ ∀ position, grid.Contains position → ∀ player, ∃ written,
      game.putOnCell position player = .ok written
      ∧ written.grid.cells[grid.index position]? = some ⟨position, player⟩
      ∧ (∀ index ≠ grid.index position, written.grid.cells[index]? = grid.cells[index]?)
      ∧ written.cell position = .ok ⟨position, player⟩
      ∧ ∀ other ≠ position, written.cell other = game.cell other := by
  intro grid
  -- no operation changes the measures, the number of cells or the positions written on them
  obtain ⟨hparams, hrowMajor⟩ := h.sameTable
  have hgrid : grid.RowMajor := hrowMajor (Grid.rowMajor_empty ..)
  have hwidth : grid.width = params.width := congrArg GameParams.width hparams
  have hheight : grid.height = params.height := congrArg GameParams.height hparams
  have hsize : grid.cells.size = params.width.toNat * params.height.toNat := by
    rw [hgrid.size_eq, hwidth, hheight]
  refine ⟨fun position => ?_, hsize, ?_, hgrid.index_bijOn, fun position hon => ⟨?_, ?_⟩,
    fun position hon player => ?_⟩
  · rw [Grid.Contains, hwidth, hheight]
  · simpa [hsize] using Grid.toNat_mul_add params.width params.height 0
  · rw [Grid.toNat_mul_add, Grid.index, hwidth]
  · exact ⟨_, hgrid.getElem?_index hon, cell_eq_ok hgrid hon⟩
  · have hput : game.putOnCell position player
        = .ok { game with grid := grid.put position player } := if_pos hon
    refine ⟨_, hput, ?_, fun index hindex => ?_, ?_, fun other hne => ?_⟩
    · rw [Grid.getElem?_put hon, if_pos rfl, hgrid.getElem?_index hon]
      rfl
    · rw [Grid.getElem?_put hon, if_neg hindex.symm]
    · rw [cell_of_putOnCell hgrid hput, if_pos rfl]
    · rw [cell_of_putOnCell hgrid hput, if_neg hne]

theorem last_of_six_cells :
    let params : GameParams := { width := 3, height := 2 }
    let loop : GameLoop Server :=
      { driver := {}, game := (ofParams params).operate (.writeCell ⟨0, 1⟩ (some 7)) }
    let game := (loop.step (.tick 9)).game
    Arises params game ∧ game.grid.Contains ⟨2, 1⟩ ∧ game.grid.cells.size = 6
    ∧ game.grid.index ⟨2, 1⟩ = 5 ∧ ∃ written, game.putOnCell ⟨2, 1⟩ (some 4) = .ok written
      ∧ written.cell ⟨2, 1⟩ = .ok ⟨⟨2, 1⟩, some 4⟩
      ∧ written.cell ⟨0, 1⟩ = .ok ⟨⟨0, 1⟩, some 7⟩ := by
  intro params loop game
  have hwritten : Arises params loop.game :=
    Arises.start.operation (.writeCell ⟨0, 1⟩ (some 7))
  have harises : Arises params game := .step Server.operates hwritten (.tick 9)
  have hon : game.grid.Contains ⟨2, 1⟩ := by decide
  obtain ⟨-, hsize, -, -, -, hwrite⟩ := cells_are_addressed harises
  obtain ⟨written, hput, -, -, hthere, hothers⟩ := hwrite ⟨2, 1⟩ hon (some 4)
  refine ⟨harises, hon, hsize, by decide, written, hput, hthere, ?_⟩
  rw [hothers ⟨0, 1⟩ (by decide)]
  decide

end Game

end GridSession
