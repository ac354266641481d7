import GridSession.Grid
import Mathlib.Tactic.SplitIfs

namespace GridSession

namespace Grid

variable {grid : Grid} {position other : Position}

/-- There are as many cells as width times height, and the one at the place of a position has that
position written on it. -/
structure RowMajor (grid : Grid) : Prop where
  size_eq : grid.cells.size = grid.width.toNat * grid.height.toNat
  position_eq : ∀ {position}, grid.Contains position →
    grid.cells[grid.index position]?.map Cell.position = some position

def playerAt (grid : Grid) (index : Nat) : Option UInt32 :=
  grid.cells[index]?.bind Cell.player

theorem getElem?_empty {width height : UInt32} (h : (empty width height).Contains position) :
    (empty width height).cells[(empty width height).index position]? = some { position } := by
  have hfound := getElem?_pushRows width (UInt32.lt_iff_toNat_lt.mp h.1)
    (UInt32.lt_iff_toNat_lt.mp h.2)
  rw [UInt32.ofNat_toNat, UInt32.ofNat_toNat] at hfound
  exact hfound

theorem rowMajor_empty (width height : UInt32) : (empty width height).RowMajor where
  size_eq := by
    rw [empty, size_pushRows, Nat.mul_comm]
    exact Nat.zero_add _
  position_eq h := by
    rw [getElem?_empty h]
    rfl

theorem playerAt_empty {width height : UInt32} (h : (empty width height).Contains position) :
    (empty width height).playerAt ((empty width height).index position) = none := by
  rw [playerAt, getElem?_empty h]
  rfl

theorem RowMajor.getElem?_index (h : grid.RowMajor) (hposition : grid.Contains position) :
    grid.cells[grid.index position]?
      = some ⟨position, grid.playerAt (grid.index position)⟩ := by
  obtain ⟨cell, hcell, hplace⟩ := Option.map_eq_some_iff.mp (h.position_eq hposition)
  rw [playerAt, hcell, ← hplace]
  rfl

theorem RowMajor.cell?_eq_some (h : grid.RowMajor) (hposition : grid.Contains position) :
    grid.cell? position = some ⟨position, grid.playerAt (grid.index position)⟩ := by
  rw [cell?, if_pos hposition, h.getElem?_index hposition]

section Put

variable {player : Option UInt32}

@[simp] theorem width_put (grid : Grid) (position : Position) (player : Option UInt32) :
    (grid.put position player).width = grid.width := by
  unfold put
  split_ifs <;> rfl

@[simp] theorem height_put (grid : Grid) (position : Position) (player : Option UInt32) :
    (grid.put position player).height = grid.height := by
  unfold put
  split_ifs <;> rfl

@[simp] theorem size_cells_put (grid : Grid) (position : Position) (player : Option UInt32) :
    (grid.put position player).cells.size = grid.cells.size := by
  unfold put
  split_ifs
  · exact Array.size_modify
  · rfl

theorem contains_put : (grid.put position player).Contains other ↔ grid.Contains other := by
  simp [Contains]

theorem index_put : (grid.put position player).index other = grid.index other := by
  simp [index]

theorem getElem?_put (hposition : grid.Contains position) (index : Nat) :
    (grid.put position player).cells[index]?
      = if grid.index position = index then grid.cells[index]?.map ({ · with player })
        else grid.cells[index]? := by
  rw [put, if_pos hposition, Array.getElem?_modify]

/-- Nothing that is written on a cell touches its position. -/
theorem map_position_put (index : Nat) :
    (grid.put position player).cells[index]?.map Cell.position
      = grid.cells[index]?.map Cell.position := by
  by_cases hposition : grid.Contains position
  · rw [getElem?_put hposition]
    split_ifs with hindex
    · rw [Option.map_map]
      rfl
    · rfl
  · rw [put, if_neg hposition]

theorem RowMajor.put (h : grid.RowMajor) (position : Position) (player : Option UInt32) :
    (grid.put position player).RowMajor where
  size_eq := by
    rw [size_cells_put, width_put, height_put]
    exact h.size_eq
  position_eq hother := by
    rw [index_put, map_position_put]
    exact h.position_eq (contains_put.mp hother)

theorem RowMajor.playerAt_put (h : grid.RowMajor) (hposition : grid.Contains position)
    (hother : grid.Contains other) (player : Option UInt32) :
    (grid.put position player).playerAt ((grid.put position player).index other)
      = if other = position then player else grid.playerAt (grid.index other) := by
  rw [playerAt, index_put, getElem?_put hposition, h.getElem?_index hother]
  simp only [index_inj hposition hother, eq_comm]
  split_ifs <;> rfl

end Put

section Vacate

variable {previous : Option Position}

def vacate (grid : Grid) (previous : Option Position) : Grid :=
  previous.elim grid (grid.put · none)

@[simp] theorem width_vacate (grid : Grid) (previous : Option Position) :
    (grid.vacate previous).width = grid.width := by
  cases previous <;> simp [vacate]

@[simp] theorem height_vacate (grid : Grid) (previous : Option Position) :
    (grid.vacate previous).height = grid.height := by
  cases previous <;> simp [vacate]

theorem contains_vacate : (grid.vacate previous).Contains other ↔ grid.Contains other := by
  simp [Contains]

theorem RowMajor.vacate (h : grid.RowMajor) (previous : Option Position) :
    (grid.vacate previous).RowMajor := by
  cases previous with
  | none => exact h
  | some position => exact h.put position none

theorem RowMajor.playerAt_vacate (h : grid.RowMajor)
    (hprevious : ∀ position ∈ previous, grid.Contains position) (hother : grid.Contains other) :
    (grid.vacate previous).playerAt ((grid.vacate previous).index other)
      = if previous = some other then none else grid.playerAt (grid.index other) := by
  cases previous with
  | none => rfl
  | some position =>
    have hput := h.playerAt_put (hprevious position rfl) hother none
    simp only [Grid.vacate, Option.elim_some, Option.some.injEq, hput, eq_comm]

end Vacate

end Grid

end GridSession
