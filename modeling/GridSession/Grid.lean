import GridSession.Storage

namespace GridSession

structure Position where
  x : UInt32
  y : UInt32
deriving DecidableEq, Inhabited

structure Cell where
  position : Position
  player : Option UInt32 := none
deriving DecidableEq, Inhabited

/-- The player on the cell if it is another one than `id`. -/
def Cell.otherThan? (cell : Cell) (id : UInt32) : Option UInt32 :=
  cell.player.filter (· != id)

/-- A table of cells, row after row. Every cell has its own position written on it. -/
structure Grid where
  width : UInt32
  height : UInt32
  cells : Array Cell
deriving DecidableEq, Inhabited

namespace Grid

def pushRow (width y : UInt32) (cells : Array Cell) : Array Cell :=
  width.toNat.fold (fun x _ cells => cells.push { position := ⟨UInt32.ofNat x, y⟩ }) cells

def pushRows (width : UInt32) (rows : Nat) (cells : Array Cell) : Array Cell :=
  rows.fold (fun y _ cells => pushRow width (UInt32.ofNat y) cells) cells

def empty (width height : UInt32) : Grid where
  width := width
  height := height
  cells := pushRows width height.toNat
    (Array.emptyWithCapacity (width.toNat * height.toNat))

/-- Octets of a cell in memory: two coordinates, an id and whether there is one. -/
def cellOctets : Nat := 16

def Contains (grid : Grid) (position : Position) : Prop :=
  position.x < grid.width ∧ position.y < grid.height

instance (grid : Grid) (position : Position) : Decidable (grid.Contains position) :=
  inferInstanceAs (Decidable (_ ∧ _))

/-- The place of a position in the table. -/
def index (grid : Grid) (position : Position) : Nat :=
  position.y.toNat * grid.width.toNat + position.x.toNat

def cell? (grid : Grid) (position : Position) : Option Cell :=
  if grid.Contains position then grid.cells[grid.index position]? else none

/-- Writes who stands on a cell, and leaves its position. Off the grid there is nothing to write. -/
def put (grid : Grid) (position : Position) (player : Option UInt32) : Grid :=
  if grid.Contains position then
    { grid with cells := grid.cells.modify (grid.index position) ({ · with player }) }
  else grid

theorem index_lt {grid : Grid} {position : Position} (h : grid.Contains position) :
    grid.index position < grid.width.toNat * grid.height.toNat := by
  have x_lt : position.x.toNat < grid.width.toNat := h.1
  have y_lt : position.y.toNat + 1 ≤ grid.height.toNat := h.2
  have rows : (position.y.toNat + 1) * grid.width.toNat ≤ grid.height.toNat * grid.width.toNat :=
    Nat.mul_le_mul_right _ y_lt
  rw [Nat.add_mul] at rows
  rw [index, Nat.mul_comm grid.width.toNat]
  omega

theorem index_inj {grid : Grid} {first second : Position} (hfirst : grid.Contains first)
    (hsecond : grid.Contains second) : grid.index first = grid.index second ↔ first = second := by
  refine ⟨fun h => ?_, congrArg _⟩
  have x_lt : first.x.toNat < grid.width.toNat := hfirst.1
  have x_lt' : second.x.toNat < grid.width.toNat := hsecond.1
  have x_eq := congrArg (· % grid.width.toNat) h
  have y_eq := congrArg (· / grid.width.toNat) h
  simp only [index, Nat.mul_add_mod_self_right, Nat.mod_eq_of_lt, x_lt, x_lt'] at x_eq
  simp only [index, Nat.add_comm (_ * _), Nat.add_mul_div_right _ _ (Nat.zero_lt_of_lt x_lt),
    Nat.div_eq_of_lt, x_lt, x_lt', Nat.zero_add] at y_eq
  obtain ⟨x, y⟩ := first
  obtain ⟨x', y'⟩ := second
  obtain rfl : x = x' := UInt32.toNat_inj.mp x_eq
  obtain rfl : y = y' := UInt32.toNat_inj.mp y_eq
  rfl

section Construction

variable (width y : UInt32) (cells : Array Cell)

theorem toList_pushRow :
    (pushRow width y cells).toList
      = cells.toList ++ (List.range width.toNat).map fun x =>
        { position := ⟨UInt32.ofNat x, y⟩ } := by
  unfold pushRow
  induction width.toNat with
  | zero => simp
  | succ count ih => simp [Nat.fold_succ, List.range_succ, ih]

theorem size_pushRow : (pushRow width y cells).size = cells.size + width.toNat := by
  simpa using congrArg List.length (toList_pushRow width y cells)

theorem getElem?_pushRow_of_lt {index : Nat} (h : index < cells.size) :
    (pushRow width y cells)[index]? = cells[index]? := by
  rw [← Array.getElem?_toList, toList_pushRow, List.getElem?_append_left h, Array.getElem?_toList]

theorem getElem?_pushRow_size_add {x : Nat} (h : x < width.toNat) :
    (pushRow width y cells)[cells.size + x]? = some { position := ⟨UInt32.ofNat x, y⟩ } := by
  rw [← Array.getElem?_toList, toList_pushRow, List.getElem?_append_right (by simp)]
  simp [h]

theorem pushRows_succ (rows : Nat) :
    pushRows width (rows + 1) cells
      = pushRow width (UInt32.ofNat rows) (pushRows width rows cells) :=
  Nat.fold_succ ..

theorem size_pushRows (rows : Nat) :
    (pushRows width rows cells).size = cells.size + rows * width.toNat := by
  induction rows with
  | zero => simp [pushRows]
  | succ rows ih => rw [pushRows_succ, size_pushRow, ih, Nat.succ_mul, Nat.add_assoc]

theorem getElem?_pushRows {rows x y : Nat} (hx : x < width.toNat) (hy : y < rows) :
    (pushRows width rows #[])[y * width.toNat + x]?
      = some { position := ⟨UInt32.ofNat x, UInt32.ofNat y⟩ } := by
  induction rows with
  | zero => cases hy
  | succ rows ih =>
    have hsize : (pushRows width rows #[]).size = rows * width.toNat := by
      simpa using size_pushRows width #[] rows
    rw [pushRows_succ]
    rcases Nat.lt_succ_iff_lt_or_eq.mp hy with hbefore | rfl
    · have hlt : y * width.toNat + x < rows * width.toNat := by
        have hrow := Nat.mul_le_mul_right width.toNat hbefore
        rw [Nat.succ_mul] at hrow
        omega
      rw [getElem?_pushRow_of_lt _ _ _ (hsize ▸ hlt), ih hbefore]
    · rw [← hsize, getElem?_pushRow_size_add _ _ _ hx]

end Construction

end Grid

end GridSession
