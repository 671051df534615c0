import LiveScene.Object.Mesh
import Mathlib.Data.List.Nodup

/-! # The triangles of a sphere

The vertices of a sphere stand in a grid of rows and columns, and its triangles halve the quads of the
grid. Numbers of vertices are computed with 32 bits. Nothing wraps around there, so what holds of the
grid holds of the buffers.
-/

namespace LiveScene

/-- A triangle by its corners, in the order of its winding. -/
structure Triangle (α : Type) where
  first : α
  second : α
  third : α

namespace Triangle

variable {α β : Type}

def corners (triangle : Triangle α) : List α :=
  [triangle.first, triangle.second, triangle.third]

/-- The sides, each in the direction of the winding. -/
def edges (triangle : Triangle α) : List (α × α) :=
  [(triangle.first, triangle.second), (triangle.second, triangle.third),
    (triangle.third, triangle.first)]

def map (f : α → β) (triangle : Triangle α) : Triangle β :=
  ⟨f triangle.first, f triangle.second, f triangle.third⟩

/-- The triangles whose corners are listed one after the other. -/
def ofCorners : List α → List (Triangle α)
  | first :: second :: third :: rest => ⟨first, second, third⟩ :: ofCorners rest
  | _ => []

theorem ofCorners_flatMap (triangles : List (Triangle α)) :
    ofCorners (triangles.flatMap corners) = triangles := by
  induction triangles with
  | nil => rfl
  | cons triangle rest ih =>
      rw [List.flatMap_cons, corners, List.cons_append, List.cons_append, List.cons_append,
        List.nil_append, ofCorners, ih]

theorem length_flatMap_corners (triangles : List (Triangle α)) :
    (triangles.flatMap corners).length = 3 * triangles.length := by
  induction triangles with
  | nil => rfl
  | cons triangle rest ih =>
      rw [List.flatMap_cons, List.length_append, ih, List.length_cons]
      simp only [corners, List.length_cons, List.length_nil]
      omega

theorem flatMap_corners_map (f : α → β) (triangles : List (Triangle α)) :
    (triangles.map (map f)).flatMap corners = (triangles.flatMap corners).map f := by
  rw [List.flatMap_map, List.map_flatMap]
  rfl

theorem flatMap_edges_map (f : α → β) (triangles : List (Triangle α)) :
    (triangles.map (map f)).flatMap edges = (triangles.flatMap edges).map (Prod.map f f) := by
  rw [List.flatMap_map, List.map_flatMap]
  rfl

/-- The ends of a side are corners. -/
theorem mem_corners_of_mem_edges {triangle : Triangle α} {edge : α × α}
    (hedge : edge ∈ triangle.edges) :
    edge.1 ∈ triangle.corners ∧ edge.2 ∈ triangle.corners := by
  simp only [edges, List.mem_cons, List.not_mem_nil, or_false] at hedge
  rcases hedge with rfl | rfl | rfl <;> simp [corners]

end Triangle

/-! ## The grid -/

/-- A place in the grid of vertices. It also names the quad to the right of it and under it. -/
structure Spot where
  row : Nat
  column : Nat
deriving DecidableEq

namespace Spot

def right (spot : Spot) : Spot := ⟨spot.row, spot.column + 1⟩

def down (spot : Spot) : Spot := ⟨spot.row + 1, spot.column⟩

/-- The number of the vertex at a place, row by row. -/
def number (columns : Nat) (spot : Spot) : Nat :=
  spot.row * (columns + 1) + spot.column

/-- The places of a grid with some columns and rows of quads. -/
def Within (columns rows : Nat) (spot : Spot) : Prop :=
  spot.row ≤ rows ∧ spot.column ≤ columns

/-- The quads of a grid, row by row. -/
def quads (columns rows : Nat) : List Spot :=
  (List.range rows).flatMap fun row => (List.range columns).map fun column => ⟨row, column⟩

/-- Whether a quad touches a pole. -/
def isPolar (rows : Nat) (quad : Spot) : Bool :=
  quad.row == 0 || quad.row + 1 == rows

def corners (quad : Spot) : List Spot :=
  [quad, quad.right, quad.down, quad.down.right]

/-- The two halves of a quad. In the first row the upper half would be degenerate and is left out, in
the last row the lower half. -/
def halves (rows : Nat) (quad : Spot) : List (Triangle Spot) :=
  (if quad.row ≠ 0 then [⟨quad.right, quad, quad.down.right⟩] else []) ++
    (if quad.row + 1 ≠ rows then [⟨quad, quad.down, quad.down.right⟩] else [])

variable {columns rows : Nat} {quad spot : Spot}

theorem mem_quads : quad ∈ quads columns rows ↔ quad.row < rows ∧ quad.column < columns := by
  rcases quad with ⟨row, column⟩
  simp [quads]

theorem nodup_quads (columns rows : Nat) : (quads columns rows).Nodup := by
  refine List.nodup_flatMap.mpr ⟨fun row _ => ?_, ?_⟩
  · exact List.nodup_range.map fun column column' heq => (mk.inj heq).2
  · refine List.nodup_range.imp fun {row row'} hne quad hquad hquad' => ?_
    obtain ⟨column, -, rfl⟩ := List.mem_map.mp hquad
    obtain ⟨column', -, heq⟩ := List.mem_map.mp hquad'
    exact hne (mk.inj heq).1.symm

theorem number_lt (hspot : spot.Within columns rows) :
    spot.number columns < (columns + 1) * (rows + 1) := by
  have hrow : spot.row * (columns + 1) ≤ rows * (columns + 1) := Nat.mul_le_mul_right _ hspot.1
  have hcolumn := hspot.2
  rw [number, Nat.mul_comm (columns + 1), Nat.succ_mul]
  omega

/-- The number of a vertex tells its place. -/
theorem number_inj {spot' : Spot} (hspot : spot.Within columns rows)
    (hspot' : spot'.Within columns rows) (hnumber : spot.number columns = spot'.number columns) :
    spot = spot' := by
  rcases spot with ⟨row, column⟩
  rcases spot' with ⟨row', column'⟩
  have hcolumn : column < columns + 1 := Nat.lt_succ_of_le hspot.2
  have hcolumn' : column' < columns + 1 := Nat.lt_succ_of_le hspot'.2
  simp only [number, Nat.mul_comm _ (columns + 1)] at hnumber
  have hrow := congrArg (· / (columns + 1)) hnumber
  have hrest := congrArg (· % (columns + 1)) hnumber
  simp only [Nat.mul_add_div (Nat.succ_pos columns), Nat.div_eq_of_lt hcolumn,
    Nat.div_eq_of_lt hcolumn', Nat.add_zero] at hrow
  simp only [Nat.mul_add_mod, Nat.mod_eq_of_lt hcolumn, Nat.mod_eq_of_lt hcolumn'] at hrest
  rw [hrow, hrest]

/-- Every number below the count of vertices is the number of a place. -/
theorem exists_number_eq {number : Nat} (hnumber : number < (columns + 1) * (rows + 1)) :
    ∃ spot : Spot, spot.Within columns rows ∧ spot.number columns = number := by
  refine ⟨⟨number / (columns + 1), number % (columns + 1)⟩, ⟨?_, ?_⟩, ?_⟩
  · exact Nat.le_of_lt_succ (Nat.div_lt_of_lt_mul hnumber)
  · exact Nat.le_of_lt_succ (Nat.mod_lt _ (Nat.succ_pos columns))
  · rw [Spot.number, Nat.mul_comm]
    exact Nat.div_add_mod number (columns + 1)

/-- The triangles of a grid, quad by quad. -/
def triangles (columns rows : Nat) : List (Triangle Spot) :=
  (quads columns rows).flatMap (halves rows)

theorem mem_corners :
    spot ∈ quad.corners ↔ (spot.row = quad.row ∨ spot.row = quad.row + 1) ∧
      (spot.column = quad.column ∨ spot.column = quad.column + 1) := by
  rcases spot with ⟨row, column⟩
  rcases quad with ⟨row', column'⟩
  simp only [corners, right, down, List.mem_cons, List.not_mem_nil, or_false, mk.injEq]
  omega

theorem within_of_mem_corners (hquad : quad ∈ quads columns rows) (hspot : spot ∈ quad.corners) :
    spot.Within columns rows := by
  have hquad := mem_quads.mp hquad
  have hspot := mem_corners.mp hspot
  constructor <;> omega

section

variable {triangle : Triangle Spot} (htriangle : triangle ∈ quad.halves rows)

include htriangle

theorem mem_halves_cases :
    quad.row ≠ 0 ∧ triangle = ⟨quad.right, quad, quad.down.right⟩ ∨
      quad.row + 1 ≠ rows ∧ triangle = ⟨quad, quad.down, quad.down.right⟩ := by
  simp only [halves, List.mem_append] at htriangle
  rcases htriangle with hupper | hlower
  · split at hupper
    next hrow => exact Or.inl ⟨hrow, List.mem_singleton.mp hupper⟩
    next => cases hupper
  · split at hlower
    next hrow => exact Or.inr ⟨hrow, List.mem_singleton.mp hlower⟩
    next => cases hlower

theorem mem_corners_of_mem_halves (hspot : spot ∈ triangle.corners) : spot ∈ quad.corners := by
  rcases mem_halves_cases htriangle with ⟨-, rfl⟩ | ⟨-, rfl⟩ <;>
    simp only [Triangle.corners, List.mem_cons, List.not_mem_nil, or_false] at hspot <;>
    rcases hspot with rfl | rfl | rfl <;> simp [corners, right, down]

/-- Both halves of a quad have its diagonal. -/
theorem diagonal_mem_corners :
    quad ∈ triangle.corners ∧ quad.down.right ∈ triangle.corners := by
  rcases mem_halves_cases htriangle with ⟨-, rfl⟩ | ⟨-, rfl⟩ <;> simp [Triangle.corners]

theorem nodup_corners_of_mem_halves : triangle.corners.Nodup := by
  rcases mem_halves_cases htriangle with ⟨-, rfl⟩ | ⟨-, rfl⟩ <;>
    rcases quad with ⟨row, column⟩ <;> simp [Triangle.corners, right, down]

end

/-- A half of a quad fits into no other quad. -/
theorem eq_of_halves_within {other : Spot} {triangle : Triangle Spot}
    (htriangle : triangle ∈ other.halves rows)
    (hwithin : ∀ spot ∈ triangle.corners, spot ∈ quad.corners) : other = quad := by
  obtain ⟨hupper, hlower⟩ := diagonal_mem_corners htriangle
  have hupper := mem_corners.mp (hwithin _ hupper)
  have hlower := mem_corners.mp (hwithin _ hlower)
  rcases other with ⟨row, column⟩
  rcases quad with ⟨row', column'⟩
  simp only [right, down] at hupper hlower
  rw [mk.injEq]
  omega

/-! ## How many triangles there are -/

theorem length_halves (rows : Nat) (quad : Spot) :
    (quad.halves rows).length =
      (if quad.row ≠ 0 then 1 else 0) + if quad.row + 1 ≠ rows then 1 else 0 := by
  rw [halves, List.length_append]
  congr 1 <;> split <;> rfl

theorem length_halves_eq (hrows : 2 ≤ rows) (quad : Spot) :
    (quad.halves rows).length = if quad.isPolar rows then 1 else 2 := by
  rw [length_halves]
  by_cases hfirst : quad.row = 0
  · simp [isPolar, hfirst, show 1 ≠ rows by omega]
  · by_cases hlast : quad.row + 1 = rows <;> simp [isPolar, hfirst, hlast]

theorem length_flatMap_of_const {α β : Type} {f : α → List β} {count : Nat} {items : List α}
    (hcount : ∀ item ∈ items, (f item).length = count) :
    (items.flatMap f).length = items.length * count := by
  rw [List.length_flatMap, List.map_congr_left hcount]
  simp

/-- The triangles of the first rows: every row but the first has upper halves, and every row but the
last has lower ones. -/
theorem length_triangles_of_rows {count : Nat} (hcount : count ≤ rows) :
    (((List.range count).flatMap fun row => (List.range columns).map fun column =>
      (⟨row, column⟩ : Spot)).flatMap (halves rows)).length =
      columns * ((count - 1) + min count (rows - 1)) := by
  induction count with
  | zero => simp
  | succ row ih =>
      have hrow : (((List.range columns).map fun column => (⟨row, column⟩ : Spot)).flatMap
          (halves rows)).length =
          columns * ((if row ≠ 0 then 1 else 0) + if row + 1 ≠ rows then 1 else 0) := by
        have hquads : ∀ quad ∈ (List.range columns).map fun column => (⟨row, column⟩ : Spot),
            (quad.halves rows).length =
              (if row ≠ 0 then 1 else 0) + if row + 1 ≠ rows then 1 else 0 := by
          intro quad hquad
          obtain ⟨column, -, rfl⟩ := List.mem_map.mp hquad
          exact length_halves rows ⟨row, column⟩
        rw [length_flatMap_of_const hquads, List.length_map, List.length_range]
      rw [List.range_succ, List.flatMap_append, List.flatMap_append, List.length_append,
        ih (by omega), List.flatMap_cons, List.flatMap_nil, List.append_nil, hrow, ← Nat.mul_add]
      congr 1
      split <;> split <;> omega

theorem length_triangles (columns rows : Nat) :
    (triangles columns rows).length = 2 * columns * (rows - 1) := by
  rw [triangles, quads, length_triangles_of_rows (Nat.le_refl rows),
    Nat.min_eq_right (Nat.sub_le rows 1), ← Nat.two_mul, Nat.mul_left_comm, Nat.mul_assoc]

theorem length_quads (columns rows : Nat) : (quads columns rows).length = rows * columns := by
  have hrow : ∀ row ∈ List.range rows,
      ((List.range columns).map fun column => (⟨row, column⟩ : Spot)).length = columns := by simp
  rw [quads, length_flatMap_of_const hrow, List.length_range]

/-- Every quad has a triangle, and those off the poles have one more. -/
theorem length_flatMap_halves (hrows : 2 ≤ rows) (items : List Spot) :
    (items.flatMap (halves rows)).length =
      items.length + (items.filter fun quad => !quad.isPolar rows).length := by
  induction items with
  | nil => rfl
  | cons quad rest ih =>
      rw [List.flatMap_cons, List.length_append, ih, length_halves_eq hrows, List.length_cons,
        List.filter_cons]
      cases quad.isPolar rows <;> simp <;> omega

theorem length_filter_not_isPolar (columns : Nat) (hrows : 2 ≤ rows) :
    ((quads columns rows).filter fun quad => !quad.isPolar rows).length = columns * (rows - 2) := by
  have hcount := length_flatMap_halves hrows (quads columns rows)
  rw [← triangles, length_triangles, length_quads] at hcount
  obtain ⟨inner, rfl⟩ := Nat.exists_eq_add_of_le hrows
  have hleft : 2 * columns * (2 + inner - 1) = 2 * columns + 2 * (columns * inner) := by
    rw [show 2 + inner - 1 = 1 + inner by omega, Nat.mul_add, Nat.mul_one, Nat.mul_assoc]
  rw [hleft, Nat.add_mul, Nat.mul_comm inner] at hcount
  rw [Nat.add_sub_cancel_left]
  omega

/-! ## Which way the sides go -/

/-- The quad that a side belongs to as a side of one of its halves. -/
def owner (edge : Spot × Spot) : Spot :=
  if edge.1.row < edge.2.row then edge.1
  else if edge.2.row < edge.1.row then
    if edge.2.column < edge.1.column then edge.2 else ⟨edge.2.row, edge.2.column - 1⟩
  else if edge.1.column < edge.2.column then ⟨edge.1.row - 1, edge.1.column⟩
  else edge.2

theorem owner_eq {triangle : Triangle Spot} (htriangle : triangle ∈ quad.halves rows)
    {edge : Spot × Spot} (hedge : edge ∈ triangle.edges) : owner edge = quad := by
  rcases quad with ⟨row, column⟩
  rcases mem_halves_cases htriangle with ⟨-, rfl⟩ | ⟨-, rfl⟩ <;>
    simp only [Triangle.edges, List.mem_cons, List.not_mem_nil, or_false] at hedge <;>
    rcases hedge with rfl | rfl | rfl <;>
    simp [owner, right, down, show ¬column + 1 < column by omega]

theorem nodup_edges_halves (rows : Nat) (quad : Spot) :
    ((quad.halves rows).flatMap Triangle.edges).Nodup := by
  rcases quad with ⟨row, column⟩
  simp only [halves]
  split <;> split <;> simp [Triangle.edges, right, down]

/-- No side is gone along twice in one direction. -/
theorem nodup_edges (columns rows : Nat) :
    ((triangles columns rows).flatMap Triangle.edges).Nodup := by
  rw [triangles, List.flatMap_assoc]
  refine List.nodup_flatMap.mpr ⟨fun quad _ => nodup_edges_halves rows quad, ?_⟩
  refine (nodup_quads columns rows).imp fun {quad quad'} hne edge hedge hedge' => hne ?_
  obtain ⟨triangle, htriangle, hedge⟩ := List.mem_flatMap.mp hedge
  obtain ⟨triangle', htriangle', hedge'⟩ := List.mem_flatMap.mp hedge'
  rw [← owner_eq htriangle hedge, owner_eq htriangle' hedge']

/-! ## Where the triangles are -/

/-- The triangles that fit into a quad are its halves. -/
theorem filter_triangles (hquad : quad ∈ quads columns rows) :
    ((triangles columns rows).filter fun triangle =>
      triangle.corners.all fun spot => decide (spot ∈ quad.corners)) = quad.halves rows := by
  obtain ⟨before, after, hsplit⟩ := List.append_of_mem hquad
  have hnodup := nodup_quads columns rows
  rw [hsplit, List.nodup_middle, List.nodup_cons, List.mem_append, not_or] at hnodup
  have hother : ∀ others : List Spot, quad ∉ others →
      ((others.flatMap (halves rows)).filter fun triangle =>
        triangle.corners.all fun spot => decide (spot ∈ quad.corners)) = [] := by
    intro others hquad
    refine List.filter_eq_nil_iff.mpr fun triangle htriangle hwithin => hquad ?_
    obtain ⟨other, hother, htriangle⟩ := List.mem_flatMap.mp htriangle
    rw [List.all_eq_true] at hwithin
    have heq := eq_of_halves_within htriangle fun spot hspot =>
      of_decide_eq_true (hwithin spot hspot)
    exact heq ▸ hother
  have hown : ((quad.halves rows).filter fun triangle =>
      triangle.corners.all fun spot => decide (spot ∈ quad.corners)) = quad.halves rows := by
    refine List.filter_eq_self.mpr fun triangle htriangle => List.all_eq_true.mpr fun spot hspot => ?_
    exact decide_eq_true (mem_corners_of_mem_halves htriangle hspot)
  rw [triangles, hsplit, List.flatMap_append, List.flatMap_cons, List.filter_append,
    List.filter_append, hother before hnodup.1.1, hother after hnodup.1.2, hown, List.nil_append,
    List.append_nil]

theorem within_of_mem_triangles
    (hspot : spot ∈ (triangles columns rows).flatMap Triangle.corners) :
    spot.Within columns rows := by
  obtain ⟨triangle, htriangle, hspot⟩ := List.mem_flatMap.mp hspot
  obtain ⟨quad, hquad, htriangle⟩ := List.mem_flatMap.mp htriangle
  exact within_of_mem_corners hquad (mem_corners_of_mem_halves htriangle hspot)

theorem within_of_mem_edges {edge : Spot × Spot}
    (hedge : edge ∈ (triangles columns rows).flatMap Triangle.edges) :
    edge.1.Within columns rows ∧ edge.2.Within columns rows := by
  obtain ⟨triangle, htriangle, hedge⟩ := List.mem_flatMap.mp hedge
  obtain ⟨hfirst, hsecond⟩ := Triangle.mem_corners_of_mem_edges hedge
  exact ⟨within_of_mem_triangles (List.mem_flatMap.mpr ⟨triangle, htriangle, hfirst⟩),
    within_of_mem_triangles (List.mem_flatMap.mpr ⟨triangle, htriangle, hsecond⟩)⟩

/-- A quad has a half. -/
theorem exists_half (hrows : 2 ≤ rows) (quad : Spot) : ∃ triangle, triangle ∈ quad.halves rows := by
  refine List.exists_mem_of_length_pos ?_
  rw [length_halves_eq hrows]
  split <;> decide

/-- The last place of the first row and the first place of the last row are the only ones that no
triangle has as a corner. -/
theorem mem_corners_triangles (hcolumns : 1 ≤ columns) (hrows : 2 ≤ rows)
    (hspot : spot.Within columns rows) :
    spot ∈ (triangles columns rows).flatMap Triangle.corners ↔
      spot ≠ ⟨0, columns⟩ ∧ spot ≠ ⟨rows, 0⟩ := by
  rw [List.mem_flatMap]
  constructor
  · rintro ⟨triangle, htriangle, hcorner⟩
    obtain ⟨quad, hquad, htriangle⟩ := List.mem_flatMap.mp htriangle
    obtain ⟨hrow, hcolumn⟩ := mem_quads.mp hquad
    rcases mem_halves_cases htriangle with ⟨hfirst, rfl⟩ | ⟨hlast, rfl⟩ <;>
      simp only [Triangle.corners, List.mem_cons, List.not_mem_nil, or_false] at hcorner <;>
      rcases hcorner with rfl | rfl | rfl <;> constructor <;> intro heq <;>
      have hrows := congrArg row heq <;> have hcolumns := congrArg column heq <;>
      simp only [right, down] at hrows hcolumns <;> omega
  · rintro ⟨hnorth, hsouth⟩
    rcases spot with ⟨row, column⟩
    obtain ⟨hrow, hcolumn⟩ := hspot
    rw [ne_eq, mk.injEq] at hnorth hsouth
    -- Such a place has a quad to its lower right or one to its upper left.
    by_cases hlower : row < rows ∧ column < columns
    · obtain ⟨triangle, htriangle⟩ := exists_half hrows ⟨row, column⟩
      exact ⟨triangle, List.mem_flatMap.mpr ⟨_, mem_quads.mpr hlower, htriangle⟩,
        (diagonal_mem_corners htriangle).1⟩
    · dsimp only at hrow hcolumn
      obtain ⟨upper, rfl⟩ : ∃ upper, row = upper + 1 := ⟨row - 1, by omega⟩
      obtain ⟨left, rfl⟩ : ∃ left, column = left + 1 := ⟨column - 1, by omega⟩
      obtain ⟨triangle, htriangle⟩ := exists_half hrows ⟨upper, left⟩
      have hquad : (⟨upper, left⟩ : Spot) ∈ quads columns rows := mem_quads.mpr ⟨hrow, hcolumn⟩
      exact ⟨triangle, List.mem_flatMap.mpr ⟨_, hquad, htriangle⟩,
        (diagonal_mem_corners htriangle).2⟩

end Spot

/-! ## The buffers -/

namespace Mesh

/-- The triangles that the index buffer describes. -/
def triangles (mesh : Mesh) : List (Triangle UInt32) :=
  Triangle.ofCorners mesh.indices.toList

/-- The index of the vertex at a place. -/
def spotIndex (columns : Nat) (spot : Spot) : UInt32 :=
  .ofNat (spot.number columns)

theorem vertexIndex_ofNat (columns : UInt32) (row column : Nat) :
    vertexIndex columns (.ofNat row) (.ofNat column) =
      spotIndex columns.toNat ⟨row, column⟩ := by
  rw [spotIndex, Spot.number, UInt32.ofNat_add, UInt32.ofNat_mul, UInt32.ofNat_add,
    UInt32.ofNat_toNat, UInt32.ofNat_one, vertexIndex]

theorem quadIndices_eq {columns rows : UInt32} {row : Nat} (hrow : row < rows.toNat)
    (column : Nat) :
    quadIndices columns rows (.ofNat row) (.ofNat column) =
      (((⟨row, column⟩ : Spot).halves rows.toNat).flatMap Triangle.corners).map
        (spotIndex columns.toNat) := by
  have hvalue : (UInt32.ofNat row).toNat = row :=
    UInt32.toNat_ofNat_of_lt' (Nat.lt_trans hrow rows.toNat_lt)
  have hfirst : UInt32.ofNat row ≠ 0 ↔ row ≠ 0 := by
    rw [ne_eq, ← UInt32.toNat_inj, hvalue]
    rfl
  have hone : (1 : UInt32) ≤ rows := by
    rw [UInt32.le_iff_toNat_le]
    exact Nat.lt_of_le_of_lt (Nat.zero_le row) hrow
  have hlast : UInt32.ofNat row ≠ rows - 1 ↔ row + 1 ≠ rows.toNat := by
    rw [ne_eq, ← UInt32.toNat_inj, hvalue, UInt32.toNat_sub_of_le _ _ hone]
    change ¬row = rows.toNat - 1 ↔ _
    omega
  have hnext : ∀ number : Nat, UInt32.ofNat number + 1 = .ofNat (number + 1) := fun number =>
    (UInt32.ofNat_add number 1).symm
  simp only [quadIndices, hnext, vertexIndex_ofNat, hfirst, hlast, Spot.halves]
  split <;> split <;> rfl

theorem toList_sphereIndices (columns rows : UInt32) :
    (sphereIndices columns rows).toList =
      ((Spot.triangles columns.toNat rows.toNat).flatMap Triangle.corners).map
        (spotIndex columns.toNat) := by
  simp only [sphereIndices, Array.toList_flatMap, Array.toList_range, Spot.triangles, Spot.quads,
    List.flatMap_assoc, List.map_flatMap, List.flatMap_map]
  refine List.flatMap_congr fun row hrow => List.flatMap_congr fun column _ => ?_
  exact (quadIndices_eq (List.mem_range.mp hrow) column).trans List.map_flatMap

theorem size_sphereVertices (radius : Float32) (columns rows : UInt32) :
    (sphereVertices radius columns rows).size = (columns.toNat + 1) * (rows.toNat + 1) := by
  have hrow : ∀ row ∈ List.range (rows.toNat + 1),
      (sphereRow radius ((UInt32.ofNat row).toFloat32 / rows.toFloat32) columns).toList.length =
        columns.toNat + 1 := fun row _ => Array.size_ofFn
  rw [← Array.length_toList, sphereVertices, Array.toList_flatMap, Array.toList_range,
    Spot.length_flatMap_of_const hrow, List.length_range, Nat.mul_comm]

/-- The counts of segments that a sphere can have. -/
structure Moderate (columns rows : Nat) : Prop where
  three_le : 3 ≤ columns
  columns_le : columns ≤ 1024
  two_le : 2 ≤ rows
  rows_le : rows ≤ 1024

theorem Moderate.vertices_lt {columns rows : Nat} (h : Moderate columns rows) :
    (columns + 1) * (rows + 1) < UInt32.size := by
  have hmul : (columns + 1) * (rows + 1) ≤ 1025 * 1025 :=
    Nat.mul_le_mul (Nat.succ_le_succ h.columns_le) (Nat.succ_le_succ h.rows_le)
  exact Nat.lt_of_le_of_lt hmul (by decide)

section

variable {columns rows : UInt32} (h : Moderate columns.toNat rows.toNat)

include h

theorem toNat_spotIndex {spot : Spot} (hspot : spot.Within columns.toNat rows.toNat) :
    (spotIndex columns.toNat spot).toNat = spot.number columns.toNat :=
  UInt32.toNat_ofNat_of_lt' (Nat.lt_trans (Spot.number_lt hspot) h.vertices_lt)

theorem spotIndex_inj {spot spot' : Spot} (hspot : spot.Within columns.toNat rows.toNat)
    (hspot' : spot'.Within columns.toNat rows.toNat)
    (heq : spotIndex columns.toNat spot = spotIndex columns.toNat spot') : spot = spot' := by
  refine Spot.number_inj hspot hspot' ?_
  rw [← toNat_spotIndex h hspot, ← toNat_spotIndex h hspot', heq]

end

/-- Whether all corners of a triangle are corners of a quad. -/
def fitsInto (columns : Nat) (quad : Spot) (triangle : Triangle UInt32) : Bool :=
  triangle.corners.all fun index => (quad.corners.map (Spot.number columns)).contains index.toNat

/-- What can be relied on in the buffers of a sphere. -/
structure Tessellated (mesh : Mesh) (columns rows : Nat) : Prop where
  size_vertices : mesh.vertices.size = (columns + 1) * (rows + 1)
  size_indices : mesh.indices.size = 3 * mesh.triangleCount
  triangleCount_eq : mesh.triangleCount = 2 * columns * (rows - 1)
  in_range : ∀ index ∈ mesh.indices, index.toNat < mesh.vertices.size
  distinct : ∀ triangle ∈ mesh.triangles, triangle.corners.Nodup
  /-- No side is gone along twice in one direction, so neighbours are wound alike. -/
  wound_alike : (mesh.triangles.flatMap Triangle.edges).Nodup
  inner_quads : ((Spot.quads columns rows).filter fun quad => !quad.isPolar rows).length =
    columns * (rows - 2)
  shares : ∀ quad ∈ Spot.quads columns rows,
    (mesh.triangles.filter (fitsInto columns quad)).length = if quad.isPolar rows then 1 else 2
  covered : ∀ triangle ∈ mesh.triangles, ∃ quad ∈ Spot.quads columns rows,
    fitsInto columns quad triangle = true
  /-- Unused are the last vertex of the first row and the first of the last row only. -/
  used : ∀ number < mesh.vertices.size, (∃ index ∈ mesh.indices, index.toNat = number) ↔
    number ≠ columns ∧ number ≠ rows * (columns + 1)

/-- No step in the computation of an index wraps around. -/
structure Unwrapped (columns rows : UInt32) : Prop where
  rowLength : (columns + 1).toNat = columns.toNat + 1
  lastRow : (rows - 1).toNat = rows.toNat - 1
  nextRow : ∀ row < rows, (row + 1).toNat = row.toNat + 1
  nextColumn : ∀ column < columns, (column + 1).toNat = column.toNat + 1
  rowStart : ∀ row ≤ rows, (row * (columns + 1)).toNat = row.toNat * (columns.toNat + 1)
  index : ∀ row ≤ rows, ∀ column ≤ columns, (vertexIndex columns row column).toNat =
    row.toNat * (columns.toNat + 1) + column.toNat

/-- A number below a bound has a successor. -/
theorem toNat_add_one {count bound : UInt32} (hcount : count < bound) :
    (count + 1).toNat = count.toNat + 1 := by
  have hlt := UInt32.lt_iff_toNat_lt.mp hcount
  have hbound := bound.toNat_lt
  rw [UInt32.toNat_add]
  exact Nat.mod_eq_of_lt (Nat.lt_of_le_of_lt hlt hbound)

section

variable {columns rows : UInt32} (h : Moderate columns.toNat rows.toNat)

include h

theorem Moderate.unwrapped : Unwrapped columns rows := by
  have hlength : (columns + 1).toNat = columns.toNat + 1 := by
    have hle := h.columns_le
    rw [UInt32.toNat_add]
    exact Nat.mod_eq_of_lt (Nat.lt_of_le_of_lt (Nat.succ_le_succ hle) (by decide))
  have hindex : ∀ row ≤ rows, ∀ column ≤ columns,
      row.toNat * (columns.toNat + 1) + column.toNat < UInt32.size := by
    intro row hrow column hcolumn
    have hwithin : (⟨row.toNat, column.toNat⟩ : Spot).Within columns.toNat rows.toNat :=
      ⟨UInt32.le_iff_toNat_le.mp hrow, UInt32.le_iff_toNat_le.mp hcolumn⟩
    exact Nat.lt_trans (Spot.number_lt hwithin) h.vertices_lt
  have hstart : ∀ row ≤ rows,
      (row * (columns + 1)).toNat = row.toNat * (columns.toNat + 1) := by
    intro row hrow
    have hlt := hindex row hrow 0 UInt32.zero_le
    rw [UInt32.toNat_mul, hlength]
    exact Nat.mod_eq_of_lt hlt
  refine ⟨hlength, ?_, fun _ => toNat_add_one, fun _ => toNat_add_one, hstart, ?_⟩
  · refine UInt32.toNat_sub_of_le _ _ (UInt32.le_iff_toNat_le.mpr ?_)
    exact Nat.le_trans (by decide) h.two_le
  · intro row hrow column hcolumn
    rw [vertexIndex, UInt32.toNat_add, hstart row hrow]
    exact Nat.mod_eq_of_lt (hindex row hrow column hcolumn)

/-- On places of the grid, fitting into a quad is a matter of the grid alone. -/
theorem fitsInto_map {quad : Spot} (hquad : quad ∈ Spot.quads columns.toNat rows.toNat)
    {triangle : Triangle Spot} (htriangle : triangle ∈ Spot.triangles columns.toNat rows.toNat) :
    fitsInto columns.toNat quad (triangle.map (spotIndex columns.toNat)) =
      triangle.corners.all fun spot => decide (spot ∈ quad.corners) := by
  have hcorner : ∀ spot ∈ triangle.corners,
      (spotIndex columns.toNat spot).toNat ∈ quad.corners.map (Spot.number columns.toNat) ↔
        spot ∈ quad.corners := by
    intro spot hspot
    have hwithin := Spot.within_of_mem_triangles (List.mem_flatMap.mpr ⟨triangle, htriangle, hspot⟩)
    rw [toNat_spotIndex h hwithin, List.mem_map]
    refine ⟨?_, fun hmem => ⟨spot, hmem, rfl⟩⟩
    rintro ⟨corner, hcorner, heq⟩
    rw [← Spot.number_inj (Spot.within_of_mem_corners hquad hcorner) hwithin heq]
    exact hcorner
  have hcorners : (triangle.map (spotIndex columns.toNat)).corners =
      triangle.corners.map (spotIndex columns.toNat) := rfl
  rw [fitsInto, hcorners, Bool.eq_iff_iff]
  simp only [List.all_map, List.all_eq_true, Function.comp_apply, List.contains_iff_mem,
    decide_eq_true_eq]
  exact forall₂_congr hcorner

/-! ### Meshes with the triangles of a sphere -/

variable {mesh : Mesh} (hmesh : mesh.indices = sphereIndices columns rows)

include hmesh

omit h in
theorem triangles_of_indices :
    mesh.triangles =
      (Spot.triangles columns.toNat rows.toNat).map (Triangle.map (spotIndex columns.toNat)) := by
  rw [triangles, hmesh, toList_sphereIndices, ← Triangle.flatMap_corners_map,
    Triangle.ofCorners_flatMap]

omit h in
theorem mem_indices_iff (index : UInt32) :
    index ∈ mesh.indices ↔
      ∃ spot ∈ (Spot.triangles columns.toNat rows.toNat).flatMap Triangle.corners,
        spotIndex columns.toNat spot = index := by
  rw [hmesh, ← Array.mem_toList_iff, toList_sphereIndices, List.mem_map]

omit h in
theorem size_indices_eq : mesh.indices.size = 3 * (2 * columns.toNat * (rows.toNat - 1)) := by
  rw [hmesh, ← Array.length_toList, toList_sphereIndices, List.length_map,
    Triangle.length_flatMap_corners, Spot.length_triangles]

theorem index_lt {index : UInt32} (hindex : index ∈ mesh.indices) :
    index.toNat < (columns.toNat + 1) * (rows.toNat + 1) := by
  obtain ⟨spot, hspot, rfl⟩ := (mem_indices_iff hmesh index).mp hindex
  have hwithin := Spot.within_of_mem_triangles hspot
  rw [toNat_spotIndex h hwithin]
  exact Spot.number_lt hwithin

theorem nodup_corners {triangle : Triangle UInt32} (htriangle : triangle ∈ mesh.triangles) :
    triangle.corners.Nodup := by
  rw [triangles_of_indices hmesh] at htriangle
  obtain ⟨half, hhalf, rfl⟩ := List.mem_map.mp htriangle
  obtain ⟨quad, hquad, hhalf⟩ := List.mem_flatMap.mp hhalf
  have hwithin : ∀ spot ∈ half.corners, spot.Within columns.toNat rows.toNat := fun spot hspot =>
    Spot.within_of_mem_corners hquad (Spot.mem_corners_of_mem_halves hhalf hspot)
  have hnodup : (half.corners.map (spotIndex columns.toNat)).Nodup :=
    (Spot.nodup_corners_of_mem_halves hhalf).map_on fun spot hspot spot' hspot' heq =>
      spotIndex_inj h (hwithin spot hspot) (hwithin spot' hspot') heq
  exact hnodup

theorem nodup_edges : (mesh.triangles.flatMap Triangle.edges).Nodup := by
  rw [triangles_of_indices hmesh, Triangle.flatMap_edges_map]
  refine (Spot.nodup_edges _ _).map_on fun edge hedge edge' hedge' heq => ?_
  obtain ⟨hfirst, hsecond⟩ := Spot.within_of_mem_edges hedge
  obtain ⟨hfirst', hsecond'⟩ := Spot.within_of_mem_edges hedge'
  obtain ⟨heqFirst, heqSecond⟩ := Prod.mk.inj heq
  exact Prod.ext (spotIndex_inj h hfirst hfirst' heqFirst)
    (spotIndex_inj h hsecond hsecond' heqSecond)

theorem length_filter_fitsInto {quad : Spot} (hquad : quad ∈ Spot.quads columns.toNat rows.toNat) :
    (mesh.triangles.filter (fitsInto columns.toNat quad)).length =
      if quad.isPolar rows.toNat then 1 else 2 := by
  have hfits : ∀ half ∈ Spot.triangles columns.toNat rows.toNat,
      (fitsInto columns.toNat quad ∘ Triangle.map (spotIndex columns.toNat)) half =
        half.corners.all fun spot => decide (spot ∈ quad.corners) :=
    fun half hhalf => fitsInto_map h hquad hhalf
  rw [triangles_of_indices hmesh, List.filter_map, List.length_map, List.filter_congr hfits,
    Spot.filter_triangles hquad, Spot.length_halves_eq h.two_le]

theorem exists_fitsInto {triangle : Triangle UInt32} (htriangle : triangle ∈ mesh.triangles) :
    ∃ quad ∈ Spot.quads columns.toNat rows.toNat,
      fitsInto columns.toNat quad triangle = true := by
  rw [triangles_of_indices hmesh] at htriangle
  obtain ⟨half, hmem, rfl⟩ := List.mem_map.mp htriangle
  obtain ⟨quad, hquad, hhalf⟩ := List.mem_flatMap.mp hmem
  refine ⟨quad, hquad, ?_⟩
  rw [fitsInto_map h hquad hmem, List.all_eq_true]
  exact fun spot hspot => decide_eq_true (Spot.mem_corners_of_mem_halves hhalf hspot)

theorem used_iff {number : Nat} (hnumber : number < (columns.toNat + 1) * (rows.toNat + 1)) :
    (∃ index ∈ mesh.indices, index.toNat = number) ↔
      number ≠ columns.toNat ∧ number ≠ rows.toNat * (columns.toNat + 1) := by
  obtain ⟨spot, hspot, rfl⟩ := Spot.exists_number_eq hnumber
  -- The two ends of the polar rows, as places and as numbers.
  have hother : ∀ other : Spot, other.Within columns.toNat rows.toNat →
      (spot ≠ other ↔ spot.number columns.toNat ≠ other.number columns.toNat) := fun other hwithin =>
    not_congr ⟨congrArg _, Spot.number_inj hspot hwithin⟩
  have hnorth := hother ⟨0, columns.toNat⟩ ⟨Nat.zero_le _, Nat.le_refl _⟩
  have hsouth := hother ⟨rows.toNat, 0⟩ ⟨Nat.le_refl _, Nat.zero_le _⟩
  simp only [Spot.number, Nat.zero_mul, Nat.zero_add, Nat.add_zero] at hnorth hsouth
  have hcorner := Spot.mem_corners_triangles (Nat.le_trans (by decide) h.three_le) h.two_le hspot
  rw [hnorth, hsouth] at hcorner
  rw [Spot.number, ← hcorner]
  constructor
  · rintro ⟨index, hindex, heq⟩
    obtain ⟨corner, hmem, rfl⟩ := (mem_indices_iff hmesh index).mp hindex
    have hwithin := Spot.within_of_mem_triangles hmem
    rw [toNat_spotIndex h hwithin] at heq
    exact Spot.number_inj hwithin hspot heq ▸ hmem
  · intro hmem
    exact ⟨_, (mem_indices_iff hmesh _).mpr ⟨spot, hmem, rfl⟩, toNat_spotIndex h hspot⟩

theorem Moderate.tessellated
    (hvertices : mesh.vertices.size = (columns.toNat + 1) * (rows.toNat + 1)) :
    mesh.Tessellated columns.toNat rows.toNat := by
  have hindices := size_indices_eq hmesh
  have hcount : mesh.triangleCount = 2 * columns.toNat * (rows.toNat - 1) := by
    rw [triangleCount, hindices, Nat.mul_div_cancel_left _ (by decide)]
  exact {
    size_vertices := hvertices
    size_indices := by rw [hcount, hindices]
    triangleCount_eq := hcount
    in_range := fun _ hindex => hvertices ▸ index_lt h hmesh hindex
    distinct := fun _ => nodup_corners h hmesh
    wound_alike := nodup_edges h hmesh
    inner_quads := Spot.length_filter_not_isPolar _ h.two_le
    shares := fun _ => length_filter_fitsInto h hmesh
    covered := fun _ => exists_fitsInto h hmesh
    used := fun _ hnumber => used_iff h hmesh (hvertices ▸ hnumber) }

end

theorem toNat_clampSegments {least : UInt32} (hleast : least ≤ maxSegments) (count : UInt32) :
    (clampSegments least count).toNat = max least.toNat (min count.toNat 1024) := by
  have hmax : maxSegments.toNat = 1024 := rfl
  rw [UInt32.le_iff_toNat_le, hmax] at hleast
  unfold clampSegments
  simp only [UInt32.lt_iff_toNat_lt, hmax]
  split
  next hlow => omega
  next =>
    split
    next hhigh => omega
    next => omega

/-- The buffers of every sphere are sound, whatever its radius and its counts of segments, and no
index wraps around. -/
theorem sphere_tessellated (radius : Float32) (widthSegments heightSegments : UInt32) :
    (clampSegments minWidthSegments widthSegments).toNat = max 3 (min widthSegments.toNat 1024) ∧
      (clampSegments minHeightSegments heightSegments).toNat =
        max 2 (min heightSegments.toNat 1024) ∧
      Unwrapped (clampSegments minWidthSegments widthSegments)
        (clampSegments minHeightSegments heightSegments) ∧
      (sphere radius widthSegments heightSegments).Tessellated
        (clampSegments minWidthSegments widthSegments).toNat
        (clampSegments minHeightSegments heightSegments).toNat := by
  let columns := clampSegments minWidthSegments widthSegments
  let rows := clampSegments minHeightSegments heightSegments
  have hcolumns : columns.toNat = max 3 (min widthSegments.toNat 1024) :=
    toNat_clampSegments (by decide) widthSegments
  have hrows : rows.toNat = max 2 (min heightSegments.toNat 1024) :=
    toNat_clampSegments (by decide) heightSegments
  have hmoderate : Moderate columns.toNat rows.toNat := by
    constructor <;> omega
  exact ⟨hcolumns, hrows, hmoderate.unwrapped,
    hmoderate.tessellated rfl (size_sphereVertices radius columns rows)⟩

/-- A sphere without segments is made with three by two of them. Each of its quads touches a pole and
has one triangle, and of its twelve vertices two are not used. -/
theorem sphere_tessellated_least :
    let mesh := sphere 1 0 0
    mesh.vertices.size = 12 ∧ mesh.triangleCount = 6 ∧
      (mesh.triangles.filter (fitsInto 3 ⟨1, 2⟩)).length = 1 ∧
      ((∃ index ∈ mesh.indices, index.toNat = 7) ∧ ¬∃ index ∈ mesh.indices, index.toNat = 8) := by
  intro mesh
  obtain ⟨-, -, -, h⟩ := sphere_tessellated 1 0 0
  have hsize : mesh.vertices.size = 12 := h.size_vertices
  refine ⟨hsize, h.triangleCount_eq, h.shares ⟨1, 2⟩ (by decide), ?_, ?_⟩
  · exact (h.used 7 (by rw [hsize]; decide)).mpr (by decide)
  · exact mt (h.used 8 (by rw [hsize]; decide)).mp (by decide)

end Mesh

end LiveScene
