import LiveScene.Space.Vector

/-! # Meshes

Vertex and index buffers of boxes and spheres. A mesh is a list of triangles given by three
indices each.
-/

namespace LiveScene

structure Vertex where
  position : Vec3
  normal : Vec3
  /-- Texture coordinates. -/
  u : Float32
  v : Float32
deriving DecidableEq

/-- Comparison of all components as numbers. -/
instance : BEq Vertex :=
  ⟨fun a b => a.position == b.position && a.normal == b.normal && a.u == b.u && a.v == b.v⟩

structure Mesh where
  vertices : Array Vertex
  indices : Array UInt32
deriving DecidableEq

namespace Mesh

/-- Comparison of all vertices as numbers. -/
instance : BEq Mesh := ⟨fun a b => a.vertices == b.vertices && a.indices == b.indices⟩

def triangleCount (mesh : Mesh) : Nat :=
  mesh.indices.size / 3

/-- A side of a box: its normal and the two axes that span it. -/
structure Face where
  normal : Vec3
  uAxis : Vec3
  vAxis : Vec3

def faces : List Face :=
  [⟨⟨1, 0, 0⟩, ⟨0, 0, -1⟩, ⟨0, 1, 0⟩⟩,
   ⟨⟨-1, 0, 0⟩, ⟨0, 0, 1⟩, ⟨0, 1, 0⟩⟩,
   ⟨⟨0, 1, 0⟩, ⟨1, 0, 0⟩, ⟨0, 0, -1⟩⟩,
   ⟨⟨0, -1, 0⟩, ⟨1, 0, 0⟩, ⟨0, 0, 1⟩⟩,
   ⟨⟨0, 0, 1⟩, ⟨1, 0, 0⟩, ⟨0, 1, 0⟩⟩,
   ⟨⟨0, 0, -1⟩, ⟨-1, 0, 0⟩, ⟨0, 1, 0⟩⟩]

/-- The corner of a face in the direction `su` along its first and `sv` along its second axis. -/
def Face.corner (face : Face) (half : Vec3) (su sv u v : Float32) : Vertex where
  position :=
    ⟨(face.normal.x + su * face.uAxis.x + sv * face.vAxis.x) * half.x,
     (face.normal.y + su * face.uAxis.y + sv * face.vAxis.y) * half.y,
     (face.normal.z + su * face.uAxis.z + sv * face.vAxis.z) * half.z⟩
  normal := face.normal
  u := u
  v := v

def Face.corners (face : Face) (half : Vec3) : List Vertex :=
  [face.corner half (-1) (-1) 0 0, face.corner half 1 (-1) 1 0,
    face.corner half 1 1 1 1, face.corner half (-1) 1 0 1]

/-- The two triangles of the face whose first vertex has the given index. -/
def faceIndices (base : UInt32) : List UInt32 :=
  [base, base + 1, base + 2, base + 2, base + 3, base]

/-- A box centered at the origin. Every face has its own four vertices, so that normals are flat. -/
def box (width height depth : Float32) : Mesh :=
  let half : Vec3 := ⟨width * 0.5, height * 0.5, depth * 0.5⟩
  { vertices := (faces.flatMap fun face => face.corners half).toArray
    indices := ((List.range 6).flatMap fun face => faceIndices (4 * UInt32.ofNat face)).toArray }

def minWidthSegments : UInt32 := 3

def minHeightSegments : UInt32 := 2

def maxSegments : UInt32 := 1024

/-- The nearest number of segments that is neither too small nor too large. -/
def clampSegments (least count : UInt32) : UInt32 :=
  if count < least then least else if maxSegments < count then maxSegments else count

/-- The vertex of a sphere at the fraction `u` of the way around and `v` of the way from the north
pole to the south pole. -/
def sphereVertex (radius u v : Float32) : Vertex :=
  let theta := v * pi
  let phi := u * 2 * pi
  let position : Vec3 :=
    ⟨-radius * phi.cos * theta.sin, radius * theta.cos, radius * phi.sin * theta.sin⟩
  let length := position.norm
  { position
    normal := if length > 0 then position.divide length else Vec3.unitY
    u := u
    v := 1 - v }

/-- A row of vertices at the same height. -/
def sphereRow (radius v : Float32) (columns : UInt32) : Array Vertex :=
  Array.ofFn fun column : Fin (columns.toNat + 1) =>
    sphereVertex radius ((UInt32.ofNat column).toFloat32 / columns.toFloat32) v

/-- The rows of vertices from the north pole to the south pole. -/
def sphereVertices (radius : Float32) (columns rows : UInt32) : Array Vertex :=
  (Array.range (rows.toNat + 1)).flatMap fun row =>
    sphereRow radius ((UInt32.ofNat row).toFloat32 / rows.toFloat32) columns

/-- The index of the vertex in a row and a column. -/
def vertexIndex (columns row column : UInt32) : UInt32 :=
  row * (columns + 1) + column

/-- The triangles of the quad under a row and right of a column. At each pole one of the two would
be degenerate and is left out. -/
def quadIndices (columns rows row column : UInt32) : List UInt32 :=
  let a := vertexIndex columns row (column + 1)
  let b := vertexIndex columns row column
  let c := vertexIndex columns (row + 1) column
  let d := vertexIndex columns (row + 1) (column + 1)
  (if row ≠ 0 then [a, b, d] else []) ++ (if row ≠ rows - 1 then [b, c, d] else [])

/-- The triangles of the sphere, quad by quad along each row. -/
def sphereIndices (columns rows : UInt32) : Array UInt32 :=
  (Array.range rows.toNat).flatMap fun row =>
    (Array.range columns.toNat).flatMap fun column =>
      (quadIndices columns rows (UInt32.ofNat row) (UInt32.ofNat column)).toArray

/-- A sphere centered at the origin, its segment counts clamped. -/
def sphere (radius : Float32) (widthSegments heightSegments : UInt32) : Mesh :=
  let columns := clampSegments minWidthSegments widthSegments
  let rows := clampSegments minHeightSegments heightSegments
  { vertices := sphereVertices radius columns rows
    indices := sphereIndices columns rows }

end Mesh

end LiveScene
