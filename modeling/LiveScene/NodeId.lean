import Std.Data.ExtTreeMap

/-! # Node identities

Nodes are named by 64-bit integers, ordered as integers.
-/

namespace LiveScene

structure NodeId where
  value : Int64
deriving DecidableEq, Repr

namespace NodeId

/-- The text `#5` of an id in messages. -/
def label (id : NodeId) : String :=
  "#" ++ toString id.value.toInt

instance : Ord NodeId := ⟨fun a b => compare a.value b.value⟩

instance : Std.TransOrd NodeId where
  eq_swap := Std.OrientedOrd.eq_swap (α := Int64)
  isLE_trans := Std.TransOrd.isLE_trans (α := Int64)

instance : Std.LawfulEqOrd NodeId where
  eq_of_compare {a b} h := by
    cases a
    cases b
    exact congrArg NodeId.mk (Std.LawfulEqOrd.eq_of_compare (α := Int64) h)

end NodeId

/-- Finite maps from node ids, equal exactly when they hold the same entries. -/
abbrev NodeMap (α : Type) := Std.ExtTreeMap NodeId α

end LiveScene
