import LiveScene.Log
import LiveScene.Wire.Op

/-! # Work that waits for a host to become ready

At most one tree, and the operations that came after it.
-/

namespace LiveScene

structure Pending where
  root : Option Descriptor := none
  ops : List Op := []

namespace Pending

/-- Keeps a tree; it makes everything kept before it void. -/
def reset (_pending : Pending) (root : Descriptor) : Pending :=
  { root := some root }

/-- What is logged when a tree is kept. -/
def resetLog (pending : Pending) : Log :=
  if pending.ops.isEmpty then #[]
  else
    Log.debug ("Buffered reset supersedes " ++ toString pending.ops.length ++ " queued ops")

/-- Keeps operations behind everything kept so far. -/
def queue (pending : Pending) (ops : List Op) : Pending :=
  { pending with ops := pending.ops ++ ops }

def isEmpty (pending : Pending) : Bool :=
  pending.root.isNone && pending.ops.isEmpty

end Pending

end LiveScene
