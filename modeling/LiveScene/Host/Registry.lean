import LiveScene.Host.Session

/-! # Hosts by surface

A registry makes a host for a surface on the first payload that is sent to it, and keeps it until
it is disposed of by name.
-/

namespace LiveScene

structure Registry where
  autostart : Bool
  hosts : Std.ExtTreeMap SurfaceId Host := ∅

namespace Registry

/-- The surfaces that have a host, in ascending order. -/
def surfaceIds (registry : Registry) : List SurfaceId := registry.hosts.keys

def size (registry : Registry) : Nat := registry.hosts.size

end Registry

/-- A registry on its platform. -/
structure Directory (π : Type) where
  registry : Registry
  platform : Platform π

namespace Directory

variable {π : Type}

def host? (directory : Directory π) (id : SurfaceId) : Option Host :=
  directory.registry.hosts[id]?

/-- Files a session's host under a surface. -/
def file (directory : Directory π) (id : SurfaceId) (session : Session π) : Directory π where
  registry := { directory.registry with
    hosts := directory.registry.hosts.insert id session.host }
  platform := session.platform

/-- Runs a step on the host of a surface; none without one. -/
def onHost {α : Type} (directory : Directory π) (id : SurfaceId)
    (step : Session π → Outcome (Session π) α) : Outcome (Directory π) (Option α) :=
  match directory.host? id with
  | none => .done directory none
  | some host => ((step ⟨host, directory.platform⟩).within (directory.file id)).map some

/-- Makes sure that a surface has a host; false for a surface that cannot show a scene. -/
def ensureHost [Site π] (directory : Directory π) (index : Platform.SurfaceIndex) :
    Outcome (Directory π) Bool :=
  let surface := directory.platform.surface index
  if !surface.graphics then
    ⟨directory, .ok false, Log.debug (surface.id.label ++ " is not a graphics surface")⟩
  else if (directory.host? surface.id).isSome then .done directory true
  else
    ((Session.create directory.platform index directory.registry.autostart).within
      (directory.file surface.id)).map fun _ => true

/-- Sends something to the host of a surface. -/
def deliver [Site π] (directory : Directory π) (index : Platform.SurfaceIndex)
    (send : Session π → Outcome (Session π) Delivery) : Outcome (Directory π) Delivery :=
  (directory.ensureHost index).andThen fun directory found =>
    if found then
      (directory.onHost (directory.platform.surface index).id send).map fun delivery =>
        delivery.getD .rejected
    else .done directory .rejected

/-- Replaces the scene of a surface. -/
def sendTree [Site π] (directory : Directory π) (index : Platform.SurfaceIndex)
    (root : Descriptor) : Outcome (Directory π) Delivery :=
  directory.deliver index (·.reset root)

/-- Applies operations to the scene of a surface. -/
def sendPatch [Site π] (directory : Directory π) (index : Platform.SurfaceIndex)
    (ops : List Op) : Outcome (Directory π) Delivery :=
  directory.deliver index (·.patch ops)

/-- Ends the host of a surface and forgets it; false without one. -/
def endHost (directory : Directory π) (id : SurfaceId) : Outcome (Directory π) Bool :=
  match directory.host? id with
  | none => .done directory false
  | some host =>
    ((Session.dispose ⟨host, directory.platform⟩).within fun session =>
      { registry := { directory.registry with hosts := directory.registry.hosts.erase id }
        platform := session.platform }).map fun _ => true

/-- Runs one frame of a host and notes whether its loop has stopped. -/
def runHostFrame [Site π] (directory : Directory π) (stopped : List SurfaceId) (id : SurfaceId) :
    Outcome (Directory π) (List SurfaceId) :=
  (directory.onHost id Session.step).map fun outcome =>
    if outcome = some .stopped then stopped ++ [id] else stopped

/-- Runs one frame of every host, and gives the surfaces whose loop has stopped. -/
def runFrame [Site π] (directory : Directory π) : Outcome (Directory π) (List SurfaceId) :=
  directory.registry.surfaceIds.foldl
    (fun outcome id => outcome.andThen fun directory stopped => directory.runHostFrame stopped id)
    (.done directory [])

/-- Passes on a change of layout. -/
def layoutChanged (directory : Directory π) (id : SurfaceId) :
    Outcome (Directory π) ResizeResult :=
  (directory.onHost id Session.resize).map fun outcome => outcome.getD .skipped

/-- Ends every host. -/
def clear (directory : Directory π) : Outcome (Directory π) Unit :=
  directory.registry.surfaceIds.foldl
    (fun outcome id => outcome.andThen fun directory _ =>
      (directory.endHost id).map fun _ => ())
    (.done directory ())

end Directory

/-- The one place for a registry that everybody uses. While somebody uses it, it cannot be used a
second time. -/
inductive RegistrySlot where
  | empty
  | filled (registry : Registry)
  | inUse

/-- The slot on its platform. -/
structure Desk (π : Type) where
  slot : RegistrySlot := .empty
  platform : Platform π

namespace Desk

variable {π : Type}

/-- Uses the registry in the slot, leaving the slot in use meanwhile; none when it cannot be
used. -/
def lend {α : Type} (desk : Desk π)
    (step : Directory π → Outcome (Directory π) α) : Outcome (Desk π) (Option α) :=
  match desk.slot with
  | .filled registry =>
    ((step ⟨registry, desk.platform⟩).within fun directory =>
      ⟨.filled directory.registry, directory.platform⟩).map some
  | _ => .done desk none

/-- Uses the registry in the slot, with an answer for when it cannot be used. -/
def lendOr {α : Type} (desk : Desk π) (otherwise : α)
    (step : Directory π → Outcome (Directory π) α) : Outcome (Desk π) α :=
  (desk.lend step).map fun answer => answer.getD otherwise

/-- Replaces the scene of a surface. -/
def sendTree [Site π] (desk : Desk π) (index : Platform.SurfaceIndex) (root : Descriptor) :
    Outcome (Desk π) Delivery :=
  desk.lendOr .rejected (·.sendTree index root)

/-- Applies operations to the scene of a surface. -/
def sendPatch [Site π] (desk : Desk π) (index : Platform.SurfaceIndex) (ops : List Op) :
    Outcome (Desk π) Delivery :=
  desk.lendOr .rejected (·.sendPatch index ops)

/-- Ends the host of a surface and forgets it. -/
def endHost (desk : Desk π) (id : SurfaceId) : Outcome (Desk π) Bool :=
  desk.lendOr false (·.endHost id)

/-- Runs one frame of every host, and gives the surfaces whose loop has stopped. -/
def runFrame [Site π] (desk : Desk π) : Outcome (Desk π) (List SurfaceId) :=
  desk.lendOr [] Directory.runFrame

/-- Takes the registry out of the slot and ends its hosts; gives their number. -/
def uninstall (desk : Desk π) : Outcome (Desk π) (Option Nat) :=
  match desk.slot with
  | .filled registry =>
    ((Directory.clear ⟨registry, desk.platform⟩).within fun directory =>
      ⟨.empty, directory.platform⟩).map fun _ => some registry.size
  | _ => .done desk none

/-- Puts a registry into the slot, in place of the one that is there. -/
def install (desk : Desk π) (registry : Registry) : Outcome (Desk π) (Option Nat) :=
  desk.uninstall.andThen fun desk count => .done { desk with slot := .filled registry } count

end Desk

end LiveScene
