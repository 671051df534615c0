import LiveScene.Config.File
import LiveScene.Host.Registry
import LiveScene.Replay.StandardScript

/-! # Replaying a script

A script is replayed on one surface through the registry that everybody uses. The replay tells what
became of every step and, at the end, what the renderer was asked to do. A fault ends it at once.
-/

namespace LiveScene

/-- A record, and whether the replay wrote it itself or something it used. -/
structure ReplayLine where
  own : Bool
  entry : LogRecord

structure Replay where
  desk : Desk Page
  lines : Array ReplayLine := #[]

namespace Replay

/-- How options are told. -/
def optionText {α : Type} (text : α → String) : Option α → String
  | some value => "Some(" ++ text value ++ ")"
  | none => "None"

def hostStateText : HostPhase → String
  | .uninitialized => "Uninitialized"
  | .ready => "Ready"
  | .disposed => "Disposed"

def deliveryText : Delivery → String
  | .applied report =>
    "Applied(BatchReport \x7b applied: " ++ toString report.applied ++ ", ignored: " ++
      toString report.ignored ++ " \x7d)"
  | .buffered => "Buffered"
  | .rejected => "Rejected"

def resizeText : ResizeResult → String
  | .skipped => "Skipped"
  | .resized size =>
    "Resized \x7b width: " ++ toString size.width.toNat ++ ", height: " ++
      toString size.height.toNat ++ " \x7d"

def nodeText (id : NodeId) : String := "NodeId(" ++ toString id.value.toInt ++ ")"

def statsText (stats : RendererStats) : String :=
  "Renderer: " ++ toString stats.frames ++ " frames, last camera " ++
    optionText nodeText stats.lastCamera ++ ", " ++ toString stats.lastDrawItems ++
    " draw items, " ++ toString stats.lastLights ++ " lights, size (" ++
    toString stats.size.width.toNat ++ ", " ++ toString stats.size.height.toNat ++ "), " ++
    toString stats.released.size ++ " resources released"

/-- Adds records of the replay's own. -/
def say (replay : Replay) (log : Log) : Replay :=
  { replay with lines := replay.lines ++ log.map (⟨true, ·⟩) }

/-- Does something with the registry. -/
def perform {α : Type} (replay : Replay) (outcome : Outcome (Desk Page) α) :
    Replay × Except Fault α :=
  ({ desk := outcome.state, lines := replay.lines ++ outcome.log.map (⟨false, ·⟩) },
    outcome.result)

/-- Does something with the registry and goes on, unless it ends in a fault. -/
def thenWith {α : Type} (replay : Replay) (outcome : Outcome (Desk Page) α)
    (next : Replay → α → Replay × Except Fault Unit) : Replay × Except Fault Unit :=
  match replay.perform outcome with
  | (replay, .ok value) => next replay value
  | (replay, .error fault) => (replay, .error fault)

/-- The place of the only surface. -/
def stage : Platform.SurfaceIndex := 0

/-- Runs frames until the loop of the surface stops. -/
def runFrames (surface : SurfaceId) : Nat → Replay → Replay × Except Fault Unit
  | 0, replay => (replay, .ok ())
  | count + 1, replay =>
    replay.thenWith replay.desk.runFrame fun replay stopped =>
      if stopped.contains surface then
        (replay.say (Log.warn ("Render loop for " ++ surface.label ++ " stopped")), .ok ())
      else runFrames surface count replay

def runStep (surface : SurfaceId) (replay : Replay) : ScriptStep → Replay × Except Fault Unit
  | .reset root =>
    replay.thenWith (replay.desk.sendTree stage root) fun replay delivery =>
      (replay.say (Log.info ("Reset with " ++ toString root.nodeCount ++ " nodes: " ++
        deliveryText delivery)), .ok ())
  | .patch ops =>
    replay.thenWith (replay.desk.sendPatch stage ops) fun replay delivery =>
      (replay.say (Log.info ("Patch of " ++ toString ops.length ++ " ops: " ++
        deliveryText delivery)), .ok ())
  | .resize size =>
    let desk := { replay.desk with platform := replay.desk.platform.layOut stage size }
    replay.thenWith (desk.lend (·.layoutChanged surface)) fun replay outcome =>
      (replay.say (Log.info ("Resize to " ++ size.text ++ ": " ++ optionText resizeText outcome)),
        .ok ())
  | .frames count => runFrames surface count.toNat replay

def runSteps (surface : SurfaceId) : List ScriptStep → Replay → Replay × Except Fault Unit
  | [], replay => (replay, .ok ())
  | step :: rest, replay =>
    match replay.runStep surface step with
    | (replay, .ok ()) => runSteps surface rest replay
    | stopped => stopped

/-- The host of a surface. -/
def host? (replay : Replay) (surface : SurfaceId) : Option Host :=
  match replay.desk.slot with
  | .filled registry => registry.hosts[surface]?
  | _ => none

/-- What the graph and the renderer have come to. -/
def summary (replay : Replay) (surface : SurfaceId) : Log :=
  let host := replay.host? surface
  let graphLog := match host.bind (·.graph) with
    | some graph =>
      Log.info ("Final graph: " ++ toString graph.size ++ " objects, active camera " ++
        optionText nodeText graph.active)
    | none => #[]
  let rendererLog := match host.bind (·.renderer) with
    | some renderer => Log.info (statsText renderer.stats)
    | none => #[]
  graphLog ++ rendererLog

/-- A page on which a configured module arrives, and otherwise the last script does. -/
def page (config : LoaderConfig) : Page where
  moduleArrives := config.moduleUrl.isSome
  appearsAfter := config.fallbackSources.getLast?

def start (config : Config) (script : Script) : Replay where
  desk := {
    platform := {
      provider := { page := page config.loader, loader := { config := config.loader } }
      surfaces := [{ id := script.surfaceId, size := script.size }] } }

/-- Makes a host for the surface and waits for the library. -/
def awaitHost (desk : Desk Page) (surface : SurfaceId) :
    Outcome (Desk Page) (Option HostPhase) :=
  (desk.lend fun directory =>
    (directory.ensureHost stage).andThen fun directory found =>
      if found then directory.onHost surface Session.checkLibrary else .done directory none).map
    Option.join

/-- Replays a script from the first step to the last and takes everything down. -/
def play (replay : Replay) (config : Config) (script : Script) : Replay × Except Fault Unit :=
  let surface := script.surfaceId
  let replay := replay.say
    (Log.info ("Replaying " ++ toString script.steps.length ++ " script steps"))
  replay.thenWith (replay.desk.install { autostart := config.render.autostart }) fun replay _ =>
    replay.thenWith (awaitHost replay.desk surface) fun replay state =>
      let replay := replay.say (Log.info ("Host for " ++ surface.label ++ " is " ++
        optionText hostStateText state))
      match runSteps surface script.steps replay with
      | (replay, .error fault) => (replay, .error fault)
      | (replay, .ok ()) =>
        let replay := replay.say (replay.summary surface)
        replay.thenWith (replay.desk.endHost surface) fun replay _ =>
          replay.thenWith replay.desk.uninstall fun replay _ => (replay, .ok ())

end Replay

/-- Why nothing could be replayed. -/
inductive ReplayError where
  | config (error : ConfigError)
  | scriptMissing
  | scriptMalformed

def ReplayError.message : ReplayError → String
  | .config error => "Config error: " ++ error.message
  | .scriptMissing => "Could not read script: " ++ missingFileText
  | .scriptMalformed => "Invalid script"

/-- How a replay ended: the exit code and everything that was logged. -/
structure ReplayEnd where
  exitCode : UInt32
  lines : Array ReplayLine

namespace Replay

/-- The configuration and the script that the arguments name, in this order. -/
def inputs (folder : Folder) (arguments : List String) : Except ReplayError (Config × Script) := do
  let config ← match arguments[0]? with
    | some path => (Config.load folder path).mapError .config
    | none => .ok {}
  let script ← match arguments[1]? with
    | some path =>
      match folder.read? path with
      | none => .error .scriptMissing
      | some text =>
        match Script.ofText? text with
        | some script => .ok script
        | none => .error .scriptMalformed
    | none => .ok Script.standard
  return (config, script)

/-- Runs the program. It ends with 1 when its input is at fault and with 101 after a fault. -/
def run (folder : Folder) (arguments : List String) : ReplayEnd :=
  let opening : Array ReplayLine := (Log.info "Starting scene sync demo").map (⟨true, ·⟩)
  match inputs folder arguments with
  | .error error =>
    ⟨1, opening ++ (Log.error ("Demo failed: " ++ error.message)).map (⟨true, ·⟩)⟩
  | .ok (config, script) =>
    match play { start config script with lines := opening } config script with
    | (replay, .ok ()) => ⟨0, (replay.say (Log.info "Scene sync demo finished")).lines⟩
    | (replay, .error _) => ⟨101, replay.lines⟩

end Replay

end LiveScene
