import LiveScene.Host.Basic

/-! # A host on its platform

The steps in which a host uses what it shares with others: waiting for the library, becoming ready,
following its surface, and being disposed of.
-/

namespace LiveScene

structure Session (π : Type) where
  host : Host
  platform : Platform π

namespace Session

variable {π : Type}

def setHost (session : Session π) (host : Host) : Session π :=
  { session with host }

def surface (session : Session π) : Surface :=
  session.platform.surface session.host.surface

/-- Gives the host a renderer and a graph, and applies what it kept. -/
def equip (session : Session π) (library : Library) (renderer : Renderer) :
    Outcome (Session π) Unit :=
  let host := session.host
  let surface := host.resize.observe session.surface
  let platform := session.platform.modifySurface host.surface fun _ => surface
  let startLog := if host.autostart then host.loop.startLog else #[]
  let host := { host with loop := if host.autostart then host.loop.start else host.loop }
  let attached := (Canvas.attach ⟨host.resize, renderer, Graph.empty⟩ surface).within host.setCanvas
  ((attached.after startLog).andThen fun host _ =>
    (Outcome.after
      (Log.info ("Scene host for " ++ host.label ++ " ready (" ++ library.name ++ ")"))
      (Host.flush { host with state := .ready } surface))).within fun host => ⟨host, platform⟩

/-- Makes the host ready, when there is a renderer to be had for its surface. -/
def makeReady? (session : Session π) (library : Library) :
    Except RenderError (Outcome (Session π) Unit) :=
  (session.platform.makeRenderer session.surface).map fun (renderer, platform) =>
    equip { session with platform } library renderer

/-- Takes over the result of the load. -/
def concludeLoad (session : Session π) (result : Except LoadError Library) :
    Outcome (Session π) Unit :=
  let session := session.setHost { session.host with load := none }
  let failed (reason : String) : Outcome (Session π) Unit :=
    let (host, log) := session.host.fail reason
    ⟨session.setHost host, .ok (), log⟩
  if session.host.state ≠ .uninitialized then .done session ()
  else
    match result with
    | .error error => failed error.message
    | .ok library =>
      match session.makeReady? library with
      | .error error => failed error.message
      | .ok outcome => outcome

/-- Drives the load the host waits for; false while the load itself has to wait. -/
def awaitLoad [Site π] (session : Session π) : Outcome (Session π) Bool :=
  match session.host.load with
  | none => .done session true
  | some ticket =>
    ((session.platform.provider.poll ticket).within fun provider =>
      { session with platform := { session.platform with provider } }).andThen
      fun session result =>
        match result with
        | some result => (session.concludeLoad result).map fun _ => true
        | none => .done session false

/-- Looks whether the library is there. -/
def checkLibrary [Site π] (session : Session π) : Outcome (Session π) HostPhase :=
  session.awaitLoad.andThen fun session _ => .done session session.host.state

/-- A new host for a surface, which asks for the library at once. -/
def create [Site π] (platform : Platform π) (index : Platform.SurfaceIndex) (autostart : Bool) :
    Outcome (Session π) Unit :=
  let host : Host := { surface := index, surfaceId := (platform.surface index).id, autostart }
  let asked := platform.provider.load.within fun provider =>
    (⟨host, { platform with provider }⟩ : Session π)
  (asked.after (Log.info ("Creating scene host for " ++ host.label))).andThen
    fun session ticket =>
      (session.setHost { session.host with load := some ticket }).checkLibrary.map fun _ => ()

/-- Runs a step of the host alone. -/
def onHost {α : Type} (session : Session π) (step : Host → Outcome Host α) :
    Outcome (Session π) α :=
  (step session.host).within session.setHost

def reset (session : Session π) (root : Descriptor) : Outcome (Session π) Delivery :=
  session.onHost fun host => host.reset session.surface root

def patch (session : Session π) (ops : List Op) : Outcome (Session π) Delivery :=
  session.onHost fun host => host.patch ops

def resize (session : Session π) : Outcome (Session π) ResizeResult :=
  session.onHost fun host => host.resizeTo session.surface

/-- Runs one frame. A host that is not ready looks for the library first. -/
def step [Site π] (session : Session π) : Outcome (Session π) FrameResult :=
  match session.host.state with
  | .disposed => .done session .stopped
  | .ready => session.onHost Host.drawFrame
  | .uninitialized =>
    session.checkLibrary.andThen fun session state =>
      if state = .ready then session.onHost Host.drawFrame else .done session .idle

def startLoop (session : Session π) : Outcome (Session π) Bool :=
  let loop := session.host.loop
  ⟨session.setHost { session.host with loop := loop.start }, .ok (!loop.running), loop.startLog⟩

def stopLoop (session : Session π) : Outcome (Session π) Unit :=
  let loop := session.host.loop
  ⟨session.setHost { session.host with loop := loop.stop }, .ok (), loop.stopLog⟩

/-- The host after it gave everything up, without its renderer. -/
def disposedHost (host : Host) : Host :=
  { host with
    loop := host.loop.stop
    resize := host.resize.detach
    state := .disposed
    load := none
    renderer := none
    graph := none
    pending := {} }

/-- The renderer of a host after all handles went back to it and it was disposed of. -/
def disposedRenderer? (host : Host) : Option Renderer :=
  (Host.releaseHandles { host with graph := host.graph.map Graph.clear }).renderer.map
    (·.call .dispose)

/-- Ends a host, whatever its state. -/
def dispose (session : Session π) : Outcome (Session π) Unit :=
  let host := session.host
  if host.state = .disposed then .done session ()
  else
    let clearLog := match host.graph with
      | some graph => graph.clearLog
      | none => #[]
    ⟨{ host := disposedHost host
       platform :=
        (session.platform.modifySurface host.surface host.resize.unobserve).retire
          (disposedRenderer? host) },
      .ok (),
      host.loop.stopLog ++ clearLog ++ Log.info ("Scene host for " ++ host.label ++ " disposed")⟩

end Session

end LiveScene
