import LiveScene.Config.Basic
import LiveScene.Loading.Site
import LiveScene.Outcome

/-! # Loading the library once

All who ask for the library while it is being loaded share one load. A load runs when it is polled
and may have to wait for a module. When it succeeds the library is kept for good; when it fails the
next request starts over.
-/

namespace LiveScene

variable {π : Type} [Site π]

/-- Waits for a script whose tag is in place. -/
def awaitSource (timeout : UInt64) (source : String) (page : π) :
    π × Log × Except LoadError Library :=
  match Site.awaitGlobal page timeout with
  | (some library, page) => (page, #[], .ok library)
  | (none, page) =>
    let error := LoadError.timeout source timeout.toNat
    (page, Log.debug error.message, .error error)

/-- Tries one script. A tag that is there already is not inserted again. -/
def trySource (timeout : UInt64) (source : String) (page : π) :
    π × Log × Except LoadError Library :=
  if Site.hasTag page source then
    let (page, log, result) := awaitSource timeout source page
    (page, Log.debug ("Reusing existing loader for '" ++ source ++ "'") ++ log, result)
  else
    match Site.insertTag page source with
    | (.ok (), page) => awaitSource timeout source page
    | (.error error, page) => (page, Log.debug error.message, .error error)

/-- Tries scripts in order until one brings the library. -/
def trySources (timeout : UInt64) (attempts : List LoadError) :
    List String → π → π × Log × Except LoadError Library
  | [], page => (page, #[], .error (.exhausted attempts))
  | source :: rest, page =>
    match trySource timeout source page with
    | (page, log, .ok library) => (page, log, .ok library)
    | (page, log, .error error) =>
      let (page, more, result) := trySources timeout (attempts ++ [error]) rest page
      (page, log ++ more, result)

/-- How far a search for the library has come. -/
inductive Search where
  | importing (url : String)
  | finished (result : Except LoadError Library)

/-- Goes on once the module is known to have arrived or not, and then with the scripts. -/
def resumeSearch (config : LoaderConfig) (url : String) (page : π) : π × Log × Search :=
  match Site.importResult page url with
  | none => (page, #[], .importing url)
  | some (.ok library) => (page, #[], .finished (.ok library))
  | some (.error error) =>
    let (page, log, result) :=
      trySources config.sourceTimeout [error] config.fallbackSources page
    (page, Log.debug error.message ++ log, .finished result)

/-- Looks for the library: global, then the module, then the scripts. -/
def startSearch (config : LoaderConfig) (page : π) : π × Log × Search :=
  match Site.presentLibrary page with
  | some library =>
    (page, Log.debug "Rendering library already available", .finished (.ok library))
  | none =>
    match config.moduleUrl with
    | some url => resumeSearch config url (Site.startImport page url)
    | none =>
      let (page, log, result) := trySources config.sourceTimeout [] config.fallbackSources page
      (page, log, .finished result)

/-- What a request for the library has come to. -/
inductive Load where
  /-- The library was there when it was asked for. -/
  | immediate (library : Library)
  | unstarted
  | importing (url : String)
  | resolved (result : Except LoadError Library)

/-- Requests are named by the order in which their loads were made. -/
abbrev Ticket := Nat

inductive LoaderPhase where
  | idle
  | loading (ticket : Ticket)
  | ready (library : Library)

structure Loader where
  config : LoaderConfig
  state : LoaderPhase := .idle
  loads : Array Load := #[]

namespace Loader

def library? (loader : Loader) : Option Library :=
  match loader.state with
  | .ready library => some library
  | _ => none

def isLoading (loader : Loader) : Bool :=
  match loader.state with
  | .loading _ => true
  | _ => false

def isResolved (loader : Loader) (ticket : Ticket) : Bool :=
  match loader.loads[ticket]? with
  | some (.resolved _) => true
  | _ => false

/-- Asks for the library. -/
def load (loader : Loader) : Outcome Loader Ticket :=
  match loader.state with
  | .loading ticket => .done loader ticket
  | .ready library =>
    .done { loader with loads := loader.loads.push (.immediate library) } loader.loads.size
  | .idle =>
    ⟨{ loader with
        state := .loading loader.loads.size
        loads := loader.loads.push .unstarted },
      .ok loader.loads.size, Log.info "Loading rendering library"⟩

def setLoad (loader : Loader) (ticket : Ticket) (load : Load) : Loader :=
  { loader with loads := loader.loads.setIfInBounds ticket load }

/-- Ends a load cycle. -/
def finish (loader : Loader) (ticket : Ticket) (result : Except LoadError Library) : Loader :=
  { loader.setLoad ticket (.resolved result) with
    state := match result with
      | .ok library => .ready library
      | .error _ => .idle }

/-- What is logged at the end of a load cycle. -/
def finishLog : Except LoadError Library → Log
  | .ok library => Log.info ("Rendering library '" ++ library.name ++ "' resolved")
  | .error error => Log.warn ("Rendering library unavailable: " ++ error.message)

end Loader

/-- A loader with the site it asks. -/
structure Provider (π : Type) where
  page : π
  loader : Loader

namespace Provider

/-- Asks for the library. -/
def load (provider : Provider π) : Outcome (Provider π) Ticket :=
  provider.loader.load.within fun loader => { provider with loader }

/-- Takes over how far a search has come. -/
def settle (provider : Provider π) (ticket : Ticket) (search : π × Log × Search) :
    Outcome (Provider π) (Option (Except LoadError Library)) :=
  match search with
  | (page, log, .importing url) =>
    ⟨{ page, loader := provider.loader.setLoad ticket (.importing url) }, .ok none, log⟩
  | (page, log, .finished result) =>
    ⟨{ page, loader := provider.loader.finish ticket result }, .ok (some result),
      log ++ Loader.finishLog result⟩

/-- Drives a load as far as it can go; none while it has to wait. -/
def poll (provider : Provider π) (ticket : Ticket) :
    Outcome (Provider π) (Option (Except LoadError Library)) :=
  match provider.loader.loads[ticket]? with
  | none => .done provider none
  | some (.resolved result) => .done provider (some result)
  | some (.immediate library) =>
    .done { provider with loader := provider.loader.setLoad ticket (.resolved (.ok library)) }
      (some (.ok library))
  | some .unstarted => provider.settle ticket (startSearch provider.loader.config provider.page)
  | some (.importing url) =>
    provider.settle ticket (resumeSearch provider.loader.config url provider.page)

end Provider

end LiveScene
