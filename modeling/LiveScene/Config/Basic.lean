/-! # Configuration -/

namespace LiveScene

/-- Where the rendering library is looked for. -/
structure LoaderConfig where
  /-- The module to import, if any. -/
  moduleUrl : Option String := some "https://unpkg.com/three@0.160.0/build/three.module.js"
  /-- The scripts to try after it, in order. -/
  fallbackSources : List String :=
    ["https://cdn.jsdelivr.net/npm/three@0.160.0/build/three.min.js",
      "https://unpkg.com/three@0.160.0/build/three.min.js"]
  /-- How long to wait for each script, in milliseconds. -/
  sourceTimeout : UInt64 := 5000
deriving DecidableEq, Repr

namespace LoaderConfig

def timeoutSeconds (config : LoaderConfig) : Nat := config.sourceTimeout.toNat / 1000

/-- The part of the timeout below a second. -/
def timeoutNanos (config : LoaderConfig) : Nat := config.sourceTimeout.toNat % 1000 * 1000000

end LoaderConfig

structure RenderConfig where
  /-- Whether the render loop of a new host runs from the start. -/
  autostart : Bool := true
deriving DecidableEq, Repr

structure Config where
  loader : LoaderConfig := {}
  render : RenderConfig := {}
deriving DecidableEq, Repr

end LiveScene
