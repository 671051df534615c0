import LiveScene.Config.Basic
import LiveScene.Wire.Record

/-! # Configurations in JSON -/

namespace LiveScene

open Wire Wire.RecordReader

/-- A value that may be `null`. -/
def Json.toOption? {α : Type} (read : Json → Option α) : Json → Option (Option α)
  | .null => some none
  | json => (read json).map some

def LoaderConfig.ofJson? : Json → Option LoaderConfig :=
  RecordReader.ofJson? do
    let standard : LoaderConfig := {}
    let moduleUrl ← defaulted "module_url" standard.moduleUrl (Json.toOption? Json.toStr?)
    let fallbackSources ← defaulted "fallback_sources" standard.fallbackSources fun json =>
      json.toList?.bind (·.mapM Json.toStr?)
    let sourceTimeout ← defaulted "source_timeout_ms" standard.sourceTimeout Json.toUInt64?
    return { moduleUrl, fallbackSources, sourceTimeout }

def RenderConfig.ofJson? : Json → Option RenderConfig :=
  RecordReader.ofJson? do
    let autostart ← defaulted "autostart" ({} : RenderConfig).autostart Json.toBool?
    return { autostart }

/-- A configuration of which every part may be missing. -/
def Config.ofJson? : Json → Option Config :=
  RecordReader.ofJson? do
    let loader ← defaulted "loader" {} LoaderConfig.ofJson?
    let render ← defaulted "render" {} RenderConfig.ofJson?
    return { loader, render }

end LiveScene
