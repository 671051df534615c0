import LiveScene.Config.Basic
import LiveScene.Ron.Reader

/-! # Configurations in RON

Records may be named, with the right name. Fields that are missing have their default; fields that
mean nothing are ignored; no field is given twice.
-/

namespace LiveScene

namespace LoaderConfig

def ronField? : String → Option (LoaderConfig → Ron.Reader LoaderConfig)
  | "module_url" => some fun config => (Ron.Reader.option .str).map ({ config with moduleUrl := · })
  | "fallback_sources" => some fun config =>
    (Ron.Reader.list .str).map ({ config with fallbackSources := · })
  | "source_timeout_ms" => some fun config =>
    Ron.Reader.uint64.map ({ config with sourceTimeout := · })
  | _ => none

def ofRon : Ron.Reader LoaderConfig := .record "LoaderConfig" ronField? {}

def ronUrl (config : LoaderConfig) : String :=
  match config.moduleUrl with
  | some url => "Some(" ++ Ron.quote url ++ ")"
  | none => "None"

def ronSources (config : LoaderConfig) : String :=
  match config.fallbackSources with
  | [] => "[]"
  | sources =>
    "[\n" ++ String.join (sources.map fun source => "            " ++ Ron.quote source ++ ",\n") ++
      "        ]"

end LoaderConfig

namespace RenderConfig

def ronField? : String → Option (RenderConfig → Ron.Reader RenderConfig)
  | "autostart" => some fun config => Ron.Reader.bool.map ({ config with autostart := · })
  | _ => none

def ofRon : Ron.Reader RenderConfig := .record "RenderLoopConfig" ronField? {}

end RenderConfig

namespace Config

def ronField? : String → Option (Config → Ron.Reader Config)
  | "loader" => some fun config => LoaderConfig.ofRon.map ({ config with loader := · })
  | "render" => some fun config => RenderConfig.ofRon.map ({ config with render := · })
  | _ => none

def ofRonText? (text : String) : Option Config :=
  (Ron.Reader.record "SyncConfig" ronField? {}).document? text

/-- The text of a configuration. -/
def toRonText (config : Config) : String :=
  "(\n" ++
  "    loader: (\n" ++
  "        module_url: " ++ config.loader.ronUrl ++ ",\n" ++
  "        fallback_sources: " ++ config.loader.ronSources ++ ",\n" ++
  "        source_timeout_ms: " ++ toString config.loader.sourceTimeout.toNat ++ ",\n" ++
  "    ),\n" ++
  "    render: (\n" ++
  "        autostart: " ++ (if config.render.autostart then "true" else "false") ++ ",\n" ++
  "    ),\n" ++
  ")"

end Config

end LiveScene
