import LiveScene.Config.Basic
import LiveScene.Toml.Reader

/-! # Configurations in TOML

A record is a table, or an array of its fields in order. Fields that are missing have their default;
keys that mean nothing are ignored. An absent module is written by leaving out its line.
-/

namespace LiveScene

namespace Toml

/-- The fields of a record, by name or by position. A date or time is a record that has none of
them. -/
def fields? (names : List String) : Toml → Option (List (Option Toml))
  | .table _ entries => some (names.map fun name => entries.lookup name)
  | .array items => some ((List.range names.length).map fun i => items[i]?)
  | .tables members =>
    some ((List.range names.length).map fun i => members[i]?.map (.table .defined))
  | .moment => some (names.map fun _ => none)
  | _ => none

def toStr? : Toml → Option String
  | .str s => some s
  | _ => none

def toBool? : Toml → Option Bool
  | .boolean b => some b
  | _ => none

def toList? : Toml → Option (List Toml)
  | .array items => some items
  | .tables members => some (members.map (.table .defined))
  | _ => none

def toUInt64? : Toml → Option UInt64
  | .integer n => if 0 ≤ n ∧ n < 0x10000000000000000 then some (UInt64.ofNat n.toNat) else none
  | _ => none

/-- The value of a field that may be missing. -/
def orDefault? {α : Type} (read : Toml → Option α) (default : α) : Option Toml → Option α
  | some value => read value
  | none => some default

end Toml

namespace LoaderConfig

def ofToml? (value : Toml) : Option LoaderConfig := do
  match ← value.fields? ["module_url", "fallback_sources", "source_timeout_ms"] with
  | [url, sources, timeout] =>
    let standard : LoaderConfig := {}
    return {
      moduleUrl := ← Toml.orDefault? (fun url => url.toStr?.map some) standard.moduleUrl url
      fallbackSources := ← Toml.orDefault? (fun list => list.toList?.bind (·.mapM Toml.toStr?))
        standard.fallbackSources sources
      sourceTimeout := ← Toml.orDefault? Toml.toUInt64? standard.sourceTimeout timeout }
  | _ => none

/-- The line of the module, if there is one. -/
def moduleLine (config : LoaderConfig) : String :=
  match config.moduleUrl with
  | some url => "module_url = " ++ Toml.quote url ++ "\n"
  | none => ""

/-- The value of the sources: up to one on the same line, more on a line each. -/
def sourcesText (config : LoaderConfig) : String :=
  match config.fallbackSources with
  | [] => "[]"
  | [source] => "[" ++ Toml.quote source ++ "]"
  | sources =>
    "[\n" ++ String.join (sources.map fun source => "    " ++ Toml.quote source ++ ",\n") ++ "]"

end LoaderConfig

namespace RenderConfig

def ofToml? (value : Toml) : Option RenderConfig := do
  match ← value.fields? ["autostart"] with
  | [autostart] =>
    return { autostart := ← Toml.orDefault? Toml.toBool? ({} : RenderConfig).autostart autostart }
  | _ => none

end RenderConfig

namespace Config

def ofTomlTable? (root : Toml.Table) : Option Config := do
  return {
    loader := ← Toml.orDefault? LoaderConfig.ofToml? {} (root.lookup "loader")
    render := ← Toml.orDefault? RenderConfig.ofToml? {} (root.lookup "render") }

def ofTomlText? (text : String) : Option Config := do
  ofTomlTable? (← Toml.read? text)

/-- The text of a configuration. Numbers of the format have 63 bits besides their sign, so a longer
timeout cannot be written. -/
def toTomlText? (config : Config) : Option String :=
  if config.loader.sourceTimeout.toNat < 0x8000000000000000 then
    some ("[loader]\n" ++ config.loader.moduleLine ++
      "fallback_sources = " ++ config.loader.sourcesText ++ "\n" ++
      "source_timeout_ms = " ++ toString config.loader.sourceTimeout.toNat ++ "\n\n" ++
      "[render]\n" ++
      "autostart = " ++ (if config.render.autostart then "true" else "false") ++ "\n")
  else none

end Config

end LiveScene
