import LiveScene.Config.File
import LiveScene.Proofs.RonText
import LiveScene.Proofs.TomlText

/-! # Saved configurations loaded again

Both formats give back the text of every string, list, number and flag. They differ in an absent
module: one writes it, the other leaves it out, and what is left out comes back as its default.
-/

namespace LiveScene

theorem Folder.read?_write (folder : Folder) (path text : String) :
    (folder.write path text).read? path = some text := by
  simp [read?, write]

namespace ConfigFormat

/-- What a format can hold. -/
def Holds : ConfigFormat → Config → Prop
  | .toml, config => config.loader.sourceTimeout.toNat < 0x8000000000000000
  | .ron, _ => True

/-- The configuration that a format gives back. -/
def restore : ConfigFormat → Config → Config
  | .toml, config => config.withModule
  | .ron, config => config

end ConfigFormat

namespace Config

variable (config : Config) {format : ConfigFormat}

theorem withModule_eq_self_iff : config.withModule = config ↔ config.loader.moduleUrl ≠ none := by
  obtain ⟨⟨moduleUrl, fallbackSources, sourceTimeout⟩, render⟩ := config
  cases moduleUrl <;> simp [withModule]

theorem restore_eq_self_iff :
    format.restore config = config ↔ format = .ron ∨ config.loader.moduleUrl ≠ none := by
  cases format with
  | toml => simpa [ConfigFormat.restore] using config.withModule_eq_self_iff
  | ron => simp [ConfigFormat.restore]

theorem exists_toText?_iff : (∃ text, config.toText? format = some text) ↔ format.Holds config := by
  cases format with
  | toml =>
      unfold toText? toTomlText? ConfigFormat.Holds
      split <;> simp_all
  | ron => simp [toText?, ConfigFormat.Holds]

theorem ofText?_of_toText? {text : String} (htext : config.toText? format = some text) :
    ofText? format text = some (format.restore config) := by
  cases format with
  | toml => exact config.ofTomlText?_of_toTomlText? htext
  | ron =>
      obtain rfl : config.toRonText = text := Option.some.inj htext
      exact config.ofRonText?_toRonText

section

variable {folder saved : Folder} {path : String} (hformat : ConfigFormat.ofPath? path = some format)

include hformat

theorem save_eq_ok_iff :
    config.save folder path = .ok saved ↔
      ∃ text, config.toText? format = some text ∧ folder.canHold path = true ∧
        folder.write path text = saved := by
  simp only [save, hformat]
  cases config.toText? format with
  | none => simp
  | some text => cases folder.canHold path <;> simp

theorem exists_save_eq_ok_iff :
    (∃ saved, config.save folder path = .ok saved) ↔
      folder.canHold path = true ∧ format.Holds config := by
  simp only [config.save_eq_ok_iff hformat, ← config.exists_toText?_iff]
  constructor
  · rintro ⟨_, text, htext, hhold, _⟩
    exact ⟨hhold, text, htext⟩
  · rintro ⟨hhold, text, htext⟩
    exact ⟨_, text, htext, hhold, rfl⟩

/-- A file is loaded from its own text, whatever else the folder holds. -/
theorem load_of_save {later : Folder} (hsave : config.save folder path = .ok saved)
    (hkept : later.read? path = saved.read? path) :
    load later path = .ok (format.restore config) := by
  obtain ⟨text, htext, _, rfl⟩ := (config.save_eq_ok_iff hformat).mp hsave
  unfold load
  rw [hkept, folder.read?_write, hformat]
  simp [config.ofText?_of_toText? htext]

end

/-- A configuration is saved if there is room for its file and the format can hold it. As long as
the file stays as it is, what is loaded is the saved configuration, unless the format leaves out an
absent module: then the default one is loaded in its place. -/
theorem saved_config_restored (folder : Folder) {path : String}
    (hformat : ConfigFormat.ofPath? path = some format) :
    ((∃ saved, config.save folder path = .ok saved) ↔
        folder.canHold path = true ∧ format.Holds config) ∧
      ∀ saved later, config.save folder path = .ok saved →
        later.read? path = saved.read? path →
          load later path = .ok (format.restore config) ∧
            (load later path = .ok config ↔ format = .ron ∨ config.loader.moduleUrl ≠ none) := by
  refine ⟨config.exists_save_eq_ok_iff hformat, ?_⟩
  intro saved later hsave hkept
  have hload := config.load_of_save hformat hsave hkept
  refine ⟨hload, ?_⟩
  rw [hload, Except.ok.injEq]
  exact config.restore_eq_self_iff

/-- An absent module and a timeout of all 64 bits, saved over another file. -/
theorem saved_config_restored_ron :
    let config : Config :=
      { loader := { moduleUrl := none, fallbackSources := [], sourceTimeout := 0xffffffffffffffff } }
    let folder : Folder := { files := [("c.ron", "()")] }
    ∃ saved, config.save folder "./c.ron" = .ok saved ∧
      load (saved.write "c.toml" "") "./c.ron" = .ok config := by
  intro config folder
  have hformat : ConfigFormat.ofPath? "./c.ron" = some .ron := by decide +kernel
  have hhold : folder.canHold "./c.ron" = true := by decide +kernel
  obtain ⟨hsaved, hloaded⟩ := config.saved_config_restored folder hformat
  obtain ⟨saved, hsave⟩ := hsaved.mpr ⟨hhold, trivial⟩
  -- The file that is written later has another path.
  have hpaths : (plainPath "./c.ron" == plainPath "c.toml") = false := by decide +kernel
  have hkept : (saved.write "c.toml" "").read? "./c.ron" = saved.read? "./c.ron" := by
    simp only [Folder.read?, Folder.write, List.lookup_cons, hpaths]
  exact ⟨saved, hsave, (hloaded saved _ hsave hkept).2.mpr (Or.inl rfl)⟩

/-- An absent module is not restored from this format. -/
theorem absent_module_not_restored :
    let config : Config :=
      { loader := { moduleUrl := none, fallbackSources := ["a.js"], sourceTimeout := 10 }
        render := { autostart := false } }
    ∃ saved, config.save {} "c.toml" = .ok saved ∧ load saved "c.toml" ≠ .ok config := by
  intro config
  have hformat : ConfigFormat.ofPath? "c.toml" = some .toml := by decide +kernel
  have hhold : ({} : Folder).canHold "c.toml" = true := by decide +kernel
  obtain ⟨saved, hsave⟩ := (config.exists_save_eq_ok_iff hformat).mpr
    ⟨hhold, show (10 : Nat) < 0x8000000000000000 by decide⟩
  refine ⟨saved, hsave, ?_⟩
  rw [config.load_of_save hformat hsave rfl]
  decide +kernel

end Config

end LiveScene
