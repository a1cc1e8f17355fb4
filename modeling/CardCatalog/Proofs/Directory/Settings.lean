import CardCatalog.Directory.Create
import CardCatalog.Proofs.Settings.Encoding

/-!
# Saving and loading settings

Settings are saved in two steps, of which either can fail: they are written down as a text, and the
text is written into the settings file. So settings that have no text leave the directory whatever the
system would answer, and all others are loaded again where the file can be written (`load_save`).
-/

namespace CardCatalog

namespace Action

/-- An action goes on from what the action before it has left, unless that one has failed. -/
theorem run_on_bind {α β : Type} (action : Action α) (next : α → Action β) (directory : Directory) :
    (action >>= next).runOn directory =
      match action.runOn directory with
      | (after, .ok result) => (next result).runOn after
      | (after, .error failure) => (after, .error failure) := by
  change Prod.swap (ExceptT.bindCont next (action directory).1 (action directory).2) =
    match ((action directory).2, (action directory).1) with
    | (after, .ok result) => (next result).runOn after
    | (after, .error failure) => (after, .error failure)
  cases (action directory).1 <;> rfl

/-- An action that looks at the directory goes on with it. -/
theorem run_on_get_bind {α : Type} (next : Directory → Action α) (directory : Directory) :
    (get >>= next).runOn directory = (next directory).runOn directory :=
  rfl

end Action

namespace Directory

variable (directory : Directory) (settings : Settings)

/-! ## Saving -/

/-- Settings without a text are not saved, and the directory is left as it was. -/
theorem run_on_save_of_none (h : settings.text? = none) :
    (Action.save settings).runOn directory = (directory, .error .settings) := by
  rw [Action.save, Action.run_on_bind, Action.encode, h]
  rfl

variable {settings} {content : String}

/-- Settings with a text are saved by writing it into the settings file. -/
theorem run_on_save_of_text (h : settings.text? = some content) :
    (Action.save settings).runOn directory = (Action.writeSettingsFile content).runOn directory := by
  rw [Action.save, Action.run_on_bind, Action.encode, h]
  rfl

/-- Writing the settings file succeeds exactly if the system lets it be written. -/
theorem run_on_write_settings_file :
    (Action.writeSettingsFile content).runOn directory =
      match directory.access.settingsFile with
      | .written => ({ directory with settingsFile := some (.text content) }, .ok ())
      | .cut length =>
          ({ directory with
              settingsFile := some (.ofBytes (content.toByteArray.extract 0 length)) },
            .error (.unreadable (settingsPath directory.root)))
      | .refused => (directory, .error (.unreadable (settingsPath directory.root))) := by
  rw [Action.writeSettingsFile, Action.run_on_get_bind]
  cases directory.access.settingsFile <;> rfl

/-- Settings with a text are saved where the system lets the settings file be written. -/
theorem run_on_save_of_written (h : settings.text? = some content)
    (hwritten : directory.access.settingsFile = .written) :
    (Action.save settings).runOn directory =
      ({ directory with settingsFile := some (.text content) }, .ok ()) := by
  rw [run_on_save_of_text directory h, run_on_write_settings_file, hwritten]

/-- Nothing is saved unless the settings have a text and the system lets the settings file be
written. -/
theorem run_on_save_eq_error
    (h : ¬(settings.IsWritable ∧ directory.access.settingsFile = .written)) :
    ∃ failure, ((Action.save settings).runOn directory).2 = .error failure := by
  cases htext : settings.text? with
  | none => exact ⟨.settings, by rw [run_on_save_of_none directory settings htext]⟩
  | some content =>
      have hwritable : settings.IsWritable := by
        by_contra hnot
        exact absurd (settings.text_eq_none_iff.2 hnot) (by simp [htext])
      rw [run_on_save_of_text directory htext, run_on_write_settings_file]
      cases haccess : directory.access.settingsFile with
      | written => exact absurd ⟨hwritable, haccess⟩ h
      | cut _ | refused => exact ⟨_, rfl⟩

/-- Saving changes nothing but the settings file. -/
theorem run_on_save_eq_settings_file :
    ((Action.save settings).runOn directory).1 =
      { directory with
        settingsFile := ((Action.save settings).runOn directory).1.settingsFile } := by
  cases htext : settings.text? with
  | none => rw [run_on_save_of_none directory settings htext]
  | some content =>
      rw [run_on_save_of_text directory htext, run_on_write_settings_file]
      cases directory.access.settingsFile <;> rfl

/-! ## Loading -/

/-- Settings with a text are loaded from a file that holds it, under the root of the directory. -/
theorem load_settings_text (h : settings.text? = some content) :
    loadSettings { directory with settingsFile := some (.text content) } =
      .ok { settings with root := directory.root } := by
  simp only [loadSettings, Settings.parse_text h]

variable (settings)

/-- Whatever was in the settings file, settings whose root is spelt by a text and whose limit is a
signed 64-bit integer are saved where the file can be written, which changes nothing else, and loaded
again under the root of the directory. Saving all others fails and leaves the directory, whatever can
be written. -/
theorem load_save :
    ((∃ root : String, settings.root = .ofText root) ∧ settings.defaultLimit.toNat < 2 ^ 63 →
      directory.access.settingsFile = .written →
        ∃ saved, directory.saveSettings settings = .ok saved ∧
          (Action.save settings).runOn directory = (saved, .ok ()) ∧
          saved.loadSettings = .ok { settings with root := directory.root } ∧
          saved = { directory with settingsFile := saved.settingsFile }) ∧
    ((∀ root : String, settings.root ≠ .ofText root) ∨ 2 ^ 63 ≤ settings.defaultLimit.toNat →
      directory.saveSettings settings = .error .settings ∧
        (Action.save settings).runOn directory = (directory, .error .settings)) := by
  rw [← settings.is_writable_iff, ← settings.not_is_writable_iff]
  refine ⟨fun hwritable hwritten => ?_, fun hunwritable => ?_⟩
  · obtain ⟨content, htext⟩ := hwritable.exists_text
    have hrun := run_on_save_of_written directory htext hwritten
    exact ⟨_, by rw [saveSettings, hrun], hrun, load_settings_text directory htext, rfl⟩
  · have hrun := run_on_save_of_none directory settings (settings.text_eq_none_iff.2 hunwritable)
    exact ⟨by rw [saveSettings, hrun], hrun⟩

/-- A directory for data whose name no text spells: a letter in an encoding of one byte a character. -/
def latinDataHome : Path :=
  ⟨⟨#[0x2F, 0x76, 0x6F, 0x69, 0x6C, 0xE0]⟩⟩

/-- The environment that names it. -/
def latinEnvironment : Environment :=
  ⟨none, some latinDataHome, some "/root", none⟩

/-- The root of the catalog in that directory. -/
def latinRoot : Path :=
  joinPath latinDataHome "scry"

/-- The initial settings of that root are not saved, although their limit is small and everything can
be written. -/
theorem save_latin_root :
    latinEnvironment.root? = some latinRoot ∧
      (Settings.initial latinRoot).defaultLimit.toNat < 2 ^ 63 ∧
      (empty latinRoot).access.settingsFile = .written ∧
      (empty latinRoot).saveSettings (.initial latinRoot) = .error .settings := by
  have hroot : (Settings.initial latinRoot).text? = none := by decide +kernel
  refine ⟨by decide +kernel, by decide, rfl, ?_⟩
  rw [saveSettings, run_on_save_of_none _ _ hroot]

end Directory

end CardCatalog
