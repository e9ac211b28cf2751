import Mathlib
import Gamebook.Proofs.Json.Limited
import Gamebook.Proofs.Skill.Saved

namespace Gamebook

namespace Settings

variable {settings : Settings} {k : Setting}

-- All settings are text, as those who change them give them.
def IsTextual (s : Settings) : Prop :=
  ∀ k, ∃ text, s k = .str text

theorem isTextual_default : default.IsTextual :=
  fun k => by cases k <;> exact ⟨_, rfl⟩

theorem IsTextual.update (h : settings.IsTextual) {ms : List (String × Json)}
    (hm : ∀ m ∈ ms, ∃ text, m.2 = .str text) : (settings.update ms).IsTextual := by
  intro k
  rw [Settings.update]
  cases hg : Json.get? ms k.name with
  | none   => exact h k
  | some j =>
    obtain ⟨m, hf, rfl⟩ := Option.map_eq_some_iff.mp hg
    exact hm m (List.mem_of_find?_eq_some hf)

theorem get?_members : Json.get? (Setting.all.map fun k => (k.name, settings k)) k.name = some (settings k) := by
  cases k <;> rfl

-- All settings can be told in a file.
def IsSound (s : Settings) : Prop :=
  ∀ k, (s k).Sound

theorem IsTextual.isSound (h : settings.IsTextual) : settings.IsSound := by
  intro k
  obtain ⟨text, ht⟩ := h k
  exact ht ▸ .str text

theorem IsSound.toJson (h : settings.IsSound) : settings.toJson.Sound := by
  have hn : (Setting.all.map Setting.name).Nodup := by decide
  refine .obj (fun m hm => ?_) (by rwa [List.map_map])
  obtain ⟨k, _, rfl⟩ := List.mem_map.mp hm
  exact h k

end Settings

namespace Store

open Files

variable {s s' : Store} {settings : Settings}

theorem look_saveSettings (h : s.saveSettings settings = .ok s') :
    s'.files.look s'.settingsPath = .file (FileText.encode settings.toJson.render) := by
  rw [saveSettings, writeJson] at h
  split at h
  case isTrue =>
    obtain ⟨files, hw, h⟩ := Chain.bind_eq_ok.mp h
    cases h
    exact look_write (Chain.mapError_eq_ok.mp hw)
  case isFalse => cases h

-- What has been set is what is found.
theorem settings_of_saveSettings (h : s.saveSettings settings = .ok s') (ht : settings.IsSound) :
    s'.settings = .ok settings := by
  rw [Store.settings, readJson?_eq, look_saveSettings h, Found.read?_render ht.toJson.recoverable]
  refine congrArg Except.ok (funext fun k => ?_)
  rw [Settings.update, Settings.get?_members]
  rfl

theorem exists_saveSettings (hs : s.IsSetUp) (hn : s.files.look s.settingsPath ≠ .folder)
    (ht : settings.IsSound) : ∃ s', s.saveSettings settings = .ok s' := by
  have hr : s.files.look s.settingsPath ≠ .refused :=
    fun h => absurd ((look_child_eq_refused hs.folder isOwn_settings).mp h) (by decide)
  obtain ⟨files, hw⟩ :
      ∃ files, s.files.write s.settingsPath (FileText.encode settings.toJson.render) = .ok files :=
    exists_write_child hs.folder isOwn_settings hr hn
  rw [saveSettings, writeJson, if_pos ht.toJson.isWritable, hw]
  exact ⟨_, rfl⟩

-- A store that tells its settings, and in which others can be set.
structure IsConfigured (s : Store) (settings : Settings) : Prop where
  setUp  : s.IsSetUp
  place  : s.files.look s.settingsPath ≠ .folder
  config : s.settings = .ok settings
  sound  : settings.IsSound

-- How settings may be found: there are none, they are the members of an object, or it cannot be told
-- which they are because of a number in their text that is too long.
inductive Begins (s : Store) : Option (List (String × Json)) → Prop
  | absent   (hl : s.files.look s.settingsPath = .nothing) : Begins s (some [])
  | object   (hl : s.files.look s.settingsPath = .file content) (hd : FileText.decode content = some text)
             (hr : Json.read text = .ok (.obj ms)) : Begins s (some ms)
  | overlong (hl : s.files.look s.settingsPath = .file content) (hd : FileText.decode content = some text)
             (hr : Json.read text = .error .numberTooLong) : Begins s none

theorem Begins.isConfigured {ms : List (String × Json)} (h : s.Begins (some ms)) (hs : s.IsSetUp) :
    s.IsConfigured (Settings.default.update ms) := by
  have hn : ∀ {content}, s.files.look s.settingsPath = .file content → s.files.look s.settingsPath ≠ .folder := by
    rintro content hl
    simp [hl]
  cases h with
  | absent hl =>
    refine ⟨hs, by simp [hl], ?_, Settings.isTextual_default.isSound⟩
    rw [Store.settings, readJson?_eq, hl]
    rfl
  | object hl hd hr =>
    refine ⟨hs, hn hl, ?_, fun k => ?_⟩
    · rw [Store.settings, readJson?_eq, hl, Found.read?, hd]
      simp only [hr]
      rfl
    · obtain ⟨hm, _⟩ : (∀ m ∈ ms, m.snd.Sound) ∧ _ := by
        cases Json.sound_of_read hr with
        | obj hm hn => exact ⟨hm, hn⟩
      rw [Settings.update]
      cases hg : Json.get? ms k.name with
      | none   => exact Settings.isTextual_default.isSound k
      | some j =>
        obtain ⟨m, hf, rfl⟩ := Option.map_eq_some_iff.mp hg
        exact hm m (List.mem_of_find?_eq_some hf)

theorem Begins.unread (h : s.Begins none) : s.settings = .error .numberTooLong := by
  obtain _ | _ | ⟨hl, hd, hr⟩ := h
  rw [Store.settings, readJson?_eq, hl, Found.read?, hd]
  simp only [hr]
  rfl

theorem updateSettings_of_unread {ms : List (String × Json)} {e : Fault} (h : s.settings = .error e) :
    s.updateSettings ms = .error e := by
  rw [updateSettings, h]
  rfl

namespace IsConfigured

-- What is given is set, and nothing else is written.
theorem update (h : s.IsConfigured settings) {ms : List (String × Json)} (hm : (settings.update ms).IsSound) :
    ∃ t, s.updateSettings ms = .ok (t, settings.update ms) ∧ t.IsConfigured (settings.update ms) ∧
      t.files.look t.settingsPath = .file (FileText.encode (settings.update ms).toJson.render) := by
  obtain ⟨t, ht⟩ := exists_saveSettings h.setUp h.place hm
  have hl := look_saveSettings ht
  refine ⟨t, ?_, ⟨h.setUp.writeJson ht, by simp [hl], settings_of_saveSettings ht hm, hm⟩, hl⟩
  rw [updateSettings, h.config, Chain.ok_bind]
  simp only [ht]
  rfl

theorem update_of_unwritable (h : s.IsConfigured settings) {ms : List (String × Json)}
    (hm : ¬(settings.update ms).toJson.IsWritable) : s.updateSettings ms = .error .numberTooLong := by
  have hs : s.saveSettings (settings.update ms) = .error .numberTooLong := if_neg hm
  rw [updateSettings, h.config, Chain.ok_bind]
  simp only [hs]
  rfl

end IsConfigured

end Store
end Gamebook
