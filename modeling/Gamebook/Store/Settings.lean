import Gamebook.Store.Basic

namespace Gamebook

inductive Setting
  | adventureFile
  | soundFilesUrl
  | webhookUrl
  | webhookKey
deriving DecidableEq, Repr

namespace Setting

def name : Setting → String
  | adventureFile => "adventure_file"
  | soundFilesUrl => "sound_files_url"
  | webhookUrl    => "finished_webhook_url"
  | webhookKey    => "finished_webhook_api_key"

def all : List Setting :=
  [adventureFile, soundFilesUrl, webhookUrl, webhookKey]

theorem mem_all (k : Setting) : k ∈ all := by
  cases k <;> simp [all]

end Setting

-- A stored setting need not be text.
abbrev Settings := Setting → Json

namespace Settings

def default : Settings
  | .adventureFile => .str "adventures/sample.yaml"
  | _              => .str ""

-- Members with the names of settings replace these. Others are ignored.
def update (s : Settings) (members : List (String × Json)) : Settings :=
  fun k => (Json.get? members k.name).getD (s k)

def toJson (s : Settings) : Json :=
  .obj (Setting.all.map fun k => (k.name, s k))

end Settings

namespace Store

def settingsPath (s : Store) : PathName :=
  s.folder ++ .ofNames ["config.json"]

def occursIn (part : List Char) : List Char → Bool
  | []      => part.isEmpty
  | c :: cs => part.isPrefixOf (c :: cs) || occursIn part cs

-- Does a value that is no object name a setting?
def namesSetting : Json → Bool
  | .arr xs => Setting.all.any fun k => xs.any (isName k.name)
  | .str s  => Setting.all.any fun k => occursIn k.name.toList s.toList
  | _       => true
where
  isName (name : String) : Json → Bool
    | .str s => s = name
    | _      => false

-- What is stored stands before the defaults. An array or text is let pass as long as there is no
-- name of a setting in it.
def settings (s : Store) : Except Fault Settings := do
  match ← s.readJson? s.settingsPath with
  | none           => .ok .default
  | some (.obj ms) => .ok (Settings.default.update ms)
  | some j         => if namesSetting j then .error .notObject else .ok .default

def saveSettings (s : Store) (settings : Settings) : Except Fault Store :=
  s.writeJson s.settingsPath settings.toJson

-- Replaces some of the settings.
def updateSettings (s : Store) (members : List (String × Json)) : Except Fault (Store × Settings) := do
  let settings := (← s.settings).update members
  return (← s.saveSettings settings, settings)

end Store
end Gamebook
