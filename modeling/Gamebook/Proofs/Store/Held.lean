import Mathlib
import Gamebook.Proofs.Files.Folder
import Gamebook.Proofs.Store.Slug
import Gamebook.Store.Players
import Gamebook.Store.Settings

namespace Gamebook

-- What becomes of a file of the store, as far as others can tell.
namespace Found

def read? : Found → Except Store.Fault (Option Json)
  | refused      => .error (.file .nameTooLong)
  | file content => match FileText.decode content with
    | none      => .error .notText
    | some text => match Json.read text with
      | .ok j                  => .ok (some j)
      | .error .numberTooLong  => .error .numberTooLong
      | .error (.malformed ..) => .error .notJson
  | _ => .ok none

def save (f : Found) (j : Json) : Except Store.Fault Found :=
  if j.IsWritable then match f with
    | refused => .error (.file .nameTooLong)
    | folder  => .error (.file .isFolder)
    | _       => .ok (file (FileText.encode j.render))
  else .error .numberTooLong

def delete : Found → Except Store.Fault (Found × Bool)
  | refused => .error (.file .nameTooLong)
  | file _  => .ok (nothing, true)
  | f       => .ok (f, false)

end Found

namespace Store

open Files

variable {s s' : Store} {r r' : String} {j : Json} {p : PathName} {b : Bool}

theorem readJson?_eq : s.readJson? p = (s.files.look p).read? := by
  rw [readJson?, isFile_eq]
  cases hl : s.files.look p with
  | file content =>
    simp only [Except.mapError, Chain.ok_bind, if_true, readJson, readText, read_of_look hl, Found.read?]
    cases FileText.decode content with
    | none      => rfl
    | some text =>
      simp only [Chain.ok_bind]
      cases Json.read text with
      | ok j    => rfl
      | error e => cases e <;> rfl
  | _ => rfl

-- The folders of the store are there.
structure IsSetUp (s : Store) : Prop where
  players : s.files.HasFolder s.playersFolder

-- What the store holds of a player.
def held (s : Store) (recordId : String) : Found :=
  s.files.look (s.playerPath recordId)

def playerSpot (s : Store) (recordId : String) : Spot :=
  Spot.ofPath (s.playerPath recordId)

theorem isOwn_players : IsOwn "players" :=
  ⟨by decide, by decide⟩

theorem isOwn_settings : IsOwn "config.json" :=
  ⟨by decide, by decide⟩

theorem isOwn_player : IsOwn (Slug.ofText r ++ extension) where
  fit h := by
    rw [String.toList_append, List.mem_append] at h
    cases h
    case inl h => exact absurd (Slug.mem_ofText h) (by decide)
    case inr h => exact absurd h (by decide)
  not_up h := by
    have h := congrArg String.length h
    rw [String.length_append] at h
    have : extension.length = 5 := by decide
    have : Spot.up.length = 2 := by decide
    omega

theorem player?_eq : s.player? r = (s.held r).read? :=
  readJson?_eq

theorem held_congr (h : Slug.ofText r = Slug.ofText r') : s.held r = s.held r' := by
  rw [held, held, playerPath, playerPath, h]

theorem names_playerSpot :
    (s.playerSpot r).names = (Spot.ofPath s.playersFolder).names ++ [Slug.ofText r ++ extension] :=
  HasFolder.names_ofPath_child isOwn_player

theorem names_playersFolder :
    (Spot.ofPath s.playersFolder).names = (Spot.ofPath s.folder).names ++ ["players"] :=
  HasFolder.names_ofPath_child isOwn_players

theorem slug_eq_of_spot (h : (s.playerSpot r).names = (s.playerSpot r').names) :
    Slug.ofText r = Slug.ofText r' := by
  rw [names_playerSpot, names_playerSpot] at h
  have h := congrArg String.toList (List.singleton_inj.mp (List.append_cancel_left h))
  rw [String.toList_append, String.toList_append] at h
  exact String.toList_inj.mp (List.append_cancel_right h)

-- The settings are not in the place of a player.
theorem settingsPath_ne_playerSpot : (Spot.ofPath s.settingsPath).names ≠ (s.playerSpot r).names := by
  intro h
  have hs : (Spot.ofPath s.settingsPath).names = (Spot.ofPath s.folder).names ++ ["config.json"] :=
    HasFolder.names_ofPath_child isOwn_settings
  rw [hs, names_playerSpot, names_playersFolder] at h
  simpa using congrArg List.length h

namespace IsSetUp

theorem folder (h : s.IsSetUp) : s.files.HasFolder s.folder :=
  h.players.of_child isOwn_players

end IsSetUp

theorem isSetUp_setUp (h : s.setUp = .ok s') : s'.IsSetUp := by
  have ⟨_, _, h⟩ := Chain.bind_eq_ok.mp h
  have ⟨_, hp, h⟩ := Chain.bind_eq_ok.mp h
  cases h
  exact ⟨.of_makeFolder hp isOwn_players⟩

theorem writeJson_eq_ok (h : s.writeJson p j = .ok s') :
    s'.folder = s.folder ∧ Update (Spot.ofPath p) s.files s'.files := by
  rw [writeJson] at h
  split at h
  case isTrue =>
    have ⟨files, hw, h⟩ := Chain.bind_eq_ok.mp h
    have ⟨_, ht, u, _⟩ := write_eq_ok (Chain.mapError_eq_ok.mp hw)
    cases h
    exact ⟨rfl, eq_ofPath_of_locate ht ▸ u⟩
  case isFalse => cases h

theorem IsSetUp.writeJson (hs : s.IsSetUp) (h : s.writeJson p j = .ok s') : s'.IsSetUp where
  players := by
    have ⟨hf, u⟩ := writeJson_eq_ok h
    rw [playersFolder, hf]
    exact hs.players.update u

theorem held_saveSettings (hs : s.IsSetUp) {settings : Settings} (h : s.saveSettings settings = .ok s') :
    s'.held r = s.held r := by
  have ⟨hf, u⟩ := writeJson_eq_ok h
  have hp : s'.playerPath r = s.playerPath r := by
    rw [playerPath, playerPath, playersFolder, playersFolder, hf]
  rw [held, held, hp]
  exact look_congr (u.status_child hs.players isOwn_player settingsPath_ne_playerSpot.symm)

-- Is the name under which a player is stored short enough for a file?
def HasRoomFor (recordId : String) : Prop :=
  (Slug.ofText recordId ++ extension).utf8ByteSize ≤ Files.nameLimit

theorem held_eq_refused (h : s.IsSetUp) : s.held r = .refused ↔ ¬HasRoomFor r := by
  rw [HasRoomFor, not_le]
  exact Files.look_child_eq_refused h.players isOwn_player

theorem hasRoomFor_iff : HasRoomFor r ↔ (Slug.ofText r).length ≤ 250 := by
  have he : extension.utf8ByteSize = 5 := by decide
  rw [HasRoomFor, String.utf8ByteSize_append, Slug.utf8ByteSize_ofText, he, Files.nameLimit]
  omega

theorem hasRoomFor_alice : HasRoomFor "alice" := by
  rw [hasRoomFor_iff, Slug.ofText_alice]
  decide

theorem not_hasRoomFor_replicate {n : Nat} (h : 250 < n) :
    String.ofList (.replicate n 'a') ≠ "" ∧ ¬HasRoomFor (.ofList (.replicate n 'a')) := by
  have hl : (String.ofList (.replicate n 'a')).length = n := by
    rw [String.length_ofList, List.length_replicate]
  have hs : (String.ofList (.replicate n 'a')).toList.all Slug.isSlugChar := by
    rw [String.toList_ofList, List.all_replicate, if_neg (by omega)]
    decide
  have hn : String.ofList (.replicate n 'a') ≠ "" := by
    intro he
    rw [he] at hl
    exact absurd h (hl ▸ by decide)
  rw [hasRoomFor_iff, Slug.ofText_eq_self hs hn, hl, not_le]
  exact ⟨hn, h⟩

theorem held_eq_found (hs : s.IsSetUp) (hr : HasRoomFor r) : s.held r = s.files.found (s.playerSpot r) :=
  Files.look_child hs.players isOwn_player (not_lt.mpr hr)

theorem mem_playerFiles_iff (hs : s.IsSetUp) :
    Slug.ofText r ++ extension ∈ s.playerFiles ↔ s.files.entry? (s.playerSpot r) ≠ none := by
  have hp : s.playerSpot r = ⟨true, (Spot.ofPath s.playersFolder).names ++ [Slug.ofText r ++ extension]⟩ :=
    Spot.ext (hs.players.inside_child isOwn_player) names_playerSpot
  rw [playerFiles, sorted, List.mem_mergeSort, hs.players.mem_names, hp]

-- A player's file is listed as soon as something is held of the player.
theorem mem_playerFiles_iff_held (hs : s.IsSetUp) (hr : HasRoomFor r) :
    Slug.ofText r ++ extension ∈ s.playerFiles ↔ s.held r ≠ .nothing := by
  rw [mem_playerFiles_iff hs, held_eq_found hs hr, ne_eq, ne_eq, found_eq_nothing]

section

variable (hs : s.IsSetUp) (he : s.playerFiles = [])
include hs he

theorem entry?_playerSpot_of_empty : s.files.entry? (s.playerSpot r) = none := by
  have hn : Slug.ofText r ++ extension ∉ s.playerFiles := he ▸ List.not_mem_nil
  rwa [mem_playerFiles_iff hs, ne_eq, not_not] at hn

theorem held_of_empty (hr : HasRoomFor r) : s.held r = .nothing := by
  rw [held_eq_found hs hr, found_eq_nothing]
  exact entry?_playerSpot_of_empty hs he

theorem held_cases_of_empty (r : String) : s.held r = .nothing ∨ s.held r = .refused := by
  by_cases hr : HasRoomFor r
  case pos => exact .inl (held_of_empty hs he hr)
  case neg => exact .inr ((held_eq_refused hs).mpr hr)

end

-- A store after nothing has been changed but what it holds of a player.
structure OnlyAt (recordId : String) (s s' : Store) : Prop where
  folder : s'.folder = s.folder
  files  : s'.files = s.files ∨ Update (s.playerSpot recordId) s.files s'.files

namespace OnlyAt

theorem refl : OnlyAt r s s :=
  ⟨rfl, .inl rfl⟩

theorem isSetUp (h : OnlyAt r s s') (hs : s.IsSetUp) : s'.IsSetUp where
  players := by
    rw [playersFolder, h.folder]
    cases h.files
    case inl hf => exact hf ▸ hs.players
    case inr u  => exact hs.players.update u

-- Players are told apart by their slugs.
theorem held (h : OnlyAt r s s') (hs : s.IsSetUp) (hr : Slug.ofText r' ≠ Slug.ofText r) :
    s'.held r' = s.held r' := by
  have hp : s'.playerPath r' = s.playerPath r' := by
    rw [playerPath, playerPath, playersFolder, playersFolder, h.folder]
  rw [Store.held, Store.held, hp]
  cases h.files
  case inl hf => rw [hf]
  case inr u  => exact look_congr (u.status_child hs.players isOwn_player (mt slug_eq_of_spot hr))

-- Other names are listed as before.
theorem mem_playerFiles (h : OnlyAt r s s') (hs : s.IsSetUp) {name : String}
    (hn : name ≠ Slug.ofText r ++ extension) : name ∈ s'.playerFiles ↔ name ∈ s.playerFiles := by
  have hp : s'.playersFolder = s.playersFolder := by
    rw [playersFolder, playersFolder, h.folder]
  rw [playerFiles, playerFiles, sorted, sorted, List.mem_mergeSort, List.mem_mergeSort, hp]
  cases h.files
  case inl hf => rw [hf]
  case inr u  =>
    apply u.mem_names hs.players
    rw [names_playerSpot]
    exact fun he => hn (List.singleton_inj.mp (List.append_cancel_left he)).symm

theorem settings (h : OnlyAt r s s') (hs : s.IsSetUp) : s'.settings = s.settings := by
  have hp : s'.settingsPath = s.settingsPath := by
    rw [settingsPath, settingsPath, h.folder]
  have hl : s'.files.look s.settingsPath = s.files.look s.settingsPath := by
    cases h.files
    case inl hf => rw [hf]
    case inr u  => exact look_congr (u.status_child hs.folder isOwn_settings settingsPath_ne_playerSpot)
  rw [Store.settings, Store.settings, readJson?_eq, readJson?_eq, hp, hl]

end OnlyAt

theorem savePlayer_onlyAt (h : s.savePlayer r j = .ok s') : OnlyAt r s s' :=
  have ⟨hf, u⟩ := writeJson_eq_ok h
  ⟨hf, .inr u⟩

theorem held_savePlayer (h : s.IsSetUp) :
    (s.savePlayer r j).map (·.held r) = (s.held r).save j := by
  rw [savePlayer, writeJson, Found.save.eq_def]
  split
  case isFalse => rfl
  case isTrue =>
    split
    case h_1 hl =>
      have hw : s.files.write (s.playerPath r) (FileText.encode j.render) = .error .nameTooLong :=
        (write_child_eq_error h.players isOwn_player).mpr (.inl ⟨hl, rfl⟩)
      rw [hw]
      rfl
    case h_2 hl =>
      have hw : s.files.write (s.playerPath r) (FileText.encode j.render) = .error .isFolder :=
        (write_child_eq_error h.players isOwn_player).mpr (.inr ⟨hl, rfl⟩)
      rw [hw]
      rfl
    case h_3 hr hf =>
      obtain ⟨files, hw⟩ : ∃ files, s.files.write (s.playerPath r) (FileText.encode j.render) = .ok files :=
        exists_write_child h.players isOwn_player hr hf
      rw [hw]
      exact congrArg Except.ok (look_write hw)

-- What has been stored is there, and could be written.
theorem held_of_savePlayer (hs : s.IsSetUp) (h : s.savePlayer r j = .ok s') :
    j.IsWritable ∧ s'.held r = .file (FileText.encode j.render) := by
  have hk := held_savePlayer (r := r) (j := j) hs
  rw [h, Found.save.eq_def] at hk
  split at hk
  case isTrue hj =>
    refine ⟨hj, ?_⟩
    split at hk
    case h_1 => cases hk
    case h_2 => cases hk
    case h_3 => exact Except.ok.inj hk
  case isFalse => cases hk

theorem deletePlayer_onlyAt (h : s.deletePlayer r = .ok (s', b)) : OnlyAt r s s' := by
  rw [deletePlayer, isFile_eq] at h
  cases hl : s.files.look (s.playerPath r) with
  | file content =>
    have ⟨files, hr, u, _⟩ := exists_remove hl
    simp only [hl, Except.mapError, Chain.ok_bind, if_true, hr] at h
    cases h
    exact ⟨rfl, .inr u⟩
  | refused =>
    rw [hl] at h
    cases h
  | _ =>
    rw [hl] at h
    cases h
    exact .refl

theorem held_deletePlayer :
    (s.deletePlayer r).map (fun d => (d.1.held r, d.2)) = (s.held r).delete := by
  rw [deletePlayer, isFile_eq, held]
  cases hl : s.files.look (s.playerPath r) with
  | file content =>
    have ⟨files, hr, u, hn⟩ := exists_remove hl
    simp only [Except.mapError, Chain.ok_bind, if_true, hr, Found.delete]
    exact congrArg (fun f => Except.ok (f, true)) hn
  | refused => rfl
  | _ => exact congrArg (fun f => Except.ok (f, false)) hl

end Store
end Gamebook
