import Mathlib
import Gamebook.Proofs.Store.Shelved

namespace Gamebook

namespace PathName

variable {name : String}

theorem ofText_of_undivided (h : separator ∉ name.toList) (he : name ≠ "") (hd : name ≠ ".") :
    ofText name = .ofNames [name] := by
  have hs : name.toList.splitOn separator = [name.toList] := by
    rw [List.splitOn_eq_splitOnP]
    exact List.splitOnP_eq_singleton fun c hc => beq_false_of_ne fun hs => h (hs ▸ hc)
  have hr : rootOf name.toList = "" := by
    have ht : name.toList.takeWhile (· = separator) = [] := by
      rw [List.takeWhile_eq_nil_iff]
      intro hl hc
      exact h (of_decide_eq_true hc ▸ List.getElem_mem hl)
    rw [rootOf, ht]
    rfl
  simp [ofText, hs, hr, he, hd, ofNames]

end PathName

-- A name of one thing in a folder, which is neither hidden there nor leads out of it.
structure Files.IsPlain (name : String) : Prop where
  single    : PathName.ofText name = .ofNames [name]
  undivided : PathName.separator ∉ name.toList
  shown     : name.toList.head? ≠ some '.'
  undotted  : ¬['.', '.'] <:+: name.toList

namespace Store

open Files

-- The same errand for somebody who is called by the name on the file.
def Errand.filed : Errand → Errand
  | get r            => get (Slug.ofText r)
  | list             => list
  | deed (.save r j) => deed (.save (Slug.ofText r) j)
  | deed (.delete r) => deed (.delete (Slug.ofText r))

variable {s s' : Store} {r : String} {j : Json} {e : Errand} {es es' : List Errand}

-- Every file is that of somebody.
def IsFiled (s : Store) : Prop :=
  ∀ n ∈ s.playerFiles, ∃ r, n = Slug.ofText r ++ extension

theorem isPlain_filed (r : String) : IsPlain (Slug.ofText r ++ extension) := by
  obtain ⟨c, cs, hr, hc⟩ := Slug.exists_toList_ofText r
  have hc : c ≠ '.' := fun h => absurd (h ▸ hc) (by decide)
  have hd : '.' ∉ (Slug.ofText r).toList := fun h => absurd (Slug.mem_ofText h) (by decide)
  have hs : PathName.separator ∉ (Slug.ofText r ++ extension).toList := by
    rw [String.toList_append, List.mem_append, not_or]
    exact ⟨fun h => absurd (Slug.mem_ofText h) (by decide), by decide⟩
  have hh : (Slug.ofText r ++ extension).toList.head? = some c := by
    rw [String.toList_append, hr]
    rfl
  constructor
  case single    =>
    apply PathName.ofText_of_undivided hs
    case he => exact fun he => nomatch (congrArg (·.toList.head?) he).symm.trans hh
    case hd => exact fun he => hc (Option.some.inj ((congrArg (·.toList.head?) he).symm.trans hh)).symm
  case undivided => exact hs
  case shown     => exact fun he => hc (Option.some.inj (hh.symm.trans he))
  case undotted  =>
    intro h
    have hn := h.sublist.count_le '.'
    rw [String.toList_append, List.count_append, List.count_eq_zero_of_not_mem hd] at hn
    exact absurd hn (by decide)

theorem names_playerPath : (s.playerPath r).names = s.playersFolder.names ++ [Slug.ofText r ++ extension] :=
  names_child

theorem parent_playerPath : parent (s.playerPath r) = s.playersFolder := by
  rw [parent, names_playerPath, List.dropLast_concat]
  rfl

theorem name_playerPath : (s.playerPath r).name = Slug.ofText r ++ extension := by
  rw [PathName.name, names_playerPath, List.getLastD_concat]

theorem playerSpot_eq : s.playerSpot r =
    ⟨(Spot.ofPath s.playersFolder).inside, (Spot.ofPath s.playersFolder).names ++ [Slug.ofText r ++ extension]⟩ := by
  have hp : s.playerSpot r = (Spot.ofPath s.playersFolder).step (Slug.ofText r ++ extension) :=
    ofPath_child
  rw [hp, Spot.step, if_neg isOwn_player.not_up]

theorem playerPath_ofText : s.playerPath (Slug.ofText r) = s.playerPath r := by
  rw [playerPath, Slug.ofText_ofText, playerPath]

theorem player?_ofText : s.player? (Slug.ofText r) = s.player? r := by
  rw [player?, playerPath_ofText, player?]

theorem savePlayer_ofText : s.savePlayer (Slug.ofText r) j = s.savePlayer r j := by
  rw [savePlayer, playerPath_ofText, savePlayer]

theorem deletePlayer_ofText : s.deletePlayer (Slug.ofText r) = s.deletePlayer r := by
  rw [deletePlayer, playerPath_ofText, deletePlayer]

theorem attend_filed : s.attend e.filed = s.attend e := by
  cases e with
  | get r  => rw [Errand.filed, attend, player?_ofText, attend]
  | list   => rfl
  | deed d =>
    cases d with
    | save r j => rw [Errand.filed, attend, savePlayer_ofText, attend]
    | delete r => rw [Errand.filed, attend, deletePlayer_ofText, attend]

theorem attendAll_filed : s.attendAll (es.map Errand.filed) = s.attendAll es := by
  have ha : (fun s e => Store.after s (Errand.filed e)) = Store.after := by
    funext s e
    rw [Store.after, attend_filed, Store.after]
  rw [attendAll, List.foldl_map, ha, attendAll]

theorem IsFiled.after (h : s.IsFiled) (hs : s.IsSetUp) (e : Errand) : (s.after e).IsFiled := by
  cases e with
  | get r  => exact after_get ▸ h
  | list   => exact after_list ▸ h
  | deed d =>
    rw [after_deed]
    intro n hn
    by_cases hd : n = Slug.ofText d.recordId ++ extension
    case pos => exact ⟨_, hd⟩
    case neg => exact h n ((perform_onlyAt.mem_playerFiles hs hd).mp hn)

theorem IsSetUp.after (hs : s.IsSetUp) (e : Errand) : (s.after e).IsSetUp := by
  cases e with
  | get r  => exact after_get ▸ hs
  | list   => exact after_list ▸ hs
  | deed d => exact after_deed ▸ perform_onlyAt.isSetUp hs

theorem IsFiled.attendAll (h : s.IsFiled) (hs : s.IsSetUp) (es : List Errand) : (s.attendAll es).IsFiled := by
  induction es generalizing s with
  | nil          => exact h
  | cons e es hi => exact hi (h.after hs e) (hs.after e)

-- What has been stored for somebody is found under the name on the file, and can be deleted there.
theorem exists_savePlayer_ofText (hs : s.IsTidy) (hr : HasRoomFor r) (hj : j.Sound) :
    ∃ s', s.savePlayer r j = .ok s' ∧ s'.player? (Slug.ofText r) = .ok (some j) ∧
      ∃ s'', s'.deletePlayer (Slug.ofText r) = .ok (s'', true) ∧ s''.player? r = .ok none := by
  have hk : (s.savePlayer r j).map (·.held r) = .ok (.file (FileText.encode j.render)) := by
    have hf : s.held r ≠ .refused := mt (held_eq_refused hs.setUp).mp (not_not.mpr hr)
    have hd : s.held r ≠ .folder := hs.no_folder r
    rw [held_savePlayer hs.setUp, Found.save.eq_def, if_pos hj.isWritable]
    split
    case h_1 he => exact absurd he hf
    case h_2 he => exact absurd he hd
    case h_3    => rfl
  obtain ⟨s', hs', hh⟩ := Chain.map_eq_ok.mp hk
  have hh : s'.held (Slug.ofText r) = .file (FileText.encode j.render) := (held_congr Slug.ofText_ofText).trans hh
  refine ⟨s', hs', ?_, ?_⟩
  · rw [player?_eq, hh, Found.read?_render hj.recoverable]
  · have hk : (s'.deletePlayer (Slug.ofText r)).map (fun d => (d.1.held (Slug.ofText r), d.2)) = .ok (.nothing, true) := by
      rw [held_deletePlayer, hh]
      rfl
    obtain ⟨⟨s'', _⟩, hd, hn⟩ := Chain.map_eq_ok.mp hk
    cases (Prod.mk.inj hn).right
    refine ⟨s'', hd, ?_⟩
    rw [player?_eq, ← held_congr Slug.ofText_ofText, (Prod.mk.inj hn).left]
    rfl

-- Whatever somebody is called, the slug is the name of one file among the players, which is found by
-- the slug as well as by what it has been made from.
theorem filed_under_slug (r : String) :
    (Slug.words r ≠ [] ∧ (∀ w ∈ Slug.words r, w ≠ [] ∧ ∀ c ∈ w, Slug.isSlugChar c) ∧
      (Slug.ofText r).toList = ['-'].intercalate (Slug.words r)) ∧
    Slug.ofText (Slug.ofText r) = Slug.ofText r ∧
    IsPlain (Slug.ofText r ++ extension) ∧
    (∀ s : Store, parent (s.playerPath r) = s.playersFolder ∧
      (s.playerPath r).name = Slug.ofText r ++ extension ∧
      s.playerSpot r = ⟨(Spot.ofPath s.playersFolder).inside,
        (Spot.ofPath s.playersFolder).names ++ [Slug.ofText r ++ extension]⟩ ∧
      ∀ d : Deed, d.recordId = r → s.OnlyAt r (s.perform d)) ∧
    (∀ s : Store, s.IsSetUp → s.IsFiled → ∀ es, (s.attendAll es).IsFiled) ∧
    (∀ (s : Store) (es es' : List Errand), es.map Errand.filed = es'.map Errand.filed →
      s.attendAll es = s.attendAll es' ∧
      (s.attendAll es).player? (Slug.ofText r) = (s.attendAll es').player? r ∧
      (∀ j, (s.attendAll es).savePlayer (Slug.ofText r) j = (s.attendAll es').savePlayer r j) ∧
      (s.attendAll es).deletePlayer (Slug.ofText r) = (s.attendAll es').deletePlayer r) ∧
    ∀ (s : Store) (j : Json), s.IsTidy → HasRoomFor r → j.Sound →
      ∃ s', s.savePlayer r j = .ok s' ∧ s'.player? (Slug.ofText r) = .ok (some j) ∧
        ∃ s'', s'.deletePlayer (Slug.ofText r) = .ok (s'', true) ∧ s''.player? r = .ok none := by
  refine ⟨⟨Slug.words_ne_nil, fun _ => Slug.isWord_of_mem_words, Slug.toList_ofText⟩, Slug.ofText_ofText,
    isPlain_filed r, fun s => ⟨parent_playerPath, name_playerPath, playerSpot_eq, fun _ hd => hd ▸ perform_onlyAt⟩,
    fun s hs hf es => hf.attendAll hs es, fun s es es' h => ?_, fun s j => exists_savePlayer_ofText⟩
  have ha : s.attendAll es = s.attendAll es' := by
    rw [← attendAll_filed, h, attendAll_filed]
  exact ⟨ha, ha ▸ player?_ofText, fun _ => ha ▸ savePlayer_ofText, ha ▸ deletePlayer_ofText⟩

theorem ofText_cafe : Slug.ofText "Café «Dragon's Hollow»" = "cafe-dragons-hollow" := by
  decide +kernel

-- The accent and the quotation marks are gone from the name on the file.
theorem filed_under_slug_cafe :
    ∃ s, bare.savePlayer "Café «Dragon's Hollow»" lucky = .ok s ∧
      s.player? "cafe-dragons-hollow" = .ok (some lucky) ∧
      ∃ t, s.deletePlayer "cafe-dragons-hollow" = .ok (t, true) ∧
        t.player? "Café «Dragon's Hollow»" = .ok none := by
  have hr : HasRoomFor "Café «Dragon's Hollow»" := by
    rw [hasRoomFor_iff, ofText_cafe]
    decide
  obtain ⟨_, _, _, _, _, _, h⟩ := filed_under_slug "Café «Dragon's Hollow»"
  rw [ofText_cafe] at h
  exact h bare lucky (.of_empty isSetUp_bare playerFiles_bare) hr sound_lucky

end Store
end Gamebook
