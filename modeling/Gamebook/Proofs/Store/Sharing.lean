import Mathlib
import Gamebook.Proofs.Skill.Saved
import Gamebook.Proofs.Story.Travel

namespace Gamebook
namespace Store

-- What can be done to stored players.
inductive Deed
  | save (recordId : String) (player : Json)
  | delete (recordId : String)

def Deed.recordId : Deed → String
  | save r _ => r
  | delete r => r

-- A deed that fails leaves everything as it is.
def perform (s : Store) : Deed → Store
  | .save r j => match s.savePlayer r j with
    | .ok store => store
    | .error _  => s
  | .delete r => match s.deletePlayer r with
    | .ok (store, _) => store
    | .error _       => s

instance (recordId : String) : Decidable (HasRoomFor recordId) :=
  inferInstanceAs (Decidable (_ ≤ _))

def performAll (s : Store) (ds : List Deed) : Store :=
  ds.foldl perform s

-- The folders of the store are there, and there are none in the places of players.
structure IsTidy (s : Store) : Prop where
  setUp     : s.IsSetUp
  no_folder : ∀ r, s.held r ≠ .folder

variable {s : Store} {d : Deed} {ds : List Deed} {r r' : String} {j : Json} {p : Player} {g : PlaceGraph}
  {now : Timestamp} {ms : List (String × Json)}

theorem IsTidy.of_empty (hs : s.IsSetUp) (he : s.playerFiles = []) : s.IsTidy where
  setUp := hs
  no_folder r := by rcases held_cases_of_empty hs he r with h | h <;> simp [h]

theorem perform_onlyAt : s.OnlyAt d.recordId (s.perform d) := by
  cases d with
  | save r j =>
    rw [perform]
    split
    case h_1 h => exact savePlayer_onlyAt h
    case h_2   => exact .refl
  | delete r =>
    rw [perform]
    split
    case h_1 h => exact deletePlayer_onlyAt h
    case h_2   => exact .refl

-- Whatever is done for others, nothing changes for those who are filed under another name.
theorem held_perform_of_ne (hs : s.IsSetUp) (h : Slug.ofText d.recordId ≠ Slug.ofText r) :
    (s.perform d).held r = s.held r :=
  perform_onlyAt.held hs h.symm

theorem held_perform_save (h : s.IsTidy) :
    (s.perform (.save r j)).held r =
      if j.IsWritable ∧ HasRoomFor r then .file (FileText.encode j.render) else s.held r := by
  have hr : s.held r = .refused ↔ ¬HasRoomFor r := held_eq_refused h.setUp
  have hk := held_savePlayer (r := r) (j := j) h.setUp
  rw [perform]
  cases hw : s.savePlayer r j with
  | ok store =>
    obtain ⟨hj, hh⟩ := held_of_savePlayer h.setUp hw
    have hn : ¬store.held r = .refused := by simp [hh]
    have hf : HasRoomFor r := not_not.mp (mt (held_eq_refused ((savePlayer_onlyAt hw).isSetUp h.setUp)).mpr hn)
    rw [if_pos ⟨hj, hf⟩]
    exact hh
  | error e =>
    -- There is no folder in the way, so it is the counters or the name that a save fails for.
    rw [hw, Found.save.eq_def] at hk
    refine (if_neg fun hf => ?_).symm
    rw [if_pos hf.left] at hk
    split at hk
    case h_1 he => exact hr.mp he hf.right
    case h_2 he => exact h.no_folder r he
    case h_3    => cases hk

theorem held_perform_delete :
    (s.perform (.delete r)).held r = match s.held r with
      | .file _ => .nothing
      | f       => f := by
  have hd := held_deletePlayer (s := s) (r := r)
  rw [Found.delete.eq_def] at hd
  rw [perform]
  cases hw : s.deletePlayer r with
  | ok d =>
    rw [hw] at hd
    split at hd
    case h_1 => cases hd
    case h_2 he =>
      simp only [he]
      exact congrArg Prod.fst (Except.ok.inj hd)
    case h_3 hr hf =>
      have hd : d.1.held r = s.held r := congrArg Prod.fst (Except.ok.inj hd)
      simp only [hd]
  | error e =>
    rw [hw] at hd
    split at hd
    case h_1 he => simp only [he]
    all_goals cases hd

theorem IsTidy.perform (h : s.IsTidy) (d : Deed) : (s.perform d).IsTidy where
  setUp := perform_onlyAt.isSetUp h.setUp
  no_folder r := by
    have hn := h.no_folder
    by_cases hr : Slug.ofText d.recordId = Slug.ofText r
    case neg => exact held_perform_of_ne h.setUp hr ▸ hn r
    case pos =>
      rw [← held_congr hr]
      cases d with
      | save r j =>
        rw [Deed.recordId, held_perform_save h]
        split
        case isTrue  => simp
        case isFalse => exact hn r
      | delete r =>
        rw [Deed.recordId, held_perform_delete]
        split
        case h_1 => simp
        case h_2 => exact hn r

theorem IsTidy.performAll (h : s.IsTidy) (ds : List Deed) : (s.performAll ds).IsTidy := by
  induction ds generalizing s with
  | nil          => exact h
  | cons d ds hi => exact hi (h.perform d)

theorem held_performAll_of_ne (hs : s.IsSetUp) (h : ∀ d ∈ ds, Slug.ofText d.recordId ≠ Slug.ofText r) :
    (s.performAll ds).held r = s.held r := by
  induction ds generalizing s with
  | nil => rfl
  | cons d ds hi =>
    rw [List.forall_mem_cons] at h
    exact (hi (perform_onlyAt.isSetUp hs) h.right).trans (held_perform_of_ne hs h.left)

-- What is read of somebody after a player has been saved.
theorem player?_perform_save (h : s.IsTidy) :
    (s.perform (.save r j)).player? r' =
      if Slug.ofText r = Slug.ofText r' ∧ j.IsWritable ∧ HasRoomFor r then
        (Found.file (FileText.encode j.render)).read?
      else s.player? r' := by
  rw [player?_eq, player?_eq]
  by_cases hr : Slug.ofText r = Slug.ofText r'
  case pos =>
    have ha : (s.perform (.save r j)).held r' = (s.perform (.save r j)).held r := (held_congr hr).symm
    have hb : s.held r' = s.held r := (held_congr hr).symm
    rw [ha, hb, held_perform_save h]
    simp only [hr, true_and]
    split <;> rfl
  case neg =>
    have ha : (s.perform (.save r j)).held r' = s.held r' := held_perform_of_ne h.setUp hr
    rw [ha, if_neg fun hf => hr hf.left]

theorem player?_perform_delete (h : s.IsTidy) :
    (s.perform (.delete r)).player? r' =
      if Slug.ofText r = Slug.ofText r' ∧ HasRoomFor r then .ok none else s.player? r' := by
  rw [player?_eq, player?_eq]
  by_cases hr : Slug.ofText r = Slug.ofText r'
  case pos =>
    have hn : s.held r = .refused ↔ ¬HasRoomFor r := held_eq_refused h.setUp
    have hf : s.held r ≠ .folder := h.no_folder r
    have ha : (s.perform (.delete r)).held r' = (s.perform (.delete r)).held r := (held_congr hr).symm
    have hb : s.held r' = s.held r := (held_congr hr).symm
    rw [ha, hb, held_perform_delete]
    simp only [hr, true_and]
    cases hh : s.held r with
    | nothing => simp [Found.read?]
    | folder  => exact absurd hh hf
    | file _  =>
      have hr : HasRoomFor r := not_not.mp (mt hn.mpr (by simp [hh]))
      simp [Found.read?, hr]
    | refused => simp [hn.mp hh]
  case neg =>
    have ha : (s.perform (.delete r)).held r' = s.held r' := held_perform_of_ne h.setUp hr
    rw [ha, if_neg fun hf => hr hf.left]

theorem player?_performAll_of_ne (hs : s.IsSetUp) (h : ∀ d ∈ ds, Slug.ofText d.recordId ≠ Slug.ofText r) :
    (s.performAll ds).player? r = s.player? r := by
  rw [player?_eq, player?_eq, held_performAll_of_ne hs h]

-- What is stored for one is not found by another, unless both are filed under one name: whatever
-- has been saved and deleted before, a change is seen if there is one, and then new sessions of
-- the other go on with it.
theorem kept_apart_iff (hs : s.IsSetUp) (he : s.playerFiles = []) (ds : List Deed) (r r' : String) :
    (∀ j, ((s.performAll ds).perform (.save r j)).player? r' = (s.performAll ds).player? r' ↔
      Slug.ofText r ≠ Slug.ofText r' ∨ ¬(j.IsWritable ∧ HasRoomFor r) ∨
        (s.performAll ds).player? r' = (Found.file (FileText.encode j.render)).read?) ∧
    (((s.performAll ds).perform (.delete r)).player? r' = (s.performAll ds).player? r' ↔
      Slug.ofText r ≠ Slug.ofText r' ∨ ¬HasRoomFor r ∨ (s.performAll ds).player? r' = .ok none) ∧
    (∀ (p : Player) (g : PlaceGraph) now ms, p.IsCountable → g.contains p.placeId → HasRoomFor r → r' ≠ "" →
      ((s.performAll ds).perform (.save r p.toJson)).restorePlayer g now r' true ms =
        if Slug.ofText r = Slug.ofText r' then .ok { p.restored with recordId := r' }
        else (s.performAll ds).restorePlayer g now r' true ms) ∧
    ∀ ds', (∀ d ∈ ds', Slug.ofText d.recordId ≠ Slug.ofText r') →
      ((s.performAll ds).performAll ds').player? r' = (s.performAll ds).player? r' ∧
      ∀ g now ms, ((s.performAll ds).performAll ds').restorePlayer g now r' true ms =
        (s.performAll ds).restorePlayer g now r' true ms := by
  have ht : (s.performAll ds).IsTidy := (IsTidy.of_empty hs he).performAll ds
  refine ⟨fun j => ?_, ?_, fun p g now ms hc hp hf hn => ?_, fun ds' h => ?_⟩
  · rw [player?_perform_save ht]
    split
    case isTrue h  => simp [h, eq_comm]
    case isFalse h => exact iff_of_true rfl ((not_and_or.mp h).imp_right .inl)
  · rw [player?_perform_delete ht]
    split
    case isTrue h  => simp [h, eq_comm]
    case isFalse h => exact iff_of_true rfl ((not_and_or.mp h).imp_right .inl)
  · have hw : p.toJson.IsWritable := Player.isWritable_toJson_iff.mpr hc
    have hk : ((s.performAll ds).perform (.save r p.toJson)).player? r' =
        if Slug.ofText r = Slug.ofText r' then .ok (some p.toJson) else (s.performAll ds).player? r' := by
      rw [player?_perform_save ht, Found.read?_player hc]
      simp only [hw, hf, and_self, and_true]
    split
    case isTrue h  => exact restorePlayer_of_player? hn hp (hk.trans (if_pos h))
    case isFalse h => exact restorePlayer_congr fun _ => hk.trans (if_neg h)
  · have hk : ((s.performAll ds).performAll ds').player? r' = (s.performAll ds).player? r' :=
      player?_performAll_of_ne ht.setUp h
    exact ⟨hk, fun _ _ _ => restorePlayer_congr fun _ => hk⟩

-- A store in which nobody has been saved.
def bare : Store where
  files  := ⟨.ofList [(["data"], .folder), (["data", "players"], .folder)], 0⟩
  folder := .ofText "data"

theorem isSetUp_bare : bare.IsSetUp :=
  ⟨rfl, rfl⟩

theorem playerFiles_bare : bare.playerFiles = [] :=
  List.mergeSort_nil

-- Alice comes after Bob, and leaves him as he was.
theorem kept_apart_alice :
    ((bare.performAll [.save "bob" (Player.fresh "bob" .morning).toJson]).perform
      (.save "alice" (Player.fresh "alice" .morning).toJson)).player? "bob" =
        (bare.performAll [.save "bob" (Player.fresh "bob" .morning).toJson]).player? "bob" ∧
    ((bare.performAll [.save "bob" (Player.fresh "bob" .morning).toJson]).perform
      (.save "alice" (Player.fresh "alice" .morning).toJson)).restorePlayer .crossing .morning "bob" true [] =
        (bare.performAll [.save "bob" (Player.fresh "bob" .morning).toJson]).restorePlayer .crossing .morning "bob"
          true [] := by
  have hn : Slug.ofText "alice" ≠ Slug.ofText "bob" := by
    rw [Slug.ofText_alice, Slug.ofText_bob]
    decide
  obtain ⟨h, _, h', _⟩ := kept_apart_iff isSetUp_bare playerFiles_bare
    [.save "bob" (Player.fresh "bob" .morning).toJson] "alice" "bob"
  refine ⟨(h (Player.fresh "alice" .morning).toJson).mpr (.inl hn), ?_⟩
  exact (h' (.fresh "alice" .morning) .crossing .morning [] Player.isCountable_fresh (by decide) hasRoomFor_alice
    (by decide)).trans
    (if_neg hn)

-- One goes on where the other is.
theorem dotted_goes_on :
    bare.IsSetUp ∧ bare.playerFiles = [] ∧ "a.b" ≠ "a-b" ∧ bare.player? "a-b" = .ok none ∧
    (bare.perform (.save "a.b" (Player.fresh "a.b" .morning).toJson)).player? "a-b" =
      .ok (some (Player.fresh "a.b" .morning).toJson) ∧
    (bare.perform (.save "a.b" (Player.fresh "a.b" .morning).toJson)).restorePlayer .crossing .morning "a-b" true [] =
      .ok { (Player.fresh "a.b" .morning).restored with recordId := "a-b" } := by
  have hf : HasRoomFor "a.b" ∧ HasRoomFor "a-b" := by
    rw [hasRoomFor_iff, hasRoomFor_iff, Slug.ofText_dotted, Slug.ofText_hyphened]
    decide
  have hc : (Player.fresh "a.b" .morning).IsCountable := Player.isCountable_fresh
  have hk : (bare.perform (.save "a.b" (Player.fresh "a.b" .morning).toJson)).player? "a-b" =
      .ok (some (Player.fresh "a.b" .morning).toJson) := by
    have hs : Slug.ofText "a.b" = Slug.ofText "a-b" := Slug.ofText_dotted.trans Slug.ofText_hyphened.symm
    rw [player?_perform_save (IsTidy.of_empty isSetUp_bare playerFiles_bare),
      if_pos ⟨hs, Player.isWritable_toJson_iff.mpr hc, hf.left⟩, Found.read?_player hc]
  have hn : bare.player? "a-b" = .ok none := by
    rw [player?_eq, held_of_empty isSetUp_bare playerFiles_bare hf.right]
    rfl
  exact ⟨isSetUp_bare, playerFiles_bare, by decide, hn, hk, restorePlayer_of_player? (by decide) (by decide) hk⟩

end Store
end Gamebook
