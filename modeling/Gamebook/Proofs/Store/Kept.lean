import Mathlib
import Gamebook.Proofs.Skill.Turn
import Gamebook.Proofs.Store.Sharing

namespace Gamebook

namespace Player

-- Can a player be stored? Those without a record id need not be.
def IsStorable (p : Player) : Prop :=
  p.recordId = "" ∨ Store.HasRoomFor p.recordId ∧ p.IsCountable

-- Neither counter has come as far as a number.
def CountsBelow (p : Player) (n : Nat) : Prop :=
  p.commandsIssued.natAbs < n ∧ p.attempts.natAbs < n

variable {p : Player} {m n : Nat}

theorem CountsBelow.mono (h : p.CountsBelow m) (hn : m ≤ n) : p.CountsBelow n :=
  ⟨h.left.trans_le hn, h.right.trans_le hn⟩

theorem CountsBelow.isCountable (h : p.CountsBelow n) (hn : n ≤ 10 ^ Numeral.digitLimit) : p.IsCountable :=
  h.mono hn

theorem countsBelow_fresh {recordId : String} {now : Timestamp} (hn : 0 < n) : (fresh recordId now).CountsBelow n :=
  ⟨hn, hn⟩

end Player

-- The players who come along in some attributes count no further than that.
def Json.CountsBelow (attributes : List (String × Json)) (n : Nat) : Prop :=
  ∀ now j p, Json.get? attributes "player" = some j → Player.ofJson now j = .good p → p.CountsBelow n

theorem Json.CountsBelow.mono {ms : List (String × Json)} {m n : Nat} (h : Json.CountsBelow ms m) (hn : m ≤ n) :
    Json.CountsBelow ms n :=
  fun now j p hj hp => (h now j p hj hp).mono hn

namespace Player

variable {g : PlaceGraph} {now : Timestamp} {recordId : String} {p : Player} {n : Nat}

theorem exists_of_resume? {j : Json} (h : resume? g now recordId j = some p) :
    ∃ q, Player.ofJson now j = .good q ∧ p = { q with recordId } := by
  obtain ⟨q, hq, h⟩ := Option.bind_eq_some_iff.mp h
  split at h
  case isTrue =>
    cases h
    cases ho : Player.ofJson now j with
    | good o =>
      rw [ho] at hq
      cases hq
      exact ⟨_, rfl, rfl⟩
    | bad _ =>
      rw [ho] at hq
      cases hq
  case isFalse => cases h

theorem countsBelow_ofStored {stored : Option Json} (hn : 0 < n)
    (h : stored = none ∨ ∃ p : Player, p.CountsBelow n ∧ stored = some p.toJson) :
    (ofStored g now recordId stored).CountsBelow n := by
  rw [ofStored]
  cases ho : stored.bind (resume? g now recordId) with
  | none   => exact countsBelow_fresh hn
  | some p =>
    obtain rfl | ⟨o, hc, rfl⟩ := h
    · cases ho
    · obtain ⟨q, hq, rfl⟩ := exists_of_resume? ho
      cases (ofJson_toJson now o).symm.trans hq
      exact hc

theorem countsBelow_ofAttributes {ms : List (String × Json)} (hn : 0 < n) (h : Json.CountsBelow ms n) :
    (ofAttributes g now recordId ms).CountsBelow n := by
  rw [ofAttributes]
  cases ho : (Json.get? ms "player").bind (resume? g now recordId) with
  | none   => exact countsBelow_fresh hn
  | some p =>
    obtain ⟨j, hj, hp⟩ := Option.bind_eq_some_iff.mp ho
    obtain ⟨q, hq, rfl⟩ := exists_of_resume? hp
    exact h now j q hj hq

end Player

-- What may be found in the place of a player if nobody else writes there.
def Found.Keeps (P : Player → Prop) : Found → Prop
  | nothing      => True
  | refused      => True
  | folder       => False
  | file content => ∃ p : Player, P p ∧ content = FileText.encode p.toJson.render

namespace Store

-- A store in which players are as they have been stored, all of them players of some kind.
structure Keeps (s : Store) (P : Player → Prop) : Prop where
  setUp : s.IsSetUp
  kept  : ∀ r, (s.held r).Keeps P

namespace Keeps

variable {s s' : Store} {r : String} {p : Player} {g : PlaceGraph} {now : Timestamp} {new : Bool}
  {ms : List (String × Json)} {settings : Settings} {P Q : Player → Prop}

theorem of_empty (hs : s.IsSetUp) (he : s.playerFiles = []) : s.Keeps P where
  setUp  := hs
  kept r := by rcases held_cases_of_empty hs he r with h | h <;> simp [h, Found.Keeps]

theorem isTidy (h : s.Keeps P) : s.IsTidy where
  setUp       := h.setUp
  no_folder r := fun hf => by simpa [hf, Found.Keeps] using h.kept r

theorem mono (h : s.Keeps P) (hi : ∀ p, P p → Q p) : s.Keeps Q where
  setUp  := h.setUp
  kept r := by
    have hk := h.kept r
    cases hh : s.held r with
    | folder => exact absurd hh (h.isTidy.no_folder r)
    | file c =>
      rw [hh] at hk
      obtain ⟨p, hp, hc⟩ := hk
      exact ⟨p, hi p hp, hc⟩
    | nothing | refused => trivial

-- Only players who can be counted are ever stored.
theorem savePlayer (h : s.Keeps P) (hp : p.IsCountable → P p) (hw : s.savePlayer r p.toJson = .ok s') : s'.Keeps P := by
  refine ⟨(savePlayer_onlyAt hw).isSetUp h.setUp, fun r' => ?_⟩
  by_cases hr : Slug.ofText r = Slug.ofText r'
  case pos =>
    obtain ⟨hc, hh⟩ := held_of_savePlayer h.setUp hw
    rw [← held_congr hr, hh]
    exact ⟨p, hp (Player.isWritable_toJson_iff.mp hc), rfl⟩
  case neg => exact (savePlayer_onlyAt hw).held h.setUp (Ne.symm hr) ▸ h.kept r'

theorem keepPlayer (h : s.Keeps P) (hp : p.IsCountable → P p) (hk : s.keepPlayer p = .ok s') : s'.Keeps P := by
  rw [Store.keepPlayer] at hk
  split at hk
  case isTrue =>
    cases hk
    exact h
  case isFalse => exact h.savePlayer hp hk

theorem deletePlayer (h : s.Keeps P) {b : Bool} (hd : s.deletePlayer r = .ok (s', b)) : s'.Keeps P := by
  have ht : s.perform (.delete r) = s' := by rw [perform, hd]
  refine ⟨(deletePlayer_onlyAt hd).isSetUp h.setUp, fun r' => ?_⟩
  by_cases hr : Slug.ofText r = Slug.ofText r'
  case pos =>
    rw [← held_congr hr, ← ht, held_perform_delete]
    split
    case h_1 => trivial
    case h_2 => exact h.kept r
  case neg => exact (deletePlayer_onlyAt hd).held h.setUp (Ne.symm hr) ▸ h.kept r'

theorem saveSettings (h : s.Keeps P) (hw : s.saveSettings settings = .ok s') : s'.Keeps P where
  setUp  := h.setUp.writeJson hw
  kept r := held_saveSettings h.setUp hw ▸ h.kept r

-- What is read of somebody is a player who has been stored.
theorem player?_eq_ok (h : s.Keeps P) (hc : ∀ p, P p → p.IsCountable) {stored : Option Json}
    (hp : s.player? r = .ok stored) : stored = none ∨ ∃ p : Player, P p ∧ stored = some p.toJson := by
  have hk := h.kept r
  rw [player?_eq] at hp
  cases hh : s.held r with
  | folder  => exact absurd hh (h.isTidy.no_folder r)
  | nothing =>
    rw [hh] at hp
    cases hp
    exact .inl rfl
  | refused =>
    rw [hh] at hp
    cases hp
  | file c  =>
    rw [hh] at hk hp
    obtain ⟨p, hP, rfl⟩ := hk
    rw [Found.read?_player (hc p hP)] at hp
    cases hp
    exact .inr ⟨p, hP, rfl⟩

theorem countsBelow_restorePlayer {n : Nat} (h : s.Keeps (·.CountsBelow n)) (hn : 0 < n)
    (hl : n ≤ 10 ^ Numeral.digitLimit) (hm : Json.CountsBelow ms n)
    (ho : s.restorePlayer g now r new ms = .ok p) : p.CountsBelow n := by
  rw [restorePlayer] at ho
  split at ho
  case isTrue =>
    split at ho
    case isTrue =>
      cases ho
      exact Player.countsBelow_fresh hn
    case isFalse =>
      obtain ⟨stored, hp, ho⟩ := Chain.bind_eq_ok.mp ho
      cases ho
      exact Player.countsBelow_ofStored hn (h.player?_eq_ok (fun _ hc => hc.isCountable hl) hp)
  case isFalse =>
    cases ho
    exact Player.countsBelow_ofAttributes hn hm

-- Whoever has room in such a store can be looked up.
theorem exists_restorePlayer (h : s.Keeps Player.IsCountable) (hr : HasRoomFor r) :
    ∃ o, s.restorePlayer g now r new ms = .ok o := by
  have hp : ∃ j, s.player? r = .ok j := by
    have hk := h.kept r
    rw [player?_eq]
    cases hh : s.held r with
    | nothing => exact ⟨_, rfl⟩
    | folder  => exact absurd hh (h.isTidy.no_folder r)
    | refused => exact absurd hr ((held_eq_refused h.setUp).mp hh)
    | file c  =>
      rw [hh] at hk
      obtain ⟨p, hc, rfl⟩ := hk
      exact ⟨_, Found.read?_player hc⟩
  obtain ⟨j, hj⟩ := hp
  rw [restorePlayer, hj]
  split
  case isFalse => exact ⟨_, rfl⟩
  case isTrue  => split <;> exact ⟨_, rfl⟩

-- And can be stored, if the counters can be written.
theorem exists_keepPlayer (h : s.Keeps P) : (∃ store, s.keepPlayer p = .ok store) ↔ p.IsStorable := by
  rw [Player.IsStorable]
  by_cases hi : p.recordId = ""
  case pos => simp [Store.keepPlayer, hi]
  case neg =>
    have hr : s.held p.recordId = .refused ↔ ¬HasRoomFor p.recordId := held_eq_refused h.setUp
    rw [or_iff_right hi]
    constructor
    · rintro ⟨store, hk⟩
      have hf : s.held p.recordId ≠ .refused := fun hf => by
        obtain ⟨_, he⟩ := keepPlayer_of_refused h.setUp hi hf
        rw [hk] at he
        cases he
      rw [Store.keepPlayer, if_neg hi] at hk
      exact ⟨not_not.mp (mt hr.mpr hf), Player.isWritable_toJson_iff.mp (held_of_savePlayer h.setUp hk).left⟩
    · rintro ⟨hf, hc⟩
      obtain ⟨store, hk, _⟩ := keepPlayer_eq_ok h.setUp hi hc (mt hr.mp (not_not.mpr hf)) (h.isTidy.no_folder _)
      exact ⟨store, hk⟩

end Keeps
end Store
end Gamebook
