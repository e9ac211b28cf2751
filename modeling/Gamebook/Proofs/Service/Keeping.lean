import Mathlib
import Gamebook.Proofs.Service.Replies
import Gamebook.Proofs.Store.Kept
import Gamebook.Proofs.Story.Chronicle

namespace Gamebook

variable {s : Service} {c : Call} {calls : List Call} {q : Skill.Request} {g : PlaceGraph} {now : Timestamp}
  {plan : Skill.Plan} {o : Player} {n : Nat} {P : Player → Prop}

-- No turn counts more than one command.
theorem Skill.Turn.countsBelow_take (h : o.CountsBelow n) : (take g now o plan).player.CountsBelow (n + 1) := by
  have hl : (take g now o plan).player.Like (o.follow g (plan.moves now)) := (take_like (.refl o)).left
  have hc : (take g now o plan).player.commandsIssued = (o.follow g (plan.moves now)).commandsIssued := hl ▸ rfl
  have ha : (take g now o plan).player.attempts = (o.follow g (plan.moves now)).attempts := hl ▸ rfl
  have hm : (plan.moves now).length ≤ 1 := Option.length_toList_le
  have hr : (o.plies g (plan.moves now)).countP (Ply.restarts g) ≤ (plan.moves now).length :=
    List.countP_le_length.trans_eq Player.length_plies
  obtain ⟨h, h'⟩ := h
  rw [Player.CountsBelow, hc, ha, Player.commandsIssued_follow, Player.attempts_follow]
  omega

theorem Skill.Turn.isCountable_take_fresh {r : String} {t : Timestamp} :
    (take g now (.fresh r t) plan).player.IsCountable :=
  (countsBelow_take (Player.countsBelow_fresh Nat.one_pos)).isCountable
    (Nat.succ_le_of_lt (Nat.one_lt_pow (by decide) (by decide)))

-- The players who come along with a request count no further than that.
def Call.CountsBelow (c : Call) (n : Nat) : Prop :=
  ∀ q, c.skill? = some q → Json.CountsBelow q.attributes n

theorem Call.CountsBelow.mono {m : Nat} (h : c.CountsBelow m) (hn : m ≤ n) : c.CountsBelow n :=
  fun q hq => (h q hq).mono hn

theorem Call.countsBelow_launch {user : String} : (launch user now).CountsBelow n := by
  rintro _ hq _ j _ hj _
  cases skill?_launch.symm.trans hq
  cases hj

theorem Call.countsBelow_say {intent : String} (hc : o.IsCountable) (h : o.CountsBelow n) :
    (say o intent now).CountsBelow n := by
  rintro _ hq now' j p hj hp
  cases (skill?_say hc).symm.trans hq
  cases hj
  cases (Player.ofJson_toJson now' o).symm.trans hp
  exact h

namespace Service

-- The answer to a voice assistant stores the player after a turn, or nobody.
theorem store_answer : (Voice.answer s now q).service.store = s.store ∨
    ∃ plan g o, s.store.restorePlayer g now q.recordId q.isNew q.attributes = .ok o ∧
      s.store.keepPlayer (Skill.Turn.take g now o plan).player = .ok (Voice.answer s now q).service.store := by
  cases hp : q.occasion.plan? with
  | none =>
    rw [Voice.answer, hp]
    exact .inl rfl
  | some plan =>
    cases hc : s.store.settings with
    | error e =>
      rw [Voice.answer, hp]
      simp only [Voice.begin, hc]
      exact .inl trivial
    | ok settings =>
      cases ha : s.adventure.2 with
      | error e =>
        rw [answer_of_unloaded ha hc hp]
        exact .inl store_adventure
      | ok g =>
        cases ho : s.store.restorePlayer g now q.recordId q.isNew q.attributes with
        | error e =>
          rw [answer_of_unrestored ha hc hp ho]
          exact .inl store_adventure
        | ok o =>
          cases hk : s.store.keepPlayer (Skill.Turn.take g now o plan).player with
          | error e =>
            rw [answer_of_unkept ha hc hp ho hk]
            exact .inl store_adventure
          | ok store =>
            rw [answer_of_kept ha hc hp ho hk]
            exact .inr ⟨plan, g, o, ho, hk⟩

theorem keeps_patchSettings {body : String} (h : s.store.Keeps P) : (patchSettings s body).service.store.Keeps P := by
  rw [patchSettings]
  split
  case h_3 =>
    split
    case h_1 => exact h
    case h_2 hu =>
      obtain ⟨_, _, hu⟩ := Chain.bind_eq_ok.mp hu
      obtain ⟨_, hw, hu⟩ := Chain.bind_eq_ok.mp hu
      cases hu
      exact h.saveSettings hw
  all_goals exact h

theorem keeps_deletePlayer {r : String} (h : s.store.Keeps P) : (deletePlayer s r).service.store.Keeps P := by
  rw [deletePlayer]
  split
  case h_1    => exact h
  case h_2 hd => exact h.deletePlayer hd
  case h_3 hd => exact h.deletePlayer hd

theorem keeps_answer (h : s.store.Keeps P)
    (ht : ∀ plan g o, s.store.restorePlayer g now q.recordId q.isNew q.attributes = .ok o →
      (Skill.Turn.take g now o plan).player.IsCountable → P (Skill.Turn.take g now o plan).player) :
    (Voice.answer s now q).service.store.Keeps P := by
  have ha : (Voice.answer s now q).service.store = s.store ∨
      ∃ plan g o, s.store.restorePlayer g now q.recordId q.isNew q.attributes = .ok o ∧
        s.store.keepPlayer (Skill.Turn.take g now o plan).player = .ok (Voice.answer s now q).service.store :=
    store_answer
  rcases ha with hs | ⟨plan, g, o, ho, hk⟩
  · exact hs ▸ h
  · exact h.keepPlayer (ht plan g o ho) hk

-- Whatever is asked for, the store holds players as they have been stored. They are of a kind that
-- turns do not leave.
theorem keeps_after (h : s.store.Keeps P)
    (ht : ∀ q, c.skill? = some q → ∀ plan g o,
      s.store.restorePlayer g c.now q.recordId q.isNew q.attributes = .ok o →
        (Skill.Turn.take g c.now o plan).player.IsCountable → P (Skill.Turn.take g c.now o plan).player) :
    (s.after c).store.Keeps P := by
  have ha : (getAdventure s).service.store = s.store := getAdventure_turned.store
  rw [after, handle]
  split
  case h_2 => exact h
  case h_1 route hr =>
    unfold follow
    split
    case h_3    => exact keeps_patchSettings h
    case h_4    => exact ha ▸ h
    case h_7    => exact keeps_deletePlayer h
    case h_8 hm =>
      rw [postSkill]
      split
      case h_3 q hb => exact keeps_answer h (ht q (Call.skill?_eq_some.mpr ⟨hm, hr, hb⟩))
      all_goals exact h
    all_goals exact h

theorem keeps_run (h : s.store.Keeps Player.IsCountable) : (s.run calls).store.Keeps Player.IsCountable := by
  induction calls generalizing s with
  | nil         => exact h
  | cons c _ hi => exact hi (keeps_after h fun _ _ _ _ _ _ hc => hc)

theorem countsBelow_after (h : s.store.Keeps (·.CountsBelow n)) (hc : c.CountsBelow n) (hn : 0 < n)
    (hl : n ≤ 10 ^ Numeral.digitLimit) : (s.after c).store.Keeps (·.CountsBelow (n + 1)) := by
  refine keeps_after (h.mono fun _ hp => hp.mono n.le_succ) fun q hq _ _ _ ho _ => ?_
  exact Skill.Turn.countsBelow_take (h.countsBelow_restorePlayer hn hl (hc q hq) ho)

-- With every request the counters come one further at most.
theorem countsBelow_run (h : s.store.Keeps (·.CountsBelow n)) (hc : ∀ c ∈ calls, c.CountsBelow n) (hn : 0 < n)
    (hl : n + calls.length ≤ 10 ^ Numeral.digitLimit) :
    (s.run calls).store.Keeps (·.CountsBelow (n + calls.length)) := by
  induction calls generalizing s n with
  | nil           => exact h
  | cons c cs hi  =>
    rw [List.forall_mem_cons] at hc
    rw [List.length_cons, ← Nat.succ_add_eq_add_succ] at hl ⊢
    exact hi (countsBelow_after h hc.left hn (by omega)) (fun x hx => (hc.right x hx).mono n.le_succ) n.succ_pos hl

end Service
end Gamebook
