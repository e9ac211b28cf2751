import Mathlib
import Gamebook.Proofs.Service.Replies
import Gamebook.Proofs.Service.Serving
import Gamebook.Proofs.Story.Chronicle
import Gamebook.Proofs.Story.Travel

namespace Gamebook

namespace Call

-- The turn that a user asks for.
def plan? (user : String) (c : Call) : Option Skill.Plan :=
  c.skill?.bind fun q => if q.recordId = user then q.occasion.plan? else none

def IsTurn (user : String) (c : Call) : Prop :=
  (c.plan? user).isSome

instance (user : String) (c : Call) : Decidable (c.IsTurn user) :=
  inferInstanceAs (Decidable (_ = true))

-- Does a request leave the settings and whatever is stored of a user alone?
structure IsForeign (user : String) (c : Call) : Prop where
  not_settings : c.concern ≠ .settings
  spares       : c.concern.Spares user

variable {user : String} {c : Call} {plan : Skill.Plan}

theorem plan?_eq_some :
    c.plan? user = some plan ↔ ∃ q, c.skill? = some q ∧ q.recordId = user ∧ q.occasion.plan? = some plan := by
  simp [plan?, Option.bind_eq_some_iff]

theorem isTurn_iff : c.IsTurn user ↔ ∃ plan, c.plan? user = some plan :=
  Option.isSome_iff_exists

theorem concern_of_plan (hu : user ≠ "") (h : c.plan? user = some plan) : c.concern = .player user := by
  have ⟨q, hq, hr, hp⟩ := plan?_eq_some.mp h
  rw [concern_of_skill hq, Concern.ofSkill, hr]
  simp [hu, hp]

theorem IsForeign.plan?_eq_none (h : c.IsForeign user) (hu : user ≠ "") : c.plan? user = none := by
  rw [Option.eq_none_iff_forall_ne_some]
  intro plan hp
  exact h.spares user (concern_of_plan hu hp) rfl

end Call

-- The moves that the turns of a user stand for.
def Call.moves (user : String) (calls : List Call) : List Move :=
  calls.flatMap fun c => (c.plan? user).elim [] (·.moves c.now)

-- How far users get by these moves who start afresh when they take the first turn.
def PlaceGraph.progress? (g : PlaceGraph) (user : String) (calls : List Call) : Option Player :=
  (calls.find? (·.IsTurn user)).map fun first => (Player.fresh user first.now).follow g (Call.moves user calls)

-- A user who is about to take a turn.
def PlaceGraph.taker (g : PlaceGraph) (user : String) (calls : List Call) (c : Call) : Player :=
  (g.progress? user calls).getD (.fresh user c.now)

variable {g : PlaceGraph} {user : String} {c : Call} {calls : List Call} {plan : Skill.Plan} {p : Player}

theorem Player.recordId_follow {ms : List Move} : (p.follow g ms).recordId = p.recordId := by
  induction ms generalizing p with
  | nil          => rfl
  | cons m ms hi => exact (follow_cons ▸ hi).trans recordId_execute

namespace Call

theorem moves_concat : moves user (calls ++ [c]) = moves user calls ++ (c.plan? user).elim [] (·.moves c.now) := by
  rw [moves, List.flatMap_append, List.flatMap_singleton, moves]

theorem length_moves_le : (moves user calls).length ≤ (moves user (calls ++ [c])).length := by
  rw [moves_concat, List.length_append]
  exact Nat.le_add_right _ _

theorem moves_of_find? (h : calls.find? (·.IsTurn user) = none) : moves user calls = [] := by
  rw [moves, List.flatMap_eq_nil_iff]
  intro c hc
  have hn : ¬c.IsTurn user := by simpa using List.find?_eq_none.mp h c hc
  rw [IsTurn, Option.not_isSome_iff_eq_none] at hn
  rw [hn, Option.elim_none]

theorem moves_lt (h : calls.length ≤ Numeral.digitLimit) : (moves user calls).length < 10 ^ Numeral.digitLimit := by
  have hl : (moves user calls).length ≤ calls.length := by
    induction calls using List.reverseRecOn with
    | nil => rfl
    | append_singleton calls c hi =>
      have hi := hi (by simp at h; omega)
      rw [moves_concat, List.length_append, List.length_append]
      cases c.plan? user with
      | none => simpa using Nat.le_succ_of_le hi
      | some plan => cases hc : plan.command <;> simp [Skill.Plan.moves, hc] <;> omega
  exact (hl.trans h).trans_lt (Nat.lt_pow_self (by decide))

end Call

namespace PlaceGraph

open Call

theorem progress?_concat_of_none (h : c.plan? user = none) :
    g.progress? user (calls ++ [c]) = g.progress? user calls := by
  have hn : ¬c.IsTurn user := by simp [IsTurn, h]
  rw [progress?, progress?, moves_concat, h, Option.elim_none, List.append_nil, List.find?_append,
    List.find?_singleton, decide_eq_false hn, if_neg Bool.false_ne_true, Option.or_none]

theorem progress?_concat (h : c.plan? user = some plan) :
    g.progress? user (calls ++ [c]) = some ((g.taker user calls c).follow g (plan.moves c.now)) := by
  have ht : c.IsTurn user := by simp [IsTurn, h]
  rw [taker, progress?, progress?, moves_concat, h, Option.elim_some, List.find?_append, List.find?_singleton,
    decide_eq_true ht, if_pos rfl]
  cases hf : calls.find? (·.IsTurn user) with
  | none   => rw [moves_of_find? hf]; rfl
  | some c => exact congrArg some Player.follow_append

theorem progress?_eq_some (h : g.progress? user calls = some p) :
    ∃ now, p = (Player.fresh user now).follow g (moves user calls) := by
  have ⟨first, _, h⟩ := Option.map_eq_some_iff.mp h
  exact ⟨first.now, h.symm⟩

theorem recordId_of_progress? (h : g.progress? user calls = some p) : p.recordId = user := by
  have ⟨_, h⟩ := progress?_eq_some h
  exact h ▸ Player.recordId_follow

end PlaceGraph

namespace Player

variable {q : Player} {ms : List Move} {now : Timestamp}

theorem Like.isCountable_iff (h : p.Like q) : p.IsCountable ↔ q.IsCountable := by
  rw [IsCountable, h]
  rfl

theorem placeId_follow (hg : g.WellFormed) : g.contains ((fresh user now).follow g ms).placeId := by
  induction ms using List.reverseRecOn with
  | nil                        => exact hg.start
  | append_singleton ms m hi =>
    rw [follow_concat]
    exact PlaceGraph.mem_ids_iff.mp (Ply.mem_ids_after hg.keyed (PlaceGraph.mem_ids_iff.mpr hi))

-- Attempts are among the commands that have been given.
theorem isCountable_follow :
    ((fresh user now).follow g ms).IsCountable ↔ ms.length < 10 ^ Numeral.digitLimit := by
  have ha : ((fresh user now).plies g ms).countP (Ply.restarts g) ≤ ms.length :=
    List.countP_le_length.trans_eq length_plies
  have hc : ((fresh user now).follow g ms).commandsIssued = ms.length :=
    commandsIssued_follow.trans (Int.zero_add _)
  have hn : ((fresh user now).follow g ms).attempts = ((fresh user now).plies g ms).countP (Ply.restarts g) :=
    attempts_follow.trans (Int.zero_add _)
  rw [IsCountable, hc, hn]
  omega

end Player

theorem PlaceGraph.isCountable_of_progress? (h : g.progress? user calls = some p) :
    p.IsCountable ↔ (Call.moves user calls).length < 10 ^ Numeral.digitLimit := by
  have ⟨_, h⟩ := progress?_eq_some h
  rw [h, Player.isCountable_follow]

theorem PlaceGraph.contains_of_progress? (hg : g.WellFormed) (h : g.progress? user calls = some p) :
    g.contains p.placeId := by
  have ⟨_, h⟩ := progress?_eq_some h
  exact h ▸ Player.placeId_follow hg

namespace Call

variable {o : Player} {intent r : String} {now : Timestamp}

theorem plan?_launch : (launch user now).plan? user = some ⟨some .restart, true⟩ :=
  plan?_eq_some.mpr ⟨_, skill?_launch, rfl, rfl⟩

theorem plan?_say (h : o.IsCountable) : (say o intent now).plan? o.recordId = some (.ofIntent intent) :=
  plan?_eq_some.mpr ⟨_, skill?_say h, rfl, rfl⟩

theorem isForeign_launch (hu : r ≠ "") (h : Slug.ofText user ≠ Slug.ofText r) : (launch r now).IsForeign user := by
  have hc : (launch r now).concern = .player r := concern_of_plan hu plan?_launch
  refine ⟨hc ▸ nofun, fun r' hr => ?_⟩
  cases hc.symm.trans hr
  exact h

end Call
end Gamebook
