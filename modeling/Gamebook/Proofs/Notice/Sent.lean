import Mathlib
import Gamebook.Proofs.Skill.Saved
import Gamebook.Service.Voice

namespace Gamebook

variable {p : Player} {d : Delivery} {url key : String} {settings : Settings}

-- What others learn of a player can be written if the player can be.
theorem Player.isPortable_summary (h : p.IsCountable) : (Json.obj p.summary).IsPortable := by
  have he (q : Json → Bool) (hq : ∀ s, q (.str s) = false) (hn : q .null = false) :
      (Json.ofOption (fun t => .str t.iso) p.ended).anyScalar q = false := by
    cases p.ended
    case none   => exact hn
    case some t => exact hq t.iso
  have ho := he Json.isOversize (fun _ => rfl) rfl
  have hu := he Json.isUnbounded (fun _ => rfl) rfl
  refine ⟨?_, ?_⟩
  · simpa [Json.IsWritable, summary, Json.anyScalar, Json.anyMember, ho, Json.isOversize, IsCountable,
      and_comm] using h
  · simp [summary, Json.anyScalar, Json.anyMember, hu, Json.isUnbounded]

-- Values that are the same, or texts of the same time.
def Json.Matches (i j : Json) : Prop :=
  i = j ∨ ∃ a b t, i = .str a ∧ j = .str b ∧ Timestamp.ofText? a = some t ∧ Timestamp.ofText? b = some t

-- Does a summary tell what is stored of a player, field by field?
def Json.Summarizes (summary stored : List (String × Json)) : Prop :=
  summary.map Prod.fst = ["record_id", "place_id", "attempts", "commands_issued", "start", "end"] ∧
  ∀ m ∈ summary, ∃ j, Json.get? stored (if m.1 = "place_id" then "current_place_id" else m.1) = some j ∧
    m.2.Matches j

theorem Player.summarizes_summary (p : Player) : ∃ ms, p.toJson = .obj ms ∧ Json.Summarizes p.summary ms := by
  refine ⟨_, rfl, rfl, fun m hm => ?_⟩
  simp only [summary, List.mem_cons, List.not_mem_nil, or_false] at hm
  rcases hm with rfl | rfl | rfl | rfl | rfl | rfl
  · exact ⟨_, rfl, .inl rfl⟩
  · exact ⟨_, rfl, .inl rfl⟩
  · exact ⟨_, rfl, .inl rfl⟩
  · exact ⟨_, rfl, .inl rfl⟩
  · exact ⟨_, rfl, .inr ⟨_, _, _, rfl, rfl, Timestamp.ofText?_iso _, Timestamp.ofText?_wire _⟩⟩
  · refine ⟨_, rfl, ?_⟩
    cases p.ended with
    | none   => exact .inl rfl
    | some t => exact .inr ⟨_, _, t, rfl, rfl, Timestamp.ofText?_iso t, Timestamp.ofText?_wire t⟩

namespace Webhook

variable {w : Webhook} {summary : List (String × Json)} {n : Notice}

-- What is posted is the summary, whatever is shown along with it.
theorem exists_of_prepare (h : w.prepare summary = .ok n) :
    ∃ address authorization, n = .post address authorization (.obj summary) := by
  rw [prepare] at h
  split at h
  case h_1 => cases h
  case h_2 u _ =>
    split at h
    case isTrue  => cases h
    case isFalse =>
      split at h
      case isTrue  => cases h
      case isFalse =>
        split at h
        case h_1 => cases h
        case h_2 =>
          cases h
          exact ⟨_, _, rfl⟩

theorem prepare_of_send (h : (w.send d summary).1 = some n) : w.prepare summary = .ok n := by
  rw [send] at h
  split at h
  case h_1 hp =>
    cases h
    exact hp
  case h_2 => cases h

theorem isAscii_bearer {timeout : Json} : (bearer ⟨url, .str key, timeout⟩).all isAscii = isAscii key := by
  rw [bearer, Json.isNothing]
  split
  case isTrue h =>
    rw [of_decide_eq_true h]
    rfl
  case isFalse =>
    have hb : "Bearer ".toList.all (·.toNat < 128) := by cbv
    rw [Option.all_some, isAscii, String.toList_append, List.all_append, hb, Bool.true_and]
    rfl

theorem excuse_settle : Service.Voice.excuse (w.settle d) = .ok () := by
  cases d with
  | status n =>
    rw [settle]
    split <;> rfl
  | _ => rfl

-- Whatever becomes of a notice on its way is excused. The rest depends on what is to be posted.
theorem excuse_send (h : (Json.obj summary).IsPortable) :
    Service.Voice.excuse (w.send d summary).2 = .ok () ↔
      ∀ u, Url.parse w.url = .ok u → w.bearer.all isAscii := by
  rw [send, prepare]
  cases Url.parse w.url with
  | error p => exact iff_of_true rfl (fun u hu => by cases hu)
  | ok u =>
    simp only [Except.ok.injEq, forall_eq']
    by_cases hb : w.bearer.all isAscii
    case neg =>
      simp only [hb, Bool.not_false, if_true]
      exact iff_of_false (fun he => by cases he) (fun he => by cases he)
    case pos =>
      simp only [hb, h, Bool.not_true, not_true_eq_false, Bool.false_eq_true, if_false]
      refine iff_of_true ?_ trivial
      cases unreached? u with
      | some reason => rfl
      | none        => exact excuse_settle

end Webhook

-- A key that cannot be shown keeps a player from being told anything, at an address that can be read.
structure Webhook.Chokes (url key : String) : Prop where
  address    : url ≠ ""
  readable   : ∃ u, Url.parse url = .ok u
  unshowable : ¬isAscii key

-- What becomes known is the summary, in one line or posted as it is.
theorem Settings.notice_announce {n : Notice} (h : (settings.announce d p).1 = some n) :
    n = .log (Notice.line p.summary) ∨
      ∃ address authorization, n = .post address authorization (.obj p.summary) := by
  rw [announce] at h
  split at h
  case isTrue =>
    cases h
    exact .inl rfl
  case isFalse =>
    split at h
    case h_1 => exact .inr (Webhook.exists_of_prepare (Webhook.prepare_of_send h))
    case h_2 => cases h

theorem Settings.excuse_announce (hu : settings .webhookUrl = .str url) (hk : settings .webhookKey = .str key)
    (h : p.IsCountable) :
    Service.Voice.excuse (settings.announce d p).2 = .ok () ↔ ¬Webhook.Chokes url key := by
  rw [announce, hu, hk, Json.isNothing]
  by_cases hn : url = ""
  case pos =>
    rw [if_pos (decide_eq_true hn)]
    exact iff_of_true rfl fun hc => hc.address hn
  case neg =>
    rw [if_neg (by simpa using hn)]
    simp only [Webhook.excuse_send (Player.isPortable_summary h), Webhook.isAscii_bearer]
    constructor
    · intro ha ⟨_, ⟨u, hp⟩, hb⟩
      exact hb (ha u hp)
    · intro hc u hp
      by_contra hb
      exact hc ⟨hn, ⟨u, hp⟩, hb⟩

end Gamebook
