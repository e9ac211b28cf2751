import Mathlib
import Gamebook.Console.Game
import Gamebook.Definition.Source
import Gamebook.Proofs.Story.Understood

namespace Gamebook

namespace Screen

theorem quit_reveal {typing : Bool} {s : Screen} {d : Directive} :
    (s.reveal typing d).quit ↔ s.quit ∨ d = .bye := by
  cases d <;> simp [reveal, say, print]

theorem quit_foldl_reveal {typing : Bool} {s : Screen} {ds : List Directive} :
    (ds.foldl (reveal typing) s).quit ↔ s.quit ∨ .bye ∈ ds := by
  induction ds generalizing s with
  | nil          => simp
  | cons d ds hi => rw [List.foldl_cons, hi, quit_reveal, List.mem_cons, or_assoc, @eq_comm _ d]

theorem quit_display {typing : Bool} {s : Screen} {r : Response} :
    (s.display typing r).quit ↔ s.quit ∨ .bye ∈ r.flatten :=
  quit_foldl_reveal

end Screen

namespace Player

variable {g : PlaceGraph} {now : Timestamp} {p : Player} {c : Command}

theorem attempt_of_fails (now : Timestamp) (h : Fails g p.placeId c) :
    p.attempt g now c = (p.counted, .single (.say apology)) := by
  have ⟨m, hm⟩ := exists_firstCause.mpr h
  have hr : (p.execute g now c).2 = .error m := execute_eq_error.mpr hm
  rw [attempt_of_error hr, execute_of_error hr]

theorem bye_mem_attempt_quit (h : ¬Fails g p.placeId .quit) :
    .bye ∈ (p.attempt g now .quit).2.flatten := by
  cases hw : Walk.ofCommand g p.placeId .quit with
  | ok w =>
    have hw' : Walk.ofCommand g p.counted.placeId .quit = .ok w := hw
    rw [attempt, execute, hw']
    exact Response.flatten_ofDirectives w.directives ▸ (Walk.bye_mem_ofCommand hw).mpr rfl
  | error m => exact absurd (exists_firstCause.mp ⟨m, Walk.ofCommand_eq_error.mp hw⟩) h

end Player

namespace Game

variable {g : PlaceGraph} {typing : Bool} {echo : String} {clock : Nat → Timestamp} {now : Timestamp}
  {n m shown : Nat} {s : Game} {lines : List String}

theorem play_of_quit (h : s.screen.quit) :
    play g typing echo clock n shown s lines = ⟨s, shown, lines⟩ := by
  cases n with
  | zero   => rfl
  | succ n => rw [play, if_pos h]

-- A game may be stopped at any prompt and then go on from there.
theorem play_add :
    play g typing echo clock (m + n) shown s lines =
      play g typing echo clock n (play g typing echo clock m shown s lines).prompts
        (play g typing echo clock m shown s lines).game (play g typing echo clock m shown s lines).unread := by
  induction m generalizing shown s lines with
  | zero      => rw [Nat.zero_add]; rfl
  | succ m hi =>
    by_cases h : s.screen.quit
    case pos => simp only [play_of_quit h]
    case neg =>
      rw [Nat.add_right_comm, play, if_neg h, hi]
      simp only [play, if_neg h]

theorem prompts_of_going (h : ¬(play g typing echo clock n shown s lines).game.screen.quit) :
    (play g typing echo clock n shown s lines).prompts = shown + n ∧
    (play g typing echo clock n shown s lines).unread = lines.drop n := by
  induction n generalizing shown s lines with
  | zero      => exact ⟨rfl, rfl⟩
  | succ n hi =>
    by_cases hs : s.screen.quit
    case pos =>
      rw [play_of_quit hs] at h
      exact absurd hs h
    case neg =>
      rw [play, if_neg hs] at h ⊢
      have ⟨hp, hu⟩ := hi h
      refine ⟨by rw [hp]; omega, ?_⟩
      rw [hu, List.drop_tail]

theorem prompts_le : (play g typing echo clock n shown s lines).prompts ≤ shown + n := by
  induction n generalizing shown s lines with
  | zero      => exact Nat.le_refl _
  | succ n hi =>
    rw [play]
    split
    · exact Nat.le_add_right _ _
    · exact Nat.le_trans hi (by omega)

-- What happens at the end of the input.

theorem enter_none : s.enter g typing now none = s.issue g typing now .quit :=
  rfl

theorem issue_quit_of_fails (typing : Bool) (now : Timestamp) (h : Fails g s.player.placeId .quit) :
    (s.issue g typing now .quit).player.placeId = s.player.placeId ∧
    ((s.issue g typing now .quit).screen.quit ↔ s.screen.quit) := by
  rw [issue, Player.attempt_of_fails now h]
  refine ⟨rfl, Screen.quit_display.trans ?_⟩
  simp [Response.flatten]

theorem quit_issue_quit (h : ¬Fails g s.player.placeId .quit) : (s.issue g typing now .quit).screen.quit :=
  Screen.quit_display.mpr (.inr (Player.bye_mem_attempt_quit h))

-- A player who cannot quit is asked for ever.
theorem not_quit_play_nil (hs : ¬s.screen.quit) (h : Fails g s.player.placeId .quit) :
    ¬(play g typing echo clock n shown s []).game.screen.quit := by
  induction n generalizing shown s with
  | zero      => exact hs
  | succ n hi =>
    have ⟨hp, hq⟩ := issue_quit_of_fails (s := s.print echo) typing (clock (shown + 1)) h
    rw [play, if_neg hs]
    exact hi (fun hs' => hs (hq.mp hs')) (hp.symm ▸ h)

theorem quit_play_nil (hs : ¬s.screen.quit) (h : ¬Fails g s.player.placeId .quit) :
    (play g typing echo clock (n + 1) shown s []).game.screen.quit := by
  have hq : ((s.print echo).issue g typing (clock (shown + 1)) .quit).screen.quit := quit_issue_quit h
  rw [play, if_neg hs]
  rw [List.head?_nil, enter_none, play_of_quit hq]
  exact hq

theorem play_of_quit_play (h : (play g typing echo clock m shown s lines).game.screen.quit) (hm : m ≤ n) :
    play g typing echo clock n shown s lines = play g typing echo clock m shown s lines := by
  obtain ⟨k, rfl⟩ := Nat.exists_eq_add_of_le hm
  rw [play_add, play_of_quit h]

-- Either the game ends with one of the lines, or the player can quit when they have been used up.
def CanEnd (g : PlaceGraph) (typing : Bool) (echo : String) (clock : Nat → Timestamp) (s : Game)
    (lines : List String) : Prop :=
  let last := (play g typing echo clock lines.length 0 s lines).game
  last.screen.quit ∨ ¬Fails g last.player.placeId .quit

theorem quit_of_canEnd (h : CanEnd g typing echo clock s lines) :
    (play g typing echo clock (lines.length + 1) 0 s lines).game.screen.quit := by
  by_cases hq : (play g typing echo clock lines.length 0 s lines).game.screen.quit
  case pos => rwa [play_of_quit_play hq (Nat.le_succ _)]
  case neg =>
    have ⟨_, hu⟩ := prompts_of_going hq
    rw [play_add, hu, List.drop_length]
    exact quit_play_nil hq (h.resolve_left hq)

theorem not_quit_of_not_canEnd (h : ¬CanEnd g typing echo clock s lines) :
    ¬(play g typing echo clock n 0 s lines).game.screen.quit := by
  have ⟨hq, hf⟩ := not_or.mp h
  cases Nat.le_total n lines.length
  case inl hn =>
    intro h
    rw [play_of_quit_play h hn] at hq
    exact hq h
  case inr hn =>
    obtain ⟨k, rfl⟩ := Nat.exists_eq_add_of_le hn
    have ⟨_, hu⟩ := prompts_of_going hq
    rw [play_add, hu, List.drop_length]
    exact not_quit_play_nil hq (Classical.not_not.mp hf)

theorem prompts_of_canEnd (h : CanEnd g typing echo clock s lines) :
    (play g typing echo clock n 0 s lines).prompts ≤ lines.length + 1 := by
  cases Nat.le_total n (lines.length + 1)
  case inl hn =>
    exact Nat.le_trans prompts_le ((Nat.zero_add n).symm ▸ hn)
  case inr hn =>
    rw [play_of_quit_play (quit_of_canEnd h) hn]
    exact Nat.le_trans prompts_le (Nat.le_of_eq (Nat.zero_add _))

-- Whether a game ends, and how often it asks.
theorem ends_iff_canEnd (g : PlaceGraph) (typing : Bool) (echo : String) (clock : Nat → Timestamp)
    (now : Timestamp) (p : Player) (lines : List String) :
    ((∃ n, (play g typing echo clock n 0 (start g typing now p) lines).game.screen.quit) ↔
      CanEnd g typing echo clock (start g typing now p) lines) ∧
    (CanEnd g typing echo clock (start g typing now p) lines → ∀ n,
      (play g typing echo clock n 0 (start g typing now p) lines).prompts ≤ lines.length + 1) ∧
    (¬CanEnd g typing echo clock (start g typing now p) lines → ∀ n,
      (play g typing echo clock n 0 (start g typing now p) lines).prompts = n) := by
  refine ⟨⟨fun ⟨n, hn⟩ => ?_, fun h => ⟨_, quit_of_canEnd h⟩⟩, fun h n => prompts_of_canEnd h, fun h n => ?_⟩
  · exact Classical.byContradiction fun h => not_quit_of_not_canEnd h hn
  · have ⟨hp, _⟩ := prompts_of_going (not_quit_of_not_canEnd (n := n) h)
    rw [hp, Nat.zero_add]

-- The definition of `lockedIn`, where a player is for ever told that something went wrong.
def lockedInText : String :=
  "\x7b\"places\": \x7b\"start\": \x7b\"choices\": \x7b\"Quit\": [\x7b\"Goto\": \"gate\"\x7d]\x7d\x7d\x7d\x7d"

def lockedInJson : Json :=
  .obj [("places", .obj [("start", .obj [("choices", .obj [("Quit", .arr [.obj [("Goto", .str "gate")]])])])])]

theorem parse_lockedIn : Definition.parse lockedInText (some "json") = .ok .lockedIn := by
  have ht : lockedInText.toList = _ := String.toList_ofList
  rw [Definition.parse_of_readDocument (j := lockedInJson) ht (by cbv)]
  decide +kernel

theorem lockedIn_never_ends :
    Definition.parse lockedInText (some "json") = .ok .lockedIn ∧
    ¬∃ n, (play .lockedIn false "" (fun _ => .morning) n 0
      (start .lockedIn false .morning (.fresh recordId .morning)) []).game.screen.quit := by
  refine ⟨parse_lockedIn, fun ⟨n, hn⟩ => ?_⟩
  refine not_quit_play_nil (by decide) ?_ hn
  exact .inr (.inl ⟨_, _, _, _, rfl, rfl, List.mem_singleton_self _, .goto (by decide)⟩)

end Game
end Gamebook
