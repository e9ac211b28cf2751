import Mathlib
import Gamebook.Proofs.Console.Ending
import Gamebook.Proofs.Story.Chronicle
import Gamebook.Proofs.Story.Understood

namespace Gamebook

-- What a directive shows at the terminal. To wait, to part and to have reached an ending show nothing.
def Directive.line : Directive → String
  | .say text      => text ++ "\n"
  | .play id       => "(" ++ id ++ ")\n"
  | .notUnderstood => Speech.notUnderstood ++ "\n"
  | .delay _       => ""
  | .bye           => ""
  | .finished      => ""

namespace Ply

def text (g : PlaceGraph) (x : Ply) : String :=
  match x.outcome g with
  | .ok r    => .join (r.flatten.map Directive.line)
  | .error _ => Player.apology ++ "\n"

-- The player after a move, who is in progress from the first one that succeeds. One that fails only
-- counts.
def guarded (g : PlaceGraph) (x : Ply) : Player :=
  match x.outcome g with
  | .ok _    => { x.after g with status := .inProgress }
  | .error _ => { x.player with commandsIssued := x.player.commandsIssued + 1 }

end Ply

-- What makes up a game: the adventure and who plays it, when it begins and when something is entered,
-- and the lines that are entered before the input ends.
structure Sitting where
  graph  : PlaceGraph
  player : Player
  now    : Timestamp
  clock  : Nat → Timestamp
  lines  : List String

namespace Sitting

-- The commands that are given one after another. There is none for a line that is not understood, and
-- there is no end of quitting once the lines have been used up.
def move? (s : Sitting) : Nat → Option Move
  | 0     => some ⟨s.now, .restart⟩
  | n + 1 => (Game.command? s.lines[n]?).map (⟨s.clock (n + 1), ·⟩)

-- Who plays when so many lines, the restart among them, have been dealt with.
def playerAt (s : Sitting) (n : Nat) : Player :=
  ((List.range n).filterMap s.move?).foldl (fun p m => Ply.guarded s.graph ⟨m, p⟩) s.player

def ply? (s : Sitting) (n : Nat) : Option Ply :=
  (s.move? n).map (⟨·, s.playerAt n⟩)

def text (s : Sitting) (n : Nat) : String :=
  (s.ply? n).elim (Speech.notUnderstood ++ "\n") (Ply.text s.graph)

-- To quit, it is not enough to want to.
def Quits (s : Sitting) (n : Nat) : Prop :=
  ∃ x, s.ply? n = some x ∧ x.quits s.graph

def played (s : Sitting) (typing : Bool) (echo : String) (limit : Nat) : Game.Played :=
  Game.play s.graph typing echo s.clock limit 0 (.start s.graph typing s.now s.player) s.lines

end Sitting

namespace Screen

variable {typing : Bool} {s : Screen} {r : Response}

theorem out_reveal {d : Directive} : (s.reveal typing d).out = s.out ++ d.line := by
  cases d <;> simp [reveal, say, print, Directive.line]

theorem out_display : (s.display typing r).out = s.out ++ .join (r.flatten.map Directive.line) := by
  rw [display]
  generalize r.flatten = ds
  induction ds generalizing s with
  | nil          => simp
  | cons d ds hi => rw [List.foldl_cons, hi, out_reveal, List.map_cons, String.join_cons, String.append_assoc]

end Screen

namespace Ply

variable {g : PlaceGraph} {x : Ply} {s : Screen} {typing : Bool}

theorem attempt_fst : (x.player.attempt g x.now x.command).1 = x.guarded g := by
  cases h : x.outcome g with
  | ok r    => rw [Player.attempt_of_ok h, guarded, h]; rfl
  | error m => rw [Player.attempt_of_error h, Player.execute_of_error h, guarded, h]; rfl

theorem out_display_attempt :
    (s.display typing (x.player.attempt g x.now x.command).2).out = s.out ++ x.text g := by
  rw [Screen.out_display]
  cases h : x.outcome g with
  | ok r    => rw [Player.attempt_of_ok h, text, h]
  | error m => simp [Player.attempt_of_error h, text, h, Response.flatten, Directive.line]

theorem quit_display_attempt :
    (s.display typing (x.player.attempt g x.now x.command).2).quit ↔ s.quit ∨ x.quits g := by
  rw [Screen.quit_display]
  apply or_congr_right
  cases h : x.outcome g with
  | ok r    =>
    obtain ⟨w, hw, hr, _⟩ := walk_of_ok h
    rw [Player.attempt_of_ok h, hr, Walk.bye_mem_ofCommand hw]
    simp [quits, succeeds, h, Except.isOk, Except.toBool]
  | error m => simp [Player.attempt_of_error h, quits, succeeds, h, Response.flatten, Except.isOk, Except.toBool]

end Ply

namespace Sitting

-- What is known of a game when so many lines have been dealt with.
structure Reached (s : Sitting) (echo : String) (n : Nat) (t : Game) : Prop where
  player : t.player = s.playerAt (n + 1)
  out    : t.screen.out = echo.intercalate ((List.range (n + 1)).map s.text)
  quit   : t.screen.quit ↔ s.Quits n

variable {s : Sitting} {typing : Bool} {echo : String} {limit n : Nat} {t : Game} {x : Ply}

theorem playerAt_succ : s.playerAt (n + 1) = (s.ply? n).elim (s.playerAt n) (Ply.guarded s.graph) := by
  rw [playerAt, List.range_succ, List.filterMap_append, List.foldl_append]
  cases h : s.move? n <;> simp [ply?, h, playerAt]

theorem quits_iff (h : s.ply? n = some x) : s.Quits n ↔ x.quits s.graph := by
  simp [Quits, h]

theorem not_quits_of_none (h : s.ply? n = none) : ¬s.Quits n := by
  simp [Quits, h]

theorem intercalate_text :
    echo.intercalate ((List.range (n + 2)).map s.text) =
      echo.intercalate ((List.range (n + 1)).map s.text) ++ echo ++ s.text (n + 1) := by
  rw [List.range_succ, List.map_append, String.intercalate_append_of_ne_nil (by simp) (by simp)]
  simp

-- A command is a move of the player at hand. Its text comes after what there is.
theorem reached_issue (hx : s.ply? n = some x) (ht : t.player = x.player) (hq : ¬t.screen.quit)
    (ho : t.screen.out ++ s.text n = echo.intercalate ((List.range (n + 1)).map s.text)) :
    s.Reached echo n (t.issue s.graph typing x.now x.command) := by
  simp only [Game.issue, ht]
  constructor
  case player => rw [Ply.attempt_fst, playerAt_succ, hx, Option.elim_some]
  case out    => rw [Ply.out_display_attempt, ← ho, text, hx, Option.elim_some]
  case quit   => rw [Ply.quit_display_attempt, or_iff_right hq, quits_iff hx]

namespace Reached

theorem start : s.Reached echo 0 (.start s.graph typing s.now s.player) := by
  have hx : s.ply? 0 = some ⟨⟨s.now, .restart⟩, s.player⟩ := rfl
  apply reached_issue hx rfl
  case hq => exact Bool.false_ne_true
  case ho => simp [Screen.empty]

theorem enter (h : s.Reached echo n t) (hq : ¬t.screen.quit) :
    s.Reached echo (n + 1) ((t.print echo).enter s.graph typing (s.clock (n + 1)) s.lines[n]?) := by
  have ho : (t.print echo).screen.out ++ s.text (n + 1)
      = echo.intercalate ((List.range (n + 2)).map s.text) := by
    rw [intercalate_text, ← h.out]
    rfl
  rw [Game.enter]
  cases hc : Game.command? s.lines[n]? with
  | some c =>
    have hx : s.ply? (n + 1) = some ⟨⟨s.clock (n + 1), c⟩, s.playerAt (n + 1)⟩ := by
      simp [ply?, move?, hc]
    exact reached_issue hx h.player hq ho
  | none   =>
    have hx : s.ply? (n + 1) = none := by
      simp [ply?, move?, hc]
    constructor
    case player => rw [playerAt_succ, hx]; exact h.player
    case out    =>
      rw [← ho, Screen.out_display, text, hx]
      simp [Response.flatten, Directive.line]
    case quit   =>
      rw [Screen.quit_display, iff_false_right (not_quits_of_none hx)]
      simpa [Response.flatten, Game.print, Screen.print] using hq

-- As long as nobody has quit, what is known stays true from prompt to prompt.
theorem play (h : s.Reached echo n t) (hn : ∀ k < n, ¬s.Quits k) :
    let r := Game.play s.graph typing echo s.clock limit n t (s.lines.drop n)
    s.Reached echo r.prompts r.game ∧ r.unread = s.lines.drop r.prompts ∧ ∀ k < r.prompts, ¬s.Quits k := by
  induction limit generalizing n t with
  | zero          => exact ⟨h, rfl, hn⟩
  | succ limit hi =>
    by_cases hq : t.screen.quit
    case pos =>
      rw [Game.play_of_quit hq]
      exact ⟨h, rfl, hn⟩
    case neg =>
      rw [Game.play, if_neg hq, List.head?_drop, List.tail_drop]
      apply hi (h.enter hq)
      intro k hk
      rcases Nat.lt_succ_iff_lt_or_eq.mp hk with hk | rfl
      · exact hn k hk
      · exact fun hs => hq (h.quit.mpr hs)

end Reached

theorem reached_played (s : Sitting) (typing : Bool) (echo : String) (limit : Nat) :
    s.Reached echo (s.played typing echo limit).prompts (s.played typing echo limit).game ∧
    (s.played typing echo limit).unread = s.lines.drop (s.played typing echo limit).prompts ∧
    ∀ k < (s.played typing echo limit).prompts, ¬s.Quits k :=
  Reached.start.play fun k hk => absurd hk k.not_lt_zero

theorem isLeast_prompts (h : (s.played typing echo limit).game.screen.quit) :
    IsLeast {n | s.Quits n} (s.played typing echo limit).prompts := by
  have ⟨hr, _, hn⟩ := s.reached_played typing echo limit
  exact ⟨hr.quit.mp h, fun k hk => Nat.le_of_not_lt fun hl => hn k hl hk⟩

theorem quit_played_iff : (s.played typing echo limit).game.screen.quit ↔ ∃ n ≤ limit, s.Quits n := by
  have ⟨hr, _, hn⟩ := s.reached_played typing echo limit
  constructor
  · intro h
    have hl : (s.played typing echo limit).prompts ≤ 0 + limit := Game.prompts_le
    exact ⟨_, by omega, hr.quit.mp h⟩
  · intro ⟨n, hl, h⟩
    by_contra hq
    have ⟨hp, _⟩ := Game.prompts_of_going hq
    rw [Nat.zero_add] at hp
    rcases Nat.lt_or_eq_of_le hl with hl | rfl
    · exact hn n (hp.symm ▸ hl) h
    · exact hq (hr.quit.mpr (hp.symm ▸ h))

-- A game is its commands, taken one after another up to the first time that the player quits. How fast
-- its text appears makes no difference.
theorem played_eq (s : Sitting) (typing : Bool) (echo : String) (limit : Nat)
    (h : (s.played typing echo limit).game.screen.quit) :
    IsLeast {n | s.Quits n} (s.played typing echo limit).prompts ∧
    (s.played typing echo limit).game.player = s.playerAt ((s.played typing echo limit).prompts + 1) ∧
    (s.played typing echo limit).unread = s.lines.drop (s.played typing echo limit).prompts ∧
    (s.played typing echo limit).game.screen.out =
      echo.intercalate ((List.range ((s.played typing echo limit).prompts + 1)).map s.text) ∧
    ∀ typing', (s.played typing' echo limit).game.screen.quit ∧
      (s.played typing' echo limit).game.player = (s.played typing echo limit).game.player ∧
      (s.played typing' echo limit).game.screen.out = (s.played typing echo limit).game.screen.out ∧
      (s.played typing' echo limit).prompts = (s.played typing echo limit).prompts ∧
      (s.played typing' echo limit).unread = (s.played typing echo limit).unread := by
  have ⟨hr, hu, _⟩ := s.reached_played typing echo limit
  refine ⟨isLeast_prompts h, hr.player, hu, hr.out, fun typing' => ?_⟩
  have ⟨hr', hu', _⟩ := s.reached_played typing' echo limit
  have h' : (s.played typing' echo limit).game.screen.quit := quit_played_iff.mpr (quit_played_iff.mp h)
  have hp : (s.played typing' echo limit).prompts = (s.played typing echo limit).prompts :=
    (isLeast_prompts h').unique (isLeast_prompts h)
  refine ⟨h', ?_, ?_, hp, ?_⟩
  · rw [hr'.player, hr.player, hp]
  · rw [hr'.out, hr.out, hp]
  · rw [hu', hu, hp]

-- Over the river, in vain to the bridge, and home.
def ferry : Sitting where
  graph  := .crossing
  player := .fresh Game.recordId .morning
  now    := .morning
  clock  := fun _ => .morning
  lines  := ["1", "no", "what?", "quit", "describe"]

theorem played_ferry :
    (ferry.played true "" 9).game.screen.quit ∧
    (ferry.played true "" 9).prompts = 4 ∧
    (ferry.played true "" 9).unread = ["describe"] ∧
    (ferry.played true "" 9).game.player = { Player.fresh Game.recordId .morning with
      placeId := "bank", status := .inProgress, commandsIssued := 4, attempts := 1,
      ended := some .morning } ∧
    (ferry.played false "" 9).game.screen.out =
      Player.apology ++ "\n" ++ Speech.notUnderstood ++ "\n" := by
  obtain ⟨h, hp⟩ : (ferry.played true "" 9).game.screen.quit ∧ (ferry.played true "" 9).prompts = 4 := by
    decide +kernel
  obtain ⟨_, hs, hu, ho, ht⟩ := ferry.played_eq true "" 9 h
  obtain ⟨_, _, ho', _, _⟩ := ht false
  rw [hp] at hs hu ho
  refine ⟨h, hp, hu, hs.trans ?_, (ho'.trans ho).trans ?_⟩ <;> decide +kernel

end Sitting
end Gamebook
