import Mathlib
import Gamebook.Proofs.Story.Run
import Gamebook.Proofs.Story.Walked

namespace Gamebook

-- Is a moment not later than another? Only times of the same kind, with or without a known
-- distance from Greenwich, can be compared.
def Timestamp.le (t u : Timestamp) : Prop :=
  t.offset.isSome = u.offset.isSome ∧ t.micros ≤ u.micros

theorem Timestamp.le.refl (t : Timestamp) : t.le t :=
  ⟨rfl, Int.le_refl _⟩

theorem Timestamp.le.trans {t u v : Timestamp} (h : t.le u) (h' : u.le v) : t.le v :=
  ⟨h.left.trans h'.left, Int.le_trans h.right h'.right⟩

namespace Ply

def succeeds (g : PlaceGraph) (x : Ply) : Bool :=
  (x.outcome g).isOk

def directives (g : PlaceGraph) (x : Ply) : List Directive :=
  match x.outcome g with
  | .ok r    => r.flatten
  | .error _ => []

def restarts (g : PlaceGraph) (x : Ply) : Bool :=
  x.command = .restart && x.succeeds g

def quits (g : PlaceGraph) (x : Ply) : Bool :=
  x.command = .quit && x.succeeds g

def finishes (g : PlaceGraph) (x : Ply) : Bool :=
  (x.directives g).contains .finished

def lastTime? (p : Ply → Bool) (xs : List Ply) : Option Timestamp :=
  ((xs.filter p).getLast?).map (·.now)

def firstTime? (p : Ply → Bool) (xs : List Ply) : Option Timestamp :=
  (xs.find? p).map (·.now)

def sinceRestart (g : PlaceGraph) (xs : List Ply) : List Ply :=
  xs.rtakeWhile fun x => !x.restarts g

-- When it has come to an end, if only these plies count: at the last ending that was reached, or
-- else when it already had, or else when the player first quit.
def endOf (g : PlaceGraph) (before : Option Timestamp) (xs : List Ply) : Option Timestamp :=
  (lastTime? (finishes g) xs).or (before.or (firstTime? (quits g) xs))

variable {g : PlaceGraph} {x : Ply} {xs : List Ply} {p : Ply → Bool} {before : Option Timestamp}

theorem lastTime?_concat :
    lastTime? p (xs ++ [x]) = if p x then some x.now else lastTime? p xs := by
  rw [lastTime?, List.filter_append]
  cases h : p x <;> simp [h, lastTime?]

theorem firstTime?_concat :
    firstTime? p (xs ++ [x]) = (firstTime? p xs).or (if p x then some x.now else none) := by
  rw [firstTime?, List.find?_append, Option.map_or, firstTime?]
  cases h : p x <;> simp [h]

theorem sinceRestart_concat :
    sinceRestart g (xs ++ [x]) = if x.restarts g then [] else sinceRestart g xs ++ [x] := by
  rw [sinceRestart, List.rtakeWhile_concat]
  cases x.restarts g <;> rfl

theorem endOf_concat :
    endOf g before (xs ++ [x]) =
      if x.finishes g then some x.now
      else if x.quits g then (endOf g before xs).or (some x.now)
      else endOf g before xs := by
  rw [endOf, lastTime?_concat, firstTime?_concat]
  cases x.finishes g <;> cases x.quits g <;> simp [endOf]

end Ply

-- An ending that has been reached is told of.
theorem Walked.finished_mem_iff {g : PlaceGraph} {w : Walk} (h : Walked g w) : .finished ∈ w.directives ↔ w.ending := by
  induction h with
  | here q => simp [Walk.at]
  | tell h hd hi =>
    rw [Walk.add, List.mem_append, or_iff_left fun hf => (hd _ hf).not_finished rfl]
    exact hi
  | goto h q hi =>
    rw [Walk.goto]
    split
    case isTrue  => exact hi
    case isFalse =>
      have ht : .finished ∉ q.texts := fun hf => (PlaceGraph.Tells.of_mem_texts (g := g) hf).not_finished rfl
      cases hq : q.finished <;> simp [hi, ht]
  | back h q hi => exact hi

variable {p : Player} {w : Walk} {c : Command} {now : Timestamp}

theorem Player.attempts_commit :
    (p.commit now c w).attempts = p.attempts + if c = .restart then 1 else 0 := by
  cases c <;> simp [commit, restarted]

theorem Player.started_commit :
    (p.commit now c w).started = if c = .restart then now else p.started := by
  cases c <;> rfl

theorem Player.ended_commit :
    (p.commit now c w).ended =
      if c = .restart then none
      else if w.ending then some now
      else if c = .quit then p.ended.or (some now)
      else p.ended := by
  cases c <;> rfl

namespace Ply

variable {g : PlaceGraph} {x : Ply}

-- What one move does to the times and counts of a player.
structure Records (g : PlaceGraph) (x : Ply) : Prop where
  attempts : (x.after g).attempts = x.player.attempts + if x.restarts g then 1 else 0
  started  : (x.after g).started = if x.restarts g then x.now else x.player.started
  ended    : (x.after g).ended =
    if x.restarts g then none
    else if x.finishes g then some x.now
    else if x.quits g then x.player.ended.or (some x.now)
    else x.player.ended

theorem records (g : PlaceGraph) (x : Ply) : x.Records g := by
  cases h : x.outcome g with
  | ok r =>
    have ⟨w, hw, hd, ha⟩ := walk_of_ok h
    have hf : x.finishes g = w.ending := by
      simp only [finishes, directives, h, hd]
      rw [Bool.eq_iff_iff, List.contains_iff_mem, (Walked.ofCommand hw).finished_mem_iff]
    have hs : x.succeeds g = true := by rw [succeeds, h]; rfl
    constructor <;> rw [ha]
    · rw [Player.attempts_commit, restarts, hs]
      simp [Player.counted]
    · rw [Player.started_commit, restarts, hs]
      simp [Player.counted]
    · rw [Player.ended_commit, restarts, quits, hs, hf]
      simp [Player.counted]
  | error m =>
    have ha := after_of_error h
    have hs : x.succeeds g = false := by rw [succeeds, h]; rfl
    have hf : x.finishes g = false := by rw [finishes, directives, h]; rfl
    constructor <;> rw [ha] <;> simp [restarts, quits, hs, hf, Player.counted]

theorem started_le_after (hn : x.player.started.le x.now)
    (he : ∀ e ∈ x.player.ended, x.player.started.le e) :
    (x.after g).started.le x.now ∧ ∀ e ∈ (x.after g).ended, (x.after g).started.le e := by
  rw [(records g x).started, (records g x).ended]
  by_cases hr : x.restarts g
  case pos => simpa [hr] using .refl x.now
  case neg =>
    simp only [hr, if_false, Bool.false_eq_true]
    refine ⟨hn, fun e h => ?_⟩
    split at h
    case isTrue =>
      cases h
      exact hn
    case isFalse =>
      split at h
      case isTrue =>
        cases ho : x.player.ended with
        | some u =>
          rw [ho] at h
          exact he e (ho ▸ h)
        | none =>
          rw [ho] at h
          cases h
          exact hn
      case isFalse => exact he e h

end Ply

namespace Player

open Ply

variable {g : PlaceGraph} {p : Player} {ms : List Move} {m : Move}

theorem commandsIssued_follow : (p.follow g ms).commandsIssued = p.commandsIssued + ms.length := by
  induction ms generalizing p with
  | nil          => exact (Int.add_zero _).symm
  | cons m ms hi =>
    have hm : (Ply.after g ⟨m, p⟩).commandsIssued = p.commandsIssued + 1 := commandsIssued_execute
    rw [follow_cons, hi, hm, List.length_cons]
    omega

theorem attempts_follow :
    (p.follow g ms).attempts = p.attempts + (p.plies g ms).countP (restarts g) := by
  induction ms using List.reverseRecOn with
  | nil              => exact (Int.add_zero _).symm
  | append_singleton ms m hi =>
    rw [follow_concat, (records g _).attempts, hi, plies_concat, List.countP_append,
      List.countP_singleton]
    split <;> simp [Int.add_assoc]

theorem started_follow :
    (p.follow g ms).started = (lastTime? (restarts g) (p.plies g ms)).getD p.started := by
  induction ms using List.reverseRecOn with
  | nil              => rfl
  | append_singleton ms m hi =>
    rw [follow_concat, (records g _).started, hi, plies_concat, lastTime?_concat]
    split <;> rfl

theorem ended_follow :
    (p.follow g ms).ended =
      endOf g (if (p.plies g ms).any (restarts g) then none else p.ended)
        (sinceRestart g (p.plies g ms)) := by
  induction ms using List.reverseRecOn with
  | nil              => exact (Option.or_none).symm
  | append_singleton ms m hi =>
    rw [follow_concat, (records g _).ended, hi, plies_concat, sinceRestart_concat, List.any_append]
    cases hr : restarts g ⟨m, p.follow g ms⟩ <;> simp [hr, endOf_concat]
    rfl

-- A player who has been there before some moves are made never ends before the start.
theorem started_le_ended {t : Timestamp} (ht : p.started.le t) (he : ∀ e ∈ p.ended, p.started.le e)
    (hc : (t :: ms.map Move.now).IsChain Timestamp.le) :
    ∀ e ∈ (p.follow g ms).ended, (p.follow g ms).started.le e := by
  induction ms generalizing p t with
  | nil          => exact he
  | cons m ms hi =>
    have ⟨hm, hc⟩ := List.isChain_cons_cons.mp hc
    have ⟨ht, he⟩ := Ply.started_le_after (x := ⟨m, p⟩) (g := g) (ht.trans hm) he
    exact hi ht he hc

-- The counts and times of a player after a run of moves.
theorem chronicle (g : PlaceGraph) (p : Player) (ms : List Move) :
    (p.follow g ms).commandsIssued = p.commandsIssued + ms.length ∧
    (p.follow g ms).attempts = p.attempts + (p.plies g ms).countP (restarts g) ∧
    (p.follow g ms).started = (lastTime? (restarts g) (p.plies g ms)).getD p.started ∧
    (p.follow g ms).ended =
      endOf g (if (p.plies g ms).any (restarts g) then none else p.ended)
        (sinceRestart g (p.plies g ms)) ∧
    ∀ recordId created, (created :: ms.map Move.now).IsChain Timestamp.le →
      ∀ n, ∀ e ∈ ((fresh recordId created).follow g (ms.take n)).ended,
        ((fresh recordId created).follow g (ms.take n)).started.le e := by
  refine ⟨commandsIssued_follow, attempts_follow, started_follow, ended_follow, ?_⟩
  intro recordId created hc n
  have hc : (created :: (ms.take n).map Move.now).IsChain Timestamp.le := by
    rw [List.map_take]
    exact hc.take (n + 1)
  exact started_le_ended (.refl created) (fun _ he => nomatch he) hc

end Player

-- A cave with a way out.
def PlaceGraph.cave : PlaceGraph where
  places := ⟨[
    ("start", {
      id      := "start"
      choices := ⟨[(.option 0, [⟨.goto, "daylight"⟩])], by decide⟩
    }),
    ("daylight", { id := "daylight", finished := true })
  ], by decide⟩

def Timestamp.minute (n : Fin 60) : Timestamp where
  date   := Timestamp.morning.date
  time   := ⟨9, n, 0, 0, by omega⟩
  offset := some .utc

namespace Player

-- Out of the cave after having quit, and once more to the start, only to quit twice.
def outing : List Move := [
  ⟨.minute 1, .quit⟩, ⟨.minute 2, .option 0⟩, ⟨.minute 3, .restart⟩, ⟨.minute 4, .quit⟩,
  ⟨.minute 5, .quit⟩
]

theorem chronicle_outing :
    ((fresh "traveller" (.minute 0)).follow .cave outing).commandsIssued = 5 ∧
    ((fresh "traveller" (.minute 0)).follow .cave outing).attempts = 1 ∧
    ((fresh "traveller" (.minute 0)).follow .cave outing).started = .minute 3 ∧
    ((fresh "traveller" (.minute 0)).follow .cave outing).ended = some (.minute 4) ∧
    ((fresh "traveller" (.minute 0)).follow .cave (outing.take 2)).ended = some (.minute 2) ∧
    (Timestamp.minute 3).le (.minute 4) := by
  have ⟨hc, ha, hs, he, hl⟩ := chronicle .cave (fresh "traveller" (.minute 0)) outing
  have ⟨_, _, _, he', _⟩ := chronicle .cave (fresh "traveller" (.minute 0)) (outing.take 2)
  have hl := hl "traveller" (.minute 0) (by simp [outing, Timestamp.le]; decide) 5 (.minute 4) he
  exact ⟨hc, ha, hs, he, he', hl⟩

end Player
end Gamebook
