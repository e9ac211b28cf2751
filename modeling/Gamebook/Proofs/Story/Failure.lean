import Mathlib
import Gamebook.Proofs.Chain
import Gamebook.Proofs.Ordered
import Gamebook.Story.Turn

namespace Gamebook

-- Why an action cannot be carried out: there is no place to go to, or no time to pause for.
inductive Action.Foils (g : PlaceGraph) : Action → Mishap → Prop
  | goto {id : String}   : id ∉ g.ids → Foils g ⟨.goto, id⟩ (.noTarget id)
  | pause {v : String}   : (∀ f, Numeral.binary64? v = some f → f.isNegative ∨ ¬f.isFinite) →
      Foils g ⟨.pause, v⟩ (.invalidDelay v)

def Action.IsSound (g : PlaceGraph) (a : Action) : Prop :=
  ∀ m, ¬a.Foils g m

-- No way on is given for a command.
def Place.Stays (p : Place) (c : Command) : Prop :=
  ∀ as, p.choices.get? c = some as → ∀ a ∈ as, a.kind ≠ .goto

-- What goes wrong first when a command is given at a place.
inductive FirstCause (g : PlaceGraph) (id : String) (c : Command) : Mishap → Prop
  | place : id ∉ g.ids → FirstCause g id c (.noCurrentPlace id)
  | action {p : Place} {before after : List Action} {a : Action} {m : Mishap} :
      g.get? id = some p → p.choices.get? c = some (before ++ a :: after) →
      (∀ b ∈ before, b.IsSound g) → a.Foils g m → FirstCause g id c m
  | start {p : Place} :
      g.get? id = some p → c = .restart → p.Stays c →
      (∀ as, p.choices.get? c = some as → ∀ a ∈ as, a.IsSound g) →
      PlaceGraph.start ∉ g.ids → FirstCause g id c .noStart

variable {g : PlaceGraph} {id : String} {p : Place} {c : Command} {m : Mishap} {w : Walk} {a : Action}
  {as : List Action}

theorem PlaceGraph.get?_eq_none : g.get? id = none ↔ id ∉ g.ids :=
  Ordered.get?_eq_none

theorem delay_eq_error {v : String} :
    delay v = .error m ↔
      (∀ f, Numeral.binary64? v = some f → f.isNegative ∨ ¬f.isFinite) ∧ m = .invalidDelay v := by
  rw [delay]
  cases Numeral.binary64? v with
  | none   => simp [@eq_comm _ m]
  | some f => cases hn : f.isNegative <;> cases hf : f.isFinite <;> simp [hn, hf, @eq_comm _ m]

namespace Walk

theorem step_eq_error : step g w a = .error m ↔ a.Foils g m := by
  obtain ⟨kind, argument⟩ := a
  cases kind with
  | goto =>
    simp only [step]
    constructor
    · intro h
      split at h
      case h_1 => cases h
      case h_2 hg =>
        cases h
        exact .goto (PlaceGraph.get?_eq_none.mp hg)
    · intro h
      cases h
      case goto h => rw [PlaceGraph.get?_eq_none.mpr h]
  | pause =>
    simp only [step]
    constructor
    · intro h
      cases Chain.bind_eq_error.mp h
      case inl h =>
        have ⟨hv, hm⟩ := delay_eq_error.mp h
        exact hm ▸ .pause hv
      case inr h =>
        have ⟨_, _, h⟩ := h
        cases h
    · intro h
      cases h
      case pause h => exact Chain.bind_eq_error.mpr (.inl (delay_eq_error.mpr ⟨h, rfl⟩))
  | say  => constructor <;> intro h <;> cases h
  | play => constructor <;> intro h <;> cases h

theorem step_eq_ok : (∃ w', step g w a = .ok w') ↔ a.IsSound g := by
  simp only [Chain.eq_ok_iff, Action.IsSound, ne_eq, step_eq_error]

-- Whether an action goes wrong does not depend on how far the walk has come.
theorem run_eq_error :
    run g w as = .error m ↔
      ∃ before a after, as = before ++ a :: after ∧ (∀ b ∈ before, b.IsSound g) ∧ a.Foils g m := by
  induction as generalizing w with
  | nil =>
    constructor
    · intro h
      cases h
    · intro ⟨_, _, _, h, _, _⟩
      simp at h
  | cons b as hi =>
    rw [run, List.foldlM_cons, Chain.bind_eq_error, step_eq_error]
    constructor
    · intro h
      rcases h with h | ⟨w', hb, h⟩
      · exact ⟨[], b, as, rfl, by simp, h⟩
      · have ⟨before, a, after, has, hs, ha⟩ := hi.mp h
        refine ⟨b :: before, a, after, by rw [has, List.cons_append], ?_, ha⟩
        exact List.forall_mem_cons.mpr ⟨step_eq_ok.mp ⟨w', hb⟩, hs⟩
    · intro ⟨before, a, after, has, hs, ha⟩
      cases before with
      | nil =>
        cases has
        exact .inl ha
      | cons =>
        cases has
        have ⟨hb, hs⟩ := List.forall_mem_cons.mp hs
        have ⟨w', hw⟩ := step_eq_ok (w := w).mpr hb
        exact .inr ⟨w', hw, hi.mpr ⟨_, a, after, rfl, hs, ha⟩⟩

theorem run_eq_ok : (∃ w', run g w as = .ok w') ↔ ∀ a ∈ as, a.IsSound g := by
  induction as generalizing w with
  | nil => simp [run, pure, Except.pure]
  | cons a as hi =>
    rw [run, List.foldlM_cons, List.forall_mem_cons]
    constructor
    · intro ⟨w', h⟩
      have ⟨v, hv, h⟩ := Chain.bind_eq_ok.mp h
      exact ⟨step_eq_ok.mp ⟨v, hv⟩, hi.mp ⟨w', h⟩⟩
    · intro ⟨ha, has⟩
      have ⟨v, hv⟩ := step_eq_ok (w := w).mpr ha
      have ⟨w', h⟩ := hi (w := v).mpr has
      exact ⟨w', Chain.bind_eq_ok.mpr ⟨v, hv, h⟩⟩

theorem navigates_eq_false : navigates p c = false ↔ p.Stays c := by
  rw [navigates, Place.Stays]
  cases p.choices.get? c <;> simp

theorem choose_eq_error :
    choose g p c = .error m ↔ ∃ before a after, p.choices.get? c = some (before ++ a :: after) ∧
      (∀ b ∈ before, b.IsSound g) ∧ a.Foils g m := by
  rw [choose]
  cases p.choices.get? c with
  | none    => simp
  | some as => simp [run_eq_error]

theorem choose_eq_ok :
    (∃ w, choose g p c = .ok w) ↔ ∀ as, p.choices.get? c = some as → ∀ a ∈ as, a.IsSound g := by
  rw [choose]
  cases p.choices.get? c with
  | none    => simp
  | some as => simp [run_eq_ok]

theorem conclude_eq_error :
    conclude g p c w = .error m ↔
      c = .restart ∧ p.Stays c ∧ PlaceGraph.start ∉ g.ids ∧ m = .noStart := by
  cases c with
  | restart =>
    rw [conclude, ← navigates_eq_false, ← PlaceGraph.get?_eq_none]
    cases navigates p .restart <;> cases g.get? PlaceGraph.start <;> simp [@eq_comm _ m]
  | _ => simp [conclude]

theorem ofCommand_eq_error : ofCommand g id c = .error m ↔ FirstCause g id c m := by
  rw [ofCommand]
  constructor
  · intro h
    split at h
    case h_1 p hp =>
      rcases Chain.bind_eq_error.mp h with h | ⟨w, hw, h⟩
      · have ⟨before, a, after, hc, hs, ha⟩ := choose_eq_error.mp h
        exact .action hp hc hs ha
      · have ⟨hc, hn, hs, hm⟩ := conclude_eq_error.mp h
        exact hm ▸ .start hp hc hn (choose_eq_ok.mp ⟨w, hw⟩) hs
    case h_2 hp =>
      cases h
      exact .place (PlaceGraph.get?_eq_none.mp hp)
  · intro h
    cases h with
    | place h            => rw [PlaceGraph.get?_eq_none.mpr h]
    | action hp hc hs ha =>
      rw [hp]
      exact Chain.bind_eq_error.mpr (.inl (choose_eq_error.mpr ⟨_, _, _, hc, hs, ha⟩))
    | start hp hc hn hs ht =>
      have ⟨w, hw⟩ := choose_eq_ok.mpr hs
      rw [hp]
      exact Chain.bind_eq_error.mpr (.inr ⟨w, hw, conclude_eq_error.mpr ⟨hc, hn, ht, rfl⟩⟩)

end Walk

-- The same causes without their order.
def Fails (g : PlaceGraph) (id : String) (c : Command) : Prop :=
  id ∉ g.ids ∨
  (∃ p as a m, g.get? id = some p ∧ p.choices.get? c = some as ∧ a ∈ as ∧ a.Foils g m) ∨
  (∃ p, g.get? id = some p ∧ c = .restart ∧ p.Stays c ∧ PlaceGraph.start ∉ g.ids)

theorem exists_firstCause_of_foils (hp : g.get? id = some p) (hc : p.choices.get? c = some as)
    (ha : a ∈ as) (hf : a.Foils g m) : ∃ m, FirstCause g id c m := by
  cases h : Walk.choose g p c with
  | ok w     => exact absurd hf (Walk.choose_eq_ok.mp ⟨w, h⟩ as hc a ha m)
  | error m' =>
    have ⟨_, _, _, hc, hs, hf⟩ := Walk.choose_eq_error.mp h
    exact ⟨m', .action hp hc hs hf⟩

theorem exists_firstCause : (∃ m, FirstCause g id c m) ↔ Fails g id c := by
  constructor
  · intro ⟨m, h⟩
    cases h with
    | place h                      => exact .inl h
    | @action p _ _ a _ hp hc _ ha => exact .inr (.inl ⟨p, _, a, m, hp, hc, List.mem_append_cons_self, ha⟩)
    | @start p hp hc hn _ ht       => exact .inr (.inr ⟨p, hp, hc, hn, ht⟩)
  · intro h
    rcases h with h | ⟨p, as, a, m, hp, hc, ha, hf⟩ | ⟨p, hp, hc, hn, ht⟩
    · exact ⟨_, .place h⟩
    · exact exists_firstCause_of_foils hp hc ha hf
    · cases h : Walk.choose g p c with
      | ok w    => exact ⟨_, .start hp hc hn (Walk.choose_eq_ok.mp ⟨w, h⟩) ht⟩
      | error m =>
        have ⟨_, _, _, hc, hs, hf⟩ := Walk.choose_eq_error.mp h
        exact ⟨m, .action hp hc hs hf⟩

-- A start that a player who wants to quit is to leave for a place that is not there.
def PlaceGraph.lockedIn : PlaceGraph where
  places := ⟨[("start", {
    id      := "start"
    choices := ⟨[(.quit, [⟨.goto, "gate"⟩])], by decide⟩
  })], by decide⟩

def Timestamp.morning : Timestamp where
  date   := ⟨2024, 1, 1, by decide⟩
  time   := ⟨9, 0, 0, 0, by decide⟩
  offset := some .utc

namespace Player

variable {p : Player} {now : Timestamp}

theorem execute_eq_error :
    (p.execute g now c).2 = .error m ↔ FirstCause g p.placeId c m := by
  rw [← Walk.ofCommand_eq_error, execute, show p.counted.placeId = p.placeId from rfl]
  cases Walk.ofCommand g p.placeId c <;> simp

theorem execute_of_error (h : (p.execute g now c).2 = .error m) :
    (p.execute g now c).1 = p.counted := by
  rw [execute] at h ⊢
  split
  case h_1 hw =>
    rw [hw] at h
    cases h
  case h_2 => rfl

theorem attempt_of_ok {r : Response} (h : (p.execute g now c).2 = .ok r) :
    p.attempt g now c = ({ (p.execute g now c).1 with status := .inProgress }, r) := by
  have he : p.execute g now c = ((p.execute g now c).1, .ok r) := Prod.ext rfl h
  rw [attempt, he]

theorem attempt_of_error (h : (p.execute g now c).2 = .error m) :
    p.attempt g now c = ((p.execute g now c).1, .single (.say apology)) := by
  have he : p.execute g now c = ((p.execute g now c).1, .error m) := Prod.ext rfl h
  rw [attempt, he]

theorem commandsIssued_commit {w : Walk} : (p.commit now c w).commandsIssued = p.commandsIssued := by
  cases c <;> rfl

theorem commandsIssued_execute :
    (p.execute g now c).1.commandsIssued = p.commandsIssued + 1 := by
  rw [execute]
  split
  · exact commandsIssued_commit
  · rfl

-- A command fails by its first cause and then leaves nothing behind but its count.
theorem execute_atomic (g : PlaceGraph) (now : Timestamp) (p : Player) (c : Command) :
    ((∃ m, (p.execute g now c).2 = .error m) ↔ Fails g p.placeId c) ∧
    (∀ m, (p.execute g now c).2 = .error m ↔ FirstCause g p.placeId c m) ∧
    (∀ m, (p.execute g now c).2 = .error m →
      (p.execute g now c).1 = { p with commandsIssued := p.commandsIssued + 1 }) ∧
    (p.execute g now c).1.commandsIssued = p.commandsIssued + 1 := by
  refine ⟨?_, fun m => execute_eq_error, fun m => execute_of_error, commandsIssued_execute⟩
  rw [← exists_firstCause]
  exact exists_congr fun m => execute_eq_error

theorem execute_lockedIn :
    (execute .lockedIn .morning (.fresh "traveller" .morning) .quit).2 = .error (.noTarget "gate") ∧
    (execute .lockedIn .morning (.fresh "traveller" .morning) .quit).1
      = { Player.fresh "traveller" .morning with commandsIssued := 1 } := by
  have ⟨_, hc, hs, _⟩ := execute_atomic .lockedIn .morning (.fresh "traveller" .morning) .quit
  have hf : FirstCause .lockedIn "start" .quit (.noTarget "gate") :=
    .action rfl (show _ = some ([] ++ [⟨.goto, "gate"⟩]) from rfl) (by simp) (.goto (by decide))
  have he := (hc _).mpr hf
  exact ⟨he, hs _ he⟩

end Player
end Gamebook
