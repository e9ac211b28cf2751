import Mathlib
import Gamebook.Proofs.Story.Chronicle
import Gamebook.Proofs.Story.Travel

namespace Gamebook

variable {g : PlaceGraph} {id : String} {p : Place} {c : Command} {w w' : Walk} {a : Action} {as : List Action}
  {x : Ply}

namespace PlaceGraph

-- Is there an ending to which one goes from another place?
def EndsAt (g : PlaceGraph) (id target : String) : Prop :=
  target ≠ id ∧ ∃ q, g.get? target = some q ∧ q.finished

-- Do some actions lead into an ending on their way from a place?
def Reaches (g : PlaceGraph) (id : String) (as : List Action) : Prop :=
  ∃ before target after, as = before ++ ⟨.goto, target⟩ :: after ∧
    g.EndsAt ((Action.lastTarget? before).getD id) target

theorem not_reaches_nil : ¬g.Reaches id [] := by
  rintro ⟨before, _, _, h, _⟩
  cases before <;> cases h

theorem reaches_cons : g.Reaches id (a :: as) ↔
    a.kind = .goto ∧ g.EndsAt id a.argument ∨ g.Reaches (if a.kind = .goto then a.argument else id) as := by
  have hl (before : List Action) : (Action.lastTarget? (a :: before)).getD id =
      (Action.lastTarget? before).getD (if a.kind = .goto then a.argument else id) := by
    rw [Action.lastTarget?_cons]
    cases Action.lastTarget? before <;> split <;> rfl
  constructor
  · rintro ⟨before, target, after, h, he⟩
    cases before with
    | nil =>
      cases h
      exact .inl ⟨rfl, he⟩
    | cons b before =>
      cases h
      exact .inr ⟨before, target, after, rfl, hl before ▸ he⟩
  · rintro (⟨hk, he⟩ | ⟨before, target, after, rfl, he⟩)
    · obtain ⟨_, argument⟩ := a
      cases hk
      exact ⟨[], argument, as, rfl, he⟩
    · exact ⟨a :: before, target, after, rfl, (hl before).symm ▸ he⟩

end PlaceGraph

namespace Walk

-- An ending is reached where one goes from another place, and nowhere else.
theorem step_ending (hk : g.Keyed) (h : step g w a = .ok w') :
    w'.ending ↔ w.ending ∨ a.kind = .goto ∧ g.EndsAt w.place.id a.argument := by
  obtain ⟨kind, argument⟩ := a
  cases kind with
  | goto =>
    simp only [step] at h
    split at h
    case h_1 q hq =>
      have hid : q.id = argument := hk.id_eq hq
      cases h
      rw [goto, hid, PlaceGraph.EndsAt, hq]
      split
      case isTrue he  => simp [he]
      case isFalse he => simp [he]
    case h_2 => cases h
  | pause =>
    obtain ⟨_, _, h⟩ := Chain.bind_eq_ok.mp h
    cases h
    simp [add]
  | say | play =>
    cases h
    simp [add]

theorem run_ending (hk : g.Keyed) (hw : w.Stands g) (h : run g w as = .ok w') :
    w'.ending ↔ w.ending ∨ g.Reaches w.place.id as := by
  induction as generalizing w with
  | nil =>
    cases h
    exact (or_iff_left PlaceGraph.not_reaches_nil).symm
  | cons a as hi =>
    obtain ⟨v, hv, h⟩ := Chain.bind_eq_ok.mp h
    obtain ⟨hs, hp⟩ := step_stands hk hw hv
    rw [hi hs h, step_ending hk hv, PlaceGraph.reaches_cons, hp, or_assoc]

theorem choose_ending (hk : g.Keyed) (hp : g.get? p.id = some p) (h : choose g p c = .ok w) :
    w.ending ↔ ∃ as, p.choices.get? c = some as ∧ g.Reaches p.id as := by
  rw [choose] at h
  split at h
  case h_1 as hc =>
    have hs : (Walk.at p).Stands g := hp
    rw [run_ending hk hs h, hc]
    simp [Walk.at]
  case h_2 hc =>
    cases h
    rw [hc]
    split <;> simp [Walk.at, add]

-- What a command does of its own accord leads into no ending.
theorem conclude_ending (h : conclude g p c w = .ok w') : w'.ending = w.ending := by
  cases c with
  | restart =>
    simp only [conclude] at h
    split at h
    case isTrue =>
      cases h
      split <;> rfl
    case isFalse =>
      split at h
      case h_1 =>
        cases h
        rfl
      case h_2 => cases h
  | _ =>
    cases h
    rfl

theorem ofCommand_ending (hk : g.Keyed) (h : ofCommand g id c = .ok w) :
    w.ending ↔ ∃ as, g.choice? id c = some as ∧ g.Reaches id as := by
  rw [ofCommand] at h
  split at h
  case h_1 p hp =>
    obtain ⟨v, hv, h⟩ := Chain.bind_eq_ok.mp h
    have hid : p.id = id := hk.id_eq hp
    rw [conclude_ending h, choose_ending hk (hid ▸ hp) hv, PlaceGraph.choice?_of_get? hp, hid]
  case h_2 => cases h

end Walk

-- A command tells of an ending if it succeeds and what is defined for it leads into one.
theorem Ply.finishes_iff (hk : g.Keyed) :
    x.finishes g ↔ x.succeeds g ∧
      ∃ as, g.choice? x.player.placeId x.command = some as ∧ g.Reaches x.player.placeId as := by
  rw [finishes, directives, succeeds]
  cases h : x.outcome g with
  | error m => simp [Except.isOk, Except.toBool]
  | ok r =>
    obtain ⟨w, hw, hr, _⟩ := walk_of_ok h
    simp only []
    rw [List.contains_iff_mem, hr, (Walked.ofCommand hw).finished_mem_iff, Walk.ofCommand_ending hk hw]
    simp [Except.isOk, Except.toBool]

end Gamebook
