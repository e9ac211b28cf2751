import Mathlib
import Gamebook.Proofs.Story.Travel

namespace Gamebook

-- What no author writes: it is the game itself that has not understood, or that parts from the player.
def Directive.IsOwn (d : Directive) : Prop :=
  d = .notUnderstood ∨ d = .bye

variable {g : PlaceGraph} {id : String} {p : Place} {c : Command} {w w' : Walk} {a : Action} {as : List Action}
  {d : Directive}

namespace Directive.IsOwn

theorem not_mem_texts (h : d.IsOwn) : d ∉ p.texts := by
  rcases h with rfl | rfl <;> simp [Place.texts]

theorem not_mem_instructions (h : d.IsOwn) : d ∉ (p.instructions.map Directive.say).toList := by
  rcases h with rfl | rfl <;> simp

theorem mem_add {ds : List Directive} (h : d ∉ ds) : d ∈ (w.add ds).directives ↔ d ∈ w.directives := by
  simp [Walk.add, h]

theorem mem_goto {q : Place} (h : d.IsOwn) : d ∈ (w.goto q).directives ↔ d ∈ w.directives := by
  rw [Walk.goto]
  split
  case isTrue  => rfl
  case isFalse =>
    have ht : d ∉ q.texts := h.not_mem_texts
    rcases h with rfl | rfl <;> cases q.finished <;> simp [ht]

theorem mem_step (hd : d.IsOwn) (h : Walk.step g w a = .ok w') : d ∈ w'.directives ↔ d ∈ w.directives := by
  obtain ⟨kind, argument⟩ := a
  cases kind with
  | goto =>
    simp only [Walk.step] at h
    split at h
    case h_1 =>
      cases h
      exact hd.mem_goto
    case h_2 => cases h
  | pause =>
    obtain ⟨_, _, h⟩ := Chain.bind_eq_ok.mp h
    cases h
    rcases hd with rfl | rfl <;> simp [Walk.add]
  | _ =>
    cases h
    rcases hd with rfl | rfl <;> simp [Walk.add]

theorem mem_run (hd : d.IsOwn) (h : Walk.run g w as = .ok w') : d ∈ w'.directives ↔ d ∈ w.directives := by
  induction as generalizing w with
  | nil =>
    cases h
    rfl
  | cons a as hi =>
    obtain ⟨_, hv, h⟩ := Chain.bind_eq_ok.mp h
    exact (hi h).trans (hd.mem_step hv)

theorem mem_choose (hd : d.IsOwn) (h : Walk.choose g p c = .ok w) :
    d ∈ w.directives ↔ d = .notUnderstood ∧ p.choices.get? c = none ∧ ¬c.IsOptional := by
  rw [Walk.choose] at h
  cases hc : p.choices.get? c with
  | some as =>
    rw [hc] at h
    simp [hd.mem_run h, Walk.at]
  | none =>
    rw [hc] at h
    cases h
    by_cases ho : c.IsOptional <;> simp [ho, Walk.at, Walk.add]

theorem mem_describe (h : d.IsOwn) : d ∈ w.describe.directives ↔ d ∈ w.directives :=
  mem_add h.not_mem_texts

theorem mem_conclude (hd : d.IsOwn) (h : Walk.conclude g p c w = .ok w') :
    d ∈ w'.directives ↔ d ∈ w.directives ∨ d = .bye ∧ c = .quit := by
  cases c with
  | describe =>
    cases h
    simp [hd.mem_describe]
  | help =>
    cases h
    simp [mem_add hd.not_mem_instructions]
  | restart =>
    simp only [Walk.conclude] at h
    split at h
    case isTrue =>
      cases h
      split <;> simp [hd.mem_describe]
    case isFalse =>
      split at h
      case h_1 =>
        cases h
        simp [hd.mem_describe]
      case h_2 => cases h
  | quit =>
    cases h
    simp [Walk.add]
  | _ =>
    cases h
    simp

theorem mem_ofCommand (hd : d.IsOwn) (h : Walk.ofCommand g id c = .ok w) :
    d ∈ w.directives ↔
      d = .notUnderstood ∧ g.choice? id c = none ∧ ¬c.IsOptional ∨ d = .bye ∧ c = .quit := by
  rw [Walk.ofCommand] at h
  split at h
  case h_1 p hp =>
    obtain ⟨v, hv, h⟩ := Chain.bind_eq_ok.mp h
    rw [hd.mem_conclude h, hd.mem_choose hv, PlaceGraph.choice?_of_get? hp]
  case h_2 => cases h

end Directive.IsOwn

namespace Walk

-- The game says that it has not understood where nothing is defined for a command that has to be defined.
theorem notUnderstood_mem_ofCommand (h : ofCommand g id c = .ok w) :
    .notUnderstood ∈ w.directives ↔ g.choice? id c = none ∧ ¬c.IsOptional := by
  simp [Directive.IsOwn.mem_ofCommand (.inl rfl) h]

-- Nobody is let go but those who ask for it.
theorem bye_mem_ofCommand (h : ofCommand g id c = .ok w) : .bye ∈ w.directives ↔ c = .quit := by
  simp [Directive.IsOwn.mem_ofCommand (.inr rfl) h]

-- To part is the last that a player who quits is told, and it is told once.
theorem ofCommand_quit (h : ofCommand g id .quit = .ok w) : ∃ ds, w.directives = ds ++ [.bye] ∧ .bye ∉ ds := by
  rw [ofCommand] at h
  split at h
  case h_1 p hp =>
    obtain ⟨v, hv, h⟩ := Chain.bind_eq_ok.mp h
    cases h
    refine ⟨v.directives, rfl, ?_⟩
    simp [Directive.IsOwn.mem_choose (.inr rfl) hv]
  case h_2 => cases h

-- Nothing else comes of a command that is not understood.
theorem ofCommand_of_undefined (h : ofCommand g id c = .ok w) (hc : g.choice? id c = none) (ho : ¬c.IsOptional) :
    ∃ p, g.get? id = some p ∧ w = (Walk.at p).add [.notUnderstood] := by
  rw [ofCommand] at h
  split at h
  case h_1 p hp =>
    rw [PlaceGraph.choice?_of_get? hp] at hc
    simp only [choose, hc, if_neg ho, Chain.ok_bind] at h
    refine ⟨p, hp, ?_⟩
    cases c
    case option | yes | no => exact (Except.ok.inj h).symm
    all_goals exact absurd (by simp [Command.IsOptional]) ho
  case h_2 => cases h

end Walk

namespace Player

variable {q : Player} {now : Timestamp} {r : Response} {e : Datum}

theorem execute_of_ofCommand (h : Walk.ofCommand g q.placeId c = .ok w) :
    q.execute g now c = (q.counted.commit now c w, .ok (.ofDirectives w.directives)) := by
  have hc : Walk.ofCommand g q.counted.placeId c = .ok w := h
  rw [execute, hc]

theorem commit_of_undefined (hp : p.id = q.placeId) (ho : ¬c.IsOptional) :
    q.commit now c ((Walk.at p).add [.notUnderstood]) = q := by
  cases c
  case option | yes | no => simp [commit, Walk.at, Walk.add, hp]
  all_goals exact absurd (by simp [Command.IsOptional]) ho

-- When a command is not understood, and when the player is let go.
theorem execute_understood (hg : Definition.build e = .ok g) (h : (q.execute g now c).2 = .ok r) :
    (.notUnderstood ∈ r.flatten ↔
      c ∉ [.describe, .help, .hint, .restart, .quit] ∧ g.choice? q.placeId c = none) ∧
    (.notUnderstood ∈ r.flatten → r = .single .notUnderstood ∧
      (q.execute g now c).1 = { q with commandsIssued := q.commandsIssued + 1 }) ∧
    (.bye ∈ r.flatten ↔ c = .quit) ∧
    (.bye ∈ r.flatten → ∃ ds, r.flatten = ds ++ [.bye] ∧ .bye ∉ ds) := by
  have hk := (Definition.wellFormed_of_build hg).keyed
  obtain ⟨w, hw, hr, _⟩ := Ply.walk_of_ok (x := ⟨⟨now, c⟩, q⟩) h
  have ho : c ∉ [.describe, .help, .hint, .restart, .quit] ↔ ¬c.IsOptional := by
    simp [Command.IsOptional]
  rw [hr, ho, Walk.notUnderstood_mem_ofCommand hw, Walk.bye_mem_ofCommand hw]
  refine ⟨and_comm, fun ⟨hc, ho⟩ => ?_, .rfl, fun hc => ?_⟩
  · obtain ⟨p, hp, rfl⟩ := Walk.ofCommand_of_undefined hw hc ho
    have hc : q.counted.commit now c ((Walk.at p).add [.notUnderstood]) = q.counted :=
      commit_of_undefined (hk.id_eq hp) ho
    have he : q.execute g now c = (q.counted, .ok (.single .notUnderstood)) := by
      rw [execute_of_ofCommand hw, hc]
      rfl
    rw [he] at h ⊢
    exact ⟨(Except.ok.inj h).symm, rfl⟩
  · subst hc
    exact Walk.ofCommand_quit hw

end Player

-- A cell where it is of no use to agree. What comes of disagreement is left open.
def PlaceGraph.cell : PlaceGraph where
  places := ⟨[("start", { id := "start", choices := ⟨[(.yes, [])], by decide⟩ })], by decide⟩

def cellDefinition : Datum :=
  .ofJson (.obj [("places", .obj [("start", .obj [("choices", .obj [("Yes", .arr [])])])])])

theorem build_cellDefinition : Definition.build cellDefinition = .ok .cell := by
  decide +kernel

namespace Player

-- To disagree is not understood, to agree is, and who quits is let go.
theorem execute_understood_cell :
    Definition.build cellDefinition = .ok .cell ∧
    (fresh "captive" .morning).execute .cell .morning .no =
      ({ fresh "captive" .morning with commandsIssued := 1 }, .ok (.single .notUnderstood)) ∧
    (∃ r, ((fresh "captive" .morning).execute .cell .morning .yes).2 = .ok r ∧ .notUnderstood ∉ r.flatten) ∧
    ∃ r, ((fresh "captive" .morning).execute .cell .morning .quit).2 = .ok r ∧ .bye ∈ r.flatten := by
  have hg := build_cellDefinition
  have hn : ((fresh "captive" .morning).execute .cell .morning .no).2 = .ok (.single .notUnderstood) := rfl
  have hy : ((fresh "captive" .morning).execute .cell .morning .yes).2 = .ok (.multiple []) := rfl
  have hq : ((fresh "captive" .morning).execute .cell .morning .quit).2 = .ok (.single .bye) := rfl
  have ⟨_, hs, _⟩ := execute_understood hg hn
  have ⟨hi, _⟩ := execute_understood hg hy
  have ⟨_, _, hb, _⟩ := execute_understood hg hq
  exact ⟨hg, Prod.ext (hs List.mem_cons_self).right hn, ⟨_, hy, mt hi.mp (by decide)⟩, ⟨_, hq, hb.mpr rfl⟩⟩

end Player
end Gamebook
