import Mathlib
import Gamebook.Proofs.Story.Chronicle
import Gamebook.Proofs.Story.Travel

namespace Gamebook

-- Two adventures have the same places, but for those under some ids. Of these, nothing is known.
def PlaceGraph.SameBut (X : Set String) (g g' : PlaceGraph) : Prop :=
  ∀ id ∉ X, g.get? id = g'.get? id

-- A move leaves some places alone: the player is at none of them, nothing that the command does leads
-- to one, and a restart that goes to the start of its own accord does not find it among them.
structure Ply.Spares (g : PlaceGraph) (X : Set String) (x : Ply) : Prop where
  here   : x.player.placeId ∉ X
  target : ∀ as, g.choice? x.player.placeId x.command = some as →
    ∀ a ∈ as, a.kind = .goto → a.argument ∉ X
  start  : ∀ p, g.get? x.player.placeId = some p → x.command = .restart → p.Stays .restart →
    PlaceGraph.start ∉ X

variable {X : Set String} {g g' : PlaceGraph} {p : Place} {c : Command} {w : Walk} {a : Action}
  {as : List Action} {x : Ply}

namespace Walk

theorem step_congr (hg : g.SameBut X g') (ha : a.kind = .goto → a.argument ∉ X) :
    step g w a = step g' w a := by
  cases h : a.kind
  case goto =>
    have he : g.get? a.argument = g'.get? a.argument := hg _ (ha h)
    simp only [step, h, he]
  all_goals simp only [step, h]

theorem run_congr (hg : g.SameBut X g') (has : ∀ a ∈ as, a.kind = .goto → a.argument ∉ X) :
    run g w as = run g' w as := by
  induction as generalizing w with
  | nil          => rfl
  | cons a as hi =>
    have ⟨ha, has⟩ := List.forall_mem_cons.mp has
    simp only [run, List.foldlM_cons, step_congr hg ha]
    apply congrArg (step g' w a >>= ·)
    funext v
    exact hi has

theorem choose_congr (hg : g.SameBut X g')
    (has : ∀ as, p.choices.get? c = some as → ∀ a ∈ as, a.kind = .goto → a.argument ∉ X) :
    choose g p c = choose g' p c := by
  simp only [choose]
  cases hc : p.choices.get? c with
  | none    => rfl
  | some as => exact run_congr hg (has as hc)

theorem conclude_congr (hg : g.SameBut X g')
    (hs : c = .restart → p.Stays .restart → PlaceGraph.start ∉ X) :
    conclude g p c w = conclude g' p c w := by
  cases c
  case restart =>
    cases hn : navigates p .restart with
    | true  => simp only [conclude, hn, if_true]
    | false =>
      have he : g.get? PlaceGraph.start = g'.get? PlaceGraph.start :=
        hg _ (hs rfl (navigates_eq_false.mp hn))
      simp only [conclude, he]
  all_goals rfl

end Walk

namespace Ply

theorem spares_singleton {id : String} (hp : x.player.placeId ≠ id)
    (ht : ⟨.goto, id⟩ ∉ (g.choice? x.player.placeId x.command).getD []) (hs : PlaceGraph.start ≠ id) :
    x.Spares g {id} where
  here             := hp
  start _ _ _ _    := hs
  target as h a ha := by
    rintro hk rfl
    apply ht
    rw [h, ← hk]
    exact ha

theorem ofCommand_congr (hg : g.SameBut X g') (hx : x.Spares g X) :
    Walk.ofCommand g x.player.placeId x.command = Walk.ofCommand g' x.player.placeId x.command := by
  rw [Walk.ofCommand, Walk.ofCommand, ← hg _ hx.here]
  cases hp : g.get? x.player.placeId with
  | none   => rfl
  | some p =>
    have hc : Walk.choose g p x.command = Walk.choose g' p x.command :=
      Walk.choose_congr hg fun as h => hx.target as ((PlaceGraph.choice?_of_get? hp).trans h)
    simp only [hc]
    apply congrArg (Walk.choose g' p x.command >>= ·)
    funext w
    exact Walk.conclude_congr hg (hx.start p hp)

theorem execute_congr (hg : g.SameBut X g') (hx : x.Spares g X) :
    x.player.execute g x.now x.command = x.player.execute g' x.now x.command := by
  have hw : Walk.ofCommand g x.player.counted.placeId x.command
      = Walk.ofCommand g' x.player.counted.placeId x.command := ofCommand_congr hg hx
  simp only [Player.execute, hw]

end Ply

namespace Player

variable {q : Player} {ms : List Move}

-- Whatever becomes of the places that a player leaves alone, the run is the same, move by move.
theorem follow_sameBut (hg : g.SameBut X g') (hx : ∀ x ∈ q.plies g ms, x.Spares g X) :
    q.plies g' ms = q.plies g ms ∧ q.follow g' ms = q.follow g ms ∧
    ∀ x ∈ q.plies g ms, x.outcome g' = x.outcome g ∧ x.after g' = x.after g := by
  induction ms generalizing q with
  | nil          => simp [plies, follow]
  | cons m ms hi =>
    obtain ⟨hm, hx⟩ := List.forall_mem_cons.mp hx
    have he : q.execute g m.now m.command = q.execute g' m.now m.command := Ply.execute_congr hg hm
    have ha : Ply.after g' ⟨m, q⟩ = Ply.after g ⟨m, q⟩ := congrArg Prod.fst he.symm
    have ho : Ply.outcome g' ⟨m, q⟩ = Ply.outcome g ⟨m, q⟩ := congrArg Prod.snd he.symm
    obtain ⟨hp, hf, hr⟩ := hi hx
    refine ⟨?_, ?_, List.forall_mem_cons.mpr ⟨⟨ho, ha⟩, hr⟩⟩
    · rw [plies, plies, ha, hp]
    · rw [follow_cons, follow_cons, ha, hf]

end Player

-- A fork with a way on the left hand, where those who ask for a hint wait for ages, and one on the
-- right hand.
def PlaceGraph.fork (right : Place) : PlaceGraph where
  places := ⟨[
    ("start", {
      id      := "start"
      choices := ⟨[(.option 0, [⟨.goto, "left"⟩]), (.option 1, [⟨.goto, "right"⟩])], by decide⟩
    }),
    ("left", {
      id          := "left"
      description := some "Thorns."
      choices     := ⟨[(.hint, [⟨.pause, "ages"⟩])], by decide⟩
    }),
    ("right", right)
  ], show ["start", "left", "right"].Nodup by decide⟩

theorem PlaceGraph.sameBut_fork (p q : Place) : (fork p).SameBut {"right"} (fork q) := by
  intro id hid
  have hr : "right" ≠ id := Ne.symm hid
  simp [get?, fork, Ordered.get?, List.find?_cons, hr]

namespace Player

-- To the left, in vain for a hint, and back.
def stroll : List Move := [
  ⟨.morning, .option 0⟩, ⟨.morning, .hint⟩, ⟨.morning, .describe⟩, ⟨.morning, .restart⟩
]

theorem follow_sameBut_stroll :
    (PlaceGraph.fork { id := "right" }).SameBut {"right"}
      (.fork { id := "right", description := some "Daylight.", finished := true }) ∧
    (∀ x ∈ (fresh "traveller" .morning).plies (.fork { id := "right" }) stroll,
      x.Spares (.fork { id := "right" }) {"right"}) ∧
    ((fresh "traveller" .morning).follow
      (.fork { id := "right", description := some "Daylight.", finished := true }) stroll).placeId
        = "start" := by
  have hg : (PlaceGraph.fork { id := "right" }).SameBut {"right"}
      (.fork { id := "right", description := some "Daylight.", finished := true }) :=
    PlaceGraph.sameBut_fork _ _
  have hx : ∀ x ∈ (fresh "traveller" .morning).plies (.fork { id := "right" }) stroll,
      x.Spares (.fork { id := "right" }) {"right"} := by
    simp only [plies, stroll, List.forall_mem_cons]
    refine ⟨?_, ?_, ?_, ?_, List.forall_mem_nil _⟩ <;>
      exact Ply.spares_singleton (by decide) (by decide) (by decide)
  obtain ⟨_, hf, _⟩ := follow_sameBut hg hx
  exact ⟨hg, hx, hf ▸ rfl⟩

end Player
end Gamebook
