import Mathlib
import Gamebook.Proofs.Story.Uttered

namespace Gamebook

namespace PlaceGraph

-- A pause that some choice of an adventure makes.
def Pauses (g : PlaceGraph) (f : Binary64) : Prop :=
  ∃ p ∈ g.places.values, ∃ as ∈ p.choices.values, ∃ a ∈ as, a.kind = .pause ∧ delay a.argument = .ok f

-- What may be told anywhere in an adventure. An ending is told of only where one is reached.
structure Tells (g : PlaceGraph) (d : Directive) : Prop where
  not_finished : d ≠ .finished
  pauses       : ∀ f, d = .delay f → g.Pauses f

namespace Tells

variable {g : PlaceGraph} {q : Place} {d : Directive} {f : Binary64}

theorem say (s : String) : g.Tells (.say s) where
  not_finished := nofun
  pauses       := nofun

theorem play (s : String) : g.Tells (.play s) where
  not_finished := nofun
  pauses       := nofun

theorem bye : g.Tells .bye where
  not_finished := nofun
  pauses       := nofun

theorem notUnderstood : g.Tells .notUnderstood where
  not_finished := nofun
  pauses       := nofun

theorem delay (h : g.Pauses f) : g.Tells (.delay f) where
  not_finished := nofun
  pauses _ he  := Directive.delay.inj he ▸ h

theorem of_mem_text {text : Option String} (h : d ∈ (text.map Directive.say).toList) : g.Tells d := by
  have ⟨s, _, hd⟩ := Option.map_eq_some_iff.mp (Option.mem_toList.mp h)
  exact hd ▸ say s

theorem of_mem_texts (h : d ∈ q.texts) : g.Tells d :=
  (List.mem_append.mp h).elim of_mem_text of_mem_text

theorem of_utters (h : g.Utters d) : g.Tells d := by
  cases h with
  | text _ hd            => exact of_mem_texts hd
  | own hd               => exact hd.elim (· ▸ notUnderstood) (· ▸ bye)
  | @action p as a hp has ha hd =>
    rw [Action.Utters] at hd
    split at hd
    case h_1    => cases hd
    case h_2    => exact hd ▸ say _
    case h_3 hk =>
      obtain ⟨f, hf, rfl⟩ := hd
      exact delay ⟨p, hp, as, has, a, ha, hk, hf⟩
    case h_4    => exact hd ▸ play _

end Tells
end PlaceGraph

-- The walks on which a command can lead, and those on the way.
inductive Walked (g : PlaceGraph) : Walk → Prop
  | here (q : Place) : Walked g (.at q)
  | tell {w : Walk} {ds : List Directive} (hw : Walked g w) (hd : ∀ d ∈ ds, g.Tells d) : Walked g (w.add ds)
  | goto {w : Walk} (hw : Walked g w) (q : Place) : Walked g (w.goto q)
  | back {w : Walk} (hw : Walked g w) (q : Place) : Walked g { w with place := q }

theorem PlaceGraph.tells_of_uttered {g : PlaceGraph} {d : Directive}
    (h : d = .say Player.apology ∨ d = .finished ∨ g.Utters d) : d = .finished ∨ g.Tells d := by
  rcases h with rfl | rfl | h
  · exact .inr (.say _)
  · exact .inl rfl
  · exact .inr (.of_utters h)

theorem Walk.Taken.walked {g : PlaceGraph} {w : Walk} (h : Taken g w) : Walked g w := by
  induction h with
  | here         => exact .here _
  | tell _ hd hi => exact hi.tell fun d hm => .of_utters (hd d hm)
  | goto _ _ hi  => exact hi.goto _
  | back _ _ hi  => exact hi.back _

theorem Walked.ofCommand {g : PlaceGraph} {w : Walk} {c : Command} {id : String} (h : Walk.ofCommand g id c = .ok w) :
    Walked g w :=
  (Walk.Taken.ofCommand h).walked

end Gamebook
