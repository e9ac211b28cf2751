import Mathlib
import Gamebook.Proofs.Definition.Outline
import Gamebook.Proofs.Json.Textual

namespace Gamebook

theorem Datum.ofItems_eq_map (xs : List Json) : ofItems xs = xs.map ofJson := by
  induction xs with
  | nil          => rfl
  | cons x xs hi => rw [ofItems, List.map_cons, hi]

theorem Datum.ofMembers_eq_map (ms : List (String × Json)) :
    ofMembers ms = ms.map fun m => (.text m.1, ofJson m.2) := by
  induction ms with
  | nil          => rfl
  | cons m ms hi => rw [ofMembers, List.map_cons, hi]

namespace Definition

-- The data that is written of a graph, as JSON holds it.

theorem ofJson_dumpChoices (choices : Ordered Command (List Action)) :
    Datum.ofJson (dumpChoices choices) = outlineChoices id choices := by
  rw [dumpChoices, outlineChoices, Datum.ofJson, Datum.ofMembers_eq_map, List.map_map]
  refine congrArg Datum.map (List.map_congr_left fun e _ => ?_)
  rw [Function.comp_apply, Datum.ofJson, Datum.ofItems_eq_map, List.map_map]
  rfl

theorem ofJson_dumpPlace (p : Place) :
    Datum.ofJson (dumpPlace p) = .map (outlineMembers id (.bool true) p) := by
  simp only [dumpPlace, outlineMembers, Datum.ofJson, Datum.ofMembers_eq_map, ← ofJson_dumpChoices]
  cases p.description <;> cases p.instructions <;> cases p.finished <;>
    cases p.choices.entries.isEmpty <;> rfl

theorem ofJson_dump (g : PlaceGraph) : Datum.ofJson (dump g) = outline id (.bool true) g := by
  simp only [dump, outline, Datum.ofJson, Datum.ofMembers_eq_map, List.map_map, List.map_cons,
    List.map_nil, Function.comp_def, ofJson_dumpPlace]

theorem textual_dumpAction (a : Action) : (dumpAction a).Textual := by
  refine .obj (fun m hm => ?_) (by simp)
  cases List.mem_singleton.mp hm
  exact .str _

theorem textual_dumpChoices (choices : Ordered Command (List Action)) :
    (dumpChoices choices).Textual := by
  refine .obj (fun m hm => ?_) ?_
  · have ⟨e, _, hm⟩ := List.mem_map.mp hm
    refine hm ▸ .arr fun x hx => ?_
    have ⟨a, _, hx⟩ := List.mem_map.mp hx
    exact hx ▸ textual_dumpAction a
  · have hn : ((choices.entries.map Prod.fst).map Command.name).Nodup :=
      List.Pairwise.map _ (fun _ _ h he => h (Command.name_injective he)) choices.nodup
    rw [List.map_map] at hn ⊢
    exact hn

theorem textual_dumpPlace (p : Place) : (dumpPlace p).Textual := by
  have hc := textual_dumpChoices p.choices
  rw [dumpPlace]
  refine .obj ?_ ?_
  · cases p.description <;> cases p.instructions <;> cases p.finished <;>
      cases p.choices.entries.isEmpty <;> simp [hc, Json.Textual.str, Json.Textual.bool]
  · cases p.description <;> cases p.instructions <;> cases p.finished <;>
      cases p.choices.entries.isEmpty <;> simp

theorem textual_dump (g : PlaceGraph) : (dump g).Textual := by
  refine .obj (fun m hm => ?_) (by simp)
  cases List.mem_singleton.mp hm
  refine .obj (fun m hm => ?_) ?_
  · have ⟨e, _, hm⟩ := List.mem_map.mp hm
    exact hm ▸ textual_dumpPlace e.2
  · rw [List.map_map]
    exact g.places.nodup

end Definition
end Gamebook
