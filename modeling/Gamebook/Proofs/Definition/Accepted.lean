import Mathlib
import Gamebook.Definition.Source
import Gamebook.Proofs.Chain
import Gamebook.Proofs.Ordered

namespace Gamebook

-- What holds of every graph that a definition is read into: places are found under their own ids,
-- and there is a start.
structure PlaceGraph.WellFormed (g : PlaceGraph) : Prop where
  keyed : g.Keyed
  start : g.contains start

namespace Definition

theorem nameOf_eq_ok {key : Scalar} {name : String} :
    nameOf key = .ok name ↔ ¬key.isOversize ∧ name = key.toText := by
  rw [nameOf]
  split
  case isTrue h  => simp [h]
  case isFalse h => simp [h, eq_comm (a := name)]

@[simp]
theorem nameOf_text (s : String) : nameOf (.text s) = .ok s :=
  rfl

@[simp]
theorem textOf_text (s : String) : textOf (.scalar (.text s)) = .ok s :=
  rfl

theorem buildPlace_id {id : String} {path : Path} {d : Datum} {p : Place}
    (h : buildPlace id path d = .ok p) : p.id = id := by
  cases d
  case map cfg =>
    simp only [buildPlace, Chain.bind_eq_ok] at h
    have ⟨_, _, _, _, _, _, _, _, _, _, h⟩ := h
    cases h
    rfl
  all_goals contradiction

theorem keyed_addStart {places : Ordered String Place} (h : PlaceGraph.Keyed ⟨places⟩) :
    PlaceGraph.Keyed ⟨addStart places⟩ := by
  intro e he
  rw [addStart] at he
  split at he
  · exact h e he
  · cases Ordered.mem_of_mem_put he
    case inl he => exact he ▸ rfl
    case inr he => exact h e he

theorem contains_addStart (places : Ordered String Place) :
    (addStart places).contains PlaceGraph.start := by
  rw [addStart]
  split
  · assumption
  · exact Ordered.contains_iff.mpr (Ordered.mem_keys_insert.mpr (.inl rfl))

theorem wellFormed_of_build {d : Datum} {g : PlaceGraph} (h : build d = .ok g) :
    g.WellFormed := by
  cases d
  case map cfg =>
    simp only [build, Chain.bind_eq_ok] at h
    have ⟨entries, _, places, hp, h⟩ := h
    cases h
    refine ⟨keyed_addStart fun e he => ?_, contains_addStart _⟩
    have ⟨x, _, hx⟩ := Chain.exists_of_mem_mapM hp (Ordered.mem_of_mem_ofList he)
    have ⟨_, _, hx⟩ := Chain.bind_eq_ok.mp hx
    have ⟨_, hb, hx⟩ := Chain.bind_eq_ok.mp hx
    cases hx
    exact buildPlace_id hb
  all_goals contradiction

theorem wellFormed_of_parse {source : String} {hint : Option String} {g : PlaceGraph}
    (h : parse source hint = .ok g) : g.WellFormed := by
  rw [parse] at h
  split at h
  · have ⟨_, _, h⟩ := Chain.bind_eq_ok.mp h
    exact wellFormed_of_build h
  · cases h

-- What a definition in JSON is read into, by the characters of its text. A literal is the list of its
-- characters, so that nothing has to be decoded where a text is put together from literals.
theorem parse_of_readDocument {source : String} {cs : List Char} {j : Json} (ht : source.toList = cs)
    (hr : Json.readDocument cs = .ok j) : parse source (some "json") = build (.ofJson j) := by
  have hf : Format.ofHint? (some "json") = some .json := by decide
  have hj : Json.read source = .ok j := by
    rw [Json.read, ht, hr]
  rw [parse, hf]
  simp only [readAs, readJson, hj, Chain.ok_bind]

theorem toList_append_eq {s t : String} {cs ds : List Char} (hs : s.toList = cs) (ht : t.toList = ds) :
    (s ++ t).toList = cs ++ ds :=
  String.toList_append.trans (congrArg₂ _ hs ht)

end Definition
end Gamebook
