import Mathlib
import Gamebook.Definition.Source
import Gamebook.Proofs.Definition.Echoed

namespace Gamebook

-- When a graph survives as YAML. Apostrophes lose a next line character. They are chosen for a text
-- with one unless it needs escapes or has spaces beside its line breaks. An id that shares its line
-- with the start of the place may take a thousand and twenty-four characters there.
structure PlaceGraph.SurvivesYaml (g : PlaceGraph) : Prop where
  texts : ∀ s ∈ g.ids ++ g.strings, '\x85' ∈ s.toList → ¬Yaml.Style.allowsSingle s.toList
  keys  : ∀ id ∈ g.ids, Yaml.Style.isSimpleKey id.toList → (Yaml.spelling id).length ≤ 1024

namespace Definition

open Yaml

variable {g g' : PlaceGraph} {f : String → String} {s : String}

theorem format_yaml : Format.ofHint? (some "yaml") = some .yaml := by
  decide

theorem write_yaml (g : PlaceGraph) : write g "yaml" = .ok (Yaml.render (dump g)) := by
  rw [write, format_yaml]
  rfl

theorem parse_dump (g : PlaceGraph) : parse (Yaml.render (dump g)) (some "yaml")
    = if g.ids.all fitsKey then build (echoOf (dump g)) else .error .invalidYaml := by
  rw [parse, format_yaml]
  simp only [readAs, readYaml, read_dump]
  cases g.ids.all fitsKey <;> rfl

-- Every id that is built is a key of the data, or that of the start.
theorem ids_of_build {es : List (Scalar × Datum)} (h : build (.map [(.text "places", .map es)]) = .ok g) {id : String}
    (hid : id ∈ g.ids) : id = PlaceGraph.start ∨ ∃ k ∈ es.map Prod.fst, id = k.toText := by
  have ho : optionalObject [(.text "places", .map es)] "places" [] = .ok es := by
    rw [optionalObject, Datum.member?, get?_single]
    rfl
  simp only [build, ho, Chain.ok_bind, Chain.bind_eq_ok] at h
  obtain ⟨places, hp, h⟩ := h
  cases h
  have hid : id = PlaceGraph.start ∨ id ∈ (Ordered.ofList places).keys := by
    rw [PlaceGraph.ids, addStart] at hid
    split at hid
    case isTrue  => exact .inr hid
    case isFalse => exact Ordered.mem_keys_insert.mp hid
  refine hid.imp_right fun hid => ?_
  obtain ⟨e, he, hid⟩ := List.mem_map.mp (Ordered.mem_keys_ofList.mp hid)
  obtain ⟨x, hx, he⟩ := Chain.exists_of_mem_mapM hp he
  obtain ⟨_, hn, he⟩ := Chain.bind_eq_ok.mp he
  obtain ⟨_, _, he⟩ := Chain.bind_eq_ok.mp he
  cases he
  exact ⟨x.1, List.mem_map_of_mem hx, hid ▸ (nameOf_eq_ok.mp hn).right⟩

-- An id that is not read as it is written is not among those that are read.
theorem heard_of_ids (h : build (echoOf (dump g)) = .ok g') (hi : g'.ids = g.ids) : ∀ id ∈ g.ids, heard id = id := by
  intro id hid
  rw [echoOf_dump] at h
  cases ids_of_build h (hi ▸ hid)
  case inl he => exact he ▸ heard_eq_self (by decide)
  case inr he =>
    have ⟨k, hk, he⟩ := he
    have ⟨e, he', hk⟩ := List.mem_map.mp (mem_keys_gather hk)
    have ⟨e'', _, he''⟩ := List.mem_map.mp he'
    have hid : id = heard e''.1 := by
      rw [he, ← hk, ← he'']
      rfl
    rw [hid, heard_heard]

theorem build_echo (hg : g.WellFormed) (h : ∀ id ∈ g.ids, heard id = id) :
    build (echoOf (dump g)) = .ok (g.mapTexts heard) := by
  rw [echoOf_dump_of_heard h, build_outline hg .text]

theorem fitsKey_iff : fitsKey s ↔ (Style.isSimpleKey s.toList → (spelling s).length ≤ 1024) := by
  rw [fitsKey, Bool.or_eq_true, Bool.not_eq_true', decide_eq_true_iff]
  cases Style.isSimpleKey s.toList <;> simp [Scanner.keyLimit]

theorem survivesYaml_iff :
    g.SurvivesYaml ↔ (∀ s ∈ g.ids ++ g.strings, heard s = s) ∧ g.ids.all fitsKey := by
  simp only [heard_eq_self_iff, List.all_eq_true, fitsKey_iff]
  exact ⟨fun h => ⟨h.texts, h.keys⟩, fun h => ⟨h.left, h.right⟩⟩

theorem parse_of_survivesYaml (hg : g.WellFormed) (h : g.SurvivesYaml) :
    parse (Yaml.render (dump g)) (some "yaml") = .ok g := by
  have ⟨ht, hk⟩ := survivesYaml_iff.mp h
  have ⟨hi, hs⟩ := List.forall_mem_append.mp ht
  rw [parse_dump, if_pos hk, build_echo hg hi, PlaceGraph.mapTexts_eq_self.mpr hs]

theorem survivesYaml_of_parse (hg : g.WellFormed) (h : parse (Yaml.render (dump g)) (some "yaml") = .ok g')
    (ha : g'.agree g) (hi : g'.ids = g.ids) : g.SurvivesYaml := by
  rw [parse_dump] at h
  split at h
  case isFalse => cases h
  case isTrue hk =>
    have hh := heard_of_ids h hi
    rw [build_echo hg hh] at h
    cases h
    exact survivesYaml_iff.mpr ⟨List.forall_mem_append.mpr ⟨hh, PlaceGraph.strings_of_agree ha⟩, hk⟩

-- A graph that a definition is read into comes back from the YAML text that is made of it if and only
-- if it survives that. Nothing that differs from it agrees with it and has its ids in their order.
theorem yaml_recovers_iff {source : String} {hint : Option String} (h : parse source hint = .ok g) :
    ∃ text, write g "yaml" = .ok text ∧ (parse text (some "yaml") = .ok g ↔ g.SurvivesYaml) ∧
      ∀ g', parse text (some "yaml") = .ok g' → g'.agree g → g'.ids = g.ids → g' = g := by
  have hg := wellFormed_of_parse h
  refine ⟨_, write_yaml g, ⟨fun h => ?_, parse_of_survivesYaml hg⟩, fun g' h ha hi => ?_⟩
  · exact survivesYaml_of_parse hg h g.agree_refl rfl
  · have h' := parse_of_survivesYaml hg (survivesYaml_of_parse hg h ha hi)
    exact Except.ok.inj (h.symm.trans h')

-- An id with a line break, a text that looks like none, and one that needs escapes.
def landmark : PlaceGraph where
  places := ⟨[
    ("start", { id := "start", description := some "null" }),
    ("the\nridge", {
      id      := "the\nridge"
      choices := ⟨[(.help, [⟨.say, "Up\r\x85Down"⟩])], by decide⟩
    })], by decide⟩

def landmarkText : String :=
  "\x7b\"places\": \x7b\"start\": \x7b\"description\": \"null\"\x7d, \"the\\nridge\": " ++
    "\x7b\"choices\": \x7b\"Help\": [\x7b\"say\": \"Up\\r\\u0085Down\"\x7d]\x7d\x7d\x7d\x7d"

def landmarkJson : Json :=
  .obj [("places", .obj [
    ("start", .obj [("description", .str "null")]),
    ("the\nridge", .obj [("choices", .obj [("Help", .arr [.obj [("say", .str "Up\r\x85Down")]])])])])]

theorem parse_landmark : parse landmarkText (some "json") = .ok landmark := by
  have ht : landmarkText.toList = _ := toList_append_eq String.toList_ofList String.toList_ofList
  rw [parse_of_readDocument (j := landmarkJson) ht (by cbv)]
  decide +kernel

theorem yaml_recovers_landmark :
    parse landmarkText (some "json") = .ok landmark ∧
    ∃ text, write landmark "yaml" = .ok text ∧ parse text (some "yaml") = .ok landmark := by
  have h := parse_landmark
  obtain ⟨text, hw, hp, _⟩ := yaml_recovers_iff h
  exact ⟨h, text, hw, hp.mpr ⟨by decide +kernel, by decide +kernel⟩⟩

-- An id with a next line character, and what comes back of it.

def faded (id : String) (h : ["start", id].Nodup) : PlaceGraph where
  places := ⟨[("start", { id := "start" }), (id, { id })], h⟩

def fadedText : String :=
  "\x7b\"places\": \x7b\"start\": \x7b\x7d, \"a\\u0085b\": \x7b\x7d\x7d\x7d"

theorem yaml_changes_faded :
    parse fadedText (some "json") = .ok (faded "a\x85b" (by decide)) ∧
    ∃ text, write (faded "a\x85b" (by decide)) "yaml" = .ok text ∧
      parse text (some "yaml") = .ok (faded "a b" (by decide)) ∧
      (faded "a b" (by decide)).ids ≠ (faded "a\x85b" (by decide)).ids := by
  have h : parse fadedText (some "json") = .ok (faded "a\x85b" (by decide)) := by
    cbv
  have hf : (faded "a\x85b" (by decide)).ids.all fitsKey := by decide +kernel
  have hs : heard "start" = "start" := heard_eq_self (by decide)
  have hi : heard "a\x85b" = "a b" := by
    rcases heard_cases "a\x85b" with ⟨_, hn⟩ | ⟨he, _⟩
    · exact absurd hn (by decide)
    · rw [he]
      cbv
  refine ⟨h, _, write_yaml _, ?_, by decide⟩
  rw [parse_dump, if_pos hf, echoOf_dump]
  simp only [faded, List.map_cons, List.map_nil, hs, hi]
  cbv

end Definition
end Gamebook
