import Mathlib
import Gamebook.Definition.File
import Gamebook.Proofs.Definition.Written
import Gamebook.Proofs.Files.Written

namespace Gamebook
namespace Definition

variable {g : PlaceGraph}

theorem format_json : Format.ofHint? (some "json") = some .json := by
  decide

theorem format_json_suffix : Format.ofHint? (some ".json") = some .json := by
  decide

theorem write_json (g : PlaceGraph) : write g "json" = .ok (dump g).render := by
  rw [write, format_json]
  rfl

theorem build_dump (hg : g.WellFormed) : build (.ofJson (dump g)) = .ok g := by
  have hm : g.mapTexts id = g := PlaceGraph.mapTexts_eq_self.mpr fun _ _ => rfl
  rw [ofJson_dump, build_outline hg .bool, hm]

theorem parse_render {hint : String} (hf : Format.ofHint? (some hint) = some .json) (hg : g.WellFormed) :
    parse (dump g).render (some hint) = .ok g := by
  rw [parse, hf]
  simp only [readAs, readJson, (textual_dump g).read_render, Chain.ok_bind]
  exact build_dump hg

-- No line end is changed when the text of a graph is read from a file.
theorem decode_render (g : PlaceGraph) :
    FileText.decode (FileText.encode (dump g).render) = some (dump g).render :=
  FileText.decode_encode (dump g).no_return

theorem load_written {fs fs' : Files} {p : PathName} (hp : p.suffix = ".json") (hg : g.WellFormed)
    (h : fs.write p (FileText.encode (dump g).render) = .ok fs') : load fs' p = .ok g := by
  rw [load, Files.read_write h]
  simp only [Except.mapError, Chain.ok_bind, decode_render, hp, parse_render format_json_suffix hg]

-- Every graph that a definition is read into comes back from the data, the text and the file that
-- are made of it.
theorem json_recovers {source : String} {hint : Option String} (h : parse source hint = .ok g) :
    build (.ofJson (dump g)) = .ok g ∧
    ∃ text, write g "json" = .ok text ∧ parse text (some "json") = .ok g ∧
      ∀ (fs fs' : Files) (p : PathName), p.suffix = ".json" →
        fs.write p (FileText.encode text) = .ok fs' → load fs' p = .ok g := by
  have hg := wellFormed_of_parse h
  refine ⟨build_dump hg, _, write_json g, parse_render format_json hg, ?_⟩
  intro fs fs' p hp hw
  exact load_written hp hg hw

-- A start with one choice, which says a text with two kinds of line ends in it.
def landing : PlaceGraph where
  places := ⟨[("start", {
    id      := "start"
    choices := ⟨[(.option 1, [⟨.say, "Up\r\x85Down"⟩])], by decide⟩
  })], by decide⟩

def landingText : String :=
  "\x7b\"places\": \x7b\"start\": \x7b\"choices\": \x7b\"2\": " ++
    "[\x7b\"say\": \"Up\\r\\u0085Down\"\x7d]\x7d\x7d\x7d\x7d"

def landingJson : Json :=
  .obj [("places", .obj [("start", .obj [("choices", .obj [("2", .arr
    [.obj [("say", .str "Up\r\x85Down")]])])])])]

theorem parse_landing : parse landingText (some "json") = .ok landing := by
  have ht : landingText.toList = _ := toList_append_eq String.toList_ofList String.toList_ofList
  rw [parse_of_readDocument (j := landingJson) ht (by cbv)]
  decide +kernel

theorem json_recovers_landing :
    parse landingText (some "json") = .ok landing ∧
    build (.ofJson (dump landing)) = .ok landing ∧
    ∃ text fs, write landing "json" = .ok text ∧ parse text (some "json") = .ok landing ∧
      Files.empty.write (.ofNames ["story.json"]) (FileText.encode text) = .ok fs ∧
      load fs (.ofNames ["story.json"]) = .ok landing := by
  have h := parse_landing
  obtain ⟨hb, text, hw, hp, hl⟩ := json_recovers h
  have hf : Files.empty.write (.ofNames ["story.json"]) (FileText.encode text) = .ok _ := rfl
  exact ⟨h, hb, text, _, hw, hp, hf, hl _ _ _ (by decide) hf⟩

end Definition
end Gamebook
