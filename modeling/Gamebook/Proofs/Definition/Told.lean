import Mathlib
import Gamebook.Proofs.Definition.Loading
import Gamebook.Proofs.Yaml.Fitting
import Gamebook.Proofs.Yaml.Nodes

namespace Gamebook
namespace Definition

open Chain

variable {fs : Files} {p : PathName} {content : ByteArray} {stamp : Stamp} {source : String} {hint : Option String}

-- A text in which no number is too long and, if it is YAML, every tag is given to what it asks for.

def Format.IsPlain : Format → String → Prop
  | .json, source => ¬Numeral.HasLongRun source.toList
  | .yaml, source => Yaml.Fits source

def IsPlain (source : String) (hint : Option String) : Prop :=
  ∀ f, Format.ofHint? hint = some f → f.IsPlain source

-- In JSON only a number can be wrong in a way of which nobody is told.
theorem tells_parse_json (h : Format.ofHint? hint = some .json) :
    Tells (parse source hint) ↔ Json.read source ≠ .error .numberTooLong := by
  rw [parse, h]
  simp only [readAs, readJson]
  cases hr : Json.read source with
  | ok j    =>
    refine iff_of_true (tells_build (Datum.isModest_ofJson (Json.isWritable_of_read hr))) fun h => ?_
    cases h
  | error e =>
    cases e with
    | numberTooLong =>
      refine iff_of_false (fun h => ?_) (· rfl)
      cases h.of_error
    | malformed cause offset =>
      refine iff_of_true (.error rfl) fun h => ?_
      cases h

theorem tells_parse_yaml (hf : Format.ofHint? hint = some .yaml) (h : Yaml.Fits source) :
    Tells (parse source hint) := by
  have hr := Yaml.fails_read h
  rw [parse, hf]
  simp only [readAs, readYaml]
  cases hd : Yaml.read source with
  | ok d    => exact tells_build (hd ▸ hr).of_ok
  | error e =>
    obtain rfl := (hd ▸ hr).of_error
    exact .error rfl

-- From a plain text a graph is read, or it can be told why not.
theorem tells_parse (h : IsPlain source hint) : Tells (parse source hint) := by
  cases hf : Format.ofHint? hint with
  | none   =>
    rw [parse, hf]
    exact .error rfl
  | some f =>
    have h := h f hf
    cases f
    case json => exact (tells_parse_json hf).mpr fun hr => h (Json.hasLongRun_of_read hr)
    case yaml => exact tells_parse_yaml hf h

-- A graph is loaded, or it can be told why not.
def TellsOf (r : Except LoadError PlaceGraph) : Prop :=
  Within LoadError.IsTold (fun _ => True) r

theorem tellsOf_ofBytes {hint : String} :
    TellsOf (ofBytes content hint) ↔
      ∃ source, FileText.decode content = some source ∧ Tells (parse source (some hint)) := by
  rw [ofBytes]
  cases FileText.decode content with
  | none        =>
    refine iff_of_false (fun h => h.of_error) ?_
    rintro ⟨_, ⟨⟩, _⟩
  | some source =>
    simp only [Option.some.injEq, exists_eq_left']
    cases parse source (some hint) with
    | ok g    => exact iff_of_true (.ok trivial) (.ok g)
    | error e => exact ⟨fun h => .error h.of_error, fun h => .error h.of_error⟩

end Definition
end Gamebook
