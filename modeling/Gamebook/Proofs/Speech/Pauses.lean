import Mathlib
import Gamebook.Proofs.Number.Rounding
import Gamebook.Proofs.Skill.Spoken

namespace Gamebook

variable {g : PlaceGraph} {d : Directive} {f : Binary64} {now : Timestamp} {p : Player} {c : Command}
  {plan : Skill.Plan} {r : Response}

theorem Binary64.ofInt_thousand : ofInt 1000 = finite false (1000 * 2 ^ 43) (-43) := by
  decide

theorem Binary64.magnitude_thousand : (ofInt 1000).magnitude = 1000 := by
  rw [ofInt_thousand, magnitude]
  norm_num

-- The milliseconds of a pause are counted as long as their number is not rounded to infinity.
theorem Speech.exists_milliseconds (h : f.isFinite) :
    (∃ ms, milliseconds f = .ok ms) ↔ f.magnitude * 1000 < Binary64.ceiling := by
  cases f with
  | finite n m e =>
    rw [← Binary64.magnitude_thousand, Binary64.ofInt_thousand, ← Binary64.isFinite_mul,
      ← Binary64.ofInt_thousand, milliseconds]
    cases (Binary64.finite n m e).mul (.ofInt 1000) <;> simp [Binary64.isFinite]
  | _ => cases h

theorem of_delay_eq_ok {v : String} (h : delay v = .ok f) : f.isFinite ∧ ¬f.isNegative := by
  rw [delay] at h
  split at h
  case h_1 =>
    split at h
    case isTrue hf =>
      cases h
      simpa using hf
    case isFalse => cases h
  case h_2 => cases h

namespace Directive

-- A pause that is short enough for its milliseconds to be counted, or something else.
def IsShort (d : Directive) : Prop :=
  ∀ f, d = .delay f → f.magnitude * 1000 < Binary64.ceiling

theorem isMeasured_iff (h : d = .finished ∨ g.Tells d) : d.IsMeasured ↔ d.IsShort := by
  refine forall₂_congr fun f hf => Speech.exists_milliseconds ?_
  obtain ⟨_, _, _, _, _, _, _, hv⟩ := (h.resolve_left (by simp [hf])).pauses f hf
  exact (of_delay_eq_ok hv).left

end Directive

theorem Skill.Turn.isMeasured_said : (∀ d ∈ (take g now p plan).said, d.IsMeasured) ↔
    ∀ d ∈ (take g now p plan).said, d.IsShort :=
  forall₂_congr fun _ hd => Directive.isMeasured_iff (tells_of_said hd)

-- What a command has come to can be rendered with any address if its pauses are short.
theorem Player.ofResponse_of_execute (h : (p.execute g now c).2 = .ok r) (address : String) :
    (∃ speech, Speech.ofResponse address r = .ok speech) ↔ ∀ d ∈ r.flatten, d.IsShort := by
  rw [Speech.ofResponse_eq_ok]
  refine forall₂_congr fun d hd => Directive.isMeasured_iff (g := g) ?_
  exact tells_of_attempt (by rwa [attempt_of_ok h])

end Gamebook
