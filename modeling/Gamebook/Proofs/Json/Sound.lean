import Mathlib
import Gamebook.Proofs.Json.Float
import Gamebook.Proofs.Json.Textual

namespace Gamebook
namespace Json

-- Values that can be told in the format: whole numbers have room in what is written, and no name
-- comes twice in one object.
inductive Sound : Json → Prop
  | null                            : Sound .null
  | bool (b : Bool)                 : Sound (.bool b)
  | int (h : ¬isOversize (.int i))  : Sound (.int i)
  | float (h : f.Canonical)         : Sound (.float f)
  | str (s : String)                : Sound (.str s)
  | arr (h : ∀ x ∈ xs, Sound x)     : Sound (.arr xs)
  | obj (h : ∀ m ∈ ms, Sound m.snd) : (ms.map Prod.fst).Nodup → Sound (.obj ms)

namespace Sound

variable {j : Json}

theorem recoverable (h : Sound j) : Recoverable j := by
  induction h with
  | null        => exact .null
  | bool b      => exact .bool b
  | int h       => exact .int h
  | float h     => exact .float h
  | str s       => exact .str s
  | arr _ hi    => exact .arr hi
  | obj _ hn hi => exact .obj hi hn

theorem isWritable (h : Sound j) : j.IsWritable := by
  rw [IsWritable]
  induction h with
  | int h      =>
    rw [anyScalar]
    · exact Bool.eq_false_iff.mpr h
    all_goals exact nofun
  | arr _ hi   => exact anyItem_eq_false.mpr hi
  | obj _ _ hi => exact anyMember_eq_false.mpr hi
  | _          => rfl

end Sound

-- Values as a program has them, whether or not they can be told.
inductive Formed : Json → Prop
  | null                             : Formed .null
  | bool (b : Bool)                  : Formed (.bool b)
  | int (i : Int)                    : Formed (.int i)
  | float (h : f.Canonical)          : Formed (.float f)
  | str (s : String)                 : Formed (.str s)
  | arr (h : ∀ x ∈ xs, Formed x)     : Formed (.arr xs)
  | obj (h : ∀ m ∈ ms, Formed m.snd) : (ms.map Prod.fst).Nodup → Formed (.obj ms)

theorem Formed.sound {j : Json} (h : Formed j) (hw : j.IsWritable) : Sound j := by
  induction h with
  | null        => exact .null
  | bool b      => exact .bool b
  | int i       =>
    rw [IsWritable, anyScalar] at hw
    · exact .int (Bool.eq_false_iff.mp hw)
    all_goals exact nofun
  | float h     => exact .float h
  | str s       => exact .str s
  | arr _ hi    => exact .arr fun x hx => hi x hx (anyItem_eq_false.mp hw x hx)
  | obj _ hn hi => exact .obj (fun m hm => hi m hm (anyMember_eq_false.mp hw m hm)) hn

end Json
end Gamebook
