import Gamebook.Path

namespace Gamebook

-- Why a value does not have the form that is asked of it.
inductive Misfit
  | missing
  | notRecord
  | notMembers
  | notMap
  | notTuple
  | notText
  | notWord
  | notInt
  | intText
  | intSize
  | intFraction
  | notFinite
  | notFlag
  | flagText
  | notFloat
  | floatText
  | notTime
  | noTag
  | unknownTag
  | notJson
deriving DecidableEq, Repr

def Misfit.name : Misfit → String
  | missing     => "missing"
  | notRecord   => "model_type"
  | notMembers  => "model_attributes_type"
  | notMap      => "dict_type"
  | notTuple    => "tuple_type"
  | notText     => "string_type"
  | notWord     => "enum"
  | notInt      => "int_type"
  | intText     => "int_parsing"
  | intSize     => "int_parsing_size"
  | intFraction => "int_from_float"
  | notFinite   => "finite_number"
  | notFlag     => "bool_type"
  | flagText    => "bool_parsing"
  | notFloat    => "float_type"
  | floatText   => "float_parsing"
  | notTime     => "datetime"
  | noTag       => "union_tag_not_found"
  | unknownTag  => "union_tag_invalid"
  | notJson     => "json_invalid"

structure Issue where
  path   : Path
  misfit : Misfit
deriving DecidableEq, Repr

-- A value of the form that was asked for, or all that keeps it from having that form.
inductive Checked (α : Type)
  | good (a : α)
  | bad (issues : List Issue)

namespace Checked

-- Two parts are both looked at, and the issues of both are kept.
def seq (f : Checked (α → β)) (x : Unit → Checked α) : Checked β :=
  match f, x () with
  | good f,  good a  => good (f a)
  | good _,  bad js  => bad js
  | bad is,  good _  => bad is
  | bad is,  bad js  => bad (is ++ js)

instance : Applicative Checked where
  pure := good
  seq  := seq

def fail (m : Misfit) : Checked α :=
  bad [⟨[], m⟩]

def orFail (m : Misfit) : Option α → Checked α
  | some a => good a
  | none   => fail m

-- What is wrong with a part, seen from the whole.
def under (s : Step) : Checked α → Checked α
  | good a => good a
  | bad is => bad (is.map fun i => ⟨s :: i.path, i.misfit⟩)

def toOption : Checked α → Option α
  | good a => some a
  | bad _  => none

end Checked
end Gamebook
