namespace Gamebook
namespace Yaml

-- A tagged scalar, or an escape, that is well-formed and yet stands for nothing.
inductive Unfit
  | codePoint
  | hugeCodePoint
  | number
  | hugeNumber
  | noDigits
  | boolean
  | timestamp
  | calendar
deriving DecidableEq, Repr

-- Why a text is not read: it is not YAML, or it is and a scalar in it is unfit.
inductive Fault
  | malformed
  | unfit (why : Unfit)
deriving DecidableEq, Repr

end Yaml
end Gamebook
