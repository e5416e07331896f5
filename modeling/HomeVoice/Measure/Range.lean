import HomeVoice.Decimal.Text

/-!
# Values out of range

Some conversions are defined on a range of numbers only, or on all numbers above zero.
-/

namespace HomeVoice

/-- Why a value cannot be converted. -/
inductive RangeError where
  | outside (name : String) (value lowest highest : Binary64)
  | zero (name : String)
  deriving DecidableEq

/-- The text of an error. -/
def RangeError.message : RangeError → String
  | .outside name value lowest highest =>
    name ++ " " ++ value.text .message ++ " is outside " ++ lowest.text .message ++ "..="
      ++ highest.text .message
  | .zero name => name ++ " must be non-zero"

/-- A finite number between two bounds. -/
def RangeError.check (name : String) (value lowest highest : Binary64) :
    Except RangeError Binary64 :=
  if value.isFinite && lowest.le value && value.le highest then .ok value
  else .error (.outside name value lowest highest)

end HomeVoice
