namespace GrowthGauge.Json

/-! ## Why a text is not read as JSON

Besides texts that are not JSON, some are JSON but go beyond a limit of the
reader: they nest too deeply or have too long an integer. -/

inductive ReadError
  | malformed
  | tooDeep
  | oversizedInteger (digits : Nat)
  | undecodable
deriving Repr, DecidableEq

namespace ReadError

/-- The most digits that an integer has. -/
def digitLimit : Nat := 4300

/-- How many arrays and objects may stand in each other. -/
def depthLimit : Nat := 970

def message : ReadError → String
  | malformed => "The text is not JSON"
  | tooDeep => "The text nests too deeply"
  | oversizedInteger digits =>
      s!"Exceeds the limit ({digitLimit} digits) for integer string conversion: value has " ++
        s!"{digits} digits; use sys.set_int_max_str_digits() to increase the limit"
  | undecodable => "The bytes are no text"

end ReadError

end GrowthGauge.Json
