namespace GrowthGauge

/-! ## Growth

The orders of growth that an offline verdict may name, from the slowest to the
fastest. -/

inductive Growth
  | constant
  | logarithmic
  | linear
  | linearithmic
  | quadratic
  | cubic
  | exponential
deriving Repr, DecidableEq

namespace Growth

def all : List Growth :=
  [.constant, .logarithmic, .linear, .linearithmic, .quadratic, .cubic, .exponential]

def text : Growth → String
  | constant => "O(1)"
  | logarithmic => "O(log n)"
  | linear => "O(n)"
  | linearithmic => "O(n log n)"
  | quadratic => "O(n²)"
  | cubic => "O(n³)"
  | exponential => "O(2ⁿ)"

def ofText? (text : String) : Option Growth :=
  all.find? (·.text == text)

end Growth

/-! A verdict names the growth, explains it in a sentence and lists the steps
that lead to it. -/

structure Verdict where
  growth : Growth
  explanation : String
  steps : List String
deriving Repr, DecidableEq

end GrowthGauge
