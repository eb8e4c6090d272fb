import GrowthGauge.Catalog
import GrowthGauge.Decision

namespace GrowthGauge

/-! ## Analysis

An analysis tells the verdict on a snippet and where it comes from: the catalog,
when the snippet is one of its entries, or the decision table, together with the
signals that it was given. -/

inductive Analysis
  | known (name : String) (verdict : Verdict)
  | estimated (signals : Signals) (verdict : Verdict)
deriving Repr, DecidableEq

inductive AnalysisError
  | emptySnippet
deriving Repr, DecidableEq

def AnalysisError.message : AnalysisError → String
  | emptySnippet => "Code cannot be empty"

namespace Analysis

def verdict : Analysis → Verdict
  | known _ verdict => verdict
  | estimated _ verdict => verdict

def source : Analysis → String
  | known .. => "known-example"
  | estimated .. => "heuristic"

/-- The warning that goes with an estimated verdict. -/
def accuracyDisclaimer : String :=
  "This is an automated analysis based on pattern detection and may not be " ++
  "accurate for complex algorithms. The analyzer supports multiple languages " ++
  "(JavaScript, Python, Java, C++, etc.) by detecting common patterns like loops, " ++
  "recursion, and divide-and-conquer. For more accurate results, especially with " ++
  "complex or optimized code, use AI analysis mode or perform manual review."

def disclaimer? : Analysis → Option String
  | known .. => none
  | estimated .. => some accuracyDisclaimer

def matchedName? : Analysis → Option String
  | known name _ => some name
  | estimated .. => none

def signals? : Analysis → Option Signals
  | known .. => none
  | estimated signals _ => some signals

end Analysis

def analyze (code : Text) : Except AnalysisError Analysis :=
  if code.isAllBlank then
    .error .emptySnippet
  else
    match Catalog.known? code with
    | some (entry, verdict) => .ok (.known entry.name verdict)
    | none =>
        let signals := scan code
        .ok (.estimated signals signals.verdict)

/-- The verdict alone. -/
def classify (code : Text) : Except AnalysisError Verdict :=
  if code.isAllBlank then
    .error .emptySnippet
  else
    match Catalog.known? code with
    | some (_, verdict) => .ok verdict
    | none => .ok (scan code).verdict

end GrowthGauge
