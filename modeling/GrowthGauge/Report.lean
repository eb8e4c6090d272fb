import GrowthGauge.Analysis
import GrowthGauge.Assistant.Suggestion

namespace GrowthGauge

/-! ## Reports

How signals, verdicts and analyses are written as records. -/

def Json.ofOption (write : α → Json) : Option α → Json
  | some value => write value
  | none => .null

def Json.strings (values : List String) : Json :=
  .array (values.map .string)

def Signals.toJson (signals : Signals) : Json :=
  .object
    [("loop_count", .integer signals.loops),
      ("max_nesting", .integer signals.deepest),
      ("is_indentation_based", .bool signals.layout.isIndented),
      ("function_name", .ofOption .string signals.functionName),
      ("recursive_call_sites", .integer signals.selfCalls),
      ("has_divide_by_two", .bool signals.halving),
      ("has_merge_hint", .bool signals.mergeHint)]

def Verdict.toJson (verdict : Verdict) : Json :=
  .object
    [("notation", .string verdict.growth.text),
      ("explanation", .string verdict.explanation),
      ("steps", .strings verdict.steps)]

def Assistant.Suggestion.toJson (suggestion : Assistant.Suggestion) : Json :=
  .object
    [("notation", .string suggestion.growth),
      ("explanation", .string suggestion.explanation),
      ("steps", .strings suggestion.steps)]

def Analysis.toJson (analysis : Analysis) : Json :=
  .object
    [("verdict", analysis.verdict.toJson),
      ("source", .string analysis.source),
      ("signals", .ofOption Signals.toJson analysis.signals?),
      ("matched_example", .ofOption .string analysis.matchedName?),
      ("disclaimer", .ofOption .string analysis.disclaimer?)]

/-- An entry as it is listed, without its verdict. -/
def CatalogEntry.listing (entry : CatalogEntry) : List (String × Json) :=
  [("name", .string entry.name),
    ("language", .string entry.language),
    ("description", .string entry.description),
    ("code", .string entry.code)]

def CatalogEntry.toJson (entry : CatalogEntry) : Json :=
  .object (entry.listing ++ [("verdict", .ofOption Verdict.toJson entry.verdict)])

end GrowthGauge
