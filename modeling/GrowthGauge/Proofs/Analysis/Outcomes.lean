import GrowthGauge.Analysis
import GrowthGauge.Proofs.Text.Joined
import GrowthGauge.Proofs.Text.Strip
import Mathlib.Data.List.Nodup

namespace GrowthGauge

/-! ## Looking a snippet up

The codes of the catalog are stripped and differ from each other. So an entry is found for
exactly its own code, whatever blanks stand around it. -/

namespace Catalog

/-- The snippet is the code of an entry that carries this verdict. -/
structure Holds (code : Text) (entry : CatalogEntry) (verdict : Verdict) : Prop where
  listed : entry ∈ entries
  judged : entry.verdict = some verdict
  same : code.strip = entry.code.toList

theorem strip_snippet {first last : String} {rest : List String}
    (isLast : (first :: rest).getLast? = some last)
    (starts : first.toList.head?.any (!isBlank ·) = true)
    (ends : last.toList.getLast?.any (!isBlank ·) = true) :
    Text.strip (snippet (first :: rest)).toList = (snippet (first :: rest)).toList := by
  have written : (snippet (first :: rest)).toList =
      Text.joined (first.toList :: rest.map String.toList) :=
    String.toList_intercalate
  have firstInked : first.toList ≠ [] := by
    intro empty
    rw [empty] at starts
    cases starts
  have lastInked : last.toList ≠ [] := by
    intro empty
    rw [empty] at ends
    cases ends
  have lastLine : (first.toList :: rest.map String.toList).getLast? = some last.toList := by
    rw [← List.map_cons, List.getLast?_map, isLast]
    rfl
  rw [written]
  apply Text.strip_eq_self
  · rw [Text.head?_joined firstInked]
    cases head : first.toList.head? with
    | none => rfl
    | some character => rwa [head] at starts
  · rw [Text.getLast?_joined lastLine lastInked]
    cases last : last.toList.getLast? with
    | none => rfl
    | some character => rwa [last] at ends

theorem strip_code {entry : CatalogEntry} (member : entry ∈ entries) :
    Text.strip entry.code.toList = entry.code.toList := by
  simp only [entries, List.mem_cons, List.not_mem_nil, or_false] at member
  rcases member with rfl | rfl | rfl | rfl | rfl | rfl | rfl | rfl | rfl | rfl | rfl | rfl <;>
    exact strip_snippet rfl (by decide) (by decide)

theorem nodup_codes : (entries.map (·.code)).Nodup := by
  decide +kernel

theorem Holds.unique {code : Text} {entry other : CatalogEntry} {verdict otherVerdict : Verdict}
    (holds : Holds code entry verdict) (otherHolds : Holds code other otherVerdict) :
    entry = other ∧ verdict = otherVerdict := by
  have sameCode : entry.code = other.code :=
    String.toList_inj.mp (holds.same.symm.trans otherHolds.same)
  have same : entry = other :=
    List.inj_on_of_nodup_map nodup_codes holds.listed otherHolds.listed sameCode
  subst same
  exact ⟨rfl, Option.some.inj (holds.judged.symm.trans otherHolds.judged)⟩

theorem holds_of_known? {code : Text} {entry : CatalogEntry} {verdict : Verdict}
    (known : known? code = some (entry, verdict)) : Holds code entry verdict := by
  rcases List.exists_of_findSome?_eq_some known with ⟨candidate, listed, found⟩
  rcases Option.bind_eq_some_iff.mp found with ⟨stored, judged, isCode⟩
  split at isCode
  · next same =>
      cases isCode
      rw [beq_iff_eq, strip_code listed] at same
      exact ⟨listed, judged, same.symm⟩
  · cases isCode

theorem known?_eq_none_iff (code : Text) :
    known? code = none ↔ ∀ entry verdict, ¬Holds code entry verdict := by
  constructor
  · intro unknown entry verdict holds
    have missed := List.findSome?_eq_none_iff.mp unknown entry holds.listed
    rw [holds.judged, Option.bind_some, strip_code holds.listed, holds.same, beq_self_eq_true,
      if_pos rfl] at missed
    cases missed
  · intro unlisted
    cases found : known? code with
    | none => rfl
    | some known => exact absurd (holds_of_known? found) (unlisted known.1 known.2)

theorem known?_of_holds {code : Text} {entry : CatalogEntry} {verdict : Verdict}
    (holds : Holds code entry verdict) : known? code = some (entry, verdict) := by
  cases found : known? code with
  | none => exact absurd holds ((known?_eq_none_iff code).mp found entry verdict)
  | some known =>
      rcases (holds_of_known? found).unique holds with ⟨sameEntry, sameVerdict⟩
      rw [← sameEntry, ← sameVerdict]

theorem Holds.inked {code : Text} {entry : CatalogEntry} {verdict : Verdict}
    (holds : Holds code entry verdict) : code.isAllBlank = false := by
  rw [Bool.eq_false_iff]
  intro blank
  have empty : entry.code = "" := by
    rw [← String.toList_inj, ← holds.same, (Text.strip_eq_nil_iff code).mpr blank]
    rfl
  have noneEmpty : "" ∉ entries.map (·.code) := by decide +kernel
  exact noneEmpty (empty ▸ List.mem_map_of_mem holds.listed)

end Catalog

/-! ## Outcomes

An analysis tells the verdict of the catalog and the entry it comes from, or else the
verdict of the decision table, with the signals and a warning. -/

/-- The first rule of the table that applies to the signals. -/
def DecisionRule.IsFirst (rule : DecisionRule) (signals : Signals) : Prop :=
  ∃ before after, all = before ++ rule :: after ∧ rule.applies signals = true ∧
    ∀ earlier ∈ before, earlier.applies signals = false

theorem DecisionRule.isFirst_deciding (signals : Signals) :
    (deciding signals).IsFirst signals := by
  rcases List.find?_eq_some_iff_append.mp (find?_deciding signals) with
    ⟨applies, before, after, split, skipped⟩
  refine ⟨before, after, split, applies, ?_⟩
  intro earlier member
  simpa using skipped earlier member

namespace Analysis

structure IsKnown (analysis : Analysis) (entry : CatalogEntry) (verdict : Verdict) : Prop where
  source : analysis.source = "known-example"
  verdict : analysis.verdict = verdict
  matched : analysis.matchedName? = some entry.name
  signals : analysis.signals? = none
  disclaimer : analysis.disclaimer? = none

structure IsEstimate (analysis : Analysis) (code : Text) : Prop where
  source : analysis.source = "heuristic"
  verdict : ∃ rule : DecisionRule, rule.IsFirst (scan code) ∧
    analysis.verdict = rule.verdict (scan code)
  matched : analysis.matchedName? = none
  signals : analysis.signals? = some (scan code)
  disclaimer : analysis.disclaimer? = some accuracyDisclaimer

end Analysis

theorem analyze_of_holds {code : Text} {entry : CatalogEntry} {verdict : Verdict}
    (holds : Catalog.Holds code entry verdict) : analyze code = .ok (.known entry.name verdict) := by
  rw [analyze, holds.inked, if_neg Bool.false_ne_true, Catalog.known?_of_holds holds]

theorem analyze_of_unknown {code : Text} (inked : code.isAllBlank = false)
    (unknown : Catalog.known? code = none) :
    analyze code = .ok (.estimated (scan code) (scan code).verdict) := by
  rw [analyze, inked, if_neg Bool.false_ne_true, unknown]

theorem analyze_eq_error_iff (code : Text) :
    analyze code = .error .emptySnippet ↔ code.isAllBlank = true := by
  cases blank : code.isAllBlank with
  | true => simp [analyze, blank]
  | false =>
      rw [analyze, blank, if_neg Bool.false_ne_true]
      cases Catalog.known? code <;> simp

/-- The verdict alone is the verdict of the analysis. -/
theorem classify_eq_map_analyze (code : Text) :
    classify code = (analyze code).map Analysis.verdict := by
  rw [classify, analyze]
  cases code.isAllBlank with
  | true => rfl
  | false => cases Catalog.known? code <;> rfl

/-- Blank code is refused, the code of a catalog entry gets what the entry says, and any
other code gets what the table says. The verdict that is asked for alone is the same. -/
theorem analyze_outcomes (code : Text) :
    (analyze code = .error .emptySnippet ↔ ∀ character ∈ code, isBlank character = true) ∧
    (classify code = .error .emptySnippet ↔ ∀ character ∈ code, isBlank character = true) ∧
    classify code = (analyze code).map Analysis.verdict ∧
    (∀ entry verdict, Catalog.Holds code entry verdict →
      ∃ analysis, analyze code = .ok analysis ∧ analysis.IsKnown entry verdict) ∧
    ((∃ character ∈ code, isBlank character = false) →
      (¬∃ entry verdict, Catalog.Holds code entry verdict) →
        ∃ analysis, analyze code = .ok analysis ∧ analysis.IsEstimate code) := by
  have refused : analyze code = .error .emptySnippet ↔
      ∀ character ∈ code, isBlank character = true :=
    (analyze_eq_error_iff code).trans Text.isAllBlank_iff
  have agree := classify_eq_map_analyze code
  refine ⟨refused, ?_, agree, ?_, ?_⟩
  · rw [← refused, agree]
    cases analyze code <;> simp [Except.map]
  · intro entry verdict holds
    exact ⟨_, analyze_of_holds holds, rfl, rfl, rfl, rfl, rfl⟩
  · intro inked unlisted
    have notBlank : code.isAllBlank = false := by
      rcases inked with ⟨character, member, inked⟩
      exact List.all_eq_false.mpr ⟨character, member, ne_true_of_eq_false inked⟩
    have unknown : Catalog.known? code = none := by
      rw [Catalog.known?_eq_none_iff]
      intro entry verdict holds
      exact unlisted ⟨entry, verdict, holds⟩
    exact ⟨_, analyze_of_unknown notBlank unknown, rfl,
      ⟨_, DecisionRule.isFirst_deciding (scan code), rfl⟩, rfl, rfl, rfl⟩

end GrowthGauge
