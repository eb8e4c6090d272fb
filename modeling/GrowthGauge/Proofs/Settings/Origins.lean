import GrowthGauge.Proofs.Text.Strip
import GrowthGauge.Settings

namespace GrowthGauge

namespace Text

/-! ## Pieces between separators

The pieces of a text are what the library's splitting of lists gives, so joining them
restores the text. -/

theorem piecesFrom_eq (separator : Char) (current text : Text) :
    piecesFrom separator current text = text.splitOnPPrepend (· == separator) current := by
  induction text generalizing current with
  | nil => rfl
  | cons character rest induction =>
      rw [piecesFrom, List.splitOnPPrepend_cons_eq_if, induction, induction,
        List.splitOnPPrepend_nil_right]

theorem pieces_eq_splitOn (separator : Char) (text : Text) :
    pieces separator text = text.splitOn separator :=
  piecesFrom_eq separator [] text

theorem not_mem_of_mem_splitOn {separator : Char} {text piece : Text}
    (member : piece ∈ text.splitOn separator) : separator ∉ piece := by
  induction text generalizing piece with
  | nil =>
      rw [List.splitOn_nil, List.mem_singleton] at member
      exact member ▸ List.not_mem_nil
  | cons character rest induction =>
      rw [List.splitOn_cons_eq_if_modifyHead] at member
      split at member
      · rcases List.mem_cons.mp member with rfl | later
        · exact List.not_mem_nil
        · exact induction later
      · next other =>
          rcases List.exists_cons_of_ne_nil (List.splitOn_ne_nil separator rest) with
            ⟨first, others, pieces⟩
          rw [pieces, List.modifyHead_cons] at member
          rw [pieces] at induction
          rcases List.mem_cons.mp member with rfl | later
          · rw [List.mem_cons, not_or]
            exact ⟨fun same => other (beq_iff_eq.mpr same.symm), induction List.mem_cons_self⟩
          · exact induction (List.mem_cons_of_mem first later)

end Text

/-! ## Lists of origins

An origin that is allowed stands between two commas, without the blanks around it. A star
stands for all origins and makes the others pointless. A list of origins can be written
with commas between them, and is read again as it is. -/

/-- An origin can stand in a list of origins. -/
structure IsOrigin (origin : Text) : Prop where
  named : origin ≠ []
  commaless : ',' ∉ origin
  first : origin.head?.all (!isBlank ·) = true
  last : origin.getLast?.all (!isBlank ·) = true

/-- The origins that are named between the commas of a text, a star among them. -/
def Text.namedOrigins (text : Text) : List Text :=
  ((text.splitOn ',').filter (!Text.isAllBlank ·)).map Text.strip

/-- What the origins are that a text allows. -/
structure AllowedBy (text : Text) (origins : List Text) : Prop where
  areOrigins : ∀ origin ∈ origins, IsOrigin origin
  of_star : (∃ piece ∈ text.splitOn ',', Text.strip piece = ['*']) → origins = [['*']]
  of_no_star : (∀ piece ∈ text.splitOn ',', Text.strip piece ≠ ['*']) →
    ['*'] ∉ origins ∧ origins = text.namedOrigins

theorem IsOrigin.strip_eq {origin : Text} (isOrigin : IsOrigin origin) :
    origin.strip = origin :=
  Text.strip_eq_self isOrigin.first isOrigin.last

theorem IsOrigin.isAllBlank_eq {origin : Text} (isOrigin : IsOrigin origin) :
    origin.isAllBlank = false := by
  rw [Bool.eq_false_iff, ne_eq, ← Text.strip_eq_nil_iff, isOrigin.strip_eq]
  exact isOrigin.named

theorem isOrigin_star : IsOrigin ['*'] :=
  ⟨List.cons_ne_nil _ _, by decide, rfl, rfl⟩

namespace Text

theorem isOrigin_of_mem_namedOrigins {text origin : Text} (member : origin ∈ text.namedOrigins) :
    IsOrigin origin := by
  rcases List.mem_map.mp member with ⟨piece, kept, rfl⟩
  rcases List.mem_filter.mp kept with ⟨isPiece, inked⟩
  refine ⟨?_, ?_, all_head?_strip piece, all_getLast?_strip piece⟩
  · rw [ne_eq, strip_eq_nil_iff]
    simpa using inked
  · exact fun comma => not_mem_of_mem_splitOn isPiece (mem_of_mem_strip comma)

/-- A star is named where a piece is one when it is stripped. -/
theorem star_mem_namedOrigins_iff (text : Text) :
    ['*'] ∈ text.namedOrigins ↔ ∃ piece ∈ text.splitOn ',', strip piece = ['*'] := by
  rw [namedOrigins, List.mem_map]
  constructor
  · rintro ⟨piece, kept, star⟩
    exact ⟨piece, (List.mem_filter.mp kept).1, star⟩
  · rintro ⟨piece, isPiece, star⟩
    have inked : isAllBlank piece = false := by
      rw [Bool.eq_false_iff, ne_eq, ← strip_eq_nil_iff, star]
      exact List.cons_ne_nil _ _
    exact ⟨piece, List.mem_filter.mpr ⟨isPiece, by rw [inked]; rfl⟩, star⟩

/-- Origins that are written with commas between them are the ones that are named. -/
theorem namedOrigins_intercalate {origins : List Text}
    (areOrigins : ∀ origin ∈ origins, IsOrigin origin) :
    namedOrigins ([','].intercalate origins) = origins := by
  rcases List.eq_nil_or_concat origins with rfl | ⟨_, _, rfl⟩
  · rw [namedOrigins, show [','].intercalate ([] : List Text) = [] from rfl, List.splitOn_nil]
    rfl
  · have pieces := List.splitOn_intercalate ','
      (fun origin member => (areOrigins origin member).commaless) (by simp)
    rw [namedOrigins, pieces, List.filter_eq_self.mpr]
    · have kept := List.map_congr_left fun origin member => (areOrigins origin member).strip_eq
      exact kept.trans (List.map_id' _)
    · intro origin member
      rw [(areOrigins origin member).isAllBlank_eq]
      rfl

end Text

namespace Settings

open Text

theorem originsOf_eq (text : Text) :
    originsOf text = if ['*'] ∈ text.namedOrigins then [['*']] else text.namedOrigins := by
  have named : ((pieces ',' text).map Text.strip).filter (!·.isEmpty) = text.namedOrigins := by
    rw [pieces_eq_splitOn, List.filter_map, namedOrigins]
    congr 2
    funext piece
    rw [Function.comp_apply, Bool.not_inj_iff, Bool.eq_iff_iff, List.isEmpty_iff,
      strip_eq_nil_iff]
  rw [originsOf, named]
  simp only [List.contains_iff_mem]

theorem allowedBy_originsOf (text : Text) : AllowedBy text (originsOf text) := by
  rw [originsOf_eq]
  split
  · next starred =>
      refine ⟨List.forall_mem_singleton.mpr isOrigin_star, fun _ => rfl, fun none => ?_⟩
      rcases (star_mem_namedOrigins_iff text).mp starred with ⟨piece, isPiece, star⟩
      exact absurd star (none piece isPiece)
  · next starless =>
      refine ⟨fun origin => isOrigin_of_mem_namedOrigins, fun starred => ?_, fun _ => ?_⟩
      · exact absurd ((star_mem_namedOrigins_iff text).mpr starred) starless
      · exact ⟨starless, rfl⟩

/-- Origins among which a star stands alone are read as they are written. -/
theorem originsOf_intercalate {origins : List Text}
    (areOrigins : ∀ origin ∈ origins, IsOrigin origin)
    (alone : ['*'] ∈ origins → origins = [['*']]) :
    originsOf ([','].intercalate origins) = origins := by
  rw [originsOf_eq, namedOrigins_intercalate areOrigins]
  split
  · next starred => exact (alone starred).symm
  · rfl

theorem originsOf_eq_of_star_mem {text : Text} (starred : ['*'] ∈ originsOf text) :
    originsOf text = [['*']] := by
  rw [originsOf_eq] at starred ⊢
  split at starred
  · next named => rw [if_pos named]
  · next starless => exact absurd starred starless

/-- The origins of any settings are in the form in which they are listed, and settings that
list them in that form have the same origins. -/
theorem origins_canonical (settings : Settings) :
    AllowedBy settings.allowedOrigins.toList settings.origins ∧
      Settings.origins { settings with
        allowedOrigins := ",".intercalate (settings.origins.map String.ofList) } =
          settings.origins := by
  have allowed := allowedBy_originsOf settings.allowedOrigins.toList
  have listed : (",".intercalate (settings.origins.map String.ofList)).toList =
      [','].intercalate settings.origins := by
    rw [String.toList_intercalate, List.map_map]
    simp [Function.comp_def]
  refine ⟨allowed, ?_⟩
  rw [origins, listed]
  exact originsOf_intercalate allowed.areOrigins originsOf_eq_of_star_mem

end Settings

end GrowthGauge
