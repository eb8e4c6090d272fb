import GrowthGauge.Proofs.Json.Written
import Mathlib.Data.List.TakeDrop

namespace GrowthGauge.Json

/-! ## Texts that are not read

What begins with none of the marks of a string, an array, an object, a word or a sign is
read as a number. So it is no JSON unless it begins with a digit, and where the number
has too many digits, it is refused whatever stands behind it. -/

/-- The first characters of the values that are no unsigned numbers. -/
def opensMarked (character : Char) : Bool :=
  "\"[\x7bntfNI-".toList.contains character

theorem ne_of_not_opensMarked {first mark : Char} (unmarked : opensMarked first = false)
    (marked : opensMarked mark = true) : first ≠ mark := by
  rintro rfl
  exact Bool.false_ne_true (unmarked.symm.trans marked)

theorem readWord_cons {first : Char} (unmarked : opensMarked first = false) (rest : Text) :
    readWord (first :: rest) = none := by
  rw [readWord, List.findSome?_eq_none_iff]
  rintro ⟨word, value⟩ listed
  have begins : ∃ mark tail, word.toList = mark :: tail ∧ opensMarked mark = true := by
    simp only [words, List.mem_cons, Prod.mk.injEq, List.not_mem_nil, or_false] at listed
    rcases listed with ⟨rfl, _⟩ | ⟨rfl, _⟩ | ⟨rfl, _⟩ | ⟨rfl, _⟩ | ⟨rfl, _⟩ | ⟨rfl, _⟩ <;>
      exact ⟨_, _, rfl, by decide⟩
  rcases begins with ⟨mark, tail, spelled, marked⟩
  have differs : (mark == first) = false :=
    beq_eq_false_iff_ne.mpr (ne_of_not_opensMarked unmarked marked).symm
  simp only [afterWord?, spelled, List.isPrefixOf, differs, Bool.false_and, Bool.false_eq_true,
    if_false, Option.map_none]

theorem readValue_unmarked {first : Char} (unmarked : opensMarked first = false)
    (steps depth : Nat) (rest : Text) :
    readValue (steps + 1) depth (first :: rest) = readUnsigned false (first :: rest) := by
  have notQuote := ne_of_not_opensMarked unmarked (show opensMarked '"' = true by decide)
  have notArray := ne_of_not_opensMarked unmarked (show opensMarked '[' = true by decide)
  have notObject := ne_of_not_opensMarked unmarked (show opensMarked '\x7b' = true by decide)
  have notSign := ne_of_not_opensMarked unmarked (show opensMarked '-' = true by decide)
  rw [readValue, readWord_cons unmarked]
  · rw [readNumber]
    rintro rest' equal
    cases equal
    exact notSign rfl
  all_goals
    rintro rest' equal
    cases equal
    contradiction

theorem splitDigits_append {digits : Text} (areDigits : ∀ digit ∈ digits, digit.isDigit = true)
    {behind : Text} (stops : ∀ next ∈ behind.head?, next.isDigit = false) :
    splitDigits (digits ++ behind) = (digits, behind) := by
  have last : behind.takeWhile Char.isDigit = [] ∧ behind.dropWhile Char.isDigit = behind := by
    cases behind with
    | nil => exact ⟨rfl, rfl⟩
    | cons next rest =>
        have notDigit := ne_true_of_eq_false (stops next rfl)
        exact ⟨List.takeWhile_cons_of_neg notDigit, List.dropWhile_cons_of_neg notDigit⟩
  rw [splitDigits, List.span_eq_takeWhile_dropWhile, List.takeWhile_append_of_pos areDigits,
    List.dropWhile_append_of_pos areDigits, last.1, last.2, List.append_nil]

/-- A number that does not begin with a zero takes all the digits. -/
theorem readUnsigned_of_ne_zero {first : Char} (notZero : first ≠ '0') (rest : Text) :
    readUnsigned false (first :: rest) =
      let (whole, behind) := splitDigits (first :: rest)
      if whole.isEmpty then
        .error .malformed
      else
        let (fraction, behind) := splitFraction behind
        let (exponent, behind) := splitExponent behind
        (number false whole fraction exponent).map (·, behind) := by
  rw [readUnsigned]
  rintro rest' equal
  cases equal
  exact notZero rfl

/-- Prose is no JSON. -/
theorem ofText_of_not_opens {first : Char} (unmarked : opensMarked first = false)
    (notDigit : first.isDigit = false) (inked : isSpace first = false) (rest : Text) :
    ofText (first :: rest) = .error .malformed := by
  have notZero : first ≠ '0' := by
    rintro rfl
    cases notDigit
  have digits : splitDigits (first :: rest) = ([], first :: rest) := by
    refine splitDigits_append (List.forall_mem_nil _) ?_
    rintro next equal
    cases equal
    exact notDigit
  rw [ofText, skipSpaces_cons inked, readValue_unmarked unmarked, readUnsigned_of_ne_zero notZero,
    digits]
  rfl

theorem ofText_oversizedInteger {first : Char} (unmarked : opensMarked first = false)
    (notZero : first ≠ '0') (inked : isSpace first = false) {digits : Text}
    (areDigits : ∀ digit ∈ first :: digits, digit.isDigit = true)
    (tooMany : ReadError.digitLimit < (first :: digits).length) (behind : Text) :
    ofText (first :: digits ++ '{' :: behind) =
      .error (.oversizedInteger (first :: digits).length) := by
  have ahead : skipSpaces (first :: digits ++ '{' :: behind) =
      first :: digits ++ '{' :: behind :=
    List.dropWhile_cons_of_neg (by rw [inked]; exact Bool.false_ne_true)
  have split : splitDigits (first :: digits ++ '{' :: behind) =
      (first :: digits, '{' :: behind) := by
    apply splitDigits_append areDigits
    rintro next equal
    cases equal
    rfl
  rw [ofText, List.cons_append, skipSpaces_cons inked, readValue_unmarked unmarked,
    readUnsigned_of_ne_zero notZero, ← List.cons_append, split]
  have refused : number false (first :: digits) [] none =
      .error (.oversizedInteger (first :: digits).length) := if_pos tooMany
  have noFraction : splitFraction ('\x7b' :: behind) = ([], '\x7b' :: behind) := rfl
  have noExponent : splitExponent ('\x7b' :: behind) = (none, '\x7b' :: behind) := rfl
  simp only [List.isEmpty_cons, Bool.false_eq_true, if_false, noFraction, noExponent, refused]
  rfl

end GrowthGauge.Json
