import GrowthGauge.Layout
import GrowthGauge.Proofs.Text.Strip

namespace GrowthGauge

/-! ## Classes and blanks

Most classes of a pattern hold no blank character, and the others hold all of them but
perhaps the line feed. There are few blanks, so whether a class holds one is found by
asking it for each. -/

/-- The code points of the blank characters. -/
def blankCodes : List Nat :=
  [0x09, 0x0A, 0x0B, 0x0C, 0x0D, 0x1C, 0x1D, 0x1E, 0x1F, 0x20, 0x85, 0xA0, 0x1680,
    0x2000, 0x2001, 0x2002, 0x2003, 0x2004, 0x2005, 0x2006, 0x2007, 0x2008, 0x2009, 0x200A,
    0x2028, 0x2029, 0x202F, 0x205F, 0x3000]

theorem mem_blankCodes_iff (code : Nat) :
    code ∈ blankCodes ↔
      (0x09 ≤ code ∧ code ≤ 0x0D) ∨ (0x1C ≤ code ∧ code ≤ 0x20) ∨ code = 0x85 ∨ code = 0xA0 ∨
        code = 0x1680 ∨ (0x2000 ≤ code ∧ code ≤ 0x200A) ∨ code = 0x2028 ∨ code = 0x2029 ∨
        code = 0x202F ∨ code = 0x205F ∨ code = 0x3000 := by
  simp only [blankCodes, List.mem_cons, List.not_mem_nil, or_false]
  omega

theorem isBlank_iff (character : Char) :
    isBlank character = true ↔ character.toNat ∈ blankCodes := by
  rw [mem_blankCodes_iff]
  simp only [isBlank, Bool.or_eq_true, Bool.and_eq_true, decide_eq_true_eq, beq_iff_eq, or_assoc]

/-- The class has no blank character in it. -/
def RefusesBlanks (accepts : Char → Bool) : Prop :=
  ∀ character, isBlank character = true → accepts character = false

theorem refusesBlanks_iff (accepts : Char → Bool) :
    RefusesBlanks accepts ↔ ∀ code ∈ blankCodes, accepts (Char.ofNat code) = false := by
  constructor
  · intro refuses code member
    have blank : ∀ code ∈ blankCodes, isBlank (Char.ofNat code) = true := by decide
    exact refuses _ (blank code member)
  · intro refuses character blank
    have refused := refuses character.toNat ((isBlank_iff character).mp blank)
    rwa [Char.ofNat_toNat] at refused

instance (accepts : Char → Bool) : Decidable (RefusesBlanks accepts) :=
  decidable_of_iff _ (refusesBlanks_iff accepts).symm

theorem refusesBlanks_isWord : RefusesBlanks isWord := by
  decide +kernel

theorem isBlank_of_isWord {character : Char} (isName : isWord character = true) :
    isBlank character = false := by
  rw [Bool.eq_false_iff]
  intro blank
  exact Bool.false_ne_true ((refusesBlanks_isWord character blank).symm.trans isName)

theorem ne_of_isBlank {character inked : Char} (blank : isBlank character = true)
    (isInked : isBlank inked = false) : character ≠ inked := by
  rintro rfl
  exact Bool.false_ne_true (isInked.symm.trans blank)

theorem refusesBlanks_beq {expected : Char} (inked : isBlank expected = false) :
    RefusesBlanks (· == expected) :=
  fun _ blank => beq_eq_false_iff_ne.mpr (ne_of_isBlank blank inked)

/-- The class has every blank character in it, but perhaps for the line feed. -/
def SparesBlanks (accepts : Char → Bool) : Prop :=
  ∀ character, isBlank character = true → character ≠ '\n' → accepts character = true

theorem sparesBlanks_isBlank : SparesBlanks isBlank :=
  fun _ blank _ => blank

theorem sparesBlanks_bne {refused : Char} (inked : isBlank refused = false) :
    SparesBlanks (· != refused) :=
  fun _ blank _ => bne_iff_ne.mpr (ne_of_isBlank blank inked)

theorem sparesBlanks_bne_lineFeed : SparesBlanks (· != '\n') :=
  fun _ _ different => bne_iff_ne.mpr different

theorem SparesBlanks.and {first second : Char → Bool} (firstSpares : SparesBlanks first)
    (secondSpares : SparesBlanks second) :
    SparesBlanks fun character => first character && second character :=
  fun character blank different => Bool.and_eq_true_iff.mpr
    ⟨firstSpares character blank different, secondSpares character blank different⟩

theorem isBlank_of_isTabOrSpace {character : Char}
    (accepted : IndentedHeader.isTabOrSpace character = true) : isBlank character = true := by
  rw [IndentedHeader.isTabOrSpace, Bool.or_eq_true, beq_iff_eq, beq_iff_eq] at accepted
  rcases accepted with rfl | rfl <;> rfl

/-! ## Gaps

A gap is a run of blank characters between two others. Two gaps are the same to every
pattern when both or neither are empty, both or neither break the line, and both or
neither leave a line that begins in them with nothing but tabs and spaces in front. -/

/-- Somewhere in the gap a line begins, with only tabs and spaces behind. -/
def Text.opensLine : Text → Bool
  | [] => false
  | head :: rest =>
      (head == '\n' && rest.all IndentedHeader.isTabOrSpace) || opensLine rest

structure SameGap (gap other : Text) : Prop where
  blank : gap.isAllBlank = true
  otherBlank : other.isAllBlank = true
  empty : gap = [] ↔ other = []
  lineFeed : '\n' ∈ gap ↔ '\n' ∈ other
  opensLine : gap.opensLine = other.opensLine

namespace SameGap

theorem refl {gap : Text} (blank : gap.isAllBlank = true) : SameGap gap gap :=
  ⟨blank, blank, .rfl, .rfl, rfl⟩

theorem symm {gap other : Text} (same : SameGap gap other) : SameGap other gap :=
  ⟨same.otherBlank, same.blank, same.empty.symm, same.lineFeed.symm, same.opensLine.symm⟩

theorem nil : SameGap [] [] :=
  refl rfl

theorem isEmpty_eq {gap other : Text} (same : SameGap gap other) :
    gap.isEmpty = other.isEmpty := by
  rw [Bool.eq_iff_iff, List.isEmpty_iff, List.isEmpty_iff]
  exact same.empty

/-- Before a character the gap is seen from its beginning both or neither. -/
theorem head?_isBlank {gap other : Text} (same : SameGap gap other) {character : Char}
    (inked : isBlank character = false) (rest otherRest : Text) :
    (gap ++ character :: rest).head?.any isBlank =
      (other ++ character :: otherRest).head?.any isBlank := by
  have seen {gap : Text} (blank : gap.isAllBlank = true) (rest : Text) :
      (gap ++ character :: rest).head?.any isBlank = !gap.isEmpty := by
    cases gap with
    | nil => exact inked
    | cons head gap => exact (Text.isAllBlank_cons.mp blank).1
  rw [seen same.blank, seen same.otherBlank, same.isEmpty_eq]

/-- A class that spares blanks holds all of one gap when it holds all of the other. -/
theorem all_eq {gap other : Text} (same : SameGap gap other) {accepts : Char → Bool}
    (spares : SparesBlanks accepts) : gap.all accepts = other.all accepts := by
  have all_iff {text : Text} (blank : text.isAllBlank = true) :
      text.all accepts = true ↔ ('\n' ∈ text → accepts '\n' = true) := by
    rw [List.all_eq_true]
    constructor
    · intro all member
      exact all '\n' member
    · intro lineFeed character member
      by_cases equal : character = '\n'
      · rw [equal] at member ⊢
        exact lineFeed member
      · exact spares character (Text.isAllBlank_iff.mp blank character member) equal
  rw [Bool.eq_iff_iff, all_iff same.blank, all_iff same.otherBlank, same.lineFeed]

end SameGap

/-! ## Texts that differ in their gaps only

The last gap may differ in any way: nothing follows it. -/

inductive Respaced : Text → Text → Prop
  | ending {gap other : Text} (blank : gap.isAllBlank = true)
      (otherBlank : other.isAllBlank = true) : Respaced gap other
  | ink {gap other rest otherRest : Text} {character : Char} (same : SameGap gap other)
      (inked : isBlank character = false) (tail : Respaced rest otherRest) :
      Respaced (gap ++ character :: rest) (other ++ character :: otherRest)

/-- The text is at its end or goes on with a blank character. -/
def Text.startsBlank (text : Text) : Bool :=
  text.head?.all isBlank

theorem RefusesBlanks.head?_any {accepts : Char → Bool} (refuses : RefusesBlanks accepts)
    {text : Text} (blank : text.startsBlank = true) : text.head?.any accepts = false := by
  cases text with
  | nil => rfl
  | cons head rest => exact refuses head blank

namespace Text

theorem startsBlank_of_isAllBlank {gap : Text} (blank : gap.isAllBlank = true) :
    gap.startsBlank = true := by
  cases gap with
  | nil => rfl
  | cons head rest => exact (isAllBlank_cons.mp blank).1

theorem stripStart_of_startsInked {text : Text} (inked : text.startsBlank = false) :
    text.stripStart = text := by
  cases text with
  | nil => rfl
  | cons head rest => exact List.dropWhile_cons_of_neg (Bool.eq_false_iff.mp inked)

theorem stripStart_gap {gap : Text} (blank : gap.isAllBlank = true) {character : Char}
    (inked : isBlank character = false) (rest : Text) :
    stripStart (gap ++ character :: rest) = character :: rest := by
  rw [stripStart_blank_append blank]
  exact stripStart_of_startsInked inked

theorem takeWhile_gap {gap : Text} (blank : gap.isAllBlank = true) {character : Char}
    (inked : isBlank character = false) (rest : Text) :
    (gap ++ character :: rest).takeWhile isBlank = gap := by
  rw [List.takeWhile_append_of_pos (isAllBlank_iff.mp blank),
    List.takeWhile_cons_of_neg (Bool.eq_false_iff.mp inked), List.append_nil]

/-- A text is a gap alone, or a gap and a character that is no blank. -/
theorem exists_gap (text : Text) :
    text.isAllBlank = true ∨ ∃ (gap : Text) (character : Char) (rest : Text),
      text = gap ++ character :: rest ∧ gap.isAllBlank = true ∧ isBlank character = false := by
  induction text with
  | nil => exact .inl rfl
  | cons head rest induction =>
      cases inked : isBlank head with
      | false => exact .inr ⟨[], head, rest, rfl, rfl, inked⟩
      | true =>
          rcases induction with blank | ⟨gap, character, behind, split, blank, behindInked⟩
          · exact .inl (isAllBlank_cons.mpr ⟨inked, blank⟩)
          · exact .inr ⟨head :: gap, character, behind, congrArg (head :: ·) split,
              isAllBlank_cons.mpr ⟨inked, blank⟩, behindInked⟩

/-- An argument about texts may go from one character that is no blank to the next. -/
theorem gapInduction {motive : Text → Prop}
    (ending : ∀ gap : Text, gap.isAllBlank = true → motive gap)
    (ink : ∀ (gap rest : Text) (character : Char), gap.isAllBlank = true →
      isBlank character = false → motive rest → motive (gap ++ character :: rest))
    (text : Text) : motive text := by
  rcases exists_gap text with blank | ⟨gap, character, rest, split, blank, inked⟩
  · exact ending text blank
  · rw [split]
    exact ink gap rest character blank inked (gapInduction ending ink rest)
termination_by text.length
decreasing_by
  rw [split, List.length_append, List.length_cons]
  omega

end Text

namespace Respaced

variable {text other : Text}

theorem refl (text : Text) : Respaced text text := by
  induction text using Text.gapInduction with
  | ending gap blank => exact .ending blank blank
  | ink gap rest character blank inked induction => exact .ink (.refl blank) inked induction

theorem symm (respaced : Respaced text other) : Respaced other text := by
  induction respaced with
  | ending blank otherBlank => exact .ending otherBlank blank
  | ink same inked _ induction => exact .ink same.symm inked induction

theorem split (respaced : Respaced text other) :
    (text.isAllBlank = true ∧ other.isAllBlank = true) ∨
      ∃ gap otherGap rest otherRest character, text = gap ++ character :: rest ∧
        other = otherGap ++ character :: otherRest ∧ SameGap gap otherGap ∧
          isBlank character = false ∧ Respaced rest otherRest := by
  cases respaced with
  | ending blank otherBlank => exact .inl ⟨blank, otherBlank⟩
  | ink same inked tail => exact .inr ⟨_, _, _, _, _, rfl, rfl, same, inked, tail⟩

theorem cons {character : Char} (inked : isBlank character = false)
    (respaced : Respaced text other) : Respaced (character :: text) (character :: other) :=
  .ink .nil inked respaced

/-- Either both texts go on with the same character, or both with a gap. -/
theorem uncons (respaced : Respaced text other) :
    (∃ character rest otherRest, text = character :: rest ∧ other = character :: otherRest ∧
      isBlank character = false ∧ Respaced rest otherRest) ∨
    (text.startsBlank = true ∧ other.startsBlank = true) := by
  cases respaced with
  | ending blank otherBlank =>
      exact .inr ⟨Text.startsBlank_of_isAllBlank blank, Text.startsBlank_of_isAllBlank otherBlank⟩
  | @ink gap otherGap rest otherRest character same inked tail =>
      cases gap with
      | nil =>
          cases same.empty.mp rfl
          exact .inl ⟨character, rest, otherRest, rfl, rfl, inked, tail⟩
      | cons head gap =>
          have blank := Text.startsBlank_of_isAllBlank same.blank
          rcases List.exists_cons_of_ne_nil (mt same.empty.mpr (List.cons_ne_nil head gap)) with
            ⟨otherHead, otherTail, split⟩
          have otherBlank := Text.startsBlank_of_isAllBlank same.otherBlank
          rw [split] at otherBlank ⊢
          exact .inr ⟨blank, otherBlank⟩

theorem stripStart (respaced : Respaced text other) :
    Respaced text.stripStart other.stripStart := by
  cases respaced with
  | ending blank otherBlank =>
      rw [Text.stripStart_eq_nil_of_isAllBlank blank,
        Text.stripStart_eq_nil_of_isAllBlank otherBlank]
      exact .ending rfl rfl
  | ink same inked tail =>
      rw [Text.stripStart_gap same.blank inked, Text.stripStart_gap same.otherBlank inked]
      exact tail.cons inked

/-- What is asked of the next character and holds of no blank has the same answer. -/
theorem head?_any (respaced : Respaced text other) {accepts : Char → Bool}
    (refuses : RefusesBlanks accepts) : text.head?.any accepts = other.head?.any accepts := by
  rcases respaced.uncons with ⟨character, rest, otherRest, rfl, rfl, _⟩ | ⟨blank, otherBlank⟩
  · rfl
  · rw [refuses.head?_any blank, refuses.head?_any otherBlank]

end Respaced

/-! ## Texts cut at a character

What lies between two characters is determined, so texts that differ in their gaps only
still do so when both are cut behind the same number of characters. -/

def Text.unspaced (text : Text) : Text :=
  text.filter (!isBlank ·)

namespace Text

theorem unspaced_eq_nil_iff (text : Text) : text.unspaced = [] ↔ text.isAllBlank = true := by
  rw [unspaced, List.filter_eq_nil_iff, isAllBlank_iff]
  simp

theorem unspaced_gap {gap : Text} (blank : gap.isAllBlank = true) {character : Char}
    (inked : isBlank character = false) (rest : Text) :
    unspaced (gap ++ character :: rest) = character :: rest.unspaced := by
  have none : gap.unspaced = [] := (unspaced_eq_nil_iff gap).mpr blank
  rw [unspaced] at none
  rw [unspaced, List.filter_append, none, List.nil_append, List.filter_cons, inked]
  rfl

/-- The gap before a character is determined. -/
theorem gap_unique {gap otherGap rest otherRest : Text} {character other : Char}
    (blank : gap.isAllBlank = true) (otherBlank : otherGap.isAllBlank = true)
    (inked : isBlank character = false) (otherInked : isBlank other = false)
    (equal : gap ++ character :: rest = otherGap ++ other :: otherRest) :
    gap = otherGap ∧ character = other ∧ rest = otherRest := by
  have sameGap := congrArg (List.takeWhile isBlank) equal
  rw [takeWhile_gap blank inked, takeWhile_gap otherBlank otherInked] at sameGap
  have behind := congrArg stripStart equal
  rw [stripStart_gap blank inked, stripStart_gap otherBlank otherInked] at behind
  exact ⟨sameGap, List.cons_eq_cons.mp behind⟩

end Text

namespace Respaced

theorem unspaced_eq {text other : Text} (respaced : Respaced text other) :
    text.unspaced = other.unspaced := by
  induction respaced with
  | ending blank otherBlank =>
      rw [(Text.unspaced_eq_nil_iff _).mpr blank, (Text.unspaced_eq_nil_iff _).mpr otherBlank]
  | ink same inked tail induction =>
      rw [Text.unspaced_gap same.blank inked, Text.unspaced_gap same.otherBlank inked, induction]

theorem of_gaps {gap otherGap rest otherRest : Text} {character other : Char}
    (blank : gap.isAllBlank = true) (otherBlank : otherGap.isAllBlank = true)
    (inked : isBlank character = false) (otherInked : isBlank other = false)
    (respaced : Respaced (gap ++ character :: rest) (otherGap ++ other :: otherRest)) :
    SameGap gap otherGap ∧ character = other ∧ Respaced rest otherRest := by
  rcases respaced.split with
    ⟨allBlank, _⟩ | ⟨first, otherFirst, behind, otherBehind, found, split, otherSplit, same,
      foundInked, tail⟩
  · rw [← Text.unspaced_eq_nil_iff, Text.unspaced_gap blank inked] at allBlank
    cases allBlank
  · rcases Text.gap_unique blank same.blank inked foundInked split with ⟨rfl, rfl, rfl⟩
    rcases Text.gap_unique otherBlank same.otherBlank otherInked foundInked otherSplit with
      ⟨rfl, rfl, rfl⟩
    exact ⟨same, rfl, tail⟩

theorem cut {front rest otherFront otherRest : Text}
    (whole : Respaced (front ++ rest) (otherFront ++ otherRest))
    (sameInk : front.unspaced.length = otherFront.unspaced.length) : Respaced front otherFront := by
  induction front using Text.gapInduction generalizing otherFront with
  | ending gap blank =>
      rw [(Text.unspaced_eq_nil_iff gap).mpr blank] at sameInk
      have none := List.length_eq_zero_iff.mp sameInk.symm
      exact .ending blank ((Text.unspaced_eq_nil_iff otherFront).mp none)
  | ink gap tail character blank inked induction =>
      rw [Text.unspaced_gap blank inked] at sameInk
      rcases Text.exists_gap otherFront with
        otherBlank | ⟨otherGap, other, otherTail, split, otherBlank, otherInked⟩
      · rw [(Text.unspaced_eq_nil_iff otherFront).mpr otherBlank] at sameInk
        cases sameInk
      · subst split
        rw [Text.unspaced_gap otherBlank otherInked] at sameInk
        rw [List.append_assoc, List.append_assoc] at whole
        rcases whole.of_gaps blank otherBlank inked otherInked with ⟨same, rfl, tails⟩
        exact .ink same inked (induction tails (Nat.succ.inj sameInk))

end Respaced

/-! ## Whole texts

A text begins a line, as if a line feed stood before it. Whether its first gap is empty
makes no difference otherwise, since no word stands before the text. -/

inductive SameInk : Text → Text → Prop
  | ending {gap other : Text} (blank : gap.isAllBlank = true)
      (otherBlank : other.isAllBlank = true) : SameInk gap other
  | ink {gap other rest otherRest : Text} {character : Char} (blank : gap.isAllBlank = true)
      (otherBlank : other.isAllBlank = true)
      (opensLine : Text.opensLine ('\n' :: gap) = Text.opensLine ('\n' :: other))
      (inked : isBlank character = false) (tail : Respaced rest otherRest) :
      SameInk (gap ++ character :: rest) (other ++ character :: otherRest)

end GrowthGauge
