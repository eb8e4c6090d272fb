import GrowthGauge.Proofs.Loop.LiteralPattern

namespace GrowthGauge

/-! ## Literals with other contents

Two lines that differ only in what their literals have inside are masked to the same line.
That takes care of the quotes that open no literal: a scan from such a quote runs over the
literals behind it, and with their contents replaced it still finds no end. -/

/-- What a literal may be filled with. -/
def isFilling (character : Char) : Bool :=
  !isQuote character && character != '\\'

theorem ne_of_isFilling {character : Char} (filling : isFilling character = true) {quote : Char}
    (quoted : isQuote quote = true) : character ≠ quote ∧ character ≠ '\\' := by
  rw [isFilling, Bool.and_eq_true, Bool.not_eq_true', bne_iff_ne] at filling
  refine ⟨?_, filling.2⟩
  rintro rfl
  rw [quoted] at filling
  cases filling.1

/-- The other line is the original with the inside of every literal replaced by as many
characters, none of them a quote or a backslash. -/
structure Refills (original other : Text) : Prop where
  length_eq : other.length = original.length
  outside : ∀ column < original.length, ¬InLiteral original column →
    other[column]? = original[column]?
  inside : ∀ column < original.length, InLiteral original column →
    other[column]?.all isFilling = true

/-! ### Replacing literal by literal -/

theorem refills_nil_iff {other : Text} : Refills [] other ↔ other = [] := by
  constructor
  · exact fun refills => List.length_eq_zero_iff.mp refills.length_eq
  · rintro rfl
    exact ⟨rfl, fun _ bounded => absurd bounded (Nat.not_lt_zero _),
      fun _ bounded => absurd bounded (Nat.not_lt_zero _)⟩

theorem Refills.head {character : Char} {rest other : Text}
    (refills : Refills (character :: rest) other) : ∃ tail, other = character :: tail := by
  have same := refills.outside 0 (Nat.zero_lt_succ _) (not_inLiteral_zero _)
  rw [← List.head?_eq_getElem?, List.getElem?_cons_zero] at same
  exact List.head?_eq_some_iff.mp same

theorem refills_plain_iff {character : Char} {rest : Text} (opensNone : OpensNone character rest)
    {other : Text} :
    Refills (character :: rest) other ↔
      ∃ tail, other = character :: tail ∧ Refills rest tail := by
  constructor
  · intro refills
    rcases refills.head with ⟨tail, rfl⟩
    refine ⟨tail, rfl, Nat.succ_inj.mp refills.length_eq, ?_, ?_⟩
    · intro column bounded isOutside
      exact refills.outside (column + 1) (Nat.succ_lt_succ bounded)
        (mt (inLiteral_plain_iff opensNone column).mp isOutside)
    · intro column bounded isInside
      exact refills.inside (column + 1) (Nat.succ_lt_succ bounded)
        ((inLiteral_plain_iff opensNone column).mpr isInside)
  · rintro ⟨tail, rfl, refills⟩
    refine ⟨congrArg Nat.succ refills.length_eq, ?_, ?_⟩
    · intro column bounded isOutside
      cases column with
      | zero => rfl
      | succ column =>
          exact refills.outside column (Nat.lt_of_succ_lt_succ bounded)
            (mt (inLiteral_plain_iff opensNone column).mpr isOutside)
    · intro column bounded isInside
      cases column with
      | zero => exact absurd isInside (not_inLiteral_zero _)
      | succ column =>
          exact refills.inside column (Nat.lt_of_succ_lt_succ bounded)
            ((inLiteral_plain_iff opensNone column).mp isInside)

/-- Where the columns of a literal are, with what follows it. -/
theorem getElem?_literal_append (quote : Char) {fill : Text} (rest : Text) {width : Nat}
    (length : fill.length = width) :
    (∀ column < width, (quote :: (fill ++ quote :: rest))[column + 1]? = fill[column]?) ∧
      (quote :: (fill ++ quote :: rest))[width + 1]? = some quote ∧
        ∀ column, (quote :: (fill ++ quote :: rest))[width + 2 + column]? = rest[column]? := by
  subst length
  refine ⟨?_, ?_, ?_⟩
  · intro column bounded
    rw [List.getElem?_cons_succ, List.getElem?_append_left bounded]
  · rw [List.getElem?_cons_succ, List.getElem?_append_right (Nat.le_refl _), Nat.sub_self,
      List.getElem?_cons_zero]
  · intro column
    have behind : fill.length + 2 + column = fill.length + (column + 1) + 1 := by omega
    rw [behind, List.getElem?_cons_succ, List.getElem?_append_right (Nat.le_add_right _ _),
      Nat.add_sub_cancel_left, List.getElem?_cons_succ]

theorem exists_split_at_getElem? {text : Text} {column : Nat} {character : Char}
    (here : text[column]? = some character) :
    ∃ before after, text = before ++ character :: after ∧ before.length = column := by
  rcases List.getElem?_eq_some_iff.mp here with ⟨bounded, rfl⟩
  refine ⟨text.take column, text.drop (column + 1), ?_, List.length_take_of_le (by omega)⟩
  rw [← List.drop_eq_getElem_cons, List.take_append_drop]

section

variable {quote : Char} {inside after : Text} (quoted : isQuote quote = true)
  (isInside : LiteralInside quote inside)

include quoted isInside

theorem inLiteral_inside {column : Nat} (bounded : column < inside.length) :
    InLiteral (quote :: (inside ++ quote :: after)) (column + 1) :=
  (inLiteral_literal_iff quoted isInside after _).mpr (.inl ⟨Nat.succ_pos _, bounded⟩)

theorem not_inLiteral_closing :
    ¬InLiteral (quote :: (inside ++ quote :: after)) (inside.length + 1) := by
  rw [inLiteral_literal_iff quoted isInside]
  rintro (⟨_, bounded⟩ | ⟨later, same, _⟩) <;> omega

theorem inLiteral_behind_iff (column : Nat) :
    InLiteral (quote :: (inside ++ quote :: after)) (inside.length + 2 + column) ↔
      InLiteral after column := by
  rw [inLiteral_literal_iff quoted isInside]
  constructor
  · rintro (⟨_, bounded⟩ | ⟨later, same, isLater⟩)
    · omega
    · rwa [Nat.add_left_cancel same]
  · exact fun isLater => .inr ⟨column, rfl, isLater⟩

theorem Refills.exists_literal {other : Text}
    (refills : Refills (quote :: (inside ++ quote :: after)) other) :
    ∃ fill rest, other = quote :: (fill ++ quote :: rest) ∧ fill.length = inside.length ∧
      fill.all isFilling = true ∧ Refills after rest := by
  have size := length_literal_append quote inside after
  rcases getElem?_literal_append quote after (Eq.refl inside.length) with ⟨_, closing, behind⟩
  rcases refills.head with ⟨tail, rfl⟩
  have closes : tail[inside.length]? = some quote :=
    (refills.outside (inside.length + 1) (by omega)
      (not_inLiteral_closing quoted isInside)).trans closing
  rcases exists_split_at_getElem? closes with ⟨fill, rest, rfl, length⟩
  rcases getElem?_literal_append quote rest length with ⟨within, _, past⟩
  have filling : ∀ character ∈ fill, isFilling character = true := by
    intro character member
    rcases List.mem_iff_getElem?.mp member with ⟨column, here⟩
    have bounded : column < inside.length := by
      rw [← length]
      exact (List.getElem?_eq_some_iff.mp here).1
    have allowed := refills.inside (column + 1) (by omega)
      (inLiteral_inside quoted isInside bounded)
    rwa [within column bounded, here] at allowed
  refine ⟨fill, rest, rfl, length, List.all_eq_true.mpr filling, ?_, ?_, ?_⟩
  · have total := refills.length_eq
    rw [length_literal_append, size, length] at total
    exact Nat.add_left_cancel total
  · intro column bounded isOutside
    rw [← past, ← behind]
    exact refills.outside _ (by omega)
      (mt (inLiteral_behind_iff quoted isInside column).mp isOutside)
  · intro column bounded isLater
    rw [← past]
    exact refills.inside _ (by omega) ((inLiteral_behind_iff quoted isInside column).mpr isLater)

theorem Refills.literal {fill rest : Text} (length : fill.length = inside.length)
    (filling : fill.all isFilling = true) (refills : Refills after rest) :
    Refills (quote :: (inside ++ quote :: after)) (quote :: (fill ++ quote :: rest)) := by
  have size := length_literal_append quote inside after
  rcases getElem?_literal_append quote after (Eq.refl inside.length) with ⟨_, closing, behind⟩
  rcases getElem?_literal_append quote rest length with ⟨within, fillClosing, past⟩
  refine ⟨?_, ?_, ?_⟩
  · rw [length_literal_append, length_literal_append, length, refills.length_eq]
  · intro column bounded isOutside
    rcases column with _ | column
    · rfl
    rcases Nat.lt_trichotomy column inside.length with before | rfl | later
    · exact absurd (inLiteral_inside quoted isInside before) isOutside
    · exact fillClosing.trans closing.symm
    · rcases Nat.exists_eq_add_of_lt later with ⟨column, rfl⟩
      have same : inside.length + column + 1 + 1 = inside.length + 2 + column := by omega
      rw [same] at isOutside bounded ⊢
      rw [past, behind]
      exact refills.outside column (by omega)
        (mt (inLiteral_behind_iff quoted isInside column).mpr isOutside)
  · intro column bounded isWithin
    rcases (inLiteral_literal_iff quoted isInside after column).mp isWithin with
      ⟨positive, here⟩ | ⟨later, rfl, isLater⟩
    · rcases Nat.exists_eq_add_of_lt positive with ⟨column, rfl⟩
      rw [Nat.zero_add, within column (by omega), Option.all_eq_true]
      exact fun character member =>
        List.all_eq_true.mp filling character (List.mem_of_getElem? member)
    · rw [past]
      exact refills.inside later (by omega) isLater

end

/-! ### Quotes that open no literal -/

/-- A scan for the end of a literal runs through a filling. -/
theorem closesLiteral_filling {fill : Text} (filling : fill.all isFilling = true) {quote : Char}
    (quoted : isQuote quote = true) (rest : Text) :
    closesLiteral quote (fill ++ rest) = closesLiteral quote rest := by
  induction fill with
  | nil => rfl
  | cons character fill induction =>
      rw [List.all_cons, Bool.and_eq_true] at filling
      rcases ne_of_isFilling filling.1 quoted with ⟨unquoted, unescaped⟩
      rw [List.cons_append, closesLiteral_cons unescaped, beq_false_of_ne unquoted, Bool.false_or,
        induction filling.2]

/-- A scan that finds no end passes over the literals of the other kind. -/
theorem closesLiteral_behind {delimiter : Char} (delimited : isQuote delimiter = true)
    {inside : Text} (isInside : LiteralInside delimiter inside) {quote : Char} {after : Text}
    (unclosed : closesLiteral quote (inside ++ delimiter :: after) = false) :
    closesLiteral quote after = false := by
  induction isInside with
  | empty =>
      rw [List.nil_append, closesLiteral_cons (ne_backslash_of_isQuote delimited),
        Bool.or_eq_false_iff] at unclosed
      exact unclosed.2
  | plain _ unescaped _ induction =>
      rw [List.cons_append, closesLiteral_cons unescaped, Bool.or_eq_false_iff] at unclosed
      exact induction unclosed.2
  | escaped inline _ induction =>
      rw [List.cons_append, List.cons_append, closesLiteral_escaped, bne_iff_ne.mpr inline,
        Bool.true_and] at unclosed
      exact induction unclosed

/-- Where a scan finds no end in a line, it finds none in the line with other contents of its
literals. A backslash before a literal takes the opening quote along, so the scan may as well
begin behind it. -/
theorem Refills.unclosed {line other : Text} (refills : Refills line other) {quote : Char}
    (quoted : isQuote quote = true) :
    (closesLiteral quote line = false → closesLiteral quote other = false) ∧
      (closesLiteral quote line.tail = false → closesLiteral quote other.tail = false) := by
  induction line using literalInduction generalizing other with
  | empty =>
      rw [refills_nil_iff.mp refills]
      exact ⟨id, id⟩
  | plain character rest opensNone induction =>
      rcases (refills_plain_iff opensNone).mp refills with ⟨tail, rfl, later⟩
      refine ⟨?_, (induction later).1⟩
      intro unclosed
      by_cases escapes : character = '\\'
      · subst escapes
        cases rest with
        | nil => rw [refills_nil_iff.mp later]; rfl
        | cons escaped rest =>
            rcases later.head with ⟨tail, rfl⟩
            rw [closesLiteral_escaped, Bool.and_eq_false_iff] at unclosed ⊢
            exact unclosed.imp id (induction later).2
      · rw [closesLiteral_cons escapes, Bool.or_eq_false_iff] at unclosed ⊢
        exact ⟨unclosed.1, (induction later).1 unclosed.2⟩
  | literal delimiter inside after delimited isInside induction =>
      rcases refills.exists_literal delimited isInside with ⟨fill, rest, rfl, _, filling, later⟩
      have behind : closesLiteral quote (inside ++ delimiter :: after) = false →
          closesLiteral quote (fill ++ delimiter :: rest) = false := by
        intro unclosed
        have differs : delimiter ≠ quote := by
          rintro rfl
          rw [(closesLiteral_iff delimited _).mpr ⟨inside, after, rfl, isInside⟩] at unclosed
          cases unclosed
        rw [closesLiteral_filling filling quoted,
          closesLiteral_cons (ne_backslash_of_isQuote delimited), beq_false_of_ne differs,
          Bool.false_or]
        exact (induction later).1 (closesLiteral_behind delimited isInside unclosed)
      refine ⟨?_, behind⟩
      intro unclosed
      rw [closesLiteral_cons (ne_backslash_of_isQuote delimited), Bool.or_eq_false_iff]
        at unclosed ⊢
      exact ⟨unclosed.1, behind unclosed.2⟩

theorem Refills.opensNone {character : Char} {rest tail : Text} (refills : Refills rest tail)
    (opensNone : OpensNone character rest) : OpensNone character tail :=
  fun quoted => (refills.unclosed quoted).1 (opensNone quoted)

theorem literalInside_filling {fill : Text} (filling : fill.all isFilling = true) {quote : Char}
    (quoted : isQuote quote = true) : LiteralInside quote fill := by
  induction fill with
  | nil => exact .empty
  | cons character fill induction =>
      rw [List.all_cons, Bool.and_eq_true] at filling
      rcases ne_of_isFilling filling.1 quoted with ⟨unquoted, unescaped⟩
      exact .plain unquoted unescaped (induction filling.2)

/-! ### Masking -/

/-- Lines that differ only inside of their literals are masked to the same line. -/
theorem Refills.masked_eq {line other : Text} (refills : Refills line other) :
    other.masked = line.masked := by
  induction line using literalInduction generalizing other with
  | empty => rw [refills_nil_iff.mp refills]
  | plain character rest opensNone induction =>
      rcases (refills_plain_iff opensNone).mp refills with ⟨tail, rfl, later⟩
      rw [masked_plain (later.opensNone opensNone), masked_plain opensNone, induction later]
  | literal quote inside after quoted isInside induction =>
      rcases refills.exists_literal quoted isInside with ⟨fill, rest, rfl, length, filling, later⟩
      rw [masked_literal quoted (literalInside_filling filling quoted),
        masked_literal quoted isInside, length, induction later]

/-- Masking fills the literals with spaces. -/
theorem refills_masked (line : Text) : Refills line line.masked := by
  induction line using literalInduction with
  | empty => exact refills_nil_iff.mpr rfl
  | plain character rest opensNone induction =>
      exact (refills_plain_iff opensNone).mpr ⟨_, masked_plain opensNone, induction⟩
  | literal quote inside after quoted isInside induction =>
      have spaces : (List.replicate inside.length ' ').all isFilling = true := by
        rw [List.all_replicate]
        split <;> rfl
      rw [masked_literal quoted isInside]
      exact induction.literal quoted isInside List.length_replicate spaces

theorem masked_masked (line : Text) : line.masked.masked = line.masked :=
  (refills_masked line).masked_eq

theorem inLiteral_of_masked_ne {original : Text} {column : Nat}
    (differs : original.masked[column]? ≠ original[column]?) : InLiteral original column := by
  by_contra isOutside
  rcases Nat.lt_or_ge column original.length with bounded | past
  · exact differs ((refills_masked original).outside column bounded isOutside)
  · rw [List.getElem?_eq_none past, List.getElem?_eq_none (by rwa [length_masked])] at differs
    exact differs rfl

end GrowthGauge
