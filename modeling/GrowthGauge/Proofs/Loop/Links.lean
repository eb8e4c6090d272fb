import GrowthGauge.Loop.Chain
import GrowthGauge.Proofs.Loop.LiteralPattern
import GrowthGauge.Proofs.Spacing.Searching

namespace GrowthGauge

open Pattern

namespace LoopChain

/-! ## The links of a line

A link is a colon with another loop header behind it. What remains of the line there is
what the column of that header is measured by. -/

def words : List Text :=
  ["for".toList, "while".toList]

/-- The text begins with the head of a loop. -/
def startsLoop (text : Text) : Bool :=
  words.any fun word => word.isPrefixOf text && (text.drop word.length).head?.any isBlank

theorem startsLoop_iff {text : Text} :
    startsLoop text = true ↔
      ∃ word ∈ words, ∃ blank after,
        text = word ++ blank :: after ∧ isBlank blank = true := by
  simp only [startsLoop, List.any_eq_true, Bool.and_eq_true, List.isPrefixOf_iff_prefix]
  constructor
  · intro starts
    rcases starts with ⟨word, isOne, ⟨following, rfl⟩, spaced⟩
    rw [List.drop_left] at spaced
    cases following with
    | nil => cases spaced
    | cons blank after => exact ⟨word, isOne, blank, after, rfl, spaced⟩
  · intro starts
    rcases starts with ⟨word, isOne, blank, after, rfl, isGap⟩
    refine ⟨word, isOne, List.prefix_append _ _, ?_⟩
    rw [List.drop_left]
    exact isGap

theorem words_inked {word : Text} (isOne : word ∈ words) : word.any isBlank = false := by
  have all : ∀ word ∈ words, word.any isBlank = false := by decide +kernel
  exact all word isOne

theorem exists_cons_of_startsLoop {text : Text} (starts : startsLoop text = true) :
    ∃ head tail, text = head :: tail ∧ isBlank head = false := by
  have all : ∀ word ∈ words, word ≠ [] := by decide
  rcases startsLoop_iff.mp starts with ⟨word, isOne, blank, after, rfl, _⟩
  rcases List.exists_cons_of_ne_nil (all word isOne) with ⟨head, tail, rfl⟩
  have inked := words_inked isOne
  rw [List.any_cons, Bool.or_eq_false_iff] at inked
  exact ⟨head, tail ++ blank :: after, rfl, inked.1⟩

/-- What remains of the line behind each of its links. -/
def linkRests : Text → List Text
  | [] => []
  | character :: rest =>
      if character == ':' && startsLoop (Text.stripStart rest) then
        Text.stripStart rest :: linkRests rest
      else
        linkRests rest

/-! ### Links as matches -/

theorem exists_mem_ends_head_iff {cursor : Cursor} :
    (∃ reached, reached ∈ (seq keyword (one isBlank)).ends cursor) ↔
      startsLoop cursor.ahead = true := by
  rw [startsLoop_iff]
  constructor
  · intro member
    rcases member with ⟨reached, member⟩
    rcases mem_ends_seq.mp member with ⟨middle, inWord, inBlank⟩
    rcases mem_ends_one.mp inBlank with ⟨blank, after, behind, isGap, _⟩
    have spelt : ∃ word ∈ words, middle ∈ (literal word).ends cursor := by
      rcases mem_ends_either.mp inWord with isFor | isWhile
      · exact ⟨_, List.mem_cons_self, isFor⟩
      · exact ⟨_, List.mem_cons_of_mem _ List.mem_cons_self, isWhile⟩
    rcases spelt with ⟨word, isOne, inLiteral⟩
    rcases mem_ends_literal.mp inLiteral with ⟨following, ahead, rfl⟩
    rw [Cursor.behind_ahead] at behind
    exact ⟨word, isOne, blank, after, by rw [ahead, behind], isGap⟩
  · intro starts
    rcases starts with ⟨word, isOne, blank, after, ahead, isGap⟩
    have inWord : cursor.behind word (blank :: after) ∈ keyword.ends cursor := by
      have inLiteral := mem_ends_literal.mpr ⟨blank :: after, ahead, rfl⟩
      rw [words, List.mem_cons, List.mem_singleton] at isOne
      rcases isOne with rfl | rfl
      · exact mem_ends_either.mpr (.inl inLiteral)
      · exact mem_ends_either.mpr (.inr inLiteral)
    exact ⟨_, mem_ends_seq.mpr ⟨_, inWord, mem_ends_one.mpr ⟨blank, after, rfl, isGap, rfl⟩⟩⟩

theorem mem_ends_link_iff {cursor reached : Cursor} :
    reached ∈ link.ends cursor ↔
      ∃ rest : Text, cursor.ahead = ':' :: rest ∧ startsLoop rest.stripStart = true ∧
        reached = cursor.behind (':' :: rest.takeWhile isBlank) rest.stripStart := by
  constructor
  · intro member
    rcases mem_ends_inOrder_cons.mp member with ⟨_, inColon, member⟩
    rcases mem_ends_inOrder_cons.mp member with ⟨_, inGap, atHead⟩
    rcases mem_ends_char.mp inColon with ⟨rest, ahead, rfl⟩
    rcases mem_ends_many.mp inGap with ⟨gap, following, split, blank, rfl⟩
    rcases mem_ends_followedBy.mp atHead with ⟨isHead, rfl⟩
    have starts := exists_mem_ends_head_iff.mp isHead
    rw [Cursor.behind_ahead] at split starts
    rcases exists_cons_of_startsLoop starts with ⟨head, tail, rfl, inked⟩
    have isGap : gap.isAllBlank = true := List.all_eq_true.mpr blank
    refine ⟨rest, ahead, ?_, ?_⟩
    · rw [split, Text.stripStart_gap isGap inked]
      exact starts
    · rw [split, Text.stripStart_gap isGap inked, Text.takeWhile_gap isGap inked,
        Cursor.behind_behind]
      rfl
  · intro linked
    rcases linked with ⟨rest, ahead, starts, rfl⟩
    refine mem_ends_inOrder_cons.mpr ⟨_, mem_ends_char.mpr ⟨rest, ahead, rfl⟩, ?_⟩
    have split : rest = rest.takeWhile isBlank ++ rest.stripStart :=
      List.takeWhile_append_dropWhile.symm
    have blank : ∀ character ∈ rest.takeWhile isBlank, isBlank character = true :=
      fun _ member => List.mem_takeWhile_imp member
    refine mem_ends_inOrder_cons.mpr ⟨_, mem_ends_many.mpr ⟨_, _, split, blank, rfl⟩, ?_⟩
    apply mem_ends_followedBy.mpr
    refine ⟨exists_mem_ends_head_iff.mpr starts, ?_⟩
    rw [Cursor.behind_behind]
    rfl

theorem startsInked_link : link.StartsInked :=
  startsInked_seq (startsInked_char rfl) _

theorem matchAt_link {rest : Text} (starts : startsLoop rest.stripStart = true)
    (previous : Option Char) :
    link.matchAt ⟨previous, ':' :: rest, none⟩ =
      some ⟨⟨previous, ':' :: rest, none⟩,
        Cursor.behind ⟨previous, ':' :: rest, none⟩ (':' :: rest.takeWhile isBlank)
          rest.stripStart⟩ := by
  apply matchAt_eq_some
  · exact mem_ends_link_iff.mpr ⟨rest, rfl, starts, rfl⟩
  · intro reached member
    rcases mem_ends_link_iff.mp member with ⟨other, ahead, _, rfl⟩
    rw [(List.cons_eq_cons.mp ahead).2]

theorem matchAt_unlinked {character : Char} {rest : Text}
    (unlinked : (character == ':' && startsLoop rest.stripStart) = false)
    (previous : Option Char) : link.matchAt ⟨previous, character :: rest, none⟩ = none := by
  rw [← Option.not_isSome_iff_eq_none, matchAt_isSome_iff]
  intro matched
  rcases matched with ⟨reached, member⟩
  rcases mem_ends_link_iff.mp member with ⟨other, ahead, starts, _⟩
  rcases List.cons_eq_cons.mp ahead with ⟨rfl, rfl⟩
  rw [starts] at unlinked
  cases unlinked

/-- No link lies in the blanks that a link takes. -/
theorem matchesFrom_link {rest : Text} (starts : startsLoop rest.stripStart = true)
    (previous : Option Char) :
    link.matchesFrom 0 previous (':' :: rest) =
      ⟨⟨previous, ':' :: rest, none⟩,
        Cursor.behind ⟨previous, ':' :: rest, none⟩ (':' :: rest.takeWhile isBlank)
          rest.stripStart⟩ :: link.matchesFrom 0 (some ':') rest := by
  have blank : Text.isAllBlank (rest.takeWhile isBlank) = true := List.all_takeWhile
  have split : rest.takeWhile isBlank ++ rest.stripStart = rest :=
    List.takeWhile_append_dropWhile
  have gap : link.matchesFrom (rest.takeWhile isBlank).length (some ':') rest =
      link.matchesFrom 0 (some ':') rest := by
    have covered := matchesFrom_covered link (rest.takeWhile isBlank) rest.stripStart (some ':')
    rwa [← matchesFrom_gap startsInked_link blank, split] at covered
  have width := congrArg List.length split
  rw [List.length_append] at width
  rw [matchesFrom, matchAt_link starts]
  simp only
  rw [length_matchText, ← gap, Cursor.behind_ahead, List.length_cons]
  apply congrArg (_ :: link.matchesFrom · (some ':') rest)
  omega

/-- The links of a line are found one after the other. -/
theorem map_ahead_matchesFrom (previous : Option Char) (text : Text) :
    (link.matchesFrom 0 previous text).map (·.stop.ahead) = linkRests text := by
  induction text generalizing previous with
  | nil => rfl
  | cons character rest induction =>
      rw [linkRests]
      cases linked : character == ':' && startsLoop (Text.stripStart rest) with
      | true =>
          rcases Bool.and_eq_true_iff.mp linked with ⟨isColon, starts⟩
          rw [eq_of_beq isColon, matchesFrom_link starts, List.map_cons, induction, if_pos rfl]
          rfl
      | false =>
          rw [matchesFrom, matchAt_unlinked linked, if_neg Bool.false_ne_true]
          exact induction (some character)

theorem linkColumns_eq (masked : Text) :
    linkColumns masked = (linkRests masked).map fun rest => masked.length - rest.length := by
  rw [← map_ahead_matchesFrom none masked, List.map_map]
  rfl

/-! ### Links of a line that goes on

A line that ends in a colon and a loop keyword has no link there, but has one when a blank
comes behind it. All other links of the longer line are those of its two parts. -/

def EndsInKeyword (text : Text) : Prop :=
  ∃ before gap : Text, ∃ word ∈ words,
    text = before ++ ':' :: (gap ++ word) ∧ gap.isAllBlank = true

/-- The keyword in which the text ends, when nothing but blanks parts it from a colon. -/
def lastKeyword? : Text → Option Text
  | [] => none
  | character :: rest =>
      if character == ':' && words.contains (Text.stripStart rest) then
        some (Text.stripStart rest)
      else
        lastKeyword? rest

theorem stripStart_word {word : Text} (isOne : word ∈ words) : word.stripStart = word := by
  have all : ∀ word ∈ words, Text.stripStart word = word := by decide +kernel
  exact all word isOne

theorem isSome_lastKeyword?_iff (text : Text) :
    (lastKeyword? text).isSome = true ↔ EndsInKeyword text := by
  induction text with
  | nil =>
      apply iff_of_false Bool.false_ne_true
      intro ending
      rcases ending with ⟨before, gap, word, _, split, _⟩
      cases before <;> cases split
  | cons character rest induction =>
      rw [lastKeyword?]
      cases last : character == ':' && words.contains (Text.stripStart rest) with
      | true =>
          rw [if_pos rfl]
          apply iff_of_true rfl
          rcases Bool.and_eq_true_iff.mp last with ⟨isColon, isOne⟩
          have member := List.contains_iff_mem.mp isOne
          refine ⟨[], rest.takeWhile isBlank, Text.stripStart rest, member, ?_, List.all_takeWhile⟩
          rw [eq_of_beq isColon]
          exact congrArg (':' :: ·) List.takeWhile_append_dropWhile.symm
      | false =>
          rw [if_neg Bool.false_ne_true, induction]
          constructor
          · intro ending
            rcases ending with ⟨before, gap, word, isOne, split, blank⟩
            exact ⟨character :: before, gap, word, isOne, congrArg (character :: ·) split, blank⟩
          · intro ending
            rcases ending with ⟨before, gap, word, isOne, split, blank⟩
            cases before with
            | nil =>
                rcases List.cons_eq_cons.mp split with ⟨rfl, rfl⟩
                rw [Text.stripStart_blank_append blank, stripStart_word isOne,
                  List.contains_iff_mem.mpr isOne] at last
                cases last
            | cons head before =>
                exact ⟨before, gap, word, isOne, (List.cons_eq_cons.mp split).2, blank⟩

instance (text : Text) : Decidable (EndsInKeyword text) :=
  decidable_of_iff _ (isSome_lastKeyword?_iff text)

theorem linkRests_append_of_no_colon {text : Text} (none : ':' ∉ text) (more : Text) :
    linkRests (text ++ more) = linkRests more := by
  induction text with
  | nil => rfl
  | cons character text induction =>
      rw [List.mem_cons, not_or] at none
      have isNone : (character == ':') = false := beq_false_of_ne (Ne.symm none.1)
      rw [List.cons_append, linkRests, isNone, Bool.false_and, if_neg Bool.false_ne_true]
      exact induction none.2

/-- A blank behind a keyword makes it the head of a loop. -/
theorem startsLoop_append {more : Text} (spaced : more.head?.any isBlank = true) (text : Text) :
    startsLoop (text ++ more) = (startsLoop text || words.contains text) := by
  rw [Bool.eq_iff_iff, Bool.or_eq_true, startsLoop_iff, startsLoop_iff, List.contains_iff_mem]
  constructor
  · intro starts
    rcases starts with ⟨word, isOne, blank, after, split, isGap⟩
    rcases List.append_eq_append_iff.mp split with ⟨cut, wordSplit, behind⟩ | ⟨cut, textSplit, rest⟩
    · cases cut with
      | nil =>
          rw [List.append_nil] at wordSplit
          exact .inr (wordSplit ▸ isOne)
      | cons head cut =>
          -- The blank would be a letter of the keyword.
          have inked := words_inked isOne
          rw [behind] at spaced
          have isInked : isBlank head = false := by
            rw [wordSplit, List.any_append, Bool.or_eq_false_iff, List.any_cons,
              Bool.or_eq_false_iff] at inked
            exact inked.2.1
          rw [List.cons_append, List.head?_cons, Option.any_some, isInked] at spaced
          cases spaced
    · cases cut with
      | nil =>
          rw [List.append_nil] at textSplit
          exact .inr (textSplit ▸ isOne)
      | cons head cut =>
          rcases List.cons_eq_cons.mp rest with ⟨rfl, _⟩
          exact .inl ⟨word, isOne, blank, cut, textSplit, isGap⟩
  · intro starts
    rcases starts with ⟨word, isOne, blank, after, rfl, isGap⟩ | isOne
    · exact ⟨word, isOne, blank, after ++ more, by simp, isGap⟩
    · cases more with
      | nil => cases spaced
      | cons blank after => exact ⟨text, isOne, blank, after, rfl, spaced⟩

theorem contains_eq_false_of_startsLoop {text : Text} (starts : startsLoop text = true) :
    words.contains text = false := by
  rcases startsLoop_iff.mp starts with ⟨word, _, blank, after, rfl, isGap⟩
  rw [Bool.eq_false_iff, ne_eq, List.contains_iff_mem]
  intro isOne
  have inked := words_inked isOne
  rw [List.any_append, List.any_cons, isGap, Bool.true_or, Bool.or_true] at inked
  cases inked

theorem stripStart_append_of_head {text : Text} (nonempty : text.stripStart ≠ []) (more : Text) :
    Text.stripStart (text ++ more) = text.stripStart ++ more := by
  unfold Text.stripStart at nonempty ⊢
  rw [List.dropWhile_append, if_neg (by simpa using nonempty)]

theorem no_colon_of_isAllBlank {gap : Text} (blank : gap.isAllBlank = true) : ':' ∉ gap := by
  intro member
  have isGap : isBlank ':' = true := Text.isAllBlank_iff.mp blank ':' member
  cases isGap

theorem no_colon_of_word {rest : Text} (isOne : rest.stripStart ∈ words) : ':' ∉ rest := by
  have all : ∀ word ∈ words, ':' ∉ word := by decide +kernel
  have split : rest = rest.takeWhile isBlank ++ rest.stripStart :=
    List.takeWhile_append_dropWhile.symm
  rw [split, List.mem_append, not_or]
  exact ⟨no_colon_of_isAllBlank List.all_takeWhile, all _ isOne⟩

/-- The links of a line that goes on with a blank. -/
theorem linkRests_append {more : Text} (spaced : more.head?.any isBlank = true)
    (headless : startsLoop more.stripStart = false) (text : Text) :
    linkRests (text ++ more) =
      (linkRests text ++ (lastKeyword? text).toList).map (· ++ more) ++ linkRests more := by
  induction text with
  | nil => rfl
  | cons character rest induction =>
      rw [List.cons_append, linkRests, linkRests, lastKeyword?]
      cases character == ':' with
      | false => exact induction
      | true =>
          cases empty : (Text.stripStart rest).isEmpty with
          | true =>
              have none : Text.stripStart rest = [] := List.isEmpty_iff.mp empty
              have later : Text.stripStart (rest ++ more) = more.stripStart := by
                rw [Text.stripStart, List.dropWhile_append, ← Text.stripStart, empty, if_pos rfl,
                  ← Text.stripStart]
              rw [later, headless, none]
              exact induction
          | false =>
              have nonempty : Text.stripStart rest ≠ [] := by simpa using empty
              rw [stripStart_append_of_head nonempty, startsLoop_append spaced]
              cases linked : startsLoop (Text.stripStart rest) with
              | true =>
                  rw [contains_eq_false_of_startsLoop linked]
                  exact congrArg (_ :: ·) induction
              | false =>
                  cases last : words.contains (Text.stripStart rest) with
                  | false => exact induction
                  | true =>
                      have none := no_colon_of_word (List.contains_iff_mem.mp last)
                      have unlinked := linkRests_append_of_no_colon none []
                      rw [List.append_nil] at unlinked
                      have behind := linkRests_append_of_no_colon none more
                      simp [unlinked, behind, linkRests]

theorem linkColumns_append {more : Text} (spaced : more.head?.any isBlank = true)
    (headless : startsLoop more.stripStart = false) (text : Text) :
    linkColumns (text ++ more) =
      linkColumns text ++ ((lastKeyword? text).toList.map (fun word => text.length - word.length) ++
        (linkRests more).map fun rest => (text ++ more).length - rest.length) := by
  have measured : (fun rest : Text => (text ++ more).length - (rest ++ more).length) =
      fun rest => text.length - rest.length := by
    funext rest
    rw [List.length_append, List.length_append, Nat.add_sub_add_right]
  rw [linkColumns_eq, linkColumns_eq, linkRests_append spaced headless, List.map_append,
    List.map_map, Function.comp_def, measured, List.map_append, List.append_assoc]

end LoopChain

end GrowthGauge
