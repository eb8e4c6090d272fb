import GrowthGauge.Nesting.Column
import GrowthGauge.Proofs.Pattern.Requirement
import GrowthGauge.Proofs.Text.Strip
import Mathlib.Data.List.Induction

namespace GrowthGauge

/-! ## The header columns of a line

The first header of a line stands at its indentation and every further one
behind a colon, so the header columns of one line rise. -/

namespace LoopChain

theorem linkColumns_rise (masked : Text) :
    (∀ column ∈ linkColumns masked, 0 < column) ∧
      (linkColumns masked).Pairwise (· < ·) := by
  have requires : link.Requires (· == ':') :=
    Pattern.requires_inOrder List.mem_cons_self (Pattern.requires_char rfl)
  apply Pattern.columns_allMatches
  intro cursor reached member
  exact Pattern.length_ahead_lt_of_requires requires member

theorem headerColumns_rise (line : Text) :
    (∀ column ∈ headerColumns line, line.indentation ≤ column) ∧
      (headerColumns line).Pairwise (· < ·) := by
  rcases linkColumns_rise line.strip.masked with ⟨positive, rising⟩
  unfold headerColumns
  split
  · constructor
    · refine List.forall_mem_cons.mpr ⟨Nat.le_refl _, ?_⟩
      intro column member
      rcases List.mem_map.mp member with ⟨offset, _, equal⟩
      exact equal ▸ Nat.le_add_right _ _
    · refine List.pairwise_cons.mpr ⟨?_, ?_⟩
      · intro column member
        rcases List.mem_map.mp member with ⟨offset, inLinks, equal⟩
        exact equal ▸ Nat.lt_add_of_pos_right (positive offset inLinks)
      · rw [List.pairwise_map]
        exact rising.imp fun less => Nat.add_lt_add_left less _
  · exact ⟨by simp, .nil⟩

theorem headerColumns_of_isAllBlank {line : Text} (blank : line.isAllBlank = true) :
    headerColumns line = [] := by
  rw [headerColumns, (Text.strip_eq_nil_iff line).mpr blank]
  rfl

end LoopChain

namespace ColumnNesting

/-! ## Open headers

What the tracker should keep can be read off the lines alone. A header is open up
to a later line when no line in between, blank ones aside, begins at its column
or left of it. -/

structure Header where
  line : Nat
  column : Nat
deriving Repr, DecidableEq

/-- All headers of a text, in the order in which they are written. -/
def headersOf (lines : List Text) : List Header :=
  lines.zipIdx.flatMap fun numbered =>
    (LoopChain.headerColumns numbered.1).map fun column => ⟨numbered.2, column⟩

/-- No line behind the header's own, up to and with the line `last`, ends its loop. -/
def Header.isOpenAt (header : Header) (lines : List Text) (last : Nat) : Bool :=
  ((lines.take (last + 1)).drop (header.line + 1)).all fun line =>
    line.isAllBlank || header.column < line.indentation

/-- The headers that are open behind the last line. -/
def openHeaders (lines : List Text) : List Header :=
  (headersOf lines).filter (·.isOpenAt lines lines.length)

/-- For every header, the headers up to it that are open at its line. -/
def nestings (lines : List Text) : List Nat :=
  (headersOf lines).zipIdx.map fun placed =>
    (((headersOf lines).take (placed.2 + 1)).filter
      (·.isOpenAt lines placed.1.line)).length

example :
    openHeaders ["for a in b:".toList, "  while c: for d in e:".toList, "    f".toList] =
      [⟨0, 0⟩, ⟨1, 2⟩] := by decide +kernel

/-! ## One more line -/

theorem headersOf_concat (lines : List Text) (line : Text) :
    headersOf (lines ++ [line]) =
      headersOf lines ++
        (LoopChain.headerColumns line).map fun column => ⟨lines.length, column⟩ := by
  simp [headersOf, List.zipIdx_append]

theorem line_lt_of_mem_headersOf {lines : List Text} {header : Header}
    (member : header ∈ headersOf lines) : header.line < lines.length := by
  rcases List.mem_flatMap.mp member with ⟨numbered, inLines, inColumns⟩
  rcases List.mem_map.mp inColumns with ⟨column, _, equal⟩
  have bound := (List.mem_zipIdx inLines).2.1
  rw [← equal]
  simpa using bound

theorem isOpenAt_of_length_le (header : Header) {lines : List Text} {last : Nat}
    (all : lines.length ≤ last + 1) :
    header.isOpenAt lines last =
      (lines.drop (header.line + 1)).all fun line =>
        line.isAllBlank || header.column < line.indentation := by
  rw [Header.isOpenAt, List.take_of_length_le all]

/-- Whether a header is open at a line is settled by the lines up to there. -/
theorem isOpenAt_concat_of_lt (header : Header) {lines : List Text} {last : Nat}
    (earlier : last < lines.length) (line : Text) :
    header.isOpenAt (lines ++ [line]) last = header.isOpenAt lines last := by
  rw [Header.isOpenAt, Header.isOpenAt, List.take_append_of_le_length earlier]

theorem isOpenAt_concat {header : Header} {lines : List Text} {last : Nat}
    (earlier : header.line < lines.length) (all : lines.length ≤ last) (line : Text) :
    header.isOpenAt (lines ++ [line]) last =
      (header.isOpenAt lines lines.length &&
        (line.isAllBlank || header.column < line.indentation)) := by
  rw [isOpenAt_of_length_le header (by simpa using all),
    isOpenAt_of_length_le header (Nat.le_succ _), List.drop_append_of_le_length earlier,
    List.all_append]
  simp

theorem isOpenAt_own_line (header : Header) {lines : List Text} {last : Nat}
    (own : lines.length ≤ header.line + 1) : header.isOpenAt lines last = true := by
  rw [Header.isOpenAt, List.drop_of_length_le]
  · rfl
  · exact Nat.le_trans (List.length_take_le' _ _) own

theorem filter_isOpenAt_concat (lines : List Text) (line : Text) {last : Nat}
    (all : lines.length ≤ last) :
    (headersOf lines).filter (·.isOpenAt (lines ++ [line]) last) =
      (openHeaders lines).filter fun header =>
        line.isAllBlank || header.column < line.indentation := by
  rw [openHeaders, List.filter_filter]
  apply List.filter_congr
  intro header member
  rw [isOpenAt_concat (line_lt_of_mem_headersOf member) all, Bool.and_comm]

theorem filter_isOpenAt_new (lines : List Text) (line : Text) (last : Nat)
    (columns : List Nat) :
    (columns.map fun column => (⟨lines.length, column⟩ : Header)).filter
        (·.isOpenAt (lines ++ [line]) last) =
      columns.map fun column => ⟨lines.length, column⟩ := by
  rw [List.filter_eq_self]
  intro header member
  rcases List.mem_map.mp member with ⟨column, _, equal⟩
  apply isOpenAt_own_line
  rw [← equal, List.length_append, List.length_singleton]

theorem openHeaders_concat (lines : List Text) (line : Text) :
    openHeaders (lines ++ [line]) =
      ((openHeaders lines).filter fun header =>
        line.isAllBlank || header.column < line.indentation) ++
        (LoopChain.headerColumns line).map fun column => ⟨lines.length, column⟩ := by
  rw [openHeaders, headersOf_concat, List.filter_append, filter_isOpenAt_new,
    filter_isOpenAt_concat]
  simp

/-- The headers of the next line nest one after the other in what it leaves open. -/
theorem nestings_concat (lines : List Text) (line : Text) :
    nestings (lines ++ [line]) =
      nestings lines ++ List.range'
        (((openHeaders lines).filter fun header =>
          line.isAllBlank || header.column < line.indentation).length + 1)
        (LoopChain.headerColumns line).length := by
  rw [nestings, headersOf_concat, List.zipIdx_append, List.map_append, nestings]
  congr 1
  · apply List.map_congr_left
    intro placed member
    have bounds := List.mem_zipIdx member
    have place : placed.2 + 1 ≤ (headersOf lines).length := by
      have upper := bounds.2.1
      omega
    have inHeaders : placed.1 ∈ headersOf lines := by
      rw [bounds.2.2]
      exact List.getElem_mem _
    rw [List.take_append_of_le_length place]
    congr 1
    apply List.filter_congr
    intro header _
    exact isOpenAt_concat_of_lt header (line_lt_of_mem_headersOf inHeaders) line
  · apply List.ext_getElem
    · simp
    · intro place inNew inRange
      rw [List.getElem_map, List.getElem_zipIdx, List.getElem_map, List.getElem_range']
      have taken : (headersOf lines).length ≤ 0 + (headersOf lines).length + place + 1 := by
        omega
      have rest : 0 + (headersOf lines).length + place + 1 - (headersOf lines).length =
          place + 1 := by omega
      rw [List.take_append, List.take_of_length_le taken, rest, ← List.map_take,
        List.filter_append, filter_isOpenAt_new, filter_isOpenAt_concat lines line (Nat.le_refl _),
        List.length_append, List.length_map, List.length_take]
      have placeBound : place < (LoopChain.headerColumns line).length := by simpa using inRange
      omega

/-! ## The tracker keeps the open headers -/

theorem dropWhile_eq_filter_of_falling {columns : List Nat}
    (falling : columns.Pairwise (· > ·)) (column : Nat) :
    columns.dropWhile (column ≤ ·) = columns.filter (· < column) := by
  induction columns with
  | nil => rfl
  | cons head tail induction =>
      rcases List.pairwise_cons.mp falling with ⟨below, tailFalling⟩
      by_cases ends : column ≤ head
      · rw [List.dropWhile_cons_of_pos (by simpa using ends),
          List.filter_cons_of_neg (by simpa using ends)]
        exact induction tailFalling
      · have stays : head < column := Nat.lt_of_not_le ends
        rw [List.dropWhile_cons_of_neg (by simpa using stays)]
        symm
        rw [List.filter_eq_self]
        intro other member
        rcases List.mem_cons.mp member with equal | member
        · simpa [equal] using stays
        · simpa using Nat.lt_trans (below other member) stays

theorem foldl_meetHeader (nesting : ColumnNesting) (columns : List Nat) :
    columns.foldl meetHeader nesting =
      ⟨columns.reverse ++ nesting.columns,
        ⟨nesting.tally.loops + columns.length,
          (List.range' (nesting.current + 1) columns.length).foldl max
            nesting.tally.deepest⟩⟩ := by
  induction columns generalizing nesting with
  | nil => rfl
  | cons column rest induction =>
      rw [List.foldl_cons, induction]
      simp [meetHeader, current, LoopTally.charge, List.range'_succ, Nat.add_assoc,
        Nat.add_comm 1]

/-- What a state says about the lines that have led to it. -/
structure Describes (nesting : ColumnNesting) (lines : List Text) : Prop where
  falling : nesting.columns.Pairwise (· > ·)
  columns : nesting.columns.reverse = (openHeaders lines).map (·.column)
  loops : nesting.tally.loops = (headersOf lines).length
  deepest : nesting.tally.deepest = (nestings lines).foldl max 0

theorem describes_initial : initial.Describes [] :=
  ⟨.nil, rfl, rfl, rfl⟩

theorem describes_blank {nesting : ColumnNesting} {lines : List Text} {line : Text}
    (described : nesting.Describes lines) (blank : line.isAllBlank = true) :
    nesting.Describes (lines ++ [line]) := by
  have none := LoopChain.headerColumns_of_isAllBlank blank
  refine ⟨described.falling, ?_, ?_, ?_⟩
  · rw [openHeaders_concat, none]
    simp [blank, described.columns]
  · rw [headersOf_concat, none]
    simp [described.loops]
  · rw [nestings_concat, none]
    simp [described.deepest]

theorem length_columns {nesting : ColumnNesting} {lines : List Text}
    (described : nesting.Describes lines) :
    nesting.columns.length = (openHeaders lines).length := by
  have lengths := congrArg List.length described.columns
  rwa [List.length_reverse, List.length_map] at lengths

theorem dedentTo_columns {nesting : ColumnNesting} {lines : List Text}
    (described : nesting.Describes lines) (column : Nat) :
    (nesting.dedentTo column).columns.reverse =
      ((openHeaders lines).filter fun header => header.column < column).map (·.column) := by
  rw [dedentTo, dropWhile_eq_filter_of_falling described.falling, ← List.filter_reverse,
    described.columns, List.filter_map]
  rfl

/-- A line keeps the loops to the left of it and opens its own headers. -/
theorem describes_readLine {nesting : ColumnNesting} {lines : List Text}
    (described : nesting.Describes lines) (line : Text) :
    (nesting.readLine line).Describes (lines ++ [line]) := by
  unfold readLine
  by_cases blank : line.isAllBlank = true
  · rw [(Text.strip_eq_nil_iff line).mpr blank]
    exact describes_blank described blank
  have inked : line.strip.isEmpty = false := by
    rw [Bool.eq_false_iff]
    exact fun empty => blank ((Text.strip_eq_nil_iff line).mp (List.isEmpty_iff.mp empty))
  rw [inked, if_neg Bool.false_ne_true, foldl_meetHeader]
  rcases LoopChain.headerColumns_rise line with ⟨right, rising⟩
  have kept := dedentTo_columns described line.indentation
  have current : (nesting.dedentTo line.indentation).current =
      ((openHeaders lines).filter fun header => header.column < line.indentation).length := by
    have lengths := congrArg List.length kept
    rwa [List.length_reverse, List.length_map] at lengths
  have falling : (nesting.dedentTo line.indentation).columns.Pairwise (· > ·) :=
    described.falling.sublist (List.dropWhile_sublist _)
  refine ⟨?_, ?_, ?_, ?_⟩
  · refine List.pairwise_append.mpr ⟨List.pairwise_reverse.mpr rising, falling, ?_⟩
    intro new isNew old isOld
    rw [dedentTo, dropWhile_eq_filter_of_falling described.falling] at isOld
    have left : old < line.indentation := by simpa using (List.mem_filter.mp isOld).2
    exact Nat.lt_of_lt_of_le left (right new (List.mem_reverse.mp isNew))
  · rw [List.reverse_append, List.reverse_reverse, kept, openHeaders_concat]
    simp [blank, Function.comp_def]
  · rw [headersOf_concat]
    simp [dedentTo, described.loops]
  · rw [nestings_concat, List.foldl_append, current, ← described.deepest]
    simp [blank, dedentTo]

theorem describes_readLines (lines : List Text) : (initial.readLines lines).Describes lines := by
  induction lines using List.reverseRecOn with
  | nil => exact describes_initial
  | append_singleton lines line induction =>
      rw [readLines, List.foldl_append]
      exact describes_readLine induction line

/-- After any lines the tracker holds the columns of exactly the open headers,
outermost first and rising. It has counted every header, and its deepest nesting
is the greatest number of headers that are open where one of them is met. -/
theorem readLines_columns (lines : List Text) :
    (initial.readLines lines).columns.reverse.Pairwise (· < ·) ∧
    (initial.readLines lines).columns.reverse = (openHeaders lines).map (·.column) ∧
    (initial.readLines lines).current = (openHeaders lines).length ∧
    (initial.readLines lines).tally.loops = (headersOf lines).length ∧
    (initial.readLines lines).tally.deepest = (nestings lines).foldl max 0 := by
  have described := describes_readLines lines
  exact ⟨List.pairwise_reverse.mpr described.falling, described.columns, length_columns described,
    described.loops, described.deepest⟩

end ColumnNesting

end GrowthGauge
