import GrowthGauge.Proofs.Text.Joined
import GrowthGauge.Proofs.Text.Strip

namespace GrowthGauge

/-! ## One outline, two languages

An outline is a program of which only the structure matters: statements, blocks that
are no loops, and loops. No body is empty. It can be written with its blocks
indented or with its blocks in braces. -/

inductive Outline
  | statement
  | branch (body : Outline)
  | loop (body : Outline)
  | sequence (first second : Outline)
deriving Repr, DecidableEq

/-- A line of a rendering: its words behind so many spaces. -/
structure Row where
  column : Nat
  words : Text
deriving Repr, DecidableEq

namespace Row

def line (row : Row) : Text :=
  List.replicate row.column ' ' ++ row.words

def join (rows : List Row) : Text :=
  Text.joined (rows.map line)

theorem isAllBlank_replicate (column : Nat) :
    Text.isAllBlank (List.replicate column ' ') = true := by
  rw [Text.isAllBlank, List.all_eq_true]
  intro character member
  rw [List.eq_of_mem_replicate member]
  rfl

theorem strip_line (row : Row) : row.line.strip = row.words.strip := by
  exact congrArg Text.stripEnd (Text.stripStart_blank_append (isAllBlank_replicate row.column) _)

/-- Where the words of a row begin with no blank, its column is the line's indentation. -/
theorem indentation_line {row : Row} (inked : row.words.head?.all (!isBlank ·) = true) :
    row.line.indentation = row.column := by
  have spaces : ∀ character ∈ List.replicate row.column ' ', isBlank character = true :=
    List.all_eq_true.mp (isAllBlank_replicate row.column)
  have stops : row.words.takeWhile isBlank = [] := by
    cases split : row.words with
    | nil => rfl
    | cons head tail =>
        rw [split] at inked
        exact List.takeWhile_cons_of_neg (by simpa using inked)
  rw [Text.indentation, line, List.takeWhile_append_of_pos spaces, stops, List.append_nil,
    List.length_replicate]

theorem mem_line {row : Row} {character : Char} (member : character ∈ row.line) :
    character = ' ' ∨ character ∈ row.words := by
  rcases List.mem_append.mp member with inSpaces | inWords
  · exact .inl (List.eq_of_mem_replicate inSpaces)
  · exact .inr inWords

theorem mem_join {rows : List Row} {character : Char} (member : character ∈ join rows) :
    character = '\n' ∨ character = ' ' ∨ ∃ row ∈ rows, character ∈ row.words := by
  rcases Text.mem_joined member with lineFeed | ⟨line, inLines, inLine⟩
  · exact .inl lineFeed
  · rcases List.mem_map.mp inLines with ⟨row, inRows, equal⟩
    rw [← equal] at inLine
    rcases mem_line inLine with space | inWords
    · exact .inr (.inl space)
    · exact .inr (.inr ⟨row, inRows, inWords⟩)

theorem mem_join_of_mem {rows : List Row} {row : Row} (member : row ∈ rows) {character : Char}
    (inWords : character ∈ row.words) : character ∈ join rows :=
  Text.mem_joined_of_mem (List.mem_map_of_mem member) (List.mem_append_right _ inWords)

/-- The lines of a rendering are its rows, when every row has words without breaks. -/
theorem lines_join {rows : List Row} (areLines : ∀ row ∈ rows, row.words.isLine = true) :
    (join rows).lines = rows.map line := by
  apply Text.lines_joined
  intro written member
  rcases List.mem_map.mp member with ⟨row, inRows, equal⟩
  rcases (Text.isLine_iff _).mp (areLines row inRows) with ⟨nonempty, unbroken⟩
  rw [← equal, Text.isLine_iff]
  constructor
  · exact List.append_ne_nil_of_right_ne_nil _ nonempty
  · intro character inLine
    rcases mem_line inLine with space | inWords
    · rw [space]
      rfl
    · exact unbroken character inWords

end Row

namespace Outline

/-- The number of loops. -/
def loops : Outline → Nat
  | statement => 0
  | branch body => body.loops
  | loop body => body.loops + 1
  | sequence first second => first.loops + second.loops

/-- How deep the loops nest. Blocks do not count. -/
def depth : Outline → Nat
  | statement => 0
  | branch body => body.depth
  | loop body => body.depth + 1
  | sequence first second => max first.depth second.depth

def indentedLoopWords : Text :=
  "for v in xs:".toList

/-- The outline with indented blocks, each of them four columns to the right. -/
def indentedRows (column : Nat) : Outline → List Row
  | statement => [⟨column, "x += 1".toList⟩]
  | branch body => ⟨column, "if c:".toList⟩ :: body.indentedRows (column + 4)
  | loop body => ⟨column, indentedLoopWords⟩ :: body.indentedRows (column + 4)
  | sequence first second => first.indentedRows column ++ second.indentedRows column

/-- The outline with blocks in braces, each of them `width` columns to the right. -/
def bracedRows (width column : Nat) : Outline → List Row
  | statement => [⟨column, "x += 1;".toList⟩]
  | branch body =>
      ⟨column, "if (c) \x7b".toList⟩ :: body.bracedRows width (column + width) ++
        [⟨column, "\x7d".toList⟩]
  | loop body =>
      ⟨column, "for (;;) \x7b".toList⟩ :: body.bracedRows width (column + width) ++
        [⟨column, "\x7d".toList⟩]
  | sequence first second =>
      first.bracedRows width column ++ second.bracedRows width column

def indentedText (outline : Outline) : Text :=
  Row.join (outline.indentedRows 0)

def bracedText (width : Nat) (outline : Outline) : Text :=
  Row.join (outline.bracedRows width 0)

example :
    (loop (sequence statement (branch statement))).indentedText =
      "for v in xs:\n    x += 1\n    if c:\n        x += 1".toList := by decide +kernel

example :
    (loop (sequence statement (branch statement))).bracedText 0 =
      "for (;;) \x7b\nx += 1;\nif (c) \x7b\nx += 1;\n\x7d\n\x7d".toList := by decide +kernel

/-! ## What stands in a rendering -/

def indentedPlainWords : List Text :=
  ["x += 1".toList, "if c:".toList]

def bracedWords : List Text :=
  ["x += 1;".toList, "if (c) \x7b".toList, "for (;;) \x7b".toList, "\x7d".toList]

theorem words_indentedRows (outline : Outline) (column : Nat) :
    ∀ row ∈ outline.indentedRows column,
      row.words ∈ indentedPlainWords ∨ row.words = indentedLoopWords ∧ 0 < outline.loops := by
  induction outline generalizing column with
  | statement =>
      intro row member
      rw [List.mem_singleton.mp member]
      exact .inl List.mem_cons_self
  | branch body induction =>
      intro row member
      rcases List.mem_cons.mp member with equal | inBody
      · rw [equal]
        exact .inl (List.mem_cons_of_mem _ List.mem_cons_self)
      · exact induction (column + 4) row inBody
  | loop body induction =>
      intro row member
      rcases List.mem_cons.mp member with equal | inBody
      · rw [equal]
        exact .inr ⟨rfl, Nat.succ_pos _⟩
      · rcases induction (column + 4) row inBody with plain | ⟨isLoop, _⟩
        · exact .inl plain
        · exact .inr ⟨isLoop, Nat.succ_pos _⟩
  | sequence first second firstInduction secondInduction =>
      intro row member
      rcases List.mem_append.mp member with inFirst | inSecond
      · rcases firstInduction column row inFirst with plain | ⟨isLoop, positive⟩
        · exact .inl plain
        · exact .inr ⟨isLoop, Nat.add_pos_left positive _⟩
      · rcases secondInduction column row inSecond with plain | ⟨isLoop, positive⟩
        · exact .inl plain
        · exact .inr ⟨isLoop, Nat.add_pos_right _ positive⟩

/-- An outline with a loop shows a loop header when it is indented. -/
theorem exists_loop_row {outline : Outline} (positive : 0 < outline.loops) (column : Nat) :
    ∃ place, ⟨place, indentedLoopWords⟩ ∈ outline.indentedRows column := by
  induction outline generalizing column with
  | statement => cases positive
  | branch body induction =>
      rcases induction positive (column + 4) with ⟨place, member⟩
      exact ⟨place, List.mem_cons_of_mem _ member⟩
  | loop body _ => exact ⟨column, List.mem_cons_self⟩
  | sequence first second firstInduction secondInduction =>
      rcases Nat.add_pos_iff_pos_or_pos.mp positive with inFirst | inSecond
      · rcases firstInduction inFirst column with ⟨place, member⟩
        exact ⟨place, List.mem_append_left _ member⟩
      · rcases secondInduction inSecond column with ⟨place, member⟩
        exact ⟨place, List.mem_append_right _ member⟩

theorem words_bracedRows (outline : Outline) (width column : Nat) :
    ∀ row ∈ outline.bracedRows width column, row.words ∈ bracedWords := by
  have enclosed {rows : List Row} {opener : Row} (opening : opener.words ∈ bracedWords)
      (inside : ∀ row ∈ rows, row.words ∈ bracedWords) (column : Nat) :
      ∀ row ∈ opener :: rows ++ [⟨column, "\x7d".toList⟩], row.words ∈ bracedWords := by
    intro row member
    rcases List.mem_append.mp member with member | last
    · rcases List.mem_cons.mp member with equal | inBody
      · exact equal ▸ opening
      · exact inside row inBody
    · rw [List.mem_singleton.mp last]
      simp [bracedWords]
  induction outline generalizing column with
  | statement =>
      intro row member
      rw [List.mem_singleton.mp member]
      simp [bracedWords]
  | branch body induction =>
      exact enclosed (by simp [bracedWords]) (induction (column + width)) column
  | loop body induction =>
      exact enclosed (by simp [bracedWords]) (induction (column + width)) column
  | sequence first second firstInduction secondInduction =>
      intro row member
      rcases List.mem_append.mp member with inFirst | inSecond
      · exact firstInduction column row inFirst
      · exact secondInduction column row inSecond

theorem loops_eq_zero_iff (outline : Outline) : outline.loops = 0 ↔ outline.depth = 0 := by
  induction outline with
  | statement => simp [loops, depth]
  | branch body induction => exact induction
  | loop body _ => simp [loops, depth]
  | sequence first second firstInduction secondInduction =>
      simp only [loops, depth]
      omega

end Outline

end GrowthGauge
