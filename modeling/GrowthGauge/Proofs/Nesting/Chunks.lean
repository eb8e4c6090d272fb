import GrowthGauge.Proofs.Spacing.Tracking

namespace GrowthGauge

namespace Text

/-! ## Texts that are read in chunks

A text may be cut behind any of its line breaks and read chunk by chunk. The cut can part a
carriage return from its line feed, and a break at the edge of a chunk stands beside an empty
line. So the lines are not quite the same, but they differ in blank lines only, and a reader
that passes over those does not notice where the text was cut. -/

/-- All the ways in which a line can end. -/
def lineBreaks : List Text :=
  ["\n", "\r", "\r\n", "\u000B", "\u000C", "\u001C", "\u001D", "\u001E", "\u0085", "\u2028",
    "\u2029"].map String.toList

theorem isLineBreak_of_mem_lineBreaks {ending : Text} (isEnding : ending ∈ lineBreaks) :
    ending ≠ [] ∧ ∀ character ∈ ending, isLineBreak character = true := by
  have all : lineBreaks.all (fun ending => !ending.isEmpty && ending.all isLineBreak) = true := by
    decide +kernel
  have here := List.all_eq_true.mp all ending isEnding
  rw [Bool.and_eq_true, Bool.not_eq_true', List.isEmpty_eq_false_iff, List.all_eq_true] at here
  exact here

section

variable {State : Type} {read : State → Text → State} (ignores : IgnoresBlanks read)

include ignores

theorem foldl_linesFrom_nil (current : Text) (state : State) :
    (linesFrom current []).foldl read state = read state current.reverse :=
  foldl_linesFrom_blank ignores rfl current state

/-- A break ends the line that has begun. A line feed behind a carriage return belongs to the
same break; taken for a second one, it ends an empty line. -/
theorem foldl_linesFrom_cons_break {character : Char} (isBreak : isLineBreak character = true)
    (current rest : Text) (state : State) :
    (linesFrom current (character :: rest)).foldl read state =
      (linesFrom [] rest).foldl read (read state current.reverse) := by
  by_cases double : character = '\r' ∧ ∃ following, rest = '\n' :: following
  · rcases double with ⟨isReturn, following, split⟩
    subst isReturn split
    have lines : linesFrom current ('\r' :: '\n' :: following) =
        current.reverse :: linesFrom [] following := by
      rw [linesFrom]
    have emptyLine : read (read state current.reverse) [] = read state current.reverse :=
      ignores.blank _ [] rfl
    rw [lines, linesFrom_break, List.foldl_cons, List.foldl_cons, List.reverse_nil, emptyLine]
  · have single (following : Text) (isReturn : character = '\r')
        (split : rest = '\n' :: following) : False :=
      double ⟨isReturn, following, split⟩
    rw [linesFrom_cons_of_isLineBreak isBreak single, List.foldl_cons]

theorem foldl_linesFrom_breaks {ending : Text} (nonempty : ending ≠ [])
    (breaks : ∀ character ∈ ending, isLineBreak character = true) (current rest : Text)
    (state : State) :
    (linesFrom current (ending ++ rest)).foldl read state =
      (linesFrom [] rest).foldl read (read state current.reverse) := by
  induction ending generalizing current state with
  | nil => exact absurd rfl nonempty
  | cons character more induction =>
      rcases List.forall_mem_cons.mp breaks with ⟨isBreak, later⟩
      rw [List.cons_append, foldl_linesFrom_cons_break ignores isBreak]
      cases more with
      | nil => rfl
      | cons next more =>
          rw [induction (List.cons_ne_nil next more) later, List.reverse_nil,
            ignores.blank _ [] rfl]

/-- The induction is over the text before the cut, whose last line is still unfinished. -/
theorem foldl_linesFrom_append_breaks {ending : Text} (nonempty : ending ≠ [])
    (breaks : ∀ character ∈ ending, isLineBreak character = true) (current first second : Text)
    (state : State) :
    (linesFrom current (first ++ (ending ++ second))).foldl read state =
      (linesFrom [] second).foldl read ((linesFrom current first).foldl read state) := by
  induction first generalizing current state with
  | nil =>
      rw [List.nil_append, foldl_linesFrom_breaks ignores nonempty breaks,
        foldl_linesFrom_nil ignores]
  | cons character rest induction =>
      cases isBreak : isLineBreak character with
      | true =>
          rw [List.cons_append, foldl_linesFrom_cons_break ignores isBreak, induction,
            foldl_linesFrom_cons_break ignores isBreak]
      | false => rw [List.cons_append, linesFrom_cons isBreak, induction, linesFrom_cons isBreak]

end

/-! ### Chunks -/

/-- A line and the break that ends it. -/
structure Row where
  line : Text
  ending : Text
  unbroken : ∀ character ∈ line, isLineBreak character = false
  isEnding : ending ∈ lineBreaks

/-- Lines of any kind, blank and empty ones among them, the last without a break. -/
structure Chunk where
  rows : List Row
  last : Text
  unbroken : ∀ character ∈ last, isLineBreak character = false

namespace Chunk

def textFrom (last : Text) : List Row → Text
  | [] => last
  | row :: rest => row.line ++ (row.ending ++ textFrom last rest)

def text (chunk : Chunk) : Text :=
  textFrom chunk.last chunk.rows

def lines (chunk : Chunk) : List Text :=
  chunk.rows.map Row.line ++ [chunk.last]

end Chunk

section

variable {State : Type} {read : State → Text → State} (ignores : IgnoresBlanks read)

include ignores

theorem foldl_lines_of_unbroken {line : Text}
    (unbroken : ∀ character ∈ line, isLineBreak character = false) (state : State) :
    line.lines.foldl read state = read state line := by
  have started := linesFrom_append unbroken [] []
  rw [List.append_nil, List.append_nil] at started
  rw [lines, started, foldl_linesFrom_nil ignores, List.reverse_reverse]

theorem foldl_lines_append_break {ending : Text} (isEnding : ending ∈ lineBreaks)
    (first second : Text) (state : State) :
    (lines (first ++ (ending ++ second))).foldl read state =
      second.lines.foldl read (first.lines.foldl read state) := by
  rcases isLineBreak_of_mem_lineBreaks isEnding with ⟨nonempty, breaks⟩
  exact foldl_linesFrom_append_breaks ignores nonempty breaks [] first second state

theorem foldl_lines_chunk (chunk : Chunk) (state : State) :
    chunk.text.lines.foldl read state = chunk.lines.foldl read state := by
  rcases chunk with ⟨rows, last, unbroken⟩
  simp only [Chunk.text, Chunk.lines]
  induction rows generalizing state with
  | nil => exact foldl_lines_of_unbroken ignores unbroken state
  | cons row rest induction =>
      rw [Chunk.textFrom, foldl_lines_append_break ignores row.isEnding, induction,
        foldl_lines_of_unbroken ignores row.unbroken]
      rfl

theorem foldl_filter_inked (lines : List Text) (state : State) :
    (lines.filter (!·.isAllBlank)).foldl read state = lines.foldl read state := by
  induction lines generalizing state with
  | nil => rfl
  | cons line rest induction =>
      cases blank : line.isAllBlank with
      | true => simp [blank, induction, ignores.blank state line blank]
      | false => simp [blank, induction]

end

/-! ### Readers of chunks -/

/-- What was read last does not depend on where the text was cut, on which breaks end its lines
and on the blank lines in between. -/
structure ReadsInChunks {State : Type} (readLine readText : State → Text → State) : Prop where
  joined : ∀ state (first second : Text), ∀ ending ∈ lineBreaks,
    readText state (first ++ ending ++ second) = readText (readText state first) second
  chunks : ∀ state (chunks : List Chunk),
    (chunks.map Chunk.text).foldl readText state =
      ((chunks.flatMap Chunk.lines).filter (!·.isAllBlank)).foldl readLine state

theorem readsInChunks_of_ignoresBlanks {State : Type} {read : State → Text → State}
    (ignores : IgnoresBlanks read) :
    ReadsInChunks read fun state text => text.lines.foldl read state where
  joined state first second ending isEnding := by
    rw [List.append_assoc]
    exact foldl_lines_append_break ignores isEnding first second state
  chunks state chunks := by
    rw [foldl_filter_inked ignores]
    induction chunks generalizing state with
    | nil => rfl
    | cons chunk rest induction =>
        rw [List.map_cons, List.foldl_cons, foldl_lines_chunk ignores, induction,
          List.flatMap_cons, List.foldl_append]

end Text

/-- Both trackers, from any state, end up the same however a text is cut at its line breaks:
headers that wait for the next line, a break parted from its line feed and lines added blank
at the cuts make no difference. -/
theorem trackers_readInChunks :
    Text.ReadsInChunks BraceNesting.readLine BraceNesting.readText ∧
      Text.ReadsInChunks ColumnNesting.readLine ColumnNesting.readText :=
  ⟨Text.readsInChunks_of_ignoresBlanks BraceNesting.ignoresBlanks,
    Text.readsInChunks_of_ignoresBlanks ColumnNesting.ignoresBlanks⟩

end GrowthGauge
