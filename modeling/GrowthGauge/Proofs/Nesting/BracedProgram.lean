import GrowthGauge.Loop.Header

namespace GrowthGauge

/-! ## Programs in braces

A program in braces is a sequence of plain lines, blocks and loops. Each part of it
carries the proof that its text is of its kind: a plain line is no loop header, a
header keeps its parentheses open up to its last line. So a program cannot be
written down whose lines say something other than its structure. -/

namespace Text

def isBraceless (text : Text) : Bool :=
  text.all fun character => character != '{' && character != '}'

def parenStep (parens : Nat) (character : Char) : Option Nat :=
  if character == '(' then
    some (parens + 1)
  else if character == ')' then
    if parens == 0 then none else some (parens - 1)
  else
    some parens

/-- The parentheses open behind a text, when so many were open before it. A text
that closes one more than are open has no answer. -/
def parensAfter (parens : Nat) (text : Text) : Option Nat :=
  text.foldlM parenStep parens

/-- The last line closes the parentheses, and no line before it does. -/
def closesInLast : (parens : Nat) → List Text → Bool
  | _, [] => false
  | parens, [last] => parensAfter parens last == some 0
  | parens, line :: rest =>
      match parensAfter parens line with
      | some (still + 1) => closesInLast (still + 1) rest
      | _ => false

theorem closesInLast_cons_cons_iff (parens : Nat) (line second : Text) (rest : List Text) :
    closesInLast parens (line :: second :: rest) = true ↔
      ∃ still, parensAfter parens line = some (still + 1) ∧
        closesInLast (still + 1) (second :: rest) = true := by
  simp only [closesInLast]
  split
  · next still after =>
      constructor
      · exact fun closes => ⟨still, after, closes⟩
      · rintro ⟨other, otherAfter, closes⟩
        rw [after, Option.some.injEq] at otherAfter
        exact Nat.succ.inj otherAfter ▸ closes
  · next notOpen =>
      constructor
      · exact fun impossible => absurd impossible Bool.false_ne_true
      · rintro ⟨still, after, _⟩
        exact absurd after (notOpen still)

/-- The lines with more text at the end of the last one. -/
def endingWith (ending : Text) : List Text → List Text
  | [] => []
  | [last] => [last ++ ending]
  | line :: rest => line :: endingWith ending rest

theorem endingWith_cons_cons (ending line second : Text) (rest : List Text) :
    endingWith ending (line :: second :: rest) = line :: endingWith ending (second :: rest) :=
  rfl

theorem endingWith_nil (lines : List Text) : endingWith [] lines = lines := by
  induction lines with
  | nil => rfl
  | cons line rest induction =>
      cases rest with
      | nil => rw [endingWith, List.append_nil]
      | cons second rest => rw [endingWith_cons_cons, induction]

/-- What is written in the lines, whatever the blanks around it. -/
def ink (lines : List Text) : List Text :=
  (lines.map strip).filter (!List.isEmpty ·)

example : parensAfter 0 "f(g(x)".toList = some 1 := by decide +kernel

example : closesInLast 0 ["for (int i = 0;".toList, "i < n; i++)".toList] = true := by
  decide +kernel

end Text

namespace Braced

structure PlainLine where
  text : Text
  braceless : text.isBraceless = true
  unrecognised : LoopHeader.ofLine? text = none

/-- A line that opens a block, without the brace at its end. -/
structure BlockOpener where
  text : Text
  braceless : text.isBraceless = true
  unrecognised : LoopHeader.ofLine? (text ++ ['{']) = none

/-- A loop header, which may be split over lines inside its parentheses. -/
structure Header where
  first : Text
  later : List Text
  recognised : (LoopHeader.ofLine? first).isSome = true
  unrecognised : ∀ line ∈ later, LoopHeader.ofLine? line = none
  braceless : ∀ line ∈ first :: later, line.isBraceless = true
  closes : Text.closesInLast 0 (first :: later) = true
  unfinished :
    ((first :: later).getLast (List.cons_ne_nil first later)).strip.getLast? ≠ some ';'

namespace Header

def last (header : Header) : Text :=
  (header.first :: header.later).getLast (List.cons_ne_nil header.first header.later)

theorem getLast?_fragments (header : Header) :
    (header.first :: header.later).getLast? = some header.last :=
  List.getLast?_eq_some_getLast _

/-- The header's lines when something stands behind it on its last line. -/
def lines (header : Header) (ending : Text) : List Text :=
  Text.endingWith ending (header.first :: header.later)

/-- What stands behind the header on its last line makes no loop header of a line
that is none. -/
def Takes (header : Header) (ending : Text) : Prop :=
  ∀ line ∈ Text.endingWith ending header.later, LoopHeader.ofLine? line = none

theorem takes_nil (header : Header) : header.Takes [] := by
  rw [Takes, Text.endingWith_nil]
  exact header.unrecognised

/-- A header that is not split. -/
def onOneLine (line : Text) (recognised : (LoopHeader.ofLine? line).isSome = true)
    (braceless : line.isBraceless = true) (balanced : Text.parensAfter 0 line = some 0)
    (unfinished : line.strip.getLast? ≠ some ';') : Header where
  first := line
  later := []
  recognised
  unrecognised := fun _ member => absurd member List.not_mem_nil
  braceless := List.forall_mem_singleton.mpr braceless
  closes := beq_iff_eq.mpr balanced
  unfinished

/-- A header that is not split takes whatever stands behind it. -/
theorem takes_of_later_eq_nil {header : Header} (single : header.later = []) (ending : Text) :
    header.Takes ending := by
  intro line member
  rw [single] at member
  exact absurd member List.not_mem_nil

end Header

inductive Brace (header : Header)
  | onNextLine
  | onSameLine (takes : header.Takes ['{'])

def Brace.lines {header : Header} : Brace header → List Text
  | onNextLine => header.lines [] ++ [['{']]
  | onSameLine _ => header.lines ['{']

/-- The condition of a `do` loop, on one line. -/
structure Condition where
  text : Text
  braceless : text.isBraceless = true
  inline : '\n' ∉ text

def Condition.line (condition : Condition) : Text :=
  "\x7d while (".toList ++ condition.text ++ ");".toList

theorem Condition.isBraceless_tail (condition : Condition) :
    Text.isBraceless (" while (".toList ++ condition.text ++ ");".toList) = true := by
  simp only [Text.isBraceless, List.all_append, Bool.and_eq_true]
  exact ⟨⟨by decide, condition.braceless⟩, by decide⟩

/-- A line that is the one statement of a loop without a brace. -/
structure StatementLine extends PlainLine where
  inked : text.isAllBlank = false
  balanced : Text.parensAfter 0 text = some 0

/-- A statement on the last line of a loop header without a brace. -/
structure InlineStatement (header : Header) where
  text : Text
  braceless : text.isBraceless = true
  balanced : Text.parensAfter 0 text = some 0
  finished : text.strip.getLast? = some ';'
  takes : header.Takes text

inductive SingleStatement (header : Header)
  | onNextLine (line : StatementLine)
  | onSameLine (statement : InlineStatement header)

def SingleStatement.lines {header : Header} : SingleStatement header → List Text
  | onNextLine line => header.lines [] ++ [line.text]
  | onSameLine statement => header.lines statement.text

/-- A program is its first part and the rest. A chain is a row of loop headers
without braces, one inside the other, that ends in a single statement. -/
inductive Program
  | done
  | plain (line : PlainLine) (rest : Program)
  | block (opener : BlockOpener) (body rest : Program)
  | loop (header : Header) (brace : Brace header) (body rest : Program)
  | doLoop (condition : Condition) (body rest : Program)
  | chain (outer : List Header) (inner : Header) (statement : SingleStatement inner)
      (rest : Program)

namespace Program

def lines : Program → List Text
  | done => []
  | plain line rest => line.text :: rest.lines
  | block opener body rest =>
      (opener.text ++ ['{']) :: body.lines ++ [['}']] ++ rest.lines
  | loop _ brace body rest => brace.lines ++ body.lines ++ [['}']] ++ rest.lines
  | doLoop condition body rest =>
      "do \x7b".toList :: body.lines ++ [condition.line] ++ rest.lines
  | chain outer _ statement rest =>
      outer.flatMap (·.lines []) ++ statement.lines ++ rest.lines

/-- The number of loops in the program. -/
def loops : Program → Nat
  | done => 0
  | plain _ rest => rest.loops
  | block _ body rest => body.loops + rest.loops
  | loop _ _ body rest | doLoop _ body rest => body.loops + 1 + rest.loops
  | chain outer _ _ rest => outer.length + 1 + rest.loops

/-- How deep the loops of the program nest. Blocks do not count. -/
def depth : Program → Nat
  | done => 0
  | plain _ rest => rest.depth
  | block _ body rest => max body.depth rest.depth
  | loop _ _ body rest | doLoop _ body rest => max (body.depth + 1) rest.depth
  | chain outer _ _ rest => max (outer.length + 1) rest.depth

end Program

end Braced

end GrowthGauge
