import GrowthGauge.Text.Digit
import GrowthGauge.Text.Line
import GrowthGauge.Text.Word

namespace GrowthGauge

/-! ## Positions in a text

A cursor stands between two characters. It knows the character behind it, which
word boundaries and line starts depend on, and the text ahead of it. When a
pattern has marked a name on the way, the cursor carries it as the two texts
that lay ahead at the name's start and at its end. -/

structure Span where
  starting : Text
  following : Text
deriving Repr, DecidableEq

/-- The characters that a span covers: what `starting` has before `following`. -/
def Span.text (span : Span) : Text :=
  span.starting.take (span.starting.length - span.following.length)

example : Span.text ⟨['a', 'b', 'c'], ['c']⟩ = ['a', 'b'] := rfl

structure Cursor where
  previous : Option Char
  ahead : Text
  name : Option Span
deriving Repr, DecidableEq

namespace Cursor

/-- The position before the first character. -/
def start (text : Text) : Cursor :=
  ⟨none, text, none⟩

def isWordBehind (cursor : Cursor) : Bool :=
  cursor.previous.any isWord

def isWordAhead (cursor : Cursor) : Bool :=
  cursor.ahead.head?.any isWord

/-- The positions that a run of accepted characters reaches from here, the
farthest one first and the present one last. The cursors in `reached` come
after those found from `ahead`. -/
def reach (accepts : Char → Bool) (name : Option Span)
    (reached : List Cursor) (previous : Option Char) : Text → List Cursor
  | [] => ⟨previous, [], name⟩ :: reached
  | character :: rest =>
      let present : Cursor := ⟨previous, character :: rest, name⟩
      if accepts character then
        reach accepts name (present :: reached) (some character) rest
      else
        present :: reached

def farthestFirst (accepts : Char → Bool) (cursor : Cursor) : List Cursor :=
  reach accepts cursor.name [] cursor.previous cursor.ahead

def nearestFirst (accepts : Char → Bool) (cursor : Cursor) : List Cursor :=
  (cursor.farthestFirst accepts).reverse

example :
    (farthestFirst (· == 'a') (start ['a', 'a', 'b'])).map (·.ahead) =
      [['b'], ['a', 'b'], ['a', 'a', 'b']] := rfl

end Cursor

/-! ## Patterns

A pattern describes where a match may end when it begins at a cursor, and in
which order the possible ends are tried. A run of one class prefers to be long,
a `fewest` run prefers to be short, and of two alternatives the left one is
tried first. -/

inductive Pattern
  | nothing
  | one (accepts : Char → Bool)
  | many (accepts : Char → Bool)
  | fewest (accepts : Char → Bool)
  | seq (first second : Pattern)
  | either (preferred fallback : Pattern)
  | repeated (body : Pattern)
  | named (body : Pattern)
  | boundary
  | lineStart
  | lineEnd
  | textEnd
  | followedBy (body : Pattern)
  | notFollowedBy (accepts : Char → Bool)

namespace Pattern

/-- One more round of `body` is preferred to going on. At most `rounds` rounds
are made. -/
def rounds (body : Cursor → (Cursor → Option Cursor) → Option Cursor)
    (proceed : Cursor → Option Cursor) : Nat → Cursor → Option Cursor
  | 0, cursor => proceed cursor
  | count + 1, cursor =>
      body cursor (rounds body proceed count) <|> proceed cursor

/-- The first end of the pattern, in the order in which its ends are tried, from
which `proceed` succeeds. The answer is the cursor that `proceed` gives.
A repeated body takes at least one character, so the text ahead bounds the
number of its rounds. -/
def run : Pattern → Cursor → (Cursor → Option Cursor) → Option Cursor
  | nothing, cursor, proceed => proceed cursor
  | one accepts, cursor, proceed =>
      match cursor.ahead with
      | [] => none
      | character :: rest =>
          if accepts character then
            proceed ⟨some character, rest, cursor.name⟩
          else
            none
  | many accepts, cursor, proceed =>
      (cursor.farthestFirst accepts).findSome? proceed
  | fewest accepts, cursor, proceed =>
      (cursor.nearestFirst accepts).findSome? proceed
  | seq first second, cursor, proceed =>
      first.run cursor fun middle => second.run middle proceed
  | either preferred fallback, cursor, proceed =>
      preferred.run cursor proceed <|> fallback.run cursor proceed
  | repeated body, cursor, proceed =>
      rounds body.run proceed cursor.ahead.length cursor
  | named body, cursor, proceed =>
      body.run cursor fun reached =>
        proceed { reached with name := some ⟨cursor.ahead, reached.ahead⟩ }
  | boundary, cursor, proceed =>
      if cursor.isWordBehind == cursor.isWordAhead then none else proceed cursor
  | lineStart, cursor, proceed =>
      if cursor.previous.all (· == '\n') then proceed cursor else none
  | lineEnd, cursor, proceed =>
      if cursor.ahead.head?.all (· == '\n') then proceed cursor else none
  | textEnd, cursor, proceed =>
      if cursor.ahead == [] || cursor.ahead == ['\n'] then proceed cursor else none
  | followedBy body, cursor, proceed =>
      if (body.run cursor some).isSome then proceed cursor else none
  | notFollowedBy accepts, cursor, proceed =>
      if cursor.ahead.head?.any accepts then none else proceed cursor

/-! ## Building patterns -/

def inOrder : List Pattern → Pattern
  | [] => nothing
  | [last] => last
  | first :: rest => seq first (inOrder rest)

/-- The alternatives in the order in which they are tried. Without any, nothing
matches. -/
def firstOf : List Pattern → Pattern
  | [] => one fun _ => false
  | [last] => last
  | preferred :: rest => either preferred (firstOf rest)

def char (expected : Char) : Pattern :=
  one (· == expected)

/-- Exactly these characters, one after the other. -/
def literal (expected : Text) : Pattern :=
  inOrder (expected.map char)

def exactly (expected : String) : Pattern :=
  literal expected.toList

def perhaps (body : Pattern) : Pattern :=
  either body nothing

def atLeastOne (accepts : Char → Bool) : Pattern :=
  seq (one accepts) (many accepts)

def blanks : Pattern :=
  many isBlank

def someBlanks : Pattern :=
  atLeastOne isBlank

/-- A run of word characters. -/
def wordRun : Pattern :=
  atLeastOne isWord

/-- An identifier that begins with an ASCII letter or an underscore. -/
def identifier : Pattern :=
  seq (one isNameStart) (many isWord)

/-- Any character but a line feed. -/
def isInline (character : Char) : Bool :=
  character != '\n'

example :
    ((seq (many (· == 'a')) (char 'a')).run (Cursor.start ['a', 'a', 'b']) some).map (·.ahead) =
      some ['b'] := rfl

end Pattern

end GrowthGauge
