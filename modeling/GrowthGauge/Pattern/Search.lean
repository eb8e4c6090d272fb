import GrowthGauge.Pattern.Basic

namespace GrowthGauge

/-! ## Matches

A search looks for the leftmost position at which a pattern matches and takes
the first end that the pattern prefers there. -/

structure Match where
  start : Cursor
  stop : Cursor
deriving Repr, DecidableEq

namespace Match

/-- The characters that the match covers. -/
def text (found : Match) : Text :=
  Span.text ⟨found.start.ahead, found.stop.ahead⟩

/-- The name marked inside the match. -/
def name (found : Match) : Option Text :=
  found.stop.name.map Span.text

/-- The column behind the match, in the text that was searched. -/
def column (found : Match) (searched : Text) : Nat :=
  searched.length - found.stop.ahead.length

end Match

namespace Pattern

def matchAt (pattern : Pattern) (cursor : Cursor) : Option Match :=
  (pattern.run cursor some).map fun stop => ⟨cursor, stop⟩

/-- The leftmost match in `ahead`, where `previous` is the character before. -/
def searchFrom (pattern : Pattern) (previous : Option Char) : Text → Option Match
  | [] => pattern.matchAt ⟨previous, [], none⟩
  | character :: rest =>
      match pattern.matchAt ⟨previous, character :: rest, none⟩ with
      | some found => some found
      | none => pattern.searchFrom (some character) rest

def search? (pattern : Pattern) (text : Text) : Option Match :=
  pattern.searchFrom none text

def occursIn (pattern : Pattern) (text : Text) : Bool :=
  (pattern.search? text).isSome

/-- The match that begins with the text, if there is one. -/
def matchStart? (pattern : Pattern) (text : Text) : Option Match :=
  pattern.matchAt (Cursor.start text)

/-- The matches in `ahead` that follow one another without overlapping. The
first `covered` characters belong to the match before. -/
def matchesFrom (pattern : Pattern) (covered : Nat) (previous : Option Char) :
    Text → List Match
  | [] =>
      if covered == 0 then (pattern.matchAt ⟨previous, [], none⟩).toList else []
  | character :: rest =>
      match covered with
      | more + 1 => pattern.matchesFrom more (some character) rest
      | 0 =>
          match pattern.matchAt ⟨previous, character :: rest, none⟩ with
          | some found =>
              found :: pattern.matchesFrom (found.text.length - 1) (some character) rest
          | none => pattern.matchesFrom 0 (some character) rest

/-- All matches from left to right, none of which begins inside another. -/
def allMatches (pattern : Pattern) (text : Text) : List Match :=
  pattern.matchesFrom 0 none text

end Pattern

/-! ## Tables of patterns

A table lists the forms of one kind of construct in the order in which they are
tried, and gives the pattern of each form. -/

/-- The first form whose pattern occurs in the text, with its leftmost match. -/
def firstForm {Form : Type} (forms : List Form) (pattern : Form → Pattern) (text : Text) :
    Option (Form × Match) :=
  forms.findSome? fun form =>
    ((pattern form).search? text).map fun found => (form, found)

/-- All forms whose patterns occur in the text, in the order of the table. -/
def formsIn {Form : Type} (forms : List Form) (pattern : Form → Pattern) (text : Text) :
    List Form :=
  forms.filter fun form => (pattern form).occursIn text

end GrowthGauge
