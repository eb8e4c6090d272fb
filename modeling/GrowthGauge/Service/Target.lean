import GrowthGauge.Text.Percent
import GrowthGauge.Text.Piece

namespace GrowthGauge.Service

/-! ## Targets

A target names a page by its path. A query may follow behind a question mark, and
what stands behind a number sign does not count. -/

structure Target where
  path : Text
  query : List (String × String)
deriving Repr, DecidableEq

namespace Target

/-! ### The path -/

/-- The path after its first slash. Two slashes in front introduce the name of a
host, which does not count. -/
def relativePath (path : Text) : Text :=
  let behindHost :=
    if ['/', '/'].isPrefixOf path then (path.drop 2).dropWhile (· != '/') else path
  behindHost.dropWhile (· == '/')

/-- A segment of one dot stays on its level, one of two dots leads a level up. -/
def withoutDots (segments : List Text) : List Text :=
  (segments.foldl (fun kept segment =>
    if segment == ['.'] then kept
    else if segment == ['.', '.'] then kept.drop 1
    else segment :: kept) []).reverse

def joined : List Text → Text
  | [] => []
  | segment :: rest => '/' :: segment ++ joined rest

/-- The path that is asked for, which begins with a slash. Dots count before
escapes are read. -/
def resolvedPath (path : Text) : Text :=
  match joined (withoutDots (Text.pieces '/' (relativePath path))) with
  | [] => ['/']
  | resolved => Text.percentDecoded resolved

/-! ### The query -/

/-- A plus sign is a blank. An escaped one is a plus sign. -/
def withBlanks (written : Text) : Text :=
  written.map fun character => if character == '+' then ' ' else character

def parameterText (written : Text) : String :=
  String.ofList (Text.percentDecoded (withBlanks written))

/-- A parameter without an equals sign has an empty value. -/
def parameter (piece : Text) : String × String :=
  (parameterText (piece.takeWhile (· != '=')),
    parameterText ((piece.dropWhile (· != '=')).drop 1))

def parameters (query : Text) : List (String × String) :=
  ((Text.pieces '&' query).filter (!·.isEmpty)).map parameter

def ofText (text : Text) : Target :=
  let counted := text.takeWhile (· != '#')
  { path := resolvedPath (counted.takeWhile (· != '?'))
    query := parameters ((counted.dropWhile (· != '?')).drop 1) }

example : ofText "/a/./b/../c%2F".toList = ⟨"/a/c/".toList, []⟩ := by decide +kernel

example : ofText "/?x=1+2&y#z".toList = ⟨['/'], [("x", "1 2"), ("y", "")]⟩ := by
  decide +kernel

end Target

end GrowthGauge.Service
