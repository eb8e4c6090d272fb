import GrowthGauge.Pattern.Search

namespace GrowthGauge

/-! ## Function declarations

The spellings of a function declaration, in the order in which they are tried.
The first one that occurs anywhere in a snippet is taken for the declaration of
its primary function. -/

inductive DeclarationForm
  | qualified
  | constFunction
  | assignedFunction
  | bare
  | typed
deriving Repr, DecidableEq

structure Declaration where
  form : DeclarationForm
  name : Text
  text : Text
deriving Repr, DecidableEq

namespace DeclarationForm

open Pattern

def all : List DeclarationForm :=
  [.qualified, .constFunction, .assignedFunction, .bare, .typed]

def label : DeclarationForm → String
  | qualified => "qualified"
  | constFunction => "const-function"
  | assignedFunction => "assigned-function"
  | bare => "bare"
  | typed => "typed"

def keywords (names : List String) : Pattern :=
  firstOf (names.map exactly)

def name : Pattern :=
  named wordRun

/-- A result type may carry type arguments and array brackets. -/
def isTypeChar (character : Char) : Bool :=
  isWord character || ['<', '>', '[', ']'].contains character

/-- The function that is assigned to a constant or a variable. -/
def functionValue : Pattern :=
  firstOf
    [seq (exactly "function") boundary,
      inOrder [char '(', many (· != ')'), char ')', blanks, exactly "=>"],
      inOrder [wordRun, blanks, exactly "=>"]]

def storageWords : List String :=
  ["static", "inline", "unsigned", "const"]

def primitiveTypes : List String :=
  ["void", "int", "long", "short", "double", "float", "bool", "boolean", "char", "string",
    "auto", "size_t"]

def isPointerMark (character : Char) : Bool :=
  character == '*' || character == '&'

def isParameterChar (character : Char) : Bool :=
  character != ';' && character != '{'

def pattern : DeclarationForm → Pattern
  | qualified =>
      inOrder [keywords ["function", "def", "public", "private", "protected", "static"],
        someBlanks, atLeastOne isTypeChar, someBlanks, name, blanks, char '(']
  | constFunction =>
      inOrder [keywords ["const", "let", "var"], someBlanks, name, blanks, char '=', blanks,
        perhaps (seq (exactly "async") someBlanks), functionValue]
  | assignedFunction =>
      inOrder [name, blanks, char '=', blanks, exactly "function", blanks, char '(']
  | bare =>
      inOrder [boundary, keywords ["function", "def"], someBlanks, name, blanks, char '(']
  | typed =>
      inOrder [lineStart, many fun character => character == ' ' || character == '\t',
        repeated (seq (keywords storageWords) someBlanks), keywords primitiveTypes, blanks,
        perhaps (one isPointerMark), someBlanks, name, blanks, char '(',
        many isParameterChar, char ')', blanks, perhaps (seq (exactly "const") blanks),
        perhaps (char '{'), blanks, lineEnd]

/-- The leftmost declaration of this form. -/
def find? (form : DeclarationForm) (snippet : Text) : Option Declaration :=
  (form.pattern.search? snippet).map fun found =>
    ⟨form, found.name.getD [], found.text⟩

end DeclarationForm

namespace Declaration

/-- The declaration of the snippet's primary function. -/
def find? (snippet : Text) : Option Declaration :=
  DeclarationForm.all.findSome? (·.find? snippet)

example :
    (find? "int f(int n) \x7b return f(n - 1); \x7d\ndef g(x): pass".toList).map (·.name) =
      some ['g'] := by decide +kernel

example :
    (find? "static int* walk(Node *node)\n".toList).map (·.form) = some .typed := by
  decide +kernel

end Declaration

/-! ## Self-calls

Every occurrence of a function's name before an opening parenthesis is a call,
except the one in its own declaration. A declaration that is written without
such an occurrence, as an arrow function is, takes nothing away. -/

namespace SelfCall

open Pattern

def callPattern (name : Text) : Pattern :=
  inOrder [boundary, literal name, blanks, char '(']

def count (name declaration snippet : Text) : Nat :=
  if name.isEmpty then
    0
  else
    let total := ((callPattern name).allMatches snippet).length
    if declaration.isEmpty || (callPattern name).occursIn declaration then
      total - 1
    else
      total

end SelfCall

/-- The calls of the declared function in the snippet that declares it. -/
def Declaration.selfCalls (declaration : Declaration) (snippet : Text) : Nat :=
  SelfCall.count declaration.name declaration.text snippet

/-! ## The primary function

A snippet is judged by the function that it declares, if it declares one. -/

structure PrimaryFunction where
  name : Option Text
  selfCalls : Nat
deriving Repr, DecidableEq

/-- A snippet without a declaration has no function to call. -/
def PrimaryFunction.ofSnippet (snippet : Text) : PrimaryFunction :=
  match Declaration.find? snippet with
  | some declaration => ⟨some declaration.name, declaration.selfCalls snippet⟩
  | none => ⟨none, 0⟩

example :
    PrimaryFunction.ofSnippet "def fib(n): return fib(n - 1) + fib(n - 2)".toList =
      ⟨some ['f', 'i', 'b'], 2⟩ := by decide +kernel

end GrowthGauge
