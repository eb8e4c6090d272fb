import GrowthGauge.Json.Basic
import GrowthGauge.Json.ReadError
import GrowthGauge.Text.Digit
import GrowthGauge.Text.Encoding

namespace GrowthGauge.Json

/-! ## Reading JSON

A text is one value with blanks around it. Of repeated keys the last value
counts. Beyond the standard grammar, `NaN`, `Infinity` and `-Infinity` are
numbers. A number is an integer unless it has a fraction or an exponent.

The readers take a value off the front of a text and give the text behind it.
Two steps on end take at least one character, the one that opens an array and the
one that reads its first item. So twice the length of the text bounds the number
of steps. -/

def isSpace (character : Char) : Bool :=
  character == ' ' || character == '\t' || character == '\n' || character == '\r'

def skipSpaces (text : Text) : Text :=
  text.dropWhile isSpace

/-! ### Numbers -/

def natOfDigits (digits : Text) : Nat :=
  digits.foldl (fun total digit => 10 * total + (digit.toNat - '0'.toNat)) 0

def splitDigits (text : Text) : Text × Text :=
  text.span Char.isDigit

/-- A fraction needs a digit after its point; without one it is no part of the
number. -/
def splitFraction (text : Text) : Text × Text :=
  match text with
  | '.' :: rest =>
      let (digits, behind) := splitDigits rest
      if digits.isEmpty then ([], text) else (digits, behind)
  | _ => ([], text)

def splitSign (text : Text) : Bool × Text :=
  match text with
  | '-' :: rest => (true, rest)
  | '+' :: rest => (false, rest)
  | _ => (false, text)

/-- An exponent needs a digit; without one it is no part of the number. -/
def splitExponent (text : Text) : Option Int × Text :=
  match text with
  | mark :: rest =>
      if mark == 'e' || mark == 'E' then
        let (negative, unsigned) := splitSign rest
        let (digits, behind) := splitDigits unsigned
        let size : Int := natOfDigits digits
        if digits.isEmpty then
          (none, text)
        else
          (some (if negative then -size else size), behind)
      else
        (none, text)
  | [] => (none, text)

def number (negative : Bool) (whole fraction : Text) (exponent : Option Int) :
    Except ReadError Json :=
  if fraction.isEmpty && exponent.isNone then
    if ReadError.digitLimit < whole.length then
      .error (.oversizedInteger whole.length)
    else
      let size : Int := natOfDigits whole
      .ok (integer (if negative then -size else size))
  else
    .ok (double (.ofDecimal negative (natOfDigits (whole ++ fraction))
      (exponent.getD 0 - fraction.length)))

/-- A number that begins with a digit. A leading zero is the whole integer part. -/
def readUnsigned (negative : Bool) (text : Text) : Except ReadError (Json × Text) :=
  let (whole, behind) :=
    match text with
    | '0' :: rest => (['0'], rest)
    | _ => splitDigits text
  if whole.isEmpty then
    .error .malformed
  else
    let (fraction, behind) := splitFraction behind
    let (exponent, behind) := splitExponent behind
    (number negative whole fraction exponent).map (·, behind)

/-! ### Words -/

def afterWord? (expected : String) (text : Text) : Option Text :=
  let word := expected.toList
  if word.isPrefixOf text then some (text.drop word.length) else none

def words : List (String × Json) :=
  [("null", null), ("true", bool true), ("false", bool false),
    ("NaN", double .undefined), ("Infinity", double (.infinite false)),
    ("-Infinity", double (.infinite true))]

def readWord (text : Text) : Option (Json × Text) :=
  words.findSome? fun (expected, value) =>
    (afterWord? expected text).map fun behind => (value, behind)

def readNumber (text : Text) : Except ReadError (Json × Text) :=
  match text with
  | '-' :: rest => readUnsigned true rest
  | _ => readUnsigned false text

/-! ### Strings -/

/-- A code unit of four hexadecimal digits. -/
def readUnit : Text → Option (Nat × Text)
  | first :: second :: third :: fourth :: rest => do
      let a ← hexDigit? first
      let b ← hexDigit? second
      let c ← hexDigit? third
      let d ← hexDigit? fourth
      some (((a * 16 + b) * 16 + c) * 16 + d, rest)
  | _ => none

/-- The second half of a surrogate pair, written as an escape of its own. -/
def readTrailingUnit : Text → Option (Nat × Text)
  | '\\' :: 'u' :: rest => do
      let (unit, behind) ← readUnit rest
      if CodeUnit.isTrailing unit then some (unit, behind) else none
  | _ => none

def readUnicodeEscape (text : Text) : Option (Nat × Text) := do
  let (unit, behind) ← readUnit text
  if CodeUnit.isLeading unit then
    match readTrailingUnit behind with
    | some (trailing, behind) => some (CodeUnit.paired unit trailing, behind)
    | none => some (unit, behind)
  else
    some (unit, behind)

def escapes : List (Char × Char) :=
  [('"', '"'), ('\\', '\\'), ('/', '/'), ('b', '\x08'), ('f', '\x0c'), ('n', '\n'),
    ('r', '\r'), ('t', '\t')]

/-- The code point that an escape stands for, after its backslash. -/
def readEscape : Text → Option (Nat × Text)
  | 'u' :: rest => readUnicodeEscape rest
  | mark :: rest => (escapes.lookup mark).map fun escaped => (escaped.toNat, rest)
  | [] => none

/-- The rest of a string after its opening quote, as code points. `read` holds
those so far, the last one first. Control characters must be escaped. -/
def readString : (steps : Nat) → (read : List Nat) → Text → Option (List Nat × Text)
  | 0, _, _ => none
  | _ + 1, _, [] => none
  | steps + 1, read, character :: rest =>
      if character == '"' then
        some (read.reverse, rest)
      else if character == '\\' then
        match readEscape rest with
        | some (escaped, behind) => readString steps (escaped :: read) behind
        | none => none
      else if character.toNat < 0x20 then
        none
      else
        readString steps (character.toNat :: read) rest

/-- A key is a text. -/
def keyOfCodes (codes : List Nat) : String :=
  String.ofList (codes.map CodeUnit.char)

/-! ### Values

A text that is wrong in two ways has the error that is met first. The depth is
the number of arrays and objects that may still be opened inside each other. -/

mutual

def readValue : (steps depth : Nat) → Text → Except ReadError (Json × Text)
  | 0, _, _ => .error .malformed
  | steps + 1, depth, text =>
      match text with
      | '"' :: rest =>
          match readString steps [] rest with
          | some (codes, behind) => .ok (ofCodes codes, behind)
          | none => .error .malformed
      | '[' :: rest =>
          match depth with
          | 0 => .error .tooDeep
          | depth + 1 =>
              match skipSpaces rest with
              | ']' :: behind => .ok (array [], behind)
              | inside => readItems steps depth [] inside
      | '{' :: rest =>
          match depth with
          | 0 => .error .tooDeep
          | depth + 1 =>
              match skipSpaces rest with
              | '}' :: behind => .ok (object [], behind)
              | inside => readMembers steps depth [] inside
      | _ =>
          match readWord text with
          | some found => .ok found
          | none => readNumber text

/-- The items of an array from one item on, after those in `read`, which holds
the last one first. -/
def readItems : (steps depth : Nat) → (read : List Json) → Text →
    Except ReadError (Json × Text)
  | 0, _, _, _ => .error .malformed
  | steps + 1, depth, read, text =>
      match readValue steps depth text with
      | .error error => .error error
      | .ok (value, behind) =>
          match skipSpaces behind with
          | ',' :: rest => readItems steps depth (value :: read) (skipSpaces rest)
          | ']' :: rest => .ok (array (value :: read).reverse, rest)
          | _ => .error .malformed

/-- The members of an object from one key on, after those in `read`. -/
def readMembers : (steps depth : Nat) → (read : List (String × Json)) → Text →
    Except ReadError (Json × Text)
  | 0, _, _, _ => .error .malformed
  | steps + 1, depth, read, text =>
      match text with
      | '"' :: rest =>
          match readString steps [] rest with
          | none => .error .malformed
          | some (key, behind) =>
              match skipSpaces behind with
              | ':' :: rest =>
                  match readValue steps depth (skipSpaces rest) with
                  | .error error => .error error
                  | .ok (value, behind) =>
                      let members := setMember read (keyOfCodes key) value
                      match skipSpaces behind with
                      | ',' :: rest => readMembers steps depth members (skipSpaces rest)
                      | '}' :: rest => .ok (object members, rest)
                      | _ => .error .malformed
              | _ => .error .malformed
      | _ => .error .malformed

end

/-- The value that a whole text is. -/
def ofText (text : Text) : Except ReadError Json :=
  match readValue (2 * text.length + 1) ReadError.depthLimit (skipSpaces text) with
  | .error error => .error error
  | .ok (value, behind) =>
      if (skipSpaces behind).isEmpty then .ok value else .error .malformed

/-- The value that a message body is. -/
def ofBody (body : Text) : Except ReadError Json :=
  match TextEncoding.decode? body with
  | some text => ofText text
  | none => .error .undecodable

end GrowthGauge.Json
