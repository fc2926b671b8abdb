/-
  Untrack.Json.Reader — from the text of a document to its value. Beyond standard JSON the constants `NaN`,
  `Infinity` and `-Infinity` are accepted; control characters inside text are not. Of two fields with one name
  the later value counts, at the earlier one's place.

  The readers take what is left of the document and its offset, and return the value with what is then left.
  `limit` bounds the nesting and is set from the document's length, so it is never what ends a reading.
-/

import Untrack.Json.Value
import Untrack.Json.Fault
import Untrack.Bytes.Detect

namespace Untrack.Json.Reader

/-- What is left of the document, and the offset of its first character. -/
structure Rest where
  offset : Nat
  text : Text

inductive Stop
  | problem (p : Problem) (offset : Nat)
  | longNumber (digits : Nat)

def isSpace (c : Char) : Bool := c == ' ' || c == '\t' || c == '\n' || c == '\r'

def skipSpace (r : Rest) : Rest :=
  ⟨r.offset + (r.text.takeWhile isSpace).length, r.text.dropWhile isSpace⟩

def drop (n : Nat) (r : Rest) : Rest := ⟨r.offset + n, r.text.drop n⟩

def fail {α : Type} (p : Problem) (offset : Nat) : Except Stop α := .error (.problem p offset)

/-- The number that four hexadecimal digits at the front spell. -/
def fourHex? : Text → Option Nat
  | a :: b :: c :: d :: _ =>
    if isHexDigit a && isHexDigit b && isHexDigit c && isHexDigit d then some (ofHex [a, b, c, d]) else none
  | _ => none

/-- The character of an escape by code unit whose `u` stands at `offset` and is followed by `t`, and how much
of `t` it takes. Two escapes that form a surrogate pair are one character; a lone half is replaced. -/
def unicodeEscape (offset : Nat) (t : Text) : Except Stop (Char × Nat) := do
  if t.length < 5 then fail .badUnicodeEscape offset
  let some u := fourHex? t | fail .badUnicodeEscape offset
  match t.drop 4 with
  | '\\' :: 'u' :: more =>
    if Bytes.isHighHalf u && 5 ≤ more.length then
      let some v := fourHex? more | fail .badUnicodeEscape (offset + 6)
      if Bytes.isLowHalf v then return (Bytes.joinHalves u v, 10)
    return (Bytes.ofUnit u, 4)
  | _ => return (Bytes.ofUnit u, 4)

def shortEscape? : Char → Option Char
  | '"' => some '"'
  | '\\' => some '\\'
  | '/' => some '/'
  | 'b' => some (Char.ofNat 8)
  | 'f' => some (Char.ofNat 12)
  | 'n' => some '\n'
  | 'r' => some '\r'
  | 't' => some '\t'
  | _ => none

/-- The rest of a text whose opening quote stands at `start`; `read` holds what was read of it, latest first. -/
def textFrom (start : Nat) : (limit : Nat) → (read : Text) → Rest → Except Stop (Text × Rest)
  | 0, _, _ => fail .unterminatedText start
  | limit + 1, read, ⟨offset, t⟩ =>
    match t with
    | [] => fail .unterminatedText start
    | '"' :: r => .ok (read.reverse, ⟨offset + 1, r⟩)
    | ['\\'] => fail .unterminatedText start
    | '\\' :: 'u' :: r => do
      let (c, n) ← unicodeEscape (offset + 1) r
      textFrom start limit (c :: read) ⟨offset + 2 + n, r.drop n⟩
    | '\\' :: c :: r =>
      match shortEscape? c with
      | some d => textFrom start limit (d :: read) ⟨offset + 2, r⟩
      | none => fail .badEscape offset
    | c :: r =>
      if c.toNat < 32 then fail .controlCharacter offset
      else textFrom start limit (c :: read) ⟨offset + 1, r⟩

/-- The text whose opening quote is at the front. -/
def quotedText (r : Rest) : Except Stop (Text × Rest) :=
  textFrom r.offset r.text.length [] (drop 1 r)

/-- The digits of a fraction, when a point and a digit are at the front. -/
def fraction : Text → Text
  | '.' :: r => r.takeWhile Char.isDigit
  | _ => []

/-- The sign and digits of an exponent at the front, and how many characters it takes. -/
def exponent : Text → Int × Nat
  | c :: r =>
    if c = 'e' ∨ c = 'E' then
      let (negative, digits) := Numeral.signed r
      let ds := digits.takeWhile Char.isDigit
      let size := 1 + (r.length - digits.length) + ds.length
      if ds.isEmpty then (0, 0)
      else (if negative then -(Numeral.digitsValue ds : Int) else Numeral.digitsValue ds, size)
    else (0, 0)
  | [] => (0, 0)

/-- The digits before the point: a single zero, or digits that do not start with one. -/
def wholeDigits : Text → Text
  | '0' :: _ => ['0']
  | t => t.takeWhile Char.isDigit

def number (r : Rest) : Except Stop (Value × Rest) :=
  let negative := r.text.head? == some '-'
  let t := if negative then r.text.drop 1 else r.text
  let whole := wholeDigits t
  if whole.isEmpty then fail .expectingValue r.offset
  else
    let t1 := t.drop whole.length
    let part := fraction t1
    let t2 := if part.isEmpty then t1 else t1.drop (1 + part.length)
    let (e, size) := exponent t2
    let left : Rest := ⟨r.offset + (r.text.length - (t2.length - size)), t2.drop size⟩
    if part.isEmpty && size == 0 then
      if Numeral.digitLimit < whole.length then .error (.longNumber whole.length)
      else
        let n : Int := Numeral.digitsValue whole
        .ok (.whole (if negative then -n else n), left)
    else .ok (.real (.ofDecimal negative (Numeral.digitsValue (whole ++ part)) (e - part.length)), left)

/-- The constants and how they are spelled. -/
def constants : List (Text × Value) := [
  (['n', 'u', 'l', 'l'], .null),
  (['t', 'r', 'u', 'e'], .bool true),
  (['f', 'a', 'l', 's', 'e'], .bool false),
  (['N', 'a', 'N'], .real .nan),
  (['I', 'n', 'f', 'i', 'n', 'i', 't', 'y'], .real (.infinite false)),
  (['-', 'I', 'n', 'f', 'i', 'n', 'i', 't', 'y'], .real (.infinite true))]

def scalar (r : Rest) : Except Stop (Value × Rest) :=
  match constants.find? fun k => k.1.isPrefixOf r.text with
  | some (word, v) => .ok (v, drop word.length r)
  | none => number r

/-- The name and the colon of a field, and what follows them. -/
def fieldName (r : Rest) : Except Stop (Text × Rest) := do
  if r.text.head? != some '"' then fail .expectingName r.offset
  let (name, r) ← quotedText r
  let r := skipSpace r
  if r.text.head? != some ':' then fail .expectingColon r.offset
  return (name, skipSpace (drop 1 r))

mutual

def value : (limit : Nat) → Rest → Except Stop (Value × Rest)
  | 0, r => fail .expectingValue r.offset
  | limit + 1, r =>
    match r.text with
    | '"' :: _ => do
      let (t, r) ← quotedText r
      return (.text t, r)
    | '\x7b' :: _ =>
      let r := skipSpace (drop 1 r)
      if r.text.head? == some '\x7d' then .ok (.object [], drop 1 r) else fields limit [] r
    | '[' :: _ =>
      let r := skipSpace (drop 1 r)
      if r.text.head? == some ']' then .ok (.list [], drop 1 r) else items limit [] r
    | _ => scalar r

/-- The fields of an object up to its closing brace, after those read already. -/
def fields : (limit : Nat) → (read : Fields) → Rest → Except Stop (Value × Rest)
  | 0, _, r => fail .expectingName r.offset
  | limit + 1, read, r => do
    let (name, r) ← fieldName r
    let (v, r) ← value limit r
    let read := read.put name v
    let r := skipSpace r
    match r.text.head? with
    | some '\x7d' => return (.object read, drop 1 r)
    | some ',' => fields limit read (skipSpace (drop 1 r))
    | _ => fail .expectingComma r.offset

/-- The items of a list up to its closing bracket, after those read already, latest first. -/
def items : (limit : Nat) → (read : List Value) → Rest → Except Stop (Value × Rest)
  | 0, _, r => fail .expectingValue r.offset
  | limit + 1, read, r => do
    let (v, r) ← value limit r
    let read := v :: read
    let r := skipSpace r
    match r.text.head? with
    | some ']' => return (.list read.reverse, drop 1 r)
    | some ',' => items limit read (skipSpace (drop 1 r))
    | _ => fail .expectingComma r.offset

end

/-- The one value of a document, with nothing but white space around it. -/
def document (t : Text) : Except Stop Value := do
  if t.head? == some (Char.ofNat 0xFEFF) then fail .byteOrderMark 0
  let (v, r) ← value (2 * t.length + 2) (skipSpace ⟨0, t⟩)
  let r := skipSpace r
  if r.text.isEmpty then return v else fail .extraData r.offset

end Reader

def read (t : Text) : Except Fault Value :=
  match Reader.document t with
  | .ok v => .ok v
  | .error (.problem p offset) => .error (.syntaxError p (placeOf t offset))
  | .error (.longNumber n) => .error (.longNumber n)

/-- The value of a document given as bytes, in whatever encoding they turn out to be. -/
def readBytes (b : Bytes) : Except Fault Value :=
  match Bytes.decodeDetected b with
  | .ok t => read t
  | .error f => .error (.encoding f)

end Untrack.Json
