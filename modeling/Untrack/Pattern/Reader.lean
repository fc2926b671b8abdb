/-
  Untrack.Pattern.Reader — from the text of a pattern to its syntax tree, or to the first mistake in it.

  A pattern is read as tokens: a character, or a backslash with the character after it. A lone backslash at the
  end is a mistake as soon as reading comes up to it. Every position in a mistake is that of a token. Settings
  given by flags hold for the group they are written in, or for the whole pattern when they open it.

  The readers of groups and sequences call each other; `limit` bounds their nesting and is set from the
  pattern's length.
-/

import Untrack.Pattern.Node
import Untrack.Pattern.Fault
import Untrack.Unicode.Identifier
import Untrack.Unicode.Names

namespace Untrack.Pattern.Reader

inductive Token
  | plain (c : Char)
  | escape (c : Char)
  | dangling
  deriving DecidableEq, Repr

def Token.text : Token → Text
  | .plain c => [c]
  | .escape c => ['\\', c]
  | .dangling => ['\\']

def Token.size : Token → Nat
  | .escape _ => 2
  | _ => 1

def tokens : Text → List Token
  | [] => []
  | ['\\'] => [.dangling]
  | '\\' :: c :: r => .escape c :: tokens r
  | c :: r => .plain c :: tokens r

/-- Settings in force. -/
structure Flags where
  ignoreCase : Bool
  multiline : Bool
  dotAll : Bool
  verbose : Bool
  ascii : Bool
  template : Bool

/-- What has been read: the next token's position, the tokens left, the settings in force, the groups opened
so far with their widths once they are closed, their names, the conditions on groups to come, and, inside a
lookbehind, how many groups there were before it. -/
structure State where
  position : Nat
  left : List Token
  flags : Flags
  widths : List (Option Width)
  names : List (Text × Nat)
  conditions : List (Nat × Nat)
  lookbehind : Option Nat
  asciiSet : Bool
  unicodeSet : Bool

inductive Stop
  | mistake (m : Mistake) (position : Option Nat)
  | countTooLarge
  | longCount (digits : Nat)
  | classesClash

abbrev Read := StateT State (Except Stop)

def failAt {α : Type} (m : Mistake) (position : Nat) : Read α := throw (.mistake m (some position))

/-- A mistake that starts `back` characters before the next token. -/
def fail {α : Type} (m : Mistake) (back : Nat) : Read α := do
  failAt m ((← get).position - back)

def here : Read Nat := return (← get).position

def peek : Read (Option Token) := return (← get).left.head?

def peekIs (c : Char) : Read Bool := return (← peek) == some (.plain c)

/-- Reading has come up to the next token. -/
def checkDangling : Read Unit := do
  if (← peek) == some .dangling then fail .endsInEscape 0

/-- The next token, which is taken; nothing at the end. -/
def take : Read (Option Token) := do
  let s ← get
  match s.left with
  | [] => return none
  | t :: r =>
    set { s with position := s.position + t.size, left := r }
    checkDangling
    return some t

def skip : Read Unit := do
  let _ ← take

/-- Takes the next token if it is this character. -/
def accept (c : Char) : Read Bool := do
  if ← peekIs c then
    skip
    return true
  else return false

def plain? : Option Token → Option Char
  | some (.plain c) => some c
  | _ => none

/-- At most `n` characters that satisfy `p`. -/
def takeUpTo (p : Char → Bool) : (n : Nat) → Read Text
  | 0 => return []
  | n + 1 => do
    match plain? (← peek) with
    | some c =>
      if p c then
        skip
        return c :: (← takeUpTo p n)
      else return []
    | none => return []

def takeWhile (p : Char → Bool) : Read Text := do
  takeUpTo p (← get).left.length

/-- What stands before a terminator, which is taken too. -/
def takeUntil (terminator : Char) (what : String) : (limit : Nat) → (read : Text) → Read Text
  | 0, _ => fail (.missingName what) 0
  | limit + 1, read => do
    match ← take with
    | none => if read.isEmpty then fail (.missingName what) 0 else fail (.unterminatedName terminator) read.length
    | some t =>
      if t = .plain terminator then
        if read.isEmpty then fail (.missingName what) 1 else return read
      else takeUntil terminator what limit (read ++ t.text)

def nameUntil (terminator : Char) (what : String) : Read Text := do
  takeUntil terminator what ((← get).left.length + 1) []

def groupCount : Read Nat := return (← get).widths.length

/-- The width of a group that is opened and closed. -/
def closedWidth? (s : State) (index : Nat) : Option Width := (s.widths[index]?).join

def width (n : Node) : Read Width := do
  let s ← get
  return n.width fun i => (closedWidth? s i).getD ⟨0, 0⟩

/-! ## Escapes -/

def isOctal (c : Char) : Bool := '0' ≤ c && c ≤ '7'

/-- An escape by code point: `written` so far, then exactly `n` digits of base sixteen. -/
def hexEscape (written : Text) (n : Nat) : Read Nat := do
  let digits ← takeUpTo isHexDigit n
  let all := written ++ digits
  if digits.length ≠ n then fail (.incompleteEscape all) all.length
  if 0x10FFFF < ofHex digits then fail (.badEscape all) all.length
  return ofHex digits

def namedEscape : Read Nat := do
  if !(← accept '\x7b') then fail .missingBrace 0
  let name ← nameUntil '\x7d' "character name"
  match Unicode.named? name with
  | some n => return n
  | none => fail (.unknownCharacterName name) (name.length + 4)

/-- The escapes by number or name, the same inside a set and outside. -/
def codeEscape? (c : Char) : Option (Read Nat) :=
  match c with
  | 'x' => some (hexEscape ['\\', c] 2)
  | 'u' => some (hexEscape ['\\', c] 4)
  | 'U' => some (hexEscape ['\\', c] 8)
  | 'N' => some namedEscape
  | _ => none

def controlEscape? : Char → Option Nat
  | 'a' => some 7
  | 'b' => some 8
  | 'f' => some 12
  | 'n' => some 10
  | 'r' => some 13
  | 't' => some 9
  | 'v' => some 11
  | '\\' => some 92
  | _ => none

def categoryEscape? : Char → Option SetItem
  | 'd' => some (.category .digit false)
  | 'D' => some (.category .digit true)
  | 's' => some (.category .space false)
  | 'S' => some (.category .space true)
  | 'w' => some (.category .word false)
  | 'W' => some (.category .word true)
  | _ => none

def octalValue (digits : Text) : Nat := ofDigits 8 (digits.map fun c => c.toNat - 48)

def checkedOctal (digits : Text) : Read Nat := do
  if 0o377 < octalValue digits then fail (.octalTooLarge ('\\' :: digits)) (digits.length + 1)
  return octalValue digits

/-- Any other escape stands for its character, unless that is an ASCII letter. -/
def literalEscape (c : Char) : Read Nat := do
  if c.isAlpha then fail (.badEscape ['\\', c]) 2
  return c.toNat

/-- An escape inside a set. -/
def setEscape (c : Char) : Read SetItem := do
  if let some n := controlEscape? c then return .one n
  if let some k := categoryEscape? c then return k
  if let some code := codeEscape? c then return .one (← code)
  if isOctal c then
    let more ← takeUpTo isOctal 2
    return .one (← checkedOctal (c :: more))
  if c.isDigit then fail (.badEscape ['\\', c]) 2
  return .one (← literalEscape c)

/-- Inside a lookbehind only groups that were closed before it can be referred to. -/
def checkLookbehind (index : Nat) : Read Unit := do
  let s ← get
  if let some before := s.lookbehind then
    if (closedWidth? s index).isNone then fail .openGroup 0
    if before ≤ index then fail .groupInsideLookbehind 0

/-- An escape outside a set: a place, a set, a character, or a group once more. -/
inductive Escaped
  | anchor (a : Anchor)
  | items (k : SetItem)
  | char (n : Nat)
  | same (index : Nat)

def anchorEscape? (ascii : Bool) : Char → Option Anchor
  | 'A' => some .textStart
  | 'b' => some (.boundary false ascii)
  | 'B' => some (.boundary true ascii)
  | 'Z' => some .textEnd
  | _ => none

/-- A digit other than zero opens a reference of one or two digits, or an octal number of three. -/
def numberEscape (c : Char) : Read Escaped := do
  let second ← takeUpTo Char.isDigit 1
  let digits := c :: second
  let third ← if digits.length = 2 && digits.all isOctal then takeUpTo isOctal 1 else pure []
  if !third.isEmpty then return .char (← checkedOctal (digits ++ third))
  let index := ofDigits 10 (digits.map fun c => c.toNat - 48)
  if index < (← groupCount) then
    if (closedWidth? (← get) index).isNone then fail .openGroup (digits.length + 1)
    checkLookbehind index
    return .same index
  fail (.noSuchGroup index) digits.length

def escape (c : Char) : Read Escaped := do
  if let some a := anchorEscape? (← get).flags.ascii c then return .anchor a
  if let some k := categoryEscape? c then return .items k
  if let some n := controlEscape? c then return .char n
  if let some code := codeEscape? c then return .char (← code)
  if c = '0' then
    let more ← takeUpTo isOctal 2
    return .char (octalValue (c :: more))
  if c.isDigit then numberEscape c
  else return .char (← literalEscape c)

/-! ## Sets -/

/-- One end of a range, or a member on its own. -/
def setMember (t : Token) : Read SetItem :=
  match t with
  | .escape c => setEscape c
  | .plain c => return .one c.toNat
  | .dangling => fail .endsInEscape 0

/-- The members of a set up to its closing bracket; a bracket that comes first is a member. -/
def setItems (start : Nat) : (limit : Nat) → (read : List SetItem) → Read (List SetItem)
  | 0, _ => failAt .unterminatedSet start
  | limit + 1, read => do
    let some this ← take | failAt .unterminatedSet start
    if this = .plain ']' && !read.isEmpty then return read.reverse
    let low ← setMember this
    if !(← accept '-') then setItems start limit (low :: read)
    else
      let some that ← take | failAt .unterminatedSet start
      if that = .plain ']' then return (.one 45 :: low :: read).reverse
      let high ← setMember that
      match low, high with
      | .one a, .one b =>
        if b < a then fail (.badRange this.text that.text) (this.text.length + 1 + that.text.length)
        setItems start limit (.range a b :: read)
      | _, _ => fail (.badRange this.text that.text) (this.text.length + 1 + that.text.length)

/-! ## Flags -/

inductive Flag
  | ignoreCase
  | locale
  | multiline
  | dotAll
  | verbose
  | ascii
  | template
  | unicode
  deriving DecidableEq, Repr

def flag? : Token → Option Flag
  | .plain 'i' => some .ignoreCase
  | .plain 'L' => some .locale
  | .plain 'm' => some .multiline
  | .plain 's' => some .dotAll
  | .plain 'x' => some .verbose
  | .plain 'a' => some .ascii
  | .plain 't' => some .template
  | .plain 'u' => some .unicode
  | _ => none

def Flag.choosesClasses : Flag → Bool
  | .ascii => true
  | .locale => true
  | .unicode => true
  | _ => false

def Flags.put (f : Flags) (on : Bool) : Flag → Flags
  | .ignoreCase => { f with ignoreCase := on }
  | .multiline => { f with multiline := on }
  | .dotAll => { f with dotAll := on }
  | .verbose => { f with verbose := on }
  | .ascii => { f with ascii := on }
  | .unicode => { f with ascii := !on }
  | .template => { f with template := on }
  | .locale => f

def Token.isLetter (t : Token) : Bool :=
  match t with
  | .plain c => Unicode.isLetter c
  | _ => false

/-- Flags to turn on, from the first of them to the character that ends them. -/
def flagsOn : (limit : Nat) → (t : Token) → (on : List Flag) → Read (List Flag × Char)
  | 0, _, _ => fail .missingFlagEnd 0
  | limit + 1, t, on => do
    let some f := flag? t | fail .missingFlagEnd 0
    if f = .locale then fail .localeFlag 0
    let on := f :: on
    if f.choosesClasses && on.any (fun g => g.choosesClasses && g != f) then fail .clashingFlags 0
    let some t ← take | fail .missingFlagEnd 0
    match t with
    | .plain ')' => return (on, ')')
    | .plain '-' => return (on, '-')
    | .plain ':' => return (on, ':')
    | _ =>
      if (flag? t).isNone then fail (if t.isLetter then .unknownFlag else .missingFlagEnd) t.size
      flagsOn limit t on

/-- Flags to turn off, up to the colon. -/
def flagsOff : (limit : Nat) → (t : Token) → (off : List Flag) → Read (List Flag)
  | 0, _, _ => fail .missingColon 0
  | limit + 1, t, off => do
    let some f := flag? t | fail .missingColon 0
    if f.choosesClasses then fail .classFlagOff 0
    let off := f :: off
    let some t ← take | fail .missingColon 0
    if t = .plain ':' then return off
    if (flag? t).isNone then fail (if t.isLetter then .unknownFlag else .missingColon) t.size
    flagsOff limit t off

/-- Settings for a group, or for the whole pattern. -/
inductive Setting
  | whole (on : List Flag)
  | scoped (on off : List Flag)

/-- The settings that start with a token after `(?`. -/
def setting (t : Token) : Read Setting := do
  let limit := (← get).left.length + 1
  let (on, last) ← if t = .plain '-' then pure ([], '-') else flagsOn limit t []
  if last = ')' then return .whole on
  if on.contains .template then fail .globalFlagOn 1
  let off ←
    if last = '-' then do
      let some t ← take | fail .missingFlag 0
      if (flag? t).isNone then fail (if t.isLetter then .unknownFlag else .missingFlag) t.size
      flagsOff limit t []
    else pure []
  if off.contains .template then fail .globalFlagOff 1
  if on.any off.contains then fail .flagOnAndOff 1
  return .scoped on off

def Flags.apply (f : Flags) (on off : List Flag) : Flags :=
  off.foldl (fun f g => f.put false g) (on.foldl (fun f g => f.put true g) f)

/-- Settings that open the pattern hold from here on. -/
def setWhole (on : List Flag) : Read Unit :=
  modify fun s => { s with
    flags := s.flags.apply on []
    asciiSet := s.asciiSet || on.contains .ascii
    unicodeSet := s.unicodeSet || on.contains .unicode }

/-! ## Sequences -/

/-- Whether a repetition may follow. -/
inductive Kind
  | anchor
  | repeated
  | other
  deriving DecidableEq, Repr

/-- A part of a sequence. `items` is given when the part is one character of a set that is not negated. -/
structure Piece where
  node : Node
  kind : Kind
  items : Option (List SetItem)

def letterPiece (n : Nat) : Read Piece := do
  let f := (← get).flags
  return ⟨.letter (.ofChar f.ignoreCase f.ascii false n), .other, some [.one n]⟩

def setPiece (negated : Bool) (items : List SetItem) : Read Piece := do
  let f := (← get).flags
  match items with
  | [.one n] => return ⟨.letter (.ofChar f.ignoreCase f.ascii negated n), .other,
      if negated then none else some items⟩
  | _ => return ⟨.letter (.ofSet f.ignoreCase f.ascii negated items), .other,
      if negated then none else some items⟩

def otherPiece (n : Node) : Piece := ⟨n, .other, none⟩

def anchorPiece (a : Anchor) : Piece := ⟨.anchor a, .anchor, none⟩

def escapePiece (c : Char) : Read Piece := do
  match ← escape c with
  | .anchor a => return anchorPiece a
  | .items k => setPiece false [k]
  | .char n => letterPiece n
  | .same index =>
    let f := (← get).flags
    return otherPiece (.same index (if f.ignoreCase then foldingFor f.ascii else .none))

/-- The parts of a sequence, latest first, as one tree. -/
def joined (read : List Piece) : Node :=
  match read with
  | [] => .nothing
  | p :: ps => ps.foldl (fun n q => .next q.node n) p.node

/-- A count as a number. -/
def count (digits : Text) : Read Nat := do
  if Numeral.digitLimit < digits.length then throw (.longCount digits.length)
  let n := Numeral.digitsValue digits
  if countBound ≤ n then throw .countTooLarge
  return n

/-- The counts after an opening brace, if it opens counts; else nothing is taken. -/
def counts? : Read (Option (Nat × Option Nat)) := do
  let saved ← get
  if ← peekIs '\x7d' then return none
  let low ← takeWhile Char.isDigit
  let high ← if ← accept ',' then takeWhile Char.isDigit else pure low
  if !(← accept '\x7d') then
    set saved
    return none
  let least ← if low.isEmpty then pure 0 else count low
  if high.isEmpty then return some (least, none)
  let most ← count high
  if most < least then failAt .countsReversed saved.position
  return some (least, some most)

def appetite : Read Appetite := do
  if ← accept '?' then return .lazy
  if ← accept '+' then return .possessive
  return .greedy

/-- The last part repeated; `start` is where the repetition stands. -/
def repeated (start least : Nat) (most : Option Nat) (read : List Piece) : Read (List Piece) := do
  match read with
  | [] => failAt .nothingToRepeat start
  | p :: ps =>
    match p.kind with
    | .anchor => failAt .nothingToRepeat start
    | .repeated => failAt .multipleRepeat start
    | .other => return ⟨.again (← appetite) least most p.node, .repeated, none⟩ :: ps

/-- To the end of the line, which is taken. -/
def skipComment : (limit : Nat) → Read Unit
  | 0 => return
  | limit + 1 => do
    match ← take with
    | none => return
    | some t => if t = .plain '\n' then return else skipComment limit

/-- To the closing parenthesis, which is taken. -/
def skipRemark (start : Nat) : (limit : Nat) → Read Unit
  | 0 => failAt .unterminatedComment start
  | limit + 1 => do
    match ← take with
    | none => failAt .unterminatedComment start
    | some t => if t = .plain ')' then return else skipRemark start limit

def isLayout (c : Char) : Bool := c == ' ' || within 9 13 c.toNat

def checkGroupName (name : Text) : Read Unit := do
  if !Unicode.isIdentifier name then fail (.badGroupName name) (name.length + 1)

def namedGroup (name : Text) : Read Nat := do
  match (← get).names.lookup name with
  | some index => return index
  | none => fail (.unknownGroupName name) (name.length + 1)

/-- A reference to a group by name, after `(?P=`. -/
def namedReference : Read Piece := do
  let name ← nameUntil ')' "group name"
  checkGroupName name
  let index ← namedGroup name
  if (closedWidth? (← get) index).isNone then fail .openGroup (name.length + 1)
  checkLookbehind index
  let f := (← get).flags
  return otherPiece (.same index (if f.ignoreCase then foldingFor f.ascii else .none))

def groupLimit : Nat := 1073741823

/-- The group that a condition asks for, by name or by number. -/
def conditionGroup : Read Nat := do
  let name ← nameUntil ')' "group name"
  if Unicode.isIdentifier name then namedGroup name
  else
    match Numeral.readWhole name with
    | .ok (.ofNat index) =>
      if index = 0 then fail .groupZero (name.length + 1)
      if groupLimit ≤ index then fail (.noSuchGroup index) (name.length + 1)
      let position := (← here) - (name.length + 1)
      modify fun s => if s.conditions.any (·.1 == index) then s
        else { s with conditions := s.conditions ++ [(index, position)] }
      return index
    | _ => fail (.badGroupName name) (name.length + 1)

/-- A new group, with its name if it has one. -/
def openGroup (name : Option Text) : Read Nat := do
  let s ← get
  let index := s.widths.length
  match name with
  | none =>
    set { s with widths := s.widths ++ [none] }
    return index
  | some name =>
    if let some taken := s.names.lookup name then fail (.nameTaken name index taken) (name.length + 1)
    set { s with widths := s.widths ++ [none], names := s.names ++ [(name, index)] }
    return index

def closeGroup (index : Nat) (body : Node) : Read Unit := do
  let w ← width body
  modify fun s => { s with widths := s.widths.set index (some w) }

def closing (start : Nat) : Read Unit := do
  if !(← accept ')') then failAt .unterminatedGroup start

/-- How a group opens. -/
inductive Opening
  | capture (name : Option Text)
  | plain
  | scoped (on off : List Flag)
  | whole (on : List Flag)
  | atomic
  | remark
  | reference
  | look (ahead wanted : Bool)
  | condition

/-- The opening of a group after its parenthesis. -/
def opening : Read Opening := do
  if !(← accept '?') then return .capture none
  let some t ← take | fail .unexpectedEnd 0
  match t with
  | .plain 'P' =>
    if ← accept '<' then
      let name ← nameUntil '>' "group name"
      checkGroupName name
      return .capture (some name)
    if ← accept '=' then return .reference
    let some t ← take | fail .unexpectedEnd 0
    fail (.unknownExtension ('P' :: t.text)) (t.size + 2)
  | .plain ':' => return .plain
  | .plain '#' => return .remark
  | .plain '=' => return .look true true
  | .plain '!' => return .look true false
  | .plain '<' =>
    let some t ← take | fail .unexpectedEnd 0
    match t with
    | .plain '=' => return .look false true
    | .plain '!' => return .look false false
    | _ => fail (.unknownExtension ('<' :: t.text)) (t.size + 2)
  | .plain '(' => return .condition
  | .plain '>' => return .atomic
  | _ =>
    if (flag? t).isSome || t = .plain '-' then
      match ← setting t with
      | .whole on => return .whole on
      | .scoped on off => return .scoped on off
    else fail (.unknownExtension t.text) (t.size + 1)

def withFlags {α : Type} (f : Flags → Flags) (act : Read α) : Read α := do
  let saved := (← get).flags
  modify fun s => { s with flags := f s.flags }
  let a ← act
  modify fun s => { s with flags := saved }
  return a

/-- Inside a lookbehind the groups before it are remembered; the outermost lookbehind decides. -/
def withLookbehind {α : Type} (act : Read α) : Read α := do
  let saved := (← get).lookbehind
  if saved.isNone then modify fun s => { s with lookbehind := some s.widths.length }
  let a ← act
  if saved.isNone then modify fun s => { s with lookbehind := none }
  return a

/-- What a branch is, and its set if it is one character of a set that is not negated. -/
abbrev Branch := Node × Option (List SetItem)

def ofPieces (read : List Piece) : Branch :=
  (joined read, match read with
    | [p] => p.items
    | _ => none)

/-- Branches that all are one character of a set form one set. -/
def ofBranches (f : Flags) (branches : List Branch) : Branch :=
  match branches with
  | [] => (.nothing, none)
  | [b] => b
  | _ =>
    match branches.mapM (·.2) with
    | some sets =>
      let items := sets.flatten
      (.letter (.ofSet f.ignoreCase f.ascii false items), some items)
    | none => ((branches.dropLast.map (·.1)).foldr .either ((branches.getLast?.map (·.1)).getD .nothing), none)

mutual

/-- Branches between bars. `top` holds outside all groups. -/
def branches : (limit : Nat) → (top : Bool) → (read : List Branch) → Read Branch
  | 0, _, _ => fail .unexpectedEnd 0
  | limit + 1, top, read => do
    let b ← sequence limit (top && read.isEmpty) []
    let read := b :: read
    if ← accept '|' then branches limit top read
    else return ofBranches (← get).flags read.reverse

/-- The rest of a sequence, after the parts read already, latest first. `first` holds where settings for the
whole pattern may stand. -/
def sequence : (limit : Nat) → (first : Bool) → (read : List Piece) → Read Branch
  | 0, _, _ => fail .unexpectedEnd 0
  | limit + 1, first, read => do
    match ← peek with
    | none => return ofPieces read
    | some t =>
      if t = .plain '|' || t = .plain ')' then return ofPieces read
      let start ← here
      skip
      match t with
      | .dangling => fail .endsInEscape 0
      | .escape c => sequence limit first ((← escapePiece c) :: read)
      | .plain c =>
        let f := (← get).flags
        if f.verbose && isLayout c then sequence limit first read
        else if f.verbose && c = '#' then
          skipComment ((← get).left.length + 1)
          sequence limit first read
        else if c = '[' then
          let negated ← accept '^'
          let items ← setItems start ((← get).left.length + 1) []
          sequence limit first ((← setPiece negated items.eraseDups) :: read)
        else if c = '?' then sequence limit first (← repeated start 0 (some 1) read)
        else if c = '*' then sequence limit first (← repeated start 0 none read)
        else if c = '+' then sequence limit first (← repeated start 1 none read)
        else if c = '\x7b' then
          match ← counts? with
          | some (least, most) => sequence limit first (← repeated start least most read)
          | none => sequence limit first ((← letterPiece c.toNat) :: read)
        else if c = '.' then
          let any := if f.dotAll then LetterTest.anything else LetterTest.notNewline
          sequence limit first (otherPiece (.letter any) :: read)
        else if c = '^' then
          sequence limit first (anchorPiece (if f.multiline then .lineStart else .textStart) :: read)
        else if c = '$' then
          sequence limit first (anchorPiece (if f.multiline then .lineEnd else .lastLineEnd) :: read)
        else if c = '(' then
          match ← group limit start (first && read.isEmpty) with
          | some p => sequence limit first (p :: read)
          | none => sequence limit first read
        else sequence limit first ((← letterPiece c.toNat) :: read)

/-- A group whose parenthesis stands at `start`; remarks and settings for the whole pattern are no part. -/
def group : (limit : Nat) → (start : Nat) → (first : Bool) → Read (Option Piece)
  | 0, start, _ => failAt .unterminatedGroup start
  | limit + 1, start, first => do
    match ← opening with
    | .remark =>
      skipRemark start ((← get).left.length + 1)
      return none
    | .whole on =>
      if !first then failAt .lateFlags start
      setWhole on
      return none
    | .reference => return some (← namedReference)
    | .capture name =>
      let index ← openGroup name
      let (body, _) ← branches limit false []
      closing start
      closeGroup index body
      return some (otherPiece (.group index body))
    | .plain =>
      let (body, items) ← branches limit false []
      closing start
      return some ⟨body, .other, items⟩
    | .scoped on off =>
      let (body, _) ← withFlags (·.apply on off) (branches limit false [])
      closing start
      return some (otherPiece body)
    | .atomic =>
      let (body, _) ← branches limit false []
      closing start
      return some (otherPiece (.atomic body))
    | .look true wanted =>
      let (body, _) ← branches limit false []
      closing start
      return some (otherPiece (.ahead wanted body))
    | .look false wanted =>
      let (body, _) ← withLookbehind (branches limit false [])
      closing start
      return some (otherPiece (.behind wanted (← width body) body))
    | .condition =>
      let index ← conditionGroup
      checkLookbehind index
      let (yes, _) ← sequence limit false []
      let (no, _) ←
        if ← accept '|' then do
          let b ← sequence limit false []
          if ← peekIs '|' then fail .thirdBranch 0
          pure b
        else pure (.nothing, none)
      closing start
      return some (otherPiece (.ifGroup index yes no))

end

/-! ## Whole patterns -/

/-- The first thing in a tree that cannot be carried out: a repetition when templates were asked for, or a
lookbehind that does not always look back equally far. -/
def unusable? (template : Bool) : Node → Option Mistake
  | .next a b => (unusable? template a).or (unusable? template b)
  | .either a b => (unusable? template a).or (unusable? template b)
  | .group _ body => unusable? template body
  | .again appetite _ _ body =>
    if template then
      some (.repeatInTemplate (match appetite with
        | .greedy => "MAX_REPEAT"
        | .lazy => "MIN_REPEAT"
        | .possessive => "POSSESSIVE_REPEAT"))
    else unusable? template body
  | .ahead _ body => unusable? template body
  | .behind _ w body => if w.least = w.most then unusable? template body else some .variableLookbehind
  | .atomic body => unusable? template body
  | .ifGroup _ yes no => (unusable? template yes).or (unusable? template no)
  | _ => none

/-- The whole pattern, and how many groups it has. -/
def whole : Read (Node × Nat) := do
  checkDangling
  let (n, _) ← branches (4 * (← get).left.length + 4) true []
  let s ← get
  if s.asciiSet && s.unicodeSet then throw .classesClash
  if !s.left.isEmpty then fail .strayParenthesis 0
  if let some (index, position) := s.conditions.find? (s.widths.length ≤ ·.1) then
    failAt (.noSuchGroup index) position
  if let some m := unusable? s.flags.template n then throw (.mistake m none)
  return (n, s.widths.length - 1)

def start (t : Text) : State :=
  { position := 0, left := tokens t, flags := ⟨true, false, false, false, false, false⟩, widths := [none],
    names := [], conditions := [], lookbehind := none, asciiSet := false, unicodeSet := false }

end Reader

/-- The tree of a pattern and the number of its groups. Case is ignored unless the pattern says otherwise. -/
def read (t : Text) : Except Fault (Node × Nat) :=
  match Reader.whole.run (Reader.start t) with
  | .ok (r, _) => .ok r
  | .error (.mistake m position) => .error (.mistake m (position.map (placeIn t)))
  | .error .countTooLarge => .error .countTooLarge
  | .error (.longCount n) => .error (.longCount n)
  | .error .classesClash => .error .classesClash

end Untrack.Pattern
