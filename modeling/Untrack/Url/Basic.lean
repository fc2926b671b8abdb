/-
  Untrack.Url.Basic — URLs taken apart and put together again. Blanks and controls before a URL are dropped,
  and so are tabs and line ends anywhere in it. A scheme is a letter, then letters, digits and `+-.`, up to
  the first colon, and is brought to lower case; an authority follows two slashes; the fragment starts at the
  first `#`, the query at the first `?` before it.

  An authority with brackets must be an IPv6 address or an address of a future version between them, with
  nothing before them, and after them nothing or a colon. An authority beyond ASCII must not hold characters
  that compatibility decomposition turns into delimiters.

  Putting a URL together writes the query and the fragment only if they are not empty. Only URLs with a scheme and
  an authority are put together (`Query.clean` refuses any other).
-/

import Untrack.Url.Address
import Untrack.Text.Quoted

namespace Untrack.Url

structure Parts where
  scheme : Text
  authority : Text
  path : Text
  query : Text
  fragment : Text
  deriving DecidableEq, Repr

inductive Fault
  | unmatchedBracket
  | notAnAddress (host : Text)
  | bracketedIPv4
  | badFutureAddress
  | hiddenDelimiter (authority : Text)
  deriving DecidableEq, Repr

def Fault.message : Fault → String
  | .unmatchedBracket => "Invalid IPv6 URL"
  | .notAnAddress host => host.quoted ++ " does not appear to be an IPv4 or IPv6 address"
  | .bracketedIPv4 => "An IPv4 address cannot be in brackets"
  | .badFutureAddress => "IPvFuture address is invalid"
  | .hiddenDelimiter authority =>
    "netloc '" ++ String.ofList authority ++ "' contains invalid characters under NFKC normalization"

/-! ## Taking apart -/

def isLeading (c : Char) : Bool := c.toNat ≤ 32

def isRemoved (c : Char) : Bool := c == '\t' || c == '\r' || c == '\n'

/-- The URL without the characters that do not count. -/
def cleaned (t : Text) : Text := (t.dropWhile isLeading).filter (!isRemoved ·)

def isSchemeChar (c : Char) : Bool := c.isAlphanum || c == '+' || c == '-' || c == '.'

def isScheme : Text → Bool
  | [] => false
  | c :: r => c.isAlpha && r.all isSchemeChar

/-- The scheme in lower case and what follows its colon; no scheme leaves the text whole. -/
def splitScheme (t : Text) : Text × Text :=
  match t.after? ':' with
  | some rest => if isScheme (t.before ':') then ((t.before ':').map Char.toLower, rest) else ([], t)
  | none => ([], t)

def endsAuthority (c : Char) : Bool := c == '/' || c == '?' || c == '#'

/-- The authority and what follows it. -/
def splitAuthority : Text → Text × Text
  | '/' :: '/' :: r => (r.takeWhile (!endsAuthority ·), r.dropWhile (!endsAuthority ·))
  | t => ([], t)

/-- What follows the last `@`. -/
def withoutUser (authority : Text) : Text := (authority.reverse.takeWhile (· != '@')).reverse

def checkHost (host : Text) : Except Fault Unit :=
  if host.head? = some 'v' then if isFutureAddress host then .ok () else .error .badFutureAddress
  else if isIPv4 host then .error .bracketedIPv4
  else if isIPv6 host then .ok ()
  else .error (.notAnAddress host)

/-- What is required of an authority that has brackets. -/
def checkBrackets (authority : Text) : Except Fault Unit :=
  let host := withoutUser authority
  match host.after? '[' with
  | none => checkHost (host.before ':')
  | some bracketed =>
    if !(host.before '[').isEmpty then .error .unmatchedBracket
    else
      match bracketed.after? ']' with
      | none => checkHost bracketed
      | some after =>
        if !after.isEmpty && after.head? != some ':' then .error .unmatchedBracket
        else checkHost (bracketed.before ']')

/-- Characters whose compatibility decomposition holds one of the delimiters of an authority. -/
def hiddenDelimiters : List Nat := [
  0x2047, 0x2048, 0x2049, 0x2100, 0x2101, 0x2105, 0x2106, 0x2A74, 0xFE13, 0xFE16, 0xFE55, 0xFE56, 0xFE5F,
  0xFE6B, 0xFF03, 0xFF0F, 0xFF1A, 0xFF1F, 0xFF20]

def hidesDelimiter (c : Char) : Bool := hiddenDelimiters.contains c.toNat

def checkAuthority (authority : Text) : Except Fault Unit :=
  let opens := authority.contains '['
  let closes := authority.contains ']'
  if opens != closes then .error .unmatchedBracket
  else if opens then checkBrackets authority
  else .ok ()

def checkHidden (authority : Text) : Except Fault Unit :=
  if authority.any hidesDelimiter then .error (.hiddenDelimiter authority) else .ok ()

def split (t : Text) : Except Fault Parts := do
  let (scheme, t) := splitScheme (cleaned t)
  let (authority, t) := splitAuthority t
  checkAuthority authority
  let fragment := (t.after? '#').getD []
  let t := t.before '#'
  let query := (t.after? '?').getD []
  checkHidden authority
  return ⟨scheme, authority, t.before '?', query, fragment⟩

/-! ## Putting together -/

/-- A path after an authority starts with a slash. -/
def rooted (path : Text) : Text :=
  if path.isEmpty || path.head? == some '/' then path else '/' :: path

/-- The authority and the path. This is for parts with an authority: of others it gives the path alone, without the
two slashes that schemes such as `http` have before an empty authority. -/
def Parts.hierarchy (p : Parts) : Text :=
  if p.authority.isEmpty then p.path else '/' :: '/' :: p.authority ++ rooted p.path

/-- A delimiter and what follows it, unless that is empty. -/
def marked (c : Char) (t : Text) : Text := if t.isEmpty then [] else c :: t

/-- The URL of parts with an authority (see `Parts.hierarchy`). -/
def Parts.render (p : Parts) : Text :=
  (if p.scheme.isEmpty then [] else p.scheme ++ [':']) ++ p.hierarchy ++ marked '?' p.query ++
    marked '#' p.fragment

end Untrack.Url
