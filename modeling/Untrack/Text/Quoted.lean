/-
  Untrack.Text.Quoted — text as it is shown in messages: between single quotes, or between double quotes when
  the text holds a single quote and no double one. The quote and the backslash are escaped, and so is every
  character that cannot be shown: by letter for tab, newline and carriage return, else by code point in two,
  four or eight digits.
-/

import Untrack.Text.Basic
import Untrack.Number.Hex
import Untrack.Unicode.Printable

namespace Untrack.Text

def singleQuote : Char := Char.ofNat 39

def quoteFor (t : Text) : Char :=
  if t.contains singleQuote && !t.contains '"' then '"' else singleQuote

def escapeChar (quote c : Char) : Text :=
  if c = quote ∨ c = '\\' then ['\\', c]
  else if c = '\t' then ['\\', 't']
  else if c = '\n' then ['\\', 'n']
  else if c = '\r' then ['\\', 'r']
  else if Unicode.isPrintable c then [c]
  else if c.toNat < 0x100 then '\\' :: 'x' :: hexDigits 2 c.toNat
  else if c.toNat < 0x10000 then '\\' :: 'u' :: hexDigits 4 c.toNat
  else '\\' :: 'U' :: hexDigits 8 c.toNat

def quotedText (t : Text) : Text :=
  quoteFor t :: (t.flatMap (escapeChar (quoteFor t)) ++ [quoteFor t])

def quoted (t : Text) : String := String.ofList (quotedText t)

end Untrack.Text
