import FormPress.Text.Basic
import FormPress.Text.Printable

/-!
# Quoted text

How a message names a text that an author wrote: between single quotes, or between double quotes
when it holds a single quote and no double quote. A backslash, the chosen quote, line feed, carriage
return and tab are escaped by a letter; every other character that is not printable is written by
its code point, in two, four or eight hexadecimal digits.
-/

namespace FormPress.Text.Quoted

/-- The quote put around a text. -/
def quoteFor (s : List Char) : Char :=
  if '\'' ∈ s ∧ '"' ∉ s then '"' else '\''

def writeChar (quote c : Char) : List Char :=
  if c = quote ∨ c = '\\' then ['\\', c]
  else if c = '\n' then ['\\', 'n']
  else if c = '\r' then ['\\', 'r']
  else if c = '\t' then ['\\', 't']
  else if isPrintable c then [c]
  else if c.toNat < 0x100 then '\\' :: 'x' :: hex 2 c.toNat
  else if c.toNat < 0x10000 then '\\' :: 'u' :: hex 4 c.toNat
  else '\\' :: 'U' :: hex 8 c.toNat

def write (s : String) : String :=
  let quote := quoteFor s.toList
  String.ofList (quote :: s.toList.flatMap (writeChar quote) ++ [quote])

end FormPress.Text.Quoted
