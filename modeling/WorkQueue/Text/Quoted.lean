import WorkQueue.Text.Combining
import WorkQueue.Text.Hex
import WorkQueue.Text.Printable

/-!
# Quoted text

The form in which error messages show a name or a character: between quotes, with escapes for
the quote itself, the backslash, control characters, and every character that could not be seen
in its place.
-/

namespace WorkQueue.Text

/-- A character inside quotes; `delimiter` is the quote that has to be escaped. -/
def quotedChar (delimiter c : Char) : List Char :=
  if c = '\x00' then ['\\', '0']
  else if c = '\t' then ['\\', 't']
  else if c = '\n' then ['\\', 'n']
  else if c = '\r' then ['\\', 'r']
  else if c = '\\' then ['\\', '\\']
  else if c = delimiter then ['\\', c]
  else if isPrintable c && !isCombining c then [c]
  else ['\\', 'u', '\x7b'] ++ hexDigits c.toNat ++ ['\x7d']

/-- A text between double quotes. -/
def quote (text : String) : String :=
  String.ofList (['"'] ++ text.toList.flatMap (quotedChar '"') ++ ['"'])

/-- A character between single quotes. -/
def quoteChar (c : Char) : String :=
  String.ofList (['\''] ++ quotedChar '\'' c ++ ['\''])

end WorkQueue.Text
