import RelayRoute.Number.Digits
import RelayRoute.Unicode.Hidden

/-!
# Quoted texts

A text inside a message stands in double quotes.  The quote, the backslash and the common controls
are written with a backslash, and a character without a shape of its own by its number.

* `escape` — a character as it stands in a quoted text;
* `numbered` — a character by its number, in base sixteen between braces;
* `quote` — a text in quotes.
-/

namespace RelayRoute.Text

/-- A character by its number. -/
def numbered (c : Char) : List Char :=
  "\\u\x7b".toList ++ Digits.write 16 c.toNat ++ ['\x7d']

/-- A character as it stands in a quoted text. -/
def escape (c : Char) : List Char :=
  if c = '"' then ['\\', '"']
  else if c = '\\' then ['\\', '\\']
  else if c = '\t' then ['\\', 't']
  else if c = '\n' then ['\\', 'n']
  else if c = '\r' then ['\\', 'r']
  else if c.toNat = 0 then ['\\', '0']
  else if Unicode.isHidden c then numbered c
  else [c]

/-- A text in quotes, with escapes for what would end it or could not be seen. -/
def quote (text : String) : String :=
  String.ofList ('"' :: text.toList.flatMap escape ++ ['"'])

end RelayRoute.Text
