import KotlinAssist.Text.Unprintable

/-!
# Quoted text

A text between double quotes, as error messages show it.  The quote and the backslash are written
after a backslash, the usual controls by their letter, and a character without a glyph of its own by
its code point in hexadecimal.
-/

namespace KotlinAssist.Text

/-- How one character is written inside quotes. -/
def quotedChar (c : Char) : List Char :=
  if c = '"' then ['\\', '"']
  else if c = '\\' then ['\\', '\\']
  else if c = '\n' then ['\\', 'n']
  else if c = '\r' then ['\\', 'r']
  else if c = '\t' then ['\\', 't']
  else if c.toNat = 0 then ['\\', '0']
  else if isUnprintable c then
    "\\u\x7b".toList ++ Nat.toDigits 16 c.toNat ++ ['\x7d']
  else [c]

/-- A text between quotes. -/
def quoted (text : String) : String :=
  String.ofList ('"' :: text.toList.flatMap quotedChar ++ ['"'])

end KotlinAssist.Text
