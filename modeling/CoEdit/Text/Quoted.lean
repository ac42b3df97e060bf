import CoEdit.Text.Printable

/-!
# Quoted Text

The form in which a message shows a text that it complains about: between double quotes, with
escapes for the quote, the backslash, the usual control characters, and every character that would
not show.

## Main definitions

* `quoteChar`: the form of one character.
* `quote`: the form of a text.
-/

namespace CoEdit.Text

/-- The lowercase hexadecimal digits of a number, without leading zeros. -/
def hexDigits (n : Nat) : List Char :=
  Nat.toDigits 16 n

/-- One character of a quoted text. -/
def quoteChar (c : Char) : List Char :=
  if c = '"' then ['\\', '"']
  else if c = '\\' then ['\\', '\\']
  else if c = '\n' then ['\\', 'n']
  else if c = '\r' then ['\\', 'r']
  else if c = '\t' then ['\\', 't']
  else if c = '\x00' then ['\\', '0']
  else if isPrintable c then [c]
  else ['\\', 'u', '\x7b'] ++ hexDigits c.toNat ++ ['\x7d']

/-- A text between double quotes, with escapes. -/
def quote (s : String) : String :=
  String.ofList ('"' :: s.toList.flatMap quoteChar ++ ['"'])

example : quote "a\"b\n" = "\"a\\\"b\\n\"" := by decide +kernel
example : quote "\u200b\x7f" = "\"\\u\x7b200b\x7d\\u\x7b7f\x7d\"" := by decide +kernel

end CoEdit.Text
