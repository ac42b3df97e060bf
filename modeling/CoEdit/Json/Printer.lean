import CoEdit.Decimal.Shortest
import CoEdit.Json.Basic

/-!
# Writing JSON

The compact text of a JSON value: no white space, entries in the order in which the object lists
them, and strings with escapes for the quote, the backslash and control characters only.

## Main definitions

* `Json.numberLayout`: how doubles are laid out.
* `Json.escapeChar`, `Json.quoteChars`: characters and strings.
* `Json.render`: the text of a value.
-/

namespace CoEdit.Json

/-- Doubles are written without an exponent from a hundred-thousandth up to sixteen places before
the point, and otherwise with a signed exponent. -/
def numberLayout : Decimal.Layout := ⟨-5, 15⟩

/-- One hexadecimal digit, in lower case. -/
def hexDigit (n : Nat) : Char :=
  if n < 10 then Char.ofNat (n + 48) else Char.ofNat (n + 87)

/-- One character of a string: a short escape where there is one, four hexadecimal digits for the
other control characters, and all else as it is. -/
def escapeChar (c : Char) : List Char :=
  if c = '"' then ['\\', '"']
  else if c = '\\' then ['\\', '\\']
  else if c = '\n' then ['\\', 'n']
  else if c = '\r' then ['\\', 'r']
  else if c = '\t' then ['\\', 't']
  else if c = '\x08' then ['\\', 'b']
  else if c = '\x0c' then ['\\', 'f']
  else if c.toNat < 0x20 then
    ['\\', 'u', '0', '0', hexDigit (c.toNat / 16), hexDigit (c.toNat % 16)]
  else [c]

/-- A string between quotes. -/
def quoteChars (s : String) : List Char :=
  '"' :: s.toList.flatMap escapeChar ++ ['"']

/-- A whole number in decimal. -/
def wholeChars (n : Int) : List Char :=
  if n < 0 then '-' :: Nat.toDigits 10 n.natAbs else Nat.toDigits 10 n.natAbs

mutual

/-- The text of a value, as characters. -/
def chars : Json → List Char
  | .null => ['n', 'u', 'l', 'l']
  | .boolean true => ['t', 'r', 'u', 'e']
  | .boolean false => ['f', 'a', 'l', 's', 'e']
  | .whole n => wholeChars n
  | .double bits => numberLayout.render bits
  | .text s => quoteChars s
  | .array [] => ['[', ']']
  | .array (item :: items) => '[' :: item.chars ++ itemsChars items
  | .object [] => ['\x7b', '\x7d']
  | .object ((key, value) :: fields) =>
    '\x7b' :: quoteChars key ++ ':' :: value.chars ++ fieldsChars fields

/-- The items of an array behind the first one, and the closing bracket. -/
def itemsChars : List Json → List Char
  | [] => [']']
  | item :: items => ',' :: item.chars ++ itemsChars items

/-- The entries of an object behind the first one, and the closing brace. -/
def fieldsChars : List (String × Json) → List Char
  | [] => ['\x7d']
  | (key, value) :: fields => ',' :: quoteChars key ++ ':' :: value.chars ++ fieldsChars fields

end

/-- The compact text of a value. -/
def render (j : Json) : String :=
  String.ofList j.chars

example : numberLayout.render 0x3E7AD7F29ABCAF48 = ['1', 'e', '-', '7'] := by decide +kernel
example : numberLayout.render 0xC480F0CF064DD592 = ['-', '1', 'e', '+', '2', '2'] := by
  decide +kernel
example : render (.object [("b", .array [.null, .nat 1]), ("a", .text "\x01\"é")]) =
    "\x7b\"b\":[null,1],\"a\":\"\\u0001\\\"é\"\x7d" := by decide +kernel

end CoEdit.Json
