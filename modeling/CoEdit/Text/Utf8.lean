/-!
# Reading UTF-8

Turns octets into text, or says where and why they are not UTF-8. An octet sequence is refused at
the first character that cannot be read; the refusal tells how many octets were fine before it and
how many of the following ones belong to the shortest prefix that rules the character out. Where
the octets merely stop inside a character, the text is incomplete rather than invalid.

## Main definitions

* `Fault`: the two ways to be no UTF-8, with `Fault.message`.
* `decode`: the text of a list of octets.
-/

namespace CoEdit.Text.Utf8

/-- Why a list of octets is not UTF-8. -/
inductive Fault
  /-- After `valid` good octets come `length` octets that start no character. -/
  | invalid (valid length : Nat)
  /-- After `valid` good octets the list stops inside a character. -/
  | incomplete (valid : Nat)
  deriving DecidableEq, Repr

/-- The wording of a fault. -/
def Fault.message : Fault → String
  | .invalid valid length =>
    "invalid utf-8 sequence of " ++ toString length ++ " bytes from index " ++ toString valid
  | .incomplete valid => "incomplete utf-8 byte sequence from index " ++ toString valid

/-- The range that the second octet of a character has to lie in, given the first one. The
restricted ranges keep out overlong forms, surrogates and code points beyond the last one. -/
def secondRange (first : UInt8) : UInt8 × UInt8 :=
  if first = 0xE0 then (0xA0, 0xBF)
  else if first = 0xED then (0x80, 0x9F)
  else if first = 0xF0 then (0x90, 0xBF)
  else if first = 0xF4 then (0x80, 0x8F)
  else (0x80, 0xBF)

/-- How many octets follow the first octet of a character; `none` if no character starts so. -/
def followers (first : UInt8) : Option Nat :=
  if first < 0x80 then some 0
  else if 0xC2 ≤ first && first ≤ 0xDF then some 1
  else if 0xE0 ≤ first && first ≤ 0xEF then some 2
  else if 0xF0 ≤ first && first ≤ 0xF4 then some 3
  else none

/-- The low six bits of a later octet of a character. -/
def payload (octet : UInt8) : Nat :=
  octet.toNat % 64

/-- Reads the later octets of a character: `owed` of them, the next one within `range`. The octets
taken so far make up `code`, and `taken` counts them. -/
def tail (range : UInt8 × UInt8) (owed code taken valid : Nat) :
    List UInt8 → Except Fault (Nat × List UInt8)
  | rest =>
    match owed with
    | 0 => .ok (code, rest)
    | owed + 1 =>
      match rest with
      | [] => .error (.incomplete valid)
      | octet :: rest =>
        if range.1 ≤ octet && octet ≤ range.2 then
          tail (0x80, 0xBF) owed (code * 64 + payload octet) (taken + 1) valid rest
        else .error (.invalid valid taken)

/-- The value of the leading bits that the first octet of a character contributes. -/
def leading (first : UInt8) (owed : Nat) : Nat :=
  match owed with
  | 0 => first.toNat
  | 1 => first.toNat % 32
  | 2 => first.toNat % 16
  | _ => first.toNat % 8

/-- Reads the first character of a nonempty list of octets that `valid` good octets precede. -/
def character (valid : Nat) (first : UInt8) (rest : List UInt8) :
    Except Fault (Char × List UInt8) :=
  match followers first with
  | none => .error (.invalid valid 1)
  | some owed => do
    let (code, rest) ← tail (secondRange first) owed (leading first owed) 1 valid rest
    pure (Char.ofNat code, rest)

/-- Reads characters until the octets are used up. Every character takes at least one octet, so
the number of octets bounds the number of steps. `seen` holds the characters read so far, the last
one first. -/
def characters : Nat → Nat → List Char → List UInt8 → Except Fault (List Char)
  | _, _, seen, [] => .ok seen.reverse
  | 0, _, seen, _ :: _ => .ok seen.reverse
  | fuel + 1, valid, seen, first :: rest =>
    match character valid first rest with
    | .error fault => .error fault
    | .ok (c, rest) => characters fuel (valid + c.utf8Size) (c :: seen) rest

/-- The text that a list of octets is the UTF-8 form of. -/
def decode (octets : List UInt8) : Except Fault String := do
  let cs ← characters octets.length 0 [] octets
  pure (String.ofList cs)

/-- The UTF-8 form of a text. -/
def encode (s : String) : List UInt8 :=
  s.toUTF8.toList

example : decode [0xC3, 0xA9, 0x0A] = .ok "é\n" := rfl
example : decode [0xED, 0xA0, 0x80] = .error (.invalid 0 1) := rfl
example : decode [0x61, 0xE2, 0x82, 0x0A] = .error (.invalid 1 2) := rfl
example : decode [0xE2, 0x82] = .error (.incomplete 0) := rfl

end CoEdit.Text.Utf8
