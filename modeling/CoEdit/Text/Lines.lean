/-!
# Lines of Octets

Cuts octets into lines. A line is finished by a newline, or by a carriage return and a newline;
neither belongs to the line. What stands behind the last newline is not finished yet.

## Main definitions

* `split`: the finished lines, and the rest.
* `splitAll`: the lines of octets that nothing follows, where the rest is a line too.
-/

namespace CoEdit.Text.Lines

/-- The octet that finishes a line. -/
def newline : UInt8 := 0x0A

/-- The octet that may stand between a line and its newline. -/
def carriageReturn : UInt8 := 0x0D

/-- A finished line from its octets, the last one first. One carriage return at its end is not
part of it. -/
def finished : List UInt8 → List UInt8
  | [] => []
  | last :: line => if last = carriageReturn then line.reverse else (last :: line).reverse

/-- Cuts octets into lines. `line` holds the octets of the present line and `lines` the finished
lines, the last one first. -/
def splitFrom (line : List UInt8) (lines : List (List UInt8)) :
    List UInt8 → List (List UInt8) × List UInt8
  | [] => (lines.reverse, line.reverse)
  | octet :: octets =>
    if octet = newline then splitFrom [] (finished line :: lines) octets
    else splitFrom (octet :: line) lines octets

/-- The finished lines, and the octets behind the last newline. -/
def split (octets : List UInt8) : List (List UInt8) × List UInt8 :=
  splitFrom [] [] octets

/-- The lines of octets that nothing follows. -/
def splitAll (octets : List UInt8) : List (List UInt8) :=
  let (lines, rest) := split octets
  if rest.isEmpty then lines else lines ++ [rest]

example : split [97, 13, 10, 13, 13, 10, 98, 13] = ([[97], [13]], [98, 13]) := rfl
example : splitAll [97, 10, 10, 98] = [[97], [], [98]] ∧ splitAll [97, 10] = [[97]] := ⟨rfl, rfl⟩

end CoEdit.Text.Lines
