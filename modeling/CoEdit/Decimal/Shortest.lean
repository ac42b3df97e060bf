import CoEdit.Decimal.Word

/-!
# The Shortest Decimal of a Double

Finds, for a finite IEEE 754 double, the decimal with the fewest digits that reads back as it, and
among those the nearest one, by exact arithmetic on natural numbers.

A double is `mantissa · 2 ^ exponent`; the reals that round to it form an interval, half a unit to
either side, which is narrower below a power of two, and whose ends belong to it when the mantissa
is even. Points of a decimal grid are tested against the interval, the coarsest grid first.

## Main definitions

* `Binary`: a double as mantissa and exponent, with `Binary.ofBits`.
* `Shortest`: digits and exponent of a decimal, with `Binary.shortest`.
* `Layout`: how digits and exponent are laid out as text, with `Layout.render`.
-/

namespace CoEdit.Decimal

/-- The magnitude `mantissa · 2 ^ exponent` of a finite double. `narrow` holds where the double
below is only half as far away as the one above. -/
structure Binary where
  mantissa : Nat
  exponent : Int
  narrow : Bool
  deriving DecidableEq, Repr

/-- The weight of the leading bit of a mantissa, which is the 53rd and is not stored. -/
def leadingBit : Nat := 4503599627370496

/-- Reads the exponent and fraction fields of a double. -/
def Binary.ofBits (bits : UInt64) : Binary :=
  let field : Nat := bits.toNat / leadingBit % 2048
  let fraction : Nat := bits.toNat % leadingBit
  if field = 0 then ⟨fraction, -1074, false⟩
  else ⟨fraction + leadingBit, (field : Int) - 1075, fraction = 0 && 1 < field⟩

/-- The decimal `digits · 10 ^ exponent`. -/
structure Shortest where
  digits : Nat
  exponent : Int
  deriving DecidableEq, Repr

namespace Binary

/-- Numerator and denominator of `2 ^ (exponent - 2) / 10 ^ grid`: a quarter of the last place,
measured in steps of the decimal grid. -/
def quarter (b : Binary) (grid : Int) : Nat × Nat :=
  let q := b.exponent - 2
  (Nat.pow 2 q.toNat * Nat.pow 10 (-grid).toNat, Nat.pow 2 (-q).toNat * Nat.pow 10 grid.toNat)

/-- Whether the grid point `d · 10 ^ grid` rounds to the double. -/
def admits (b : Binary) (grid : Int) (d : Nat) : Bool :=
  let (num, den) := b.quarter grid
  let low := (4 * b.mantissa - if b.narrow then 1 else 2) * num
  let high := (4 * b.mantissa + 2) * num
  if b.mantissa % 2 = 0 then low ≤ d * den && d * den ≤ high
  else low < d * den && d * den < high

/-- The grid point nearest to the double among its two neighbours on the grid that round to it;
of two equally near ones the even one. -/
def onGrid (b : Binary) (grid : Int) : Option Nat :=
  let (num, den) := b.quarter grid
  let value := 4 * b.mantissa * num
  let d := value / den
  match b.admits grid d, b.admits grid (d + 1) with
  | false, false => none
  | true, false => some d
  | false, true => some (d + 1)
  | true, true =>
    let below := value - d * den
    let above := (d + 1) * den - value
    if below < above || (below = above && d % 2 = 0) then some d else some (d + 1)

/-- A power of ten above the double, from the lengths of the numerator and the denominator. -/
def topGrid (b : Binary) : Int :=
  let (num, den) := b.quarter 0
  ((Nat.toDigits 10 (4 * b.mantissa * num)).length : Int) - (Nat.toDigits 10 den).length + 1

end Binary

/-- Moves the zeros at the end of the digits into the exponent. -/
def Shortest.trim : Nat → Shortest → Shortest
  | 0, s => s
  | fuel + 1, s =>
    if s.digits ≠ 0 ∧ s.digits % 10 = 0 then trim fuel ⟨s.digits / 10, s.exponent + 1⟩ else s

/-- The shortest decimal that reads back as the double: the first hit on ever finer grids. A grid
of 17 digits always has one, so twenty grids are enough. -/
def Binary.shortest (b : Binary) : Shortest :=
  let top := b.topGrid
  let hit := (List.range 20).findSome? fun (i : Nat) =>
    let grid := top - (i : Int)
    (b.onGrid grid).map fun d => Shortest.mk d grid
  (hit.getD ⟨b.mantissa, b.exponent⟩).trim 20

/-- How a double is laid out: without an exponent while the power of ten of its first digit lies
between `positionalFrom` and `positionalTo`, and otherwise with an exponent, whose sign is always
written. -/
structure Layout where
  positionalFrom : Int
  positionalTo : Int

/-- Digits and exponent as text; a number that needs no decimals keeps one zero. -/
def Layout.renderMagnitude (layout : Layout) (s : Shortest) : List Char :=
  let digits := Nat.toDigits 10 s.digits
  let first := s.exponent + digits.length - 1
  if layout.positionalFrom ≤ first ∧ first ≤ layout.positionalTo then
    if first < 0 then
      '0' :: '.' :: List.replicate (-first - 1).toNat '0' ++ digits
    else
      let whole := first.toNat + 1
      let decimals := digits.drop whole
      digits.take whole ++ List.replicate (whole - digits.length) '0' ++
        '.' :: (if decimals.isEmpty then ['0'] else decimals)
  else
    let mantissa := match digits with
      | [] => []
      | [d] => [d]
      | d :: ds => d :: '.' :: ds
    mantissa ++ 'e' :: (if first < 0 then '-' else '+') ::
      Nat.toDigits 10 first.natAbs

/-- The text of a finite double; zero keeps its sign. -/
def Layout.render (layout : Layout) (bits : UInt64) : List Char :=
  let sign := if signedMax < bits.toNat then ['-'] else []
  let b := Binary.ofBits bits
  sign ++ if b.mantissa = 0 then ['0', '.', '0'] else layout.renderMagnitude b.shortest

end CoEdit.Decimal
