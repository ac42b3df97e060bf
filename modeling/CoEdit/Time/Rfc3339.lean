import CoEdit.Decimal.Word
import CoEdit.Text.Blank
import CoEdit.Time.Calendar
import CoEdit.Time.Instant

/-!
# Timestamps as Text

Instants are written in the profile of RFC 3339 with `Z` for universal time, and with as many
decimals of a second as the instant needs, in groups of three. Reading is more liberal: one or two
digits per field, white space around the fields, a blank or a small letter between date and time,
any number of decimals (the first nine count), and any offset from universal time.

## Main definitions

* `render`: the written form of an instant.
* `parse`: the instant that a text denotes, or the `Fault` that stops the reading.
-/

namespace CoEdit.Time.Rfc3339

open CoEdit.Decimal (digit?)
open CoEdit.Text (isWhite)

/-- Why a text is no timestamp. -/
inductive Fault
  /-- A field lies outside its range. -/
  | range
  /-- A character stands where it may not. -/
  | character
  /-- The text stops too early. -/
  | tooShort
  /-- The text goes on behind the timestamp. -/
  | tooLong
  /-- The offset leads beyond the years that instants can name. -/
  | noInstant
  deriving DecidableEq, Repr

/-- The wording of a fault. -/
def Fault.message : Fault → String
  | .range => "input is out of range"
  | .character => "input contains invalid characters"
  | .tooShort => "premature end of input"
  | .tooLong => "trailing input"
  | .noInstant => "no possible date and time matching input"

/-! ### Writing -/

/-- The decimal digits of a number, with zeros in front up to a width. -/
def padded (width n : Nat) : List Char :=
  let digits := Nat.toDigits 10 n
  List.replicate (width - digits.length) '0' ++ digits

/-- The year: four digits, or a sign and at least four digits outside the years 0 to 9999. -/
def renderYear (year : Int) : List Char :=
  if 0 ≤ year ∧ year ≤ 9999 then padded 4 year.toNat
  else (if year < 0 then '-' else '+') :: padded 4 year.natAbs

/-- The decimals of a second: none, three, six or nine. -/
def renderFraction (nanos : Nat) : List Char :=
  if nanos = 0 then []
  else if nanos % 1000000 = 0 then '.' :: padded 3 (nanos / 1000000)
  else if nanos % 1000 = 0 then '.' :: padded 6 (nanos / 1000)
  else '.' :: padded 9 nanos

/-- The written form of an instant, as characters. A leap second is second 60. -/
def renderChars (t : Instant) : List Char :=
  let date := Date.ofDayNumber (t.seconds / Instant.secondsPerDay)
  let clock := t.secondOfDay.toNat
  let leap := t.nanos / Instant.nanosPerSecond
  renderYear date.year ++ '-' :: padded 2 date.month ++ '-' :: padded 2 date.day ++
    'T' :: padded 2 (clock / 3600) ++ ':' :: padded 2 (clock / 60 % 60) ++
    ':' :: padded 2 (clock % 60 + leap) ++
    renderFraction (t.nanos % Instant.nanosPerSecond) ++ ['Z']

/-- The written form of an instant. -/
def render (t : Instant) : String :=
  String.ofList (renderChars t)

/-! ### Reading -/

/-- A step of the reader: a value and the rest of the text, or a fault. -/
abbrev Scan (α : Type) := StateT (List Char) (Except Fault) α

/-- Skips white space. -/
def skipWhite : Scan Unit :=
  modify (List.dropWhile isWhite)

/-- Up to `width` digits (any number if `none`), and at least one. -/
def digits (width : Option Nat) : Scan Nat := do
  let cs ← get
  let run := cs.takeWhile Char.isDigit
  let run := match width with
    | some w => run.take w
    | none => run
  match cs, run with
  | [], _ => throw .tooShort
  | _, [] => throw .character
  | _, _ =>
    set (cs.drop run.length)
    pure (run.foldl (fun n c => n * 10 + (c.toNat - '0'.toNat)) 0)

/-- A field of at most two digits within a range, after white space. -/
def field (low high : Nat) : Scan Nat := do
  skipWhite
  let n ← digits (some 2)
  if low ≤ n ∧ n ≤ high then pure n else throw .range

/-- The years that fit the field, a signed word of 32 bits; the calendar itself ends earlier. -/
def yearFits (year : Int) : Bool :=
  -2147483648 ≤ year && year ≤ 2147483647

/-- The year: up to four digits, or a sign and any number of digits. -/
def year : Scan Int := do
  skipWhite
  let value : Int ← match ← get with
    | '-' :: rest => do set rest; pure (-(← digits none : Nat))
    | '+' :: rest => do set rest; pure (← digits none : Nat)
    | _ => do pure (← digits (some 4) : Nat)
  if yearFits value then pure value else throw .range

/-- One given character. -/
def literal (c : Char) : Scan Unit := do
  match ← get with
  | [] => throw .tooShort
  | d :: rest => if d = c then set rest else throw .character

/-- White space, then one given character. -/
def separator (c : Char) : Scan Unit := do
  skipWhite
  literal c

/-- What divides the date from the time of day. -/
def dateEnd : Scan Unit := do
  match ← get with
  | [] => throw .tooShort
  | c :: rest => if c = 't' ∨ c = 'T' ∨ c = ' ' then set rest else throw .character

/-- The decimals of a second, if a point follows. -/
def fraction : Scan Nat := do
  match ← get with
  | '.' :: rest =>
    set rest
    let n ← digits (some 9)
    let taken := min 9 (rest.takeWhile Char.isDigit).length
    modify (List.dropWhile Char.isDigit)
    pure (n * Nat.pow 10 (9 - taken))
  | _ => pure 0

/-- Exactly two digits of an offset; `tens` bounds the first one. -/
def twoDigits (tens : Nat) : Scan Nat := do
  match ← get with
  | [] => throw .tooShort
  | [c] => if c.toNat < 128 then throw .tooShort else throw .character
  | c :: d :: rest =>
    match digit? c, digit? d with
    | some a, some b =>
      if a ≤ tens then do set rest; pure (a * 10 + b) else throw .range
    | _, _ => throw .character

/-- The offset from universal time in seconds: `UTC`, `Z`, or hours and minutes with a sign. -/
def offset : Scan Int := do
  skipWhite
  let cs ← get
  if (cs.take 3).map Char.toUpper = ['U', 'T', 'C'] then
    set (cs.drop 3)
    return 0
  match cs with
  | [] => throw .tooShort
  | c :: rest =>
    set rest
    if c = 'Z' ∨ c = 'z' then return 0
    let negative ←
      if c = '+' then pure false
      else if c = '-' ∨ c = '\u2212' then pure true
      else throw .character
    let hours ← twoDigits 9
    modify (List.dropWhile fun c => c = ':' || isWhite c)
    let minutes ← twoDigits 5
    let seconds : Int := hours * 3600 + minutes * 60
    return if negative then -seconds else seconds

/-- The fields of a timestamp in the order in which they stand. -/
structure Fields where
  date : Date
  hour : Nat
  minute : Nat
  second : Nat
  nanos : Nat
  offset : Int

/-- Reads all fields. -/
def fields : Scan Fields := do
  let y ← year
  separator '-'
  let month ← field 1 12
  separator '-'
  let day ← field 1 31
  dateEnd
  let hour ← field 0 23
  separator ':'
  let minute ← field 0 59
  separator ':'
  let second ← field 0 60
  let nanos ← fraction
  let off ← offset
  pure ⟨⟨y, month, day⟩, hour, minute, second, nanos, off⟩

/-- The instant that the fields name. Second 60 is a leap second, which extends second 59. -/
def Fields.toInstant (f : Fields) : Except Fault Instant := do
  if ¬f.date.inCalendar then throw .range
  if Instant.secondsPerDay ≤ f.offset.natAbs then throw .range
  let leap := f.second = 60
  let clock := f.hour * 3600 + f.minute * 60 + if leap then 59 else f.second
  let seconds := f.date.dayNumber * Instant.secondsPerDay + clock - f.offset
  let day := Date.ofDayNumber (seconds / Instant.secondsPerDay)
  if ¬day.inCalendar then throw .noInstant
  pure ⟨seconds, f.nanos + if leap then Instant.nanosPerSecond else 0⟩

/-- The instant that a text denotes. -/
def parse (s : String) : Except Fault Instant := do
  let (f, rest) ← fields.run s.toList
  if (rest.dropWhile isWhite).isEmpty then f.toInstant else throw .tooLong

end CoEdit.Time.Rfc3339
