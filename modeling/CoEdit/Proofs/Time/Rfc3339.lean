import CoEdit.Proofs.Decimal.Digits
import CoEdit.Proofs.Time.Calendar

/-!
# Timestamps Are Read Back

An instant in the years 0 to 9999 is written with four digits for the year, and the reader takes
what is written field by field, to the nanosecond. The reader is a chain of small steps; each of
them takes just what the writer has put there.

## Main definitions

* `Writable`: the instants that are written in the plain form, leap seconds included.

## Main results

* `run_digits`, `run_field`, `run_year`, `run_fraction`, …: what each step of the reader takes.
* `parse_render`: a written instant is read back.
-/

namespace CoEdit.Time.Rfc3339

open CoEdit.Decimal
open CoEdit.Text (isWhite)

variable {α β : Type} {c : Char} {cs rest : List Char} {n width low high nanos : Nat}

/-! ### Steps of the reader -/

/-- A step that succeeds hands on its value and the rest of the text. -/
theorem run_bind {x : Scan α} {f : α → Scan β} {a : α} (h : x.run cs = .ok (a, rest)) :
    (x >>= f).run cs = (f a).run rest := by
  rw [StateT.run_bind, h]
  rfl

theorem not_isWhite_of_isDigit (h : c.isDigit = true) : isWhite c = false := by
  have hrange := toNat_of_isDigit h
  simp only [isWhite, Bool.or_eq_false_iff, Bool.and_eq_false_iff, decide_eq_false_iff_not,
    beq_eq_false_iff_ne, ne_eq]
  omega

theorem run_get (cs : List Char) : (get : Scan (List Char)).run cs = .ok (cs, cs) := rfl

/-- Where there is no white space, none is skipped. -/
theorem run_skipWhite (h : isWhite c = false) (cs : List Char) :
    skipWhite.run (c :: cs) = .ok ((), c :: cs) := by
  change Except.ok ((), (c :: cs).dropWhile isWhite) = _
  rw [List.dropWhile_cons_of_neg (Bool.eq_false_iff.mp h)]

theorem run_literal (c : Char) (cs : List Char) : (literal c).run (c :: cs) = .ok ((), cs) := by
  change StateT.run (if c = c then set cs else throw Fault.character) _ = _
  rw [if_pos rfl]
  rfl

theorem run_separator (h : isWhite c = false) (cs : List Char) :
    (separator c).run (c :: cs) = .ok ((), cs) := by
  rw [separator, run_bind (run_skipWhite h cs), run_literal]

/-- A run of digits that is no longer than asked for is read whole. -/
theorem run_digits {run : List Char} (hne : run ≠ []) (hrun : ∀ c ∈ run, c.isDigit = true)
    (hlength : run.length ≤ width) (hrest : EndsRun rest) :
    (digits (some width)).run (run ++ rest) = .ok (digitsValue run, rest) := by
  obtain ⟨d, ds, rfl⟩ := List.exists_cons_of_ne_nil hne
  have htake : ((d :: ds ++ rest).takeWhile Char.isDigit).take width = d :: ds := by
    rw [takeWhile_run hrun hrest, List.take_of_length_le hlength]
  have hdrop : (d :: ds ++ rest).drop (d :: ds).length = rest := List.drop_left
  rw [digits, run_bind (run_get _)]
  dsimp only
  rw [htake]
  change Except.ok (_, (d :: ds ++ rest).drop (d :: ds).length) = _
  rw [hdrop]
  rfl

theorem exists_padded_cons (hwidth : 0 < width) (hn : n < 10 ^ width) :
    ∃ c cs, padded width n = c :: cs ∧ c.isDigit = true := by
  have hlength := length_padded hwidth hn
  cases hpadded : padded width n with
  | nil =>
      rw [hpadded] at hlength
      exact absurd hlength (Nat.ne_of_lt hwidth)
  | cons c cs => exact ⟨c, cs, rfl, isDigit_of_mem_padded (hpadded ▸ List.mem_cons_self)⟩

/-- A number that was written with zeros in front is read back. -/
theorem run_digits_padded (hwidth : 0 < width) (hle : width ≤ high) (hn : n < 10 ^ width)
    (hrest : EndsRun rest) :
    (digits (some high)).run (padded width n ++ rest) = .ok (n, rest) := by
  have hlength := length_padded hwidth hn
  have hne : padded width n ≠ [] := by
    obtain ⟨c, cs, hcons, -⟩ := exists_padded_cons hwidth hn
    rw [hcons]
    exact List.cons_ne_nil c cs
  rw [run_digits hne (fun _ => isDigit_of_mem_padded) (le_of_eq_of_le hlength hle) hrest,
    digitsValue_padded]

theorem run_skipWhite_padded (hwidth : 0 < width) (hn : n < 10 ^ width) (rest : List Char) :
    skipWhite.run (padded width n ++ rest) = .ok ((), padded width n ++ rest) := by
  obtain ⟨c, cs, hcons, hc⟩ := exists_padded_cons hwidth hn
  rw [hcons]
  exact run_skipWhite (not_isWhite_of_isDigit hc) _

/-- A field of two digits is read back. -/
theorem run_field (hlow : low ≤ n) (hhigh : n ≤ high) (hn : n < 100) (hrest : EndsRun rest) :
    (field low high).run (padded 2 n ++ rest) = .ok (n, rest) := by
  rw [field, run_bind (run_skipWhite_padded (by decide) hn rest),
    run_bind (run_digits_padded (by decide) (Nat.le_refl 2) hn hrest), if_pos ⟨hlow, hhigh⟩]
  rfl

/-- A year of four digits is read back. -/
theorem run_year (hn : n < 10000) (hrest : EndsRun rest) :
    year.run (padded 4 n ++ rest) = .ok ((n : Int), rest) := by
  have hfour : 0 < 4 := by decide
  obtain ⟨c, cs, hcons, hc⟩ := exists_padded_cons hfour hn
  have hdigits := run_digits_padded hfour (Nat.le_refl 4) hn hrest
  have hminus : c ≠ '-' := by
    rintro rfl
    cases hc
  have hplus : c ≠ '+' := by
    rintro rfl
    cases hc
  have hfits : yearFits n = true := by
    rw [yearFits, Bool.and_eq_true, decide_eq_true_iff, decide_eq_true_iff]
    omega
  rw [year, run_bind (run_skipWhite_padded (by decide) hn rest), run_bind (run_get _)]
  dsimp only
  split
  · next heq =>
    rw [hcons] at heq
    exact absurd (List.cons.inj heq).1 hminus
  · next heq =>
    rw [hcons] at heq
    exact absurd (List.cons.inj heq).1 hplus
  · rw [run_bind hdigits, pure_bind, if_pos hfits]
    rfl

/-! ### The decimals of a second -/

/-- Decimals count as nanoseconds by their places. -/
theorem run_fraction_point (hdigits : (digits (some 9)).run cs = .ok (n, rest))
    (hrest : EndsRun rest) :
    fraction.run ('.' :: cs) =
      .ok (n * 10 ^ (9 - min 9 (cs.takeWhile Char.isDigit).length), rest) := by
  have hset : StateT.run (set cs : Scan Unit) ('.' :: cs) = .ok ((), cs) := rfl
  have hdrop : StateT.run (modify (List.dropWhile Char.isDigit) : Scan Unit) rest =
      .ok ((), rest) := by
    have hnone : ([] ++ rest).dropWhile Char.isDigit = rest := dropWhile_run nofun hrest
    change Except.ok ((), ([] ++ rest).dropWhile Char.isDigit) = _
    rw [hnone]
  rw [fraction, run_bind (run_get _)]
  split
  · next heq =>
    obtain rfl := (List.cons.inj heq).2
    rw [run_bind hset, run_bind hdigits, run_bind hdrop]
    rfl
  · next hpoint => exact absurd rfl (hpoint _)

/-- Decimals that were written with zeros in front are read back. -/
theorem run_fraction_padded (hwidth : 0 < width) (hle : width ≤ 9) (hn : n < 10 ^ width)
    (hrest : EndsRun rest) :
    fraction.run ('.' :: padded width n ++ rest) = .ok (n * 10 ^ (9 - width), rest) := by
  have htaken : ((padded width n ++ rest).takeWhile Char.isDigit).length = width := by
    rw [takeWhile_run (fun _ => isDigit_of_mem_padded) hrest, length_padded hwidth hn]
  rw [List.cons_append, run_fraction_point (run_digits_padded hwidth hle hn hrest) hrest, htaken,
    Nat.min_eq_right hle]

/-- The decimals of a second are read back. -/
theorem run_fraction (hnanos : nanos < 1000000000) (hrest : EndsRun (c :: rest)) (hc : c ≠ '.') :
    fraction.run (renderFraction nanos ++ c :: rest) = .ok (nanos, c :: rest) := by
  rw [renderFraction]
  split
  · next hzero =>
    rw [fraction, run_bind (run_get _), List.nil_append]
    dsimp only
    split
    · next heq => exact absurd (List.cons.inj heq).1 hc
    · rw [hzero]
      rfl
  · split
    · next hmillis =>
      have hvalue : nanos / 1000000 * 10 ^ (9 - 3) = nanos := by omega
      rw [run_fraction_padded (by decide) (by decide) (by omega) hrest, hvalue]
    · split
      · next hmicros =>
        have hvalue : nanos / 1000 * 10 ^ (9 - 6) = nanos := by omega
        rw [run_fraction_padded (by decide) (by decide) (by omega) hrest, hvalue]
      · rw [run_fraction_padded (by decide) (by decide) (by omega) hrest]
        simp

/-- Universal time has no offset. -/
theorem run_offset : offset.run ['Z'] = .ok (0, []) := by
  decide +kernel

theorem run_dateEnd (cs : List Char) : dateEnd.run ('T' :: cs) = .ok ((), cs) := rfl

/-! ### Timestamps -/

/-- The instants that are written without a sign before the year: those in the years 0 to 9999. A
leap second follows the last second of a minute. -/
structure Writable (t : Instant) : Prop where
  first : 0 ≤ (Date.ofDayNumber (t.seconds / Instant.secondsPerDay)).year
  last : (Date.ofDayNumber (t.seconds / Instant.secondsPerDay)).year ≤ 9999
  nanos : t.nanos < Instant.nanosPerSecond ∨
    (t.nanos < 2 * Instant.nanosPerSecond ∧ t.seconds % 60 = 59)

instance (t : Instant) : Decidable (Writable t) :=
  decidable_of_iff (_ ∧ _ ∧ _)
    ⟨fun ⟨first, last, nanos⟩ => ⟨first, last, nanos⟩, fun h => ⟨h.first, h.last, h.nanos⟩⟩

/-- The fields that an instant is written with. -/
def fieldsOf (t : Instant) : Fields where
  date := Date.ofDayNumber (t.seconds / Instant.secondsPerDay)
  hour := t.secondOfDay.toNat / 3600
  minute := t.secondOfDay.toNat / 60 % 60
  second := t.secondOfDay.toNat % 60 + t.nanos / Instant.nanosPerSecond
  nanos := t.nanos % Instant.nanosPerSecond
  offset := 0

variable {t : Instant}

theorem Writable.inCalendar (h : Writable t) :
    (Date.ofDayNumber (t.seconds / Instant.secondsPerDay)).inCalendar = true := by
  have hfirst := h.first
  have hlast := h.last
  refine Date.inCalendar_ofDayNumber ?_ ?_
  · rw [Date.firstYear]
    omega
  · rw [Date.lastYear]
    omega

/-- The second of the day is made up of hours, minutes and seconds. -/
theorem secondOfDay_lt (t : Instant) : t.secondOfDay.toNat < 86400 := by
  rw [Instant.secondOfDay, Instant.secondsPerDay]
  omega

/-- Either the second is an ordinary one, or it is a leap second behind second 59. -/
theorem Writable.second_cases (h : Writable t) :
    (t.nanos / Instant.nanosPerSecond = 0 ∧ t.nanos % Instant.nanosPerSecond = t.nanos) ∨
      (t.nanos / Instant.nanosPerSecond = 1 ∧
        t.nanos % Instant.nanosPerSecond + Instant.nanosPerSecond = t.nanos ∧
        t.secondOfDay.toNat % 60 = 59) := by
  have hnanos := h.nanos
  rw [Instant.secondOfDay, Instant.secondsPerDay]
  rw [Instant.nanosPerSecond] at hnanos ⊢
  omega

/-- The clock of a day holds the second of the day. -/
theorem secondOfDay_eq (t : Instant) :
    t.seconds / Instant.secondsPerDay * Instant.secondsPerDay + t.secondOfDay.toNat =
      t.seconds := by
  rw [Instant.secondOfDay, Instant.secondsPerDay]
  omega

/-- What follows the seconds does not begin with a digit. -/
theorem endsRun_renderFraction (nanos : Nat) (cs : List Char) :
    EndsRun (renderFraction nanos ++ 'Z' :: cs) := by
  rw [renderFraction]
  split
  · exact endsRun_cons rfl cs
  · split
    · exact endsRun_cons rfl _
    · split <;> exact endsRun_cons rfl _

/-- The fields of a written instant are read one after the other. -/
theorem run_fields (h : Writable t) : fields.run (renderChars t) = .ok (fieldsOf t, []) := by
  obtain ⟨date, hdate⟩ : ∃ date, date = Date.ofDayNumber (t.seconds / Instant.secondsPerDay) :=
    ⟨_, rfl⟩
  have hfirst := h.first
  have hlast := h.last
  have hcalendar := h.inCalendar
  rw [← hdate] at hfirst hlast hcalendar
  simp only [Date.inCalendar, Bool.and_eq_true, decide_eq_true_eq] at hcalendar
  have hday := Date.daysInMonth_le date.year date.month
  have hclock := secondOfDay_lt t
  have hsecond : t.secondOfDay.toNat % 60 + t.nanos / Instant.nanosPerSecond ≤ 60 := by
    have hcases := h.second_cases
    omega
  have hnanos : t.nanos % Instant.nanosPerSecond < 1000000000 := Nat.mod_lt _ (by decide)
  have hyear : (date.year.toNat : Int) = date.year := Int.toNat_of_nonneg hfirst
  -- Every step of the reader meets the field that the writer has put there, within its bounds, and
  -- a mark behind it that is no digit.
  rw [renderChars, renderYear, ← hdate, if_pos ⟨hfirst, hlast⟩]
  simp only [List.append_assoc, List.cons_append]
  rw [fields, run_bind (run_year (by omega) (endsRun_cons rfl _)), run_bind (run_separator rfl _),
    run_bind (run_field (by omega) (by omega) (by omega) (endsRun_cons rfl _)),
    run_bind (run_separator rfl _),
    run_bind (run_field (by omega) (by omega) (by omega) (endsRun_cons rfl _)),
    run_bind (run_dateEnd _),
    run_bind (run_field (by omega) (by omega) (by omega) (endsRun_cons rfl _)),
    run_bind (run_separator rfl _),
    run_bind (run_field (by omega) (by omega) (by omega) (endsRun_cons rfl _)),
    run_bind (run_separator rfl _),
    run_bind (run_field (Nat.zero_le _) hsecond (by omega) (endsRun_renderFraction _ _)),
    run_bind (run_fraction hnanos (endsRun_cons rfl _) (by decide)), run_bind run_offset, hyear,
    fieldsOf, ← hdate]
  rfl

/-- The fields name the instant again. -/
theorem toInstant_fieldsOf (h : Writable t) : (fieldsOf t).toInstant = .ok t := by
  have hday := Date.dayNumber_ofDayNumber (t.seconds / Instant.secondsPerDay)
  have hcalendar := not_not.mpr h.inCalendar
  have hoffset : ¬Instant.secondsPerDay ≤ (0 : Int).natAbs := by decide
  have hcases := h.second_cases
  have hclock : t.secondOfDay.toNat / 3600 * 3600 + t.secondOfDay.toNat / 60 % 60 * 60 +
      (if t.secondOfDay.toNat % 60 + t.nanos / Instant.nanosPerSecond = 60 then 59
        else t.secondOfDay.toNat % 60 + t.nanos / Instant.nanosPerSecond) =
      t.secondOfDay.toNat := by
    split <;> omega
  have hnanos : t.nanos % Instant.nanosPerSecond +
      (if t.secondOfDay.toNat % 60 + t.nanos / Instant.nanosPerSecond = 60 then
        Instant.nanosPerSecond else 0) = t.nanos := by
    split <;> omega
  rw [Fields.toInstant, fieldsOf]
  dsimp only
  rw [if_neg hcalendar, if_neg hoffset, hclock, hnanos, hday, secondOfDay_eq, Int.sub_zero,
    if_neg hcalendar]
  rfl

/-- **A written instant is read back.** -/
theorem parse_render (h : Writable t) : parse (render t) = .ok t := by
  rw [parse, render, String.toList_ofList, run_fields h]
  exact toInstant_fieldsOf h

end CoEdit.Time.Rfc3339
