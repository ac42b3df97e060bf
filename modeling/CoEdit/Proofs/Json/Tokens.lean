import CoEdit.Json.Printer
import CoEdit.Json.Reader
import CoEdit.Proofs.Decimal.Digits
import Mathlib.Data.List.Induction

/-!
# Strings and Whole Numbers Are Read Back

The writer escapes the characters of a string one by one, and the reader turns every escape back
into its character. Whole numbers are written in decimal; the reader keeps them exactly as long as
they fit a word, and makes doubles of those that do not.

## Main definitions

* `Printable`: a text without control characters.
* `EndsNumber`: a text that does not go on with a part of a number.

## Main results

* `stringTail_toList`: a string is read back up to its closing quote.
* `number_wholeChars`: a whole number is read back if it fits a word.
* `number_toDigits_of_lt`: a larger one is not.
* `printable_quoteChars`, `printable_wholeChars`, `printable_render`: no control character is
  written.
-/

namespace CoEdit.Json

open CoEdit.Decimal

variable {c : Char} {cs seen rest : List Char}

/-! ### Strings -/

theorem hexValue?_hexDigit : ∀ d < 16, hexValue? (hexDigit d) = some d := by
  decide

/-- Four hexadecimal digits denote a small character. -/
theorem hex4?_hexDigit (h : c.toNat < 0x20) :
    hex4? '0' '0' (hexDigit (c.toNat / 16)) (hexDigit (c.toNat % 16)) = some c.toNat := by
  have hzero : hexValue? '0' = some 0 := by decide
  have hhigh := hexValue?_hexDigit (c.toNat / 16) (by omega)
  have hlow := hexValue?_hexDigit (c.toNat % 16) (by omega)
  have hsum : ((0 * 16 + 0) * 16 + c.toNat / 16) * 16 + c.toNat % 16 = c.toNat := by omega
  simp only [hex4?, hzero, hhigh, hlow, Option.bind_eq_bind, Option.bind_some, hsum]
  rfl

/-- A one-letter escape is read as the character that it stands for. -/
theorem stringTail_short {e : Char} (hshort : shortEscape? e = some c) (keep : Bool)
    (seen rest : List Char) :
    stringTail keep seen ('\\' :: e :: rest) = stringTail keep (c :: seen) rest := by
  have hu : e ≠ 'u' := by
    rintro rfl
    cases hshort
  rw [stringTail, hshort]
  -- The escape is not the one that four digits follow.
  intro a b c d rest heq
  exact absurd heq hu

/-- Another control character is read from its four hexadecimal digits. -/
theorem stringTail_control (h : c.toNat < 0x20) (keep : Bool) (seen rest : List Char) :
    stringTail keep seen ('\\' :: 'u' :: '0' :: '0' :: hexDigit (c.toNat / 16) ::
      hexDigit (c.toNat % 16) :: rest) = stringTail keep (c :: seen) rest := by
  have hplain : c.toNat < 0xD800 ∨ 0xDFFF < c.toNat ∨ ¬keep = true := by omega
  rw [stringTail, hex4?_hexDigit h]
  dsimp only
  rw [if_pos hplain, Char.ofNat_toNat]

/-- A character without an escape is read as it stands. -/
theorem stringTail_plain (hquote : c ≠ '"') (hslash : c ≠ '\\') (h : ¬c.toNat < 0x20)
    (keep : Bool) (seen rest : List Char) :
    stringTail keep seen (c :: rest) = stringTail keep (c :: seen) rest := by
  rw [stringTail, if_neg h]
  · exact hquote
  · intro a b d e rest heq
    exact absurd heq hslash
  · intro e rest heq
    exact absurd heq hslash

/-- A character is written by a short escape, by its four digits, or as it stands. -/
theorem escapeChar_cases (c : Char) :
    (∃ e, shortEscape? e = some c ∧ 0x20 ≤ e.toNat ∧ escapeChar c = ['\\', e]) ∨
      (c.toNat < 0x20 ∧ escapeChar c =
        ['\\', 'u', '0', '0', hexDigit (c.toNat / 16), hexDigit (c.toNat % 16)]) ∨
      (c ≠ '"' ∧ c ≠ '\\' ∧ ¬c.toNat < 0x20 ∧ escapeChar c = [c]) := by
  unfold escapeChar
  split
  · next h => exact .inl ⟨'"', by rw [h]; rfl, by decide, rfl⟩
  split
  · next h => exact .inl ⟨'\\', by rw [h]; rfl, by decide, rfl⟩
  split
  · next h => exact .inl ⟨'n', by rw [h]; rfl, by decide, rfl⟩
  split
  · next h => exact .inl ⟨'r', by rw [h]; rfl, by decide, rfl⟩
  split
  · next h => exact .inl ⟨'t', by rw [h]; rfl, by decide, rfl⟩
  split
  · next h => exact .inl ⟨'b', by rw [h]; rfl, by decide, rfl⟩
  split
  · next h => exact .inl ⟨'f', by rw [h]; rfl, by decide, rfl⟩
  split
  · next h => exact .inr (.inl ⟨h, rfl⟩)
  · next hquote hslash _ _ _ _ _ h => exact .inr (.inr ⟨hquote, hslash, h, rfl⟩)

/-- What is written for a character is read as this character. -/
theorem stringTail_escapeChar (keep : Bool) (seen : List Char) (c : Char) (rest : List Char) :
    stringTail keep seen (escapeChar c ++ rest) = stringTail keep (c :: seen) rest := by
  rcases escapeChar_cases c with ⟨e, hshort, -, hescape⟩ | ⟨h, hescape⟩ |
    ⟨hquote, hslash, h, hescape⟩
  · rw [hescape]
    exact stringTail_short hshort keep seen rest
  · rw [hescape]
    exact stringTail_control h keep seen rest
  · rw [hescape]
    exact stringTail_plain hquote hslash h keep seen rest

/-- The escapes of a string are read up to its closing quote. -/
theorem stringTail_escaped (keep : Bool) (seen cs rest : List Char) :
    stringTail keep seen (cs.flatMap escapeChar ++ '"' :: rest) =
      some (String.ofList (seen.reverse ++ cs), rest) := by
  induction cs generalizing seen with
  | nil => rw [List.flatMap_nil, List.nil_append, stringTail, List.append_nil]
  | cons c cs ih =>
      rw [List.flatMap_cons, List.append_assoc, stringTail_escapeChar, ih, List.reverse_cons,
        List.append_assoc, List.singleton_append]

/-- A string is read back up to its closing quote. -/
theorem stringTail_toList (keep : Bool) (s : String) (rest : List Char) :
    stringTail keep [] (s.toList.flatMap escapeChar ++ '"' :: rest) = some (s, rest) := by
  rw [stringTail_escaped, List.reverse_nil, List.nil_append, String.ofList_toList]

theorem quoteChars_append (s : String) (rest : List Char) :
    quoteChars s ++ rest = '"' :: (s.toList.flatMap escapeChar ++ '"' :: rest) := by
  rw [quoteChars, List.cons_append, List.cons_append, List.append_assoc, List.singleton_append]

/-- A text without control characters. -/
def Printable (cs : List Char) : Prop :=
  ∀ c ∈ cs, 0x20 ≤ c.toNat

instance (cs : List Char) : Decidable (Printable cs) :=
  List.decidableBAll (fun c : Char => 0x20 ≤ c.toNat) cs

@[simp] theorem printable_nil : Printable [] := nofun

@[simp] theorem printable_cons : Printable (c :: cs) ↔ 0x20 ≤ c.toNat ∧ Printable cs :=
  List.forall_mem_cons

@[simp] theorem printable_append : Printable (cs ++ rest) ↔ Printable cs ∧ Printable rest :=
  List.forall_mem_append

theorem printable_escapeChar (c : Char) : Printable (escapeChar c) := by
  have hhex : ∀ n < 16, 0x20 ≤ (hexDigit n).toNat := by decide
  rcases escapeChar_cases c with ⟨e, -, hprintable, hescape⟩ | ⟨hcontrol, hescape⟩ |
    ⟨-, -, hprintable, hescape⟩
  · rw [hescape]
    simpa using hprintable
  · have hhigh := hhex (c.toNat / 16) (by omega)
    have hlow := hhex (c.toNat % 16) (by omega)
    rw [hescape]
    simp [hhigh, hlow]
  · rw [hescape]
    simpa using hprintable

/-- No control character is written in a string. -/
theorem printable_quoteChars (s : String) : Printable (quoteChars s) := by
  have hescaped : Printable (s.toList.flatMap escapeChar) := by
    intro c hc
    obtain ⟨d, -, hd⟩ := List.mem_flatMap.mp hc
    exact printable_escapeChar d c hd
  simp [quoteChars, hescaped]

/-! ### Whole numbers -/

/-- The text is at its end or goes on with something that is no part of a number. -/
def EndsNumber (rest : List Char) : Prop :=
  ∀ c ∈ rest.head?, c.isDigit = false ∧ c ≠ '.' ∧ c ≠ 'e' ∧ c ≠ 'E'

theorem endsNumber_cons (h : c.isDigit = false ∧ c ≠ '.' ∧ c ≠ 'e' ∧ c ≠ 'E')
    (rest : List Char) : EndsNumber (c :: rest) :=
  fun _ hc => Option.some.inj hc ▸ h

theorem EndsNumber.endsRun (h : EndsNumber rest) : EndsRun rest :=
  fun c hc => (h c hc).1

/-- No decimals follow. -/
theorem readDecimals_none (h : EndsNumber rest) : readDecimals rest = some (none, rest) := by
  unfold readDecimals
  split
  · exact absurd rfl (h _ rfl).2.1
  · rfl

/-- No exponent follows. -/
theorem readExponent_none (h : EndsNumber rest) : readExponent rest = some (none, rest) := by
  unfold readExponent
  split
  · next c rest =>
    have hnot : ¬(c = 'e' ∨ c = 'E') := not_or.mpr (h _ rfl).2.2
    rw [if_neg hnot]
  · rfl

/-- A nonempty run of digits is read whole. -/
theorem digitRun_run {run : List Char} (hne : run ≠ []) (hrun : ∀ c ∈ run, c.isDigit = true)
    (hrest : EndsRun rest) : digitRun (run ++ rest) = some (run, rest) := by
  have hempty : run.isEmpty = false := by simpa using hne
  rw [digitRun, takeWhile_run hrun hrest, dropWhile_run hrun hrest, hempty]
  rfl

/-- A word gathers digits as long as they denote a word. -/
theorem foldl_takeWhole (digits : List Char) (h : digitsValue digits ≤ wordMax) :
    digits.foldl Significand.takeWhole ⟨0, 0⟩ = ⟨digitsValue digits, 0⟩ := by
  induction digits using List.reverseRecOn with
  | nil => rfl
  | append_singleton digits c ih =>
      have hvalue : digitsValue (digits ++ [c]) = digitsValue digits * 10 + (c.toNat - 48) := by
        rw [digitsValue, List.foldl_append]
        rfl
      rw [hvalue] at h
      rw [List.foldl_append, ih (by omega), hvalue]
      exact if_pos ⟨rfl, h⟩

/-- Digits that denote more than a word cannot all be gathered. -/
theorem dropped_foldl_takeWhole (digits : List Char) (h : wordMax < digitsValue digits) :
    (digits.foldl Significand.takeWhole ⟨0, 0⟩).dropped ≠ 0 := by
  induction digits using List.reverseRecOn with
  | nil => exact absurd h (by decide)
  | append_singleton digits c ih =>
      have hvalue : digitsValue (digits ++ [c]) = digitsValue digits * 10 + (c.toNat - 48) := by
        rw [digitsValue, List.foldl_append]
        rfl
      rw [List.foldl_append, List.foldl_cons, List.foldl_nil]
      by_cases hfits : digitsValue digits ≤ wordMax
      · -- All digits before this one are gathered, so it is this one that is dropped.
        have hfull : ¬(0 = 0 ∧ digitsValue digits * 10 + (c.toNat - 48) ≤ wordMax) := by omega
        rw [foldl_takeWhole digits hfits, Significand.takeWhole]
        dsimp only
        rw [if_neg hfull]
        exact Nat.one_ne_zero
      · have hdropped := ih (Nat.lt_of_not_le hfits)
        rw [Significand.takeWhole, if_neg fun hroom => hdropped hroom.1]
        exact Nat.succ_ne_zero _

/-- Reads a number whose sign has been read. -/
def readUnsigned (negative : Bool) (cs : List Char) : Option (Numeral × List Char) := do
  let (run, cs) ← digitRun cs
  if run.head? = some '0' ∧ run.length ≠ 1 then none
  else
    let (decimals, cs) ← readDecimals cs
    let (exponent, cs) ← readExponent cs
    some (⟨negative, run, decimals, exponent⟩, cs)

theorem read_minus (cs : List Char) : Numeral.read ('-' :: cs) = readUnsigned true cs := rfl

theorem read_cons (h : c ≠ '-') (cs : List Char) :
    Numeral.read (c :: cs) = readUnsigned false (c :: cs) := by
  unfold Numeral.read
  split
  next heq =>
    split at heq
    · next hcons => exact absurd (List.cons.inj hcons).1 h
    · cases heq
      rfl

/-- The digits of a whole number are read whole. -/
theorem readUnsigned_toDigits (negative : Bool) (n : Nat) (hrest : EndsNumber rest) :
    readUnsigned negative (Nat.toDigits 10 n ++ rest) =
      some (⟨negative, Nat.toDigits 10 n, none, none⟩, rest) := by
  have hrun := digitRun_run (Nat.toDigits_ne_nil (b := 10) (n := n))
    (fun _ => isDigit_of_mem_toDigits) hrest.endsRun
  have hzero : ¬((Nat.toDigits 10 n).head? = some '0' ∧ (Nat.toDigits 10 n).length ≠ 1) := by
    rcases head_toDigits n with hhead | hone
    · exact fun h => hhead h.1
    · exact fun h => h.2 hone
  simp only [readUnsigned, hrun, Option.bind_eq_bind, Option.bind_some, if_neg hzero,
    readDecimals_none hrest, readExponent_none hrest]

theorem exists_toDigits_cons (n : Nat) :
    ∃ c cs, Nat.toDigits 10 n = c :: cs ∧ c.isDigit = true := by
  cases hdigits : Nat.toDigits 10 n with
  | nil => exact absurd hdigits Nat.toDigits_ne_nil
  | cons c cs => exact ⟨c, cs, rfl, isDigit_of_mem_toDigits (hdigits ▸ List.mem_cons_self)⟩

/-- A whole number starts with a digit or a minus sign. -/
theorem exists_wholeChars_cons (n : Int) :
    ∃ c cs, wholeChars n = c :: cs ∧ (c = '-' ∨ c.isDigit = true) := by
  rw [wholeChars]
  split
  · exact ⟨'-', _, rfl, .inl rfl⟩
  · obtain ⟨c, cs, hcons, hc⟩ := exists_toDigits_cons n.natAbs
    exact ⟨c, cs, hcons, .inr hc⟩

theorem read_toDigits (n : Nat) (hrest : EndsNumber rest) :
    Numeral.read (Nat.toDigits 10 n ++ rest) =
      some (⟨false, Nat.toDigits 10 n, none, none⟩, rest) := by
  obtain ⟨c, cs, hcons, hc⟩ := exists_toDigits_cons n
  have hminus : c ≠ '-' := by
    rintro rfl
    cases hc
  rw [← readUnsigned_toDigits false n hrest, hcons, List.cons_append, read_cons hminus]

/-- A word that is written in decimal is a number. -/
theorem number_toDigits {n : Nat} (h : n ≤ wordMax) (hrest : EndsNumber rest) :
    number true (Nat.toDigits 10 n ++ rest) = some (.whole n, rest) := by
  have hread := read_toDigits n hrest
  have hword := foldl_takeWhole (Nat.toDigits 10 n) (by rwa [digitsValue_toDigits])
  rw [digitsValue_toDigits] at hword
  have hvalue : Numeral.value? ⟨false, Nat.toDigits 10 n, none, none⟩ = some (.whole n) := by
    simp [Numeral.value?, hword]
  rw [number, hread]
  dsimp only
  rw [if_pos rfl, hvalue]
  rfl

/-- A whole number that is more than a word is read as a double, if it is read at all. -/
theorem number_toDigits_of_lt {n : Nat} (h : wordMax < n) (hrest : EndsNumber rest) :
    number true (Nat.toDigits 10 n ++ rest) = none ∨
      ∃ bits, number true (Nat.toDigits 10 n ++ rest) = some (.double bits, rest) := by
  have hdropped := dropped_foldl_takeWhole (Nat.toDigits 10 n) (by rwa [digitsValue_toDigits])
  rw [number, read_toDigits n hrest]
  dsimp only
  rw [if_pos rfl, Numeral.value?]
  dsimp only
  rw [if_pos hdropped]
  cases scale _ _ with
  | none => exact .inl rfl
  | some f => exact .inr ⟨_, rfl⟩

/-- A negative number that fits a signed word is read back. -/
theorem number_neg_toDigits {n : Nat} (hpos : 0 < n) (h : n ≤ signedMax + 1)
    (hrest : EndsNumber rest) :
    number true ('-' :: Nat.toDigits 10 n ++ rest) = some (.whole (-n), rest) := by
  have hword := foldl_takeWhole (Nat.toDigits 10 n) (by
    rw [digitsValue_toDigits]
    exact Nat.le_trans h (by decide))
  rw [digitsValue_toDigits] at hword
  have hvalue : Numeral.value? ⟨true, Nat.toDigits 10 n, none, none⟩ = some (.whole (-n)) := by
    have hne : n ≠ 0 := Nat.ne_of_gt hpos
    simp [Numeral.value?, hword, hne, h]
  rw [number, List.cons_append, read_minus, readUnsigned_toDigits true n hrest]
  dsimp only
  rw [if_pos rfl, hvalue]
  rfl

/-- A whole number that fits a word, with or without a sign, is read back. -/
theorem number_wholeChars {n : Int} (hlow : -(signedMax + 1 : Int) ≤ n) (hhigh : n ≤ wordMax)
    (hrest : EndsNumber rest) : number true (wholeChars n ++ rest) = some (.whole n, rest) := by
  rw [wholeChars]
  split
  · next hneg =>
    have hvalue : -(n.natAbs : Int) = n := by omega
    rw [number_neg_toDigits (by omega) (by omega) hrest, hvalue]
  · next hneg =>
    have hvalue : (n.natAbs : Int) = n := by omega
    rw [number_toDigits (by omega) hrest, hvalue]

theorem printable_toDigits (n : Nat) : Printable (Nat.toDigits 10 n) := by
  intro c hc
  have hrange := toNat_of_isDigit (isDigit_of_mem_toDigits hc)
  omega

/-- No control character is written in a whole number. -/
theorem printable_wholeChars (n : Int) : Printable (wholeChars n) := by
  rw [wholeChars]
  split
  · simp [printable_toDigits]
  · exact printable_toDigits _

/-! ### Doubles -/

theorem printable_replicate (h : 0x20 ≤ c.toNat) (n : Nat) : Printable (List.replicate n c) :=
  fun _ hd => List.eq_of_mem_replicate hd ▸ h

/-- Digits, a point, an exponent and its sign are no control characters. -/
theorem printable_renderMagnitude (layout : Layout) (s : Shortest) :
    Printable (layout.renderMagnitude s) := by
  have hdigits := printable_toDigits s.digits
  have hzeros := printable_replicate (c := '0') (by decide)
  rw [Layout.renderMagnitude]
  dsimp only
  split
  · split
    · rw [List.cons_append, List.cons_append]
      simp [hdigits, hzeros]
    · have htake : ∀ n, Printable ((Nat.toDigits 10 s.digits).take n) := fun n d hd =>
        hdigits d (List.mem_of_mem_take hd)
      have hdrop : ∀ n, Printable ((Nat.toDigits 10 s.digits).drop n) := fun n d hd =>
        hdigits d (List.mem_of_mem_drop hd)
      rw [printable_append, printable_append, printable_cons]
      refine ⟨⟨htake _, hzeros _⟩, by decide, ?_⟩
      split
      · decide
      · exact hdrop _
  · rw [printable_append, printable_cons, printable_cons]
    refine ⟨?_, by decide, by split <;> decide, printable_toDigits _⟩
    generalize Nat.toDigits 10 s.digits = digits at hdigits
    match digits, hdigits with
    | [], _ => exact printable_nil
    | [d], hdigits => exact hdigits
    | d :: d' :: ds, hdigits =>
      rw [printable_cons] at hdigits
      simp [hdigits]

/-- No control character is written in a double. -/
theorem printable_render (layout : Layout) (bits : UInt64) : Printable (layout.render bits) := by
  rw [Layout.render, printable_append]
  constructor
  · split <;> decide
  · split
    · decide
    · exact printable_renderMagnitude layout _

end CoEdit.Json
