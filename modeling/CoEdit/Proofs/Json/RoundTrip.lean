import CoEdit.Proofs.Json.Tokens

/-!
# Values Are Read Back

What the writer writes, the reader takes back whole, up to the order of the entries of objects,
which the reader puts in ascending order. The proof goes along the nesting of values. Behind a
value comes a comma, a bracket, a brace or the end of the text, which no number goes on with, and
every step of the reader passes a character, so the length of the text bounds the steps.

## Main definitions

* `Plain`: values of bounded depth whose numbers are whole and fit a word.
* `ReadsBack`: the text of a value is read as its canonical form.

## Main results

* `Plain.readsBack`: plain values are read back, also in front of other text.
* `Plain.finish_value`: as a text of their own they are read back.
* `parseTop_render`: so are objects whose entries are all kept, entry by entry.
* `newline_notMem_render`: no control character is written, hence no newline.
-/

namespace CoEdit.Json

open CoEdit.Decimal

variable {c : Char} {cs rest : List Char} {depth fuel : Nat} {j : Json}

/-- Values that nest at most so deep and whose numbers are whole and fit a word, with or without a
sign. -/
inductive Plain : Nat → Json → Prop
  | null {depth : Nat} : Plain depth .null
  | boolean {depth : Nat} (value : Bool) : Plain depth (.boolean value)
  | whole {depth : Nat} {n : Int} (low : -(signedMax + 1 : Int) ≤ n) (high : n ≤ wordMax) :
      Plain depth (.whole n)
  | text {depth : Nat} (value : String) : Plain depth (.text value)
  | array {depth : Nat} {items : List Json} (plain : ∀ item ∈ items, Plain depth item) :
      Plain (depth + 1) (.array items)
  | object {depth : Nat} {fields : List (String × Json)}
      (plain : ∀ entry ∈ fields, Plain depth entry.2) : Plain (depth + 1) (.object fields)

@[simp] theorem plain_text (s : String) : Plain depth (.text s) := .text s

/-- A natural number is plain if it fits a word. -/
@[simp] theorem plain_nat {n : Nat} : Plain depth (.nat n) ↔ n ≤ wordMax := by
  constructor
  · intro h
    cases h with
    | whole low high => omega
  · intro h
    refine .whole ?_ ?_ <;> omega

@[simp] theorem plain_boolean (b : Bool) : Plain depth (.boolean b) := .boolean b

@[simp] theorem plain_whole {n : Int} :
    Plain depth (.whole n) ↔ -(signedMax + 1 : Int) ≤ n ∧ n ≤ wordMax := by
  constructor
  · intro h
    cases h with
    | whole low high => exact ⟨low, high⟩
  · rintro ⟨low, high⟩
    exact .whole low high

@[simp] theorem plain_optText (s : Option String) : Plain depth (.optText s) := by
  cases s with
  | none => exact .null
  | some s => exact .text s

@[simp] theorem plain_optNat {n : Option Nat} : Plain depth (.optNat n) ↔ ∀ k ∈ n, k ≤ wordMax := by
  cases n with
  | none => exact iff_of_true .null nofun
  | some n => simp [optNat]

@[simp] theorem plain_array {items : List Json} :
    Plain (depth + 1) (.array items) ↔ ∀ item ∈ items, Plain depth item := by
  constructor
  · intro h
    cases h with
    | array plain => exact plain
  · exact .array

@[simp] theorem plain_object {fields : List (String × Json)} :
    Plain (depth + 1) (.object fields) ↔ ∀ entry ∈ fields, Plain depth entry.2 := by
  constructor
  · intro h
    cases h with
    | object plain => exact plain
  · exact .object

/-! ### The text of a value -/

/-- What a number starts with is no other mark. -/
theorem ne_of_startsNumber {d : Char} (h : c = '-' ∨ c.isDigit = true)
    (hd : d ≠ '-' ∧ d.isDigit = false) : c ≠ d := by
  rintro rfl
  rcases h with hminus | hdigit
  · exact hd.1 hminus
  · rw [hd.2] at hdigit
    cases hdigit

theorem isSpace_of_startsNumber (h : c = '-' ∨ c.isDigit = true) : isSpace c = false := by
  have hblank := ne_of_startsNumber (d := ' ') h (by decide)
  have hnewline := ne_of_startsNumber (d := '\n') h (by decide)
  have htab := ne_of_startsNumber (d := '\t') h (by decide)
  have hreturn := ne_of_startsNumber (d := '\r') h (by decide)
  simp [isSpace, hblank, hnewline, htab, hreturn]

/-- A value starts with something that is neither white space nor a closing bracket, and only an
object starts with a brace. -/
theorem Plain.exists_chars_cons (h : Plain depth j) :
    ∃ c cs, j.chars = c :: cs ∧ isSpace c = false ∧ c ≠ ']' ∧
      ((∀ fields, j ≠ .object fields) → c ≠ '\x7b') := by
  cases h with
  | null => exact ⟨'n', _, rfl, rfl, by decide, fun _ => by decide⟩
  | boolean value =>
      cases value with
      | true => exact ⟨'t', _, rfl, rfl, by decide, fun _ => by decide⟩
      | false => exact ⟨'f', _, rfl, rfl, by decide, fun _ => by decide⟩
  | @whole _ n =>
      obtain ⟨c, cs, hcons, hc⟩ := exists_wholeChars_cons n
      exact ⟨c, cs, hcons, isSpace_of_startsNumber hc, ne_of_startsNumber hc (by decide),
        fun _ => ne_of_startsNumber hc (by decide)⟩
  | text value => exact ⟨'"', _, rfl, rfl, by decide, fun _ => by decide⟩
  | @array _ items =>
      cases items with
      | nil => exact ⟨'[', _, rfl, rfl, by decide, fun _ => by decide⟩
      | cons item items => exact ⟨'[', _, rfl, rfl, by decide, fun _ => by decide⟩
  | @object _ fields =>
      cases fields with
      | nil => exact ⟨'\x7b', _, rfl, rfl, by decide, fun h => absurd rfl (h [])⟩
      | cons entry fields =>
        exact ⟨'\x7b', _, rfl, rfl, by decide, fun h => absurd rfl (h (entry :: fields))⟩

/-- The text of an entry: key, colon, value. -/
def entryChars (entry : String × Json) : List Char :=
  quoteChars entry.1 ++ ':' :: entry.2.chars

theorem chars_array_cons (item : Json) (items : List Json) :
    (Json.array (item :: items)).chars = '[' :: (item.chars ++ itemsChars items) := rfl

theorem itemsChars_cons (item : Json) (items : List Json) :
    itemsChars (item :: items) = ',' :: (item.chars ++ itemsChars items) := rfl

theorem chars_object_cons (entry : String × Json) (fields : List (String × Json)) :
    (Json.object (entry :: fields)).chars = '\x7b' :: (entryChars entry ++ fieldsChars fields) :=
  rfl

theorem fieldsChars_cons (entry : String × Json) (fields : List (String × Json)) :
    fieldsChars (entry :: fields) = ',' :: (entryChars entry ++ fieldsChars fields) := rfl

theorem printable_itemsChars {items : List Json} (h : ∀ item ∈ items, Printable item.chars) :
    Printable (itemsChars items) := by
  induction items with
  | nil => simp [itemsChars]
  | cons item items ih =>
      rw [itemsChars_cons, printable_cons, printable_append]
      exact ⟨by decide, h item List.mem_cons_self,
        ih fun x hx => h x (List.mem_cons_of_mem _ hx)⟩

theorem printable_entryChars {entry : String × Json} (h : Printable entry.2.chars) :
    Printable (entryChars entry) := by
  rw [entryChars, printable_append, printable_cons]
  exact ⟨printable_quoteChars entry.1, by decide, h⟩

theorem printable_fieldsChars {fields : List (String × Json)}
    (h : ∀ entry ∈ fields, Printable entry.2.chars) : Printable (fieldsChars fields) := by
  induction fields with
  | nil => simp [fieldsChars]
  | cons entry fields ih =>
      rw [fieldsChars_cons, printable_cons, printable_append]
      exact ⟨by decide, printable_entryChars (h entry List.mem_cons_self),
        ih fun x hx => h x (List.mem_cons_of_mem _ hx)⟩

mutual

/-- No control character is written. -/
theorem printable_chars : (j : Json) → Printable j.chars
  | .null => by decide
  | .boolean true | .boolean false => by decide
  | .whole n => printable_wholeChars n
  | .double bits => printable_render numberLayout bits
  | .text s => printable_quoteChars s
  | .array [] | .object [] => by decide
  | .array (item :: items) => by
    rw [chars_array_cons, printable_cons, printable_append]
    exact ⟨by decide, printable_chars item, printable_itemsChars (printable_items items)⟩
  | .object ((key, value) :: fields) => by
    rw [chars_object_cons, printable_cons, printable_append]
    exact ⟨by decide, printable_entryChars (printable_chars value),
      printable_fieldsChars (printable_fields fields)⟩

theorem printable_items : (items : List Json) → ∀ item ∈ items, Printable item.chars
  | [] => nofun
  | item :: items => List.forall_mem_cons.mpr ⟨printable_chars item, printable_items items⟩

theorem printable_fields : (fields : List (String × Json)) →
    ∀ entry ∈ fields, Printable entry.2.chars
  | [] => nofun
  | (_, value) :: fields =>
    List.forall_mem_cons.mpr ⟨printable_chars value, printable_fields fields⟩

end

/-- The text of a value is a single line. -/
theorem newline_notMem_render (j : Json) : '\n' ∉ j.render.toList := by
  intro hmem
  rw [render, String.toList_ofList] at hmem
  exact absurd (printable_chars j '\n' hmem) (by decide)

/-! ### Reading behind a value -/

theorem skipSpace_cons (h : isSpace c = false) (cs : List Char) : skipSpace (c :: cs) = c :: cs :=
  List.dropWhile_cons_of_neg (Bool.eq_false_iff.mp h)

/-- The text of a value is read as its canonical form, whatever follows, as long as no number goes
on with it. -/
def ReadsBack (depth : Nat) (j : Json) : Prop :=
  ∀ fuel rest, j.chars.length ≤ fuel → EndsNumber rest →
    value true fuel depth (j.chars ++ rest) = some (j.sorted, rest)

/-- The last item is read up to the closing bracket. -/
theorem items_last {item : Json} {seen : List Json} (hread : ReadsBack depth item)
    (hfuel : item.chars.length ≤ fuel) (rest : List Char) :
    Json.items true (fuel + 1) depth seen (item.chars ++ ']' :: rest) =
      some ((item.sorted :: seen).reverse, rest) := by
  have hvalue := hread fuel (']' :: rest) hfuel (endsNumber_cons (by decide) rest)
  rw [Json.items, hvalue]
  simp only [skipSpace_cons (c := ']') rfl]

/-- Another item is read up to the comma behind it. -/
theorem items_next {item : Json} {seen : List Json} (hread : ReadsBack depth item)
    (hfuel : item.chars.length ≤ fuel) (rest : List Char) :
    Json.items true (fuel + 1) depth seen (item.chars ++ ',' :: rest) =
      Json.items true fuel depth (item.sorted :: seen) rest := by
  have hvalue := hread fuel (',' :: rest) hfuel (endsNumber_cons (by decide) rest)
  rw [Json.items, hvalue]
  simp only [skipSpace_cons (c := ',') rfl]

/-- Items are read one by one up to the closing bracket. -/
theorem items_chars {item : Json} {items : List Json} (seen : List Json) (rest : List Char)
    (hread : ∀ x ∈ item :: items, ReadsBack depth x)
    (hfuel : (item.chars ++ itemsChars items).length ≤ fuel) :
    Json.items true fuel depth seen (item.chars ++ itemsChars items ++ rest) =
      some (seen.reverse ++ sortedItems (item :: items), rest) := by
  induction items generalizing item seen fuel with
  | nil =>
      have hbracket : itemsChars [] = [']'] := rfl
      rw [hbracket, List.length_append, List.length_singleton] at hfuel
      obtain ⟨fuel, rfl⟩ := Nat.exists_eq_add_one_of_ne_zero (n := fuel) (by omega)
      have hshort : item.chars.length ≤ fuel := by omega
      rw [List.append_assoc, hbracket, List.singleton_append,
        items_last (hread item List.mem_cons_self) hshort, List.reverse_cons]
      rfl
  | cons next items ih =>
      -- The comma that is passed makes up for the fuel of the step.
      rw [itemsChars_cons, List.length_append, List.length_cons] at hfuel
      obtain ⟨fuel, rfl⟩ := Nat.exists_eq_add_one_of_ne_zero (n := fuel) (by omega)
      have hshort : item.chars.length ≤ fuel := by omega
      have hless : (next.chars ++ itemsChars items).length ≤ fuel := by omega
      have hnext := ih (item.sorted :: seen) (fun x hx => hread x (List.mem_cons_of_mem _ hx)) hless
      rw [List.append_assoc, itemsChars_cons, List.cons_append,
        items_next (hread item List.mem_cons_self) hshort, hnext, List.reverse_cons,
        List.append_assoc]
      rfl

theorem length_lt_entryChars (entry : String × Json) :
    entry.2.chars.length < (entryChars entry).length := by
  rw [entryChars, List.length_append, List.length_cons]
  omega

section Entries

variable (keep : String → Bool)

/-- The last entry is read up to the closing brace. -/
theorem entries_last {entry : String × Json} {seen : List (String × Json)}
    (hkeep : keep entry.1 = true) (hread : ReadsBack depth entry.2)
    (hfuel : entry.2.chars.length ≤ fuel) (rest : List Char) :
    Json.entries keep true (fuel + 1) depth seen (entryChars entry ++ '\x7d' :: rest) =
      some (((entry.1, entry.2.sorted) :: seen).reverse, rest) := by
  have hvalue := hread fuel ('\x7d' :: rest) hfuel (endsNumber_cons (by decide) rest)
  rw [entryChars, List.append_assoc, quoteChars_append, List.cons_append, Json.entries,
    skipSpace_cons rfl]
  simp only [stringTail_toList, skipSpace_cons (c := ':') rfl, hkeep, hvalue,
    skipSpace_cons (c := '\x7d') rfl]

/-- Another entry is read up to the comma behind its value, whatever that is read as. -/
theorem entries_step {key : String} {j : Json} {seen : List (String × Json)} {cs rest : List Char}
    (hkeep : keep key = true) (hvalue : value true fuel depth cs = some (j, ',' :: rest)) :
    Json.entries keep true (fuel + 1) depth seen (quoteChars key ++ ':' :: cs) =
      Json.entries keep true fuel depth ((key, j) :: seen) rest := by
  rw [quoteChars_append, Json.entries, skipSpace_cons rfl]
  simp only [stringTail_toList, skipSpace_cons (c := ':') rfl, hkeep, hvalue,
    skipSpace_cons (c := ',') rfl]

/-- An entry whose value is no value stops the reader. -/
theorem entries_stop {key : String} {seen : List (String × Json)} {cs : List Char}
    (hkeep : keep key = true) (hvalue : value true fuel depth cs = none) :
    Json.entries keep true (fuel + 1) depth seen (quoteChars key ++ ':' :: cs) = none := by
  rw [quoteChars_append, Json.entries, skipSpace_cons rfl]
  simp only [stringTail_toList, skipSpace_cons (c := ':') rfl, hkeep, hvalue]

theorem entries_next {entry : String × Json} {seen : List (String × Json)}
    (hkeep : keep entry.1 = true) (hread : ReadsBack depth entry.2)
    (hfuel : entry.2.chars.length ≤ fuel) (rest : List Char) :
    Json.entries keep true (fuel + 1) depth seen (entryChars entry ++ ',' :: rest) =
      Json.entries keep true fuel depth ((entry.1, entry.2.sorted) :: seen) rest := by
  rw [entryChars, List.append_assoc, List.cons_append]
  exact entries_step keep hkeep (hread fuel (',' :: rest) hfuel (endsNumber_cons (by decide) rest))

/-- Entries are read one by one up to the closing brace. -/
theorem entries_chars {entry : String × Json} {fields : List (String × Json)}
    (seen : List (String × Json)) (rest : List Char)
    (hkeep : ∀ x ∈ entry :: fields, keep x.1 = true)
    (hread : ∀ x ∈ entry :: fields, ReadsBack depth x.2)
    (hfuel : (entryChars entry ++ fieldsChars fields).length ≤ fuel) :
    Json.entries keep true fuel depth seen (entryChars entry ++ fieldsChars fields ++ rest) =
      some (seen.reverse ++ sortedFields (entry :: fields), rest) := by
  induction fields generalizing entry seen fuel with
  | nil =>
      have hlength := length_lt_entryChars entry
      have hbrace : fieldsChars [] = ['\x7d'] := rfl
      rw [hbrace, List.length_append, List.length_singleton] at hfuel
      obtain ⟨fuel, rfl⟩ := Nat.exists_eq_add_one_of_ne_zero (n := fuel) (by omega)
      have hshort : entry.2.chars.length ≤ fuel := by omega
      rw [List.append_assoc, hbrace, List.singleton_append,
        entries_last keep (hkeep entry List.mem_cons_self) (hread entry List.mem_cons_self) hshort,
        List.reverse_cons]
      rfl
  | cons next fields ih =>
      have hlength := length_lt_entryChars entry
      rw [fieldsChars_cons, List.length_append, List.length_cons] at hfuel
      obtain ⟨fuel, rfl⟩ := Nat.exists_eq_add_one_of_ne_zero (n := fuel) (by omega)
      have hshort : entry.2.chars.length ≤ fuel := by omega
      have hless : (entryChars next ++ fieldsChars fields).length ≤ fuel := by omega
      have hnext := ih ((entry.1, entry.2.sorted) :: seen)
        (fun x hx => hkeep x (List.mem_cons_of_mem _ hx))
        (fun x hx => hread x (List.mem_cons_of_mem _ hx)) hless
      rw [List.append_assoc, fieldsChars_cons, List.cons_append,
        entries_next keep (hkeep entry List.mem_cons_self) (hread entry List.mem_cons_self) hshort,
        hnext, List.reverse_cons, List.append_assoc]
      rfl

end Entries

/-! ### Values -/

theorem readsBack_text (s : String) : ReadsBack depth (.text s) := by
  intro fuel rest hfuel _
  obtain ⟨fuel, rfl⟩ := Nat.exists_eq_add_one_of_ne_zero (n := fuel) (by
    rw [chars, quoteChars, List.cons_append, List.length_cons] at hfuel
    omega)
  rw [chars, quoteChars_append, value, skipSpace_cons rfl]
  simp only [stringTail_toList, Option.map_some, sorted]

/-- What starts with a digit or a minus sign is read as a number. -/
theorem value_number (h : c = '-' ∨ c.isDigit = true) (cs : List Char) :
    value true (fuel + 1) depth (c :: cs) = number true (c :: cs) := by
  rw [value, skipSpace_cons (isSpace_of_startsNumber h)]
  split
  · next heq => exact absurd (List.cons.inj heq).1 (ne_of_startsNumber h (by decide))
  · next heq => exact absurd (List.cons.inj heq).1 (ne_of_startsNumber h (by decide))
  · next heq => exact absurd (List.cons.inj heq).1 (ne_of_startsNumber h (by decide))
  · next heq => exact absurd (List.cons.inj heq).1 (ne_of_startsNumber h (by decide))
  · next heq => exact absurd (List.cons.inj heq).1 (ne_of_startsNumber h (by decide))
  · next heq => exact absurd (List.cons.inj heq).1 (ne_of_startsNumber h (by decide))
  · rfl

/-- A whole number that is more than a word is read as a double, if it is read at all. -/
theorem value_nat_of_lt {n : Nat} (h : wordMax < n) (hrest : EndsNumber rest) :
    value true (fuel + 1) depth ((Json.nat n).chars ++ rest) = none ∨
      ∃ bits, value true (fuel + 1) depth ((Json.nat n).chars ++ rest) =
        some (.double bits, rest) := by
  have hchars : (Json.nat n).chars = Nat.toDigits 10 n := by
    have hsign : ¬(n : Int) < 0 := by omega
    rw [Json.nat, chars, wholeChars, if_neg hsign, Int.natAbs_natCast]
  have hnumber := number_toDigits_of_lt h hrest
  obtain ⟨c, cs, hcons, hc⟩ := exists_toDigits_cons n
  rw [hcons, List.cons_append] at hnumber
  rw [hchars, hcons, List.cons_append, value_number (.inr hc)]
  exact hnumber

theorem readsBack_whole {n : Int} (hlow : -(signedMax + 1 : Int) ≤ n) (hhigh : n ≤ wordMax) :
    ReadsBack depth (.whole n) := by
  intro fuel rest hfuel hrest
  have hnumber := number_wholeChars hlow hhigh hrest
  obtain ⟨c, cs, hcons, hstart⟩ := exists_wholeChars_cons n
  rw [chars, hcons, List.length_cons] at hfuel
  obtain ⟨fuel, rfl⟩ := Nat.exists_eq_add_one_of_ne_zero (n := fuel) (by omega)
  rw [hcons, List.cons_append] at hnumber
  rw [chars, hcons, List.cons_append, value_number hstart, hnumber, sorted]
  all_goals nofun

theorem value_emptyArray (rest : List Char) :
    value true (fuel + 1) (depth + 1) ('[' :: ']' :: rest) = some (.array [], rest) := rfl

theorem value_emptyObject (rest : List Char) :
    value true (fuel + 1) (depth + 1) ('\x7b' :: '\x7d' :: rest) = some (.object [], rest) := rfl

/-- An array with items is read item by item. -/
theorem value_items (hspace : isSpace c = false) (hbracket : c ≠ ']') (cs : List Char) :
    value true (fuel + 1) (depth + 1) ('[' :: c :: cs) =
      (Json.items true fuel depth [] (c :: cs)).map fun (xs, rest) => (.array xs, rest) := by
  rw [value, skipSpace_cons (c := '[') rfl]
  simp only [Nat.add_one_ne_zero, and_false, if_false, skipSpace_cons hspace, Nat.add_sub_cancel]
  split
  · next heq => exact absurd (List.cons.inj heq).1 hbracket
  · rfl

/-- An object with entries is read entry by entry. -/
theorem value_entries (cs : List Char) :
    value true (fuel + 1) (depth + 1) ('\x7b' :: '"' :: cs) =
      (Json.entries (fun _ => true) true fuel depth [] ('"' :: cs)).map
        fun (es, rest) => (ofEntries es, rest) := rfl

theorem readsBack_array {items : List Json} (hplain : ∀ item ∈ items, Plain depth item)
    (hread : ∀ item ∈ items, ReadsBack depth item) : ReadsBack (depth + 1) (.array items) := by
  intro fuel rest hfuel _
  cases items with
  | nil =>
      obtain ⟨fuel, rfl⟩ := Nat.exists_eq_add_one_of_ne_zero (n := fuel) (by
        rintro rfl
        cases hfuel)
      exact value_emptyArray rest
  | cons item items =>
      obtain ⟨c, cs, hcons, hspace, hbracket, -⟩ :=
        (hplain item List.mem_cons_self).exists_chars_cons
      rw [chars_array_cons, List.length_cons] at hfuel
      obtain ⟨fuel, rfl⟩ := Nat.exists_eq_add_one_of_ne_zero (n := fuel) (by omega)
      have hitems := items_chars [] rest hread (Nat.le_of_succ_le_succ hfuel)
      rw [hcons, List.cons_append, List.cons_append] at hitems
      rw [chars_array_cons, hcons, List.cons_append, List.cons_append, List.cons_append,
        value_items hspace hbracket, hitems]
      rfl

theorem readsBack_object {fields : List (String × Json)}
    (hread : ∀ entry ∈ fields, ReadsBack depth entry.2) :
    ReadsBack (depth + 1) (.object fields) := by
  intro fuel rest hfuel _
  cases fields with
  | nil =>
      obtain ⟨fuel, rfl⟩ := Nat.exists_eq_add_one_of_ne_zero (n := fuel) (by
        rintro rfl
        cases hfuel)
      exact value_emptyObject rest
  | cons entry fields =>
      rw [chars_object_cons, List.length_cons] at hfuel
      obtain ⟨fuel, rfl⟩ := Nat.exists_eq_add_one_of_ne_zero (n := fuel) (by omega)
      have hentries := entries_chars (fun _ => true) [] rest (fun _ _ => rfl) hread
        (Nat.le_of_succ_le_succ hfuel)
      rw [entryChars, List.append_assoc, List.append_assoc, quoteChars_append] at hentries
      rw [chars_object_cons, entryChars, List.cons_append, List.append_assoc, List.append_assoc,
        quoteChars_append, value_entries, hentries]
      rfl

/-- **Plain values are read back.** -/
theorem Plain.readsBack (h : Plain depth j) : ReadsBack depth j := by
  induction h with
  | null =>
      intro fuel rest hfuel _
      obtain ⟨fuel, rfl⟩ := Nat.exists_eq_add_one_of_ne_zero (n := fuel) (by
        rintro rfl
        cases hfuel)
      rfl
  | boolean value =>
      intro fuel rest hfuel _
      obtain ⟨fuel, rfl⟩ := Nat.exists_eq_add_one_of_ne_zero (n := fuel) (by
        rintro rfl
        cases value <;> cases hfuel)
      cases value <;> rfl
  | whole low high => exact readsBack_whole low high
  | text value => exact readsBack_text value
  | array plain ih => exact readsBack_array plain ih
  | object plain ih => exact readsBack_object ih

/-- **As a text of its own a plain value is read back.** -/
theorem Plain.finish_value (h : Plain depth j) :
    finish (value true (fuelFor j.chars) depth j.chars) = some j.sorted := by
  have hfuel : j.chars.length ≤ fuelFor j.chars := by
    rw [fuelFor]
    omega
  have hread := h.readsBack (fuelFor j.chars) [] hfuel nofun
  rw [List.append_nil] at hread
  rw [hread]
  rfl

/-- An object with entries is read entry by entry. -/
theorem parseTop_object (keys : List String) (entry : String × Json)
    (fields : List (String × Json)) :
    parseTop keys (Json.object (entry :: fields)).render =
      (finish (entries (keys.contains ·) true (fuelFor (entryChars entry ++ fieldsChars fields))
        (depthLimit - 1) [] (entryChars entry ++ fieldsChars fields))).map .inr := by
  obtain ⟨cs, hcs⟩ : ∃ cs, entryChars entry ++ fieldsChars fields = '"' :: cs := ⟨_, rfl⟩
  rw [render, parseTop, String.toList_ofList, chars_object_cons, skipSpace_cons rfl, hcs]
  rfl

/-- **An object of plain values is read entry by entry**, if all of its entries are kept. -/
theorem parseTop_render {keys : List String} {fields : List (String × Json)}
    (hkeys : ∀ entry ∈ fields, entry.1 ∈ keys)
    (hplain : ∀ entry ∈ fields, Plain (depthLimit - 1) entry.2) :
    parseTop keys (Json.object fields).render = some (.inr (sortedFields fields)) := by
  cases fields with
  | nil =>
      rw [render, parseTop, String.toList_ofList]
      rfl
  | cons entry fields =>
      have hfuel : (entryChars entry ++ fieldsChars fields).length ≤
          fuelFor (entryChars entry ++ fieldsChars fields) := by
        rw [fuelFor]
        omega
      have hentries := entries_chars (keys.contains ·) [] []
        (fun x hx => by simpa using hkeys x hx) (fun x hx => (hplain x hx).readsBack) hfuel
      rw [List.append_nil] at hentries
      rw [parseTop_object, hentries]
      rfl

/-- Any other plain value is read whole. -/
theorem parseTop_render_of_ne_object (keys : List String) (hobject : ∀ fields, j ≠ .object fields)
    (h : Plain depthLimit j) : parseTop keys j.render = some (.inl j.sorted) := by
  obtain ⟨c, cs, hcons, hspace, -, hbrace⟩ := h.exists_chars_cons
  have hread := h.finish_value
  rw [render, parseTop, String.toList_ofList]
  rw [hcons] at hread ⊢
  rw [skipSpace_cons hspace]
  split
  · next heq => exact absurd (List.cons.inj heq).1 (hbrace hobject)
  · rw [hread]
    rfl

end CoEdit.Json
