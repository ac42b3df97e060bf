import CoEdit.Proofs.Wire.Entry
import CoEdit.Recording.Export
import CoEdit.Recording.Replay

/-!
# An Export Is Read Back

The export of a recording is text, one line per entry. No line holds a newline of its own, however
wild the strings in it, so cutting the text at newlines gives back the lines, and every line is
read as the entry that it was written for. What is read back replays like the recording.

## Main definitions

* `Entry.ofLine?`: the entry that a line of an export stands for.
* `Recording.ReadsBack`: what it means for an export to be read back.

## Main results

* `Recording.exportLines_append`: lines that fit are written one after the other.
* `Recording.exportInto_eq`: with enough room the whole text is written.
* `Recording.export_readsBack`: exports of recordings that fit are read back.
-/

namespace CoEdit

open CoEdit.Text

namespace Text.Utf8

/-- The octets of an array are listed from an index on, behind those listed so far. -/
theorem toList_loop (octets : ByteArray) (i : Nat) (seen : List UInt8) :
    ByteArray.toList.loop octets i seen = seen.reverse ++ octets.data.toList.drop i := by
  fun_induction ByteArray.toList.loop octets i seen with
  | case1 i seen h ih =>
      have hlt : i < octets.data.toList.length := by simpa using h
      have hget : octets.get! i = octets.data.toList[i] := by
        rw [Array.getElem_toList]
        exact getElem!_pos octets.data i h
      rw [ih, List.drop_eq_getElem_cons hlt, hget, List.reverse_cons, List.append_assoc,
        List.singleton_append]
  | case2 i seen h =>
      have hnil : octets.data.toList.drop i = [] :=
        List.drop_eq_nil_of_le (by simpa using Nat.le_of_not_lt h)
      rw [hnil, List.append_nil]

theorem encode_eq (s : String) : encode s = s.toByteArray.data.toList := by
  simp only [encode, ByteArray.toList, toList_loop, List.reverse_nil, List.nil_append,
    List.drop_zero, String.toUTF8_eq_toByteArray]

theorem encode_append (s t : String) : encode (s ++ t) = encode s ++ encode t := by
  rw [encode_eq, encode_eq, encode_eq, String.toByteArray_append, ByteArray.data_append,
    Array.toList_append]

theorem encode_newline : encode "\n" = [0x0A] := by
  rw [encode_eq]
  decide

end Text.Utf8

/-- The entry that a line of an export stands for. -/
def Entry.ofLine? (line : String) : Option Entry :=
  let cs := line.toList
  match Json.finish (Json.value true (Json.fuelFor cs) Json.depthLimit cs) with
  | some j => (Entry.decode .direct j).toOption
  | none => none

namespace Recording

variable {r : Recording}

/-! ### Writing the lines -/

/-- Some lines as a text, each with a newline behind it. -/
def unlines (lines : List String) : String :=
  String.join (lines.map (· ++ "\n"))

theorem toList_unlines (lines : List String) :
    (unlines lines).toList = lines.flatMap fun line => line.toList ++ ['\n'] := by
  rw [unlines, String.toList_join, List.flatMap_map]
  refine congrArg (lines.flatMap ·) (funext fun line => ?_)
  rw [String.toList_append]
  rfl

theorem unlines_cons (line : String) (lines : List String) :
    unlines (line :: lines) = line ++ "\n" ++ unlines lines := by
  refine String.toList_inj.mp ?_
  rw [toList_unlines, List.flatMap_cons, ← toList_unlines, String.toList_append,
    String.toList_append]
  rfl

/-- Into room that is not overfull, octets are written as far as they fit. -/
theorem write_eq {capacity : Nat} {written : List UInt8} (h : written.length ≤ capacity)
    (octets : List UInt8) :
    Room.write ⟨capacity, written⟩ octets =
      (decide ((written ++ octets).length ≤ capacity),
        ⟨capacity, (written ++ octets).take capacity⟩) := by
  have hfits : octets.length ≤ capacity - written.length ↔
      (written ++ octets).length ≤ capacity := by
    rw [List.length_append]
    omega
  rw [Room.write, List.take_append, List.take_of_length_le h]
  simp only [hfits]

/-- Octets that fit are all written. -/
theorem write_of_le {capacity : Nat} {written octets : List UInt8}
    (h : (written ++ octets).length ≤ capacity) :
    Room.write ⟨capacity, written⟩ octets = (true, ⟨capacity, written ++ octets⟩) := by
  rw [write_eq (by rw [List.length_append] at h; omega), List.take_of_length_le h,
    decide_eq_true h]

/-- Lines that fit are written one after the other, and the export goes on behind them. -/
theorem exportLines_append (lines rest : List String) {capacity : Nat} {written : List UInt8}
    (h : (written ++ Utf8.encode (unlines lines)).length ≤ capacity) :
    exportLines (lines ++ rest) ⟨capacity, written⟩ =
      exportLines rest ⟨capacity, written ++ Utf8.encode (unlines lines)⟩ := by
  induction lines generalizing written with
  | nil =>
      have hnil : Utf8.encode (unlines []) = [] := by
        rw [Utf8.encode_eq]
        rfl
      rw [List.nil_append, hnil, List.append_nil]
  | cons line lines ih =>
      have hcons : written ++ Utf8.encode (unlines (line :: lines)) =
          written ++ Utf8.encode line ++ [0x0A] ++ Utf8.encode (unlines lines) := by
        rw [unlines_cons, Utf8.encode_append, Utf8.encode_append, Utf8.encode_newline]
        simp only [List.append_assoc]
      rw [hcons] at h ⊢
      have hnewline : (written ++ Utf8.encode line ++ [0x0A]).length ≤ capacity := by
        rw [List.length_append] at h
        omega
      have hline : (written ++ Utf8.encode line).length ≤ capacity := by
        rw [List.length_append] at hnewline
        omega
      rw [List.cons_append, exportLines, write_of_le hline]
      dsimp only
      rw [write_of_le hnewline]
      exact ih h

/-- With enough room the whole text is written. -/
theorem exportInto_eq (r : Recording) {capacity : Nat}
    (h : (Utf8.encode r.exportText).length ≤ capacity) :
    r.exportInto (.ofCapacity capacity) = (.ok (), ⟨capacity, Utf8.encode r.exportText⟩) := by
  have hall : exportLines (r.lines ++ []) ⟨capacity, []⟩ =
      exportLines [] ⟨capacity, Utf8.encode (unlines r.lines)⟩ := exportLines_append r.lines [] h
  rw [List.append_nil] at hall
  exact hall

/-! ### Reading the lines -/

/-- Text cut at newlines. Text that ends with a newline has an empty last piece. -/
def cutLines (text : String) : List String :=
  (text.toList.splitOn '\n').map String.ofList

/-- Lines without newlines of their own are found again. -/
theorem cutLines_unlines (lines : List String) (h : ∀ line ∈ lines, '\n' ∉ line.toList) :
    cutLines (unlines lines) = lines ++ [""] := by
  rw [cutLines, toList_unlines]
  induction lines with
  | nil => rfl
  | cons line lines ih =>
      have hline := h line List.mem_cons_self
      rw [List.flatMap_cons, List.append_assoc, List.singleton_append,
        List.splitOn_append_cons_self_of_not_mem hline, List.map_cons,
        ih fun x hx => h x (List.mem_cons_of_mem _ hx), String.ofList_toList, List.cons_append]

/-- A line is read as the entry that it was written for. -/
theorem ofLine?_line {e : Entry} (h : e.Fits) : Entry.ofLine? e.toJson.render = some e :=
  (Decode.roundTrip (Entry.reads h) (Entry.plain h)).text

/-- The lines of entries are read as these entries. -/
theorem mapM_ofLine?_lines (h : ∀ e ∈ r.entries, e.Fits) :
    r.lines.mapM Entry.ofLine? = some r.entries := by
  rw [lines]
  generalize r.entries = entries at h ⊢
  induction entries with
  | nil => rfl
  | cons e entries ih =>
      rw [List.map_cons, List.mapM_cons, ofLine?_line (h e List.mem_cons_self),
        ih fun x hx => h x (List.mem_cons_of_mem _ hx)]
      rfl

/-- The document that the entries of some lines replay to. -/
def replayLines? (r : Recording) (lines : List String) : Option String :=
  (lines.mapM Entry.ofLine?).bind fun entries => ({ r with entries } : Recording).replay?

/-- An export is read back: the text that is written, cut at newlines, is one line per entry with
nothing behind the last newline, the lines are read as the entries in order, and what was read
replays to the same document. -/
structure ReadsBack (r : Recording) : Prop where
  written : ∀ capacity, (Utf8.encode r.exportText).length ≤ capacity →
    r.exportInto (.ofCapacity capacity) = (.ok (), ⟨capacity, Utf8.encode r.exportText⟩)
  cut : cutLines r.exportText = r.lines ++ [""]
  count : r.lines.length = r.entries.length
  entries : r.lines.mapM Entry.ofLine? = some r.entries
  replay : r.replayLines? r.lines = r.replay?

/-- **Exports are read back**, whatever the texts in them, as long as numbers fit a word and times
lie in the years 0 to 9999. -/
theorem export_readsBack (r : Recording) (h : ∀ e ∈ r.entries, e.Fits) : r.ReadsBack where
  written _ hroom := r.exportInto_eq hroom
  cut := by
    refine cutLines_unlines r.lines fun line hline => ?_
    obtain ⟨e, -, rfl⟩ := List.mem_map.mp hline
    exact Json.newline_notMem_render e.toJson
  count := List.length_map _
  entries := mapM_ofLine?_lines h
  replay := by
    rw [replayLines?, mapM_ofLine?_lines h]
    rfl

/-- A recording with texts that need escapes, the largest numbers, the first and the last time that
can be written, and decimals of every length. -/
def wild : Recording where
  sessionId := "s1"
  entries :=
    [⟨0, ⟨-62167219200, 0⟩,
        .created "h\"1" "back\\slash" "two\nlines" "" "tab\t, bell\x07, é, 🎉\x7f"⟩,
      ⟨1, ⟨1700000000, 5000000⟩, .joined "p1" "Ann\r" .observer⟩,
      ⟨2, ⟨1700000000, 5006000⟩,
        .changed ⟨"c1", "p1", ⟨253402300799, 999999999⟩, .insert 18446744073709551615 "\"\x00"⟩⟩,
      ⟨3, ⟨1700000000, 5006007⟩, .helpRequested "p1" none⟩,
      ⟨4, ⟨1700000000, 5006007⟩, .helpRequested "p1" (some "")⟩,
      ⟨5, ⟨1483228799, 1500000000⟩, .changed ⟨"c2", "h1", ⟨0, 1⟩, .replace 0 "日本" 3⟩⟩,
      ⟨6, ⟨1700000001, 0⟩, .left "p1"⟩,
      ⟨18446744073709551615, ⟨253402300799, 999999999⟩, .ended .idle⟩]
  attendees := []

theorem export_readsBack_wild : (∀ e ∈ wild.entries, e.Fits) ∧ wild.ReadsBack :=
  ⟨by decide +kernel, wild.export_readsBack (by decide +kernel)⟩

end Recording

end CoEdit
