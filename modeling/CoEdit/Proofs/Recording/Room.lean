import CoEdit.Proofs.Recording.Export

/-!
# Exporting into Bounded Room

An export fills the room it is given, and fails where the room ends. The failure tells whether the
room ended within an object or right before a newline. In either case the room holds the beginning
of the text, and all lines in it that are complete are lines of the text.

## Main definitions

* `Entry.octets`, `Recording.octetsOf`: the octets that entries contribute to an export.
* `Recording.FirstMisfit`: the first entry for which there is not enough room.
* `Recording.ExportsWithin`: what comes of an export into bounded room.
* `Room.writePieces`, `Recording.exportPieces`: writing the objects piece by piece.

## Main results

* `Text.Utf8.newline_notMem_encode`: the octet of a newline is part of no other character.
* `Recording.writePieces_eq`: it does not matter in how many pieces octets are written.
* `Recording.FirstMisfit.exportInto_eq`: how an export fails.
* `Recording.exportInto_exact`: what comes of an export, for every recording and every room.
-/

namespace CoEdit

open CoEdit.Text

namespace Text.Utf8

/-- The octets of a text are those of its characters. -/
theorem encode_eq_flatMap (s : String) : encode s = s.toList.flatMap String.utf8EncodeChar := by
  rw [encode_eq, ← String.utf8Encode_toList, List.utf8Encode, List.data_toByteArray,
    List.toList_toArray]

/-- Only a newline has the octet of a newline: all octets of longer characters are beyond the
first 128. -/
theorem eq_newline_of_mem {c : Char} (h : 0x0A ∈ String.utf8EncodeChar c) : c = '\n' := by
  have hoctet : ∀ n, (0x0A : UInt8) = UInt8.ofNat n → n % 256 = 10 := by
    intro n hn
    simpa using (congrArg UInt8.toNat hn).symm
  rw [String.utf8EncodeChar] at h
  split at h
  · next hsmall =>
    have hcode := hoctet _ (List.mem_singleton.mp h)
    refine Char.ext (UInt32.toNat_inj.mp ?_)
    change c.val.toNat = 10
    omega
  · split at h
    · simp only [List.mem_cons, List.not_mem_nil, or_false] at h
      rcases h with h | h <;> have hcode := hoctet _ h <;> omega
    · split at h
      · simp only [List.mem_cons, List.not_mem_nil, or_false] at h
        rcases h with h | h | h <;> have hcode := hoctet _ h <;> omega
      · simp only [List.mem_cons, List.not_mem_nil, or_false] at h
        rcases h with h | h | h | h <;> have hcode := hoctet _ h <;> omega

/-- Text without newlines has no octet of a newline. -/
theorem newline_notMem_encode {s : String} (h : '\n' ∉ s.toList) : 0x0A ∉ encode s := by
  rw [encode_eq_flatMap]
  intro hmem
  obtain ⟨c, hc, hoctet⟩ := List.mem_flatMap.mp hmem
  exact h (eq_newline_of_mem hoctet ▸ hc)

end Text.Utf8

/-! ### Writing in pieces -/

/-- Writes pieces one after the other, until one does not fit. -/
def Room.writePieces : List (List UInt8) → Room → Bool × Room
  | [], room => (true, room)
  | piece :: rest, room =>
    match room.write piece with
    | (false, room) => (false, room)
    | (true, room) => Room.writePieces rest room

namespace Recording

variable {r : Recording} {capacity : Nat} {written : List UInt8}

/-- **It does not matter in how many pieces octets are written.** -/
theorem writePieces_eq (pieces : List (List UInt8)) (h : written.length ≤ capacity) :
    Room.writePieces pieces ⟨capacity, written⟩ =
      Room.write ⟨capacity, written⟩ pieces.flatten := by
  induction pieces generalizing written with
  | nil =>
      rw [List.flatten_nil, write_of_le (by rwa [List.append_nil]), List.append_nil]
      rfl
  | cons piece pieces ih =>
      rw [Room.writePieces, List.flatten_cons]
      by_cases hfits : (written ++ piece).length ≤ capacity
      · rw [write_of_le hfits]
        dsimp only
        rw [ih hfits, write_eq hfits, write_eq h, List.append_assoc]
      · -- What comes after a piece that does not fit is not written.
        have hall : ¬(written ++ (piece ++ pieces.flatten)).length ≤ capacity := by
          simp only [List.length_append] at hfits ⊢
          omega
        have hcut : (written ++ piece ++ pieces.flatten).take capacity =
            (written ++ piece).take capacity := List.take_append_of_le_length (by omega)
        rw [write_eq h, write_eq h, decide_eq_false hfits, decide_eq_false hall,
          ← List.append_assoc, hcut]

/-- The export of lines, each of them written in pieces. -/
def exportPieces (cut : String → List (List UInt8)) : List String → Room → Except Error Unit × Room
  | [], room => (.ok (), room)
  | line :: rest, room =>
    match room.writePieces (cut line) with
    | (false, room) => (.error (.serialization noRoom), room)
    | (true, room) =>
      match room.write [0x0A] with
      | (false, room) => (.error (.io noRoom), room)
      | (true, room) => exportPieces cut rest room

/-- **Nor does it matter in how many pieces the objects are.** -/
theorem exportPieces_eq {cut : String → List (List UInt8)}
    (hcut : ∀ line, (cut line).flatten = Utf8.encode line) (lines : List String)
    (h : written.length ≤ capacity) :
    exportPieces cut lines ⟨capacity, written⟩ = exportLines lines ⟨capacity, written⟩ := by
  induction lines generalizing written with
  | nil => rfl
  | cons line lines ih =>
      rw [exportPieces, exportLines, writePieces_eq _ h, hcut]
      by_cases hline : (written ++ Utf8.encode line).length ≤ capacity
      · rw [write_of_le hline]
        dsimp only
        by_cases hnewline : (written ++ Utf8.encode line ++ [0x0A]).length ≤ capacity
        · rw [write_of_le hnewline]
          exact ih hnewline
        · rw [write_eq hline, decide_eq_false hnewline]
      · rw [write_eq h, decide_eq_false hline]

/-! ### Where the room ends -/

/-- The room ends within an object. -/
theorem exportLines_of_lt {line : String} (h : written.length ≤ capacity)
    (hlt : capacity < (written ++ Utf8.encode line).length) (rest : List String) :
    exportLines (line :: rest) ⟨capacity, written⟩ =
      (.error (.serialization noRoom),
        ⟨capacity, (written ++ Utf8.encode line).take capacity⟩) := by
  rw [exportLines, write_eq h, decide_eq_false (Nat.not_le.mpr hlt)]

/-- The room ends right behind an object. -/
theorem exportLines_of_eq {line : String} (h : (written ++ Utf8.encode line).length = capacity)
    (rest : List String) :
    exportLines (line :: rest) ⟨capacity, written⟩ =
      (.error (.io noRoom), ⟨capacity, written ++ Utf8.encode line⟩) := by
  have hfull : ¬(written ++ Utf8.encode line ++ [0x0A]).length ≤ capacity := by
    rw [List.length_append, h, List.length_singleton]
    omega
  have hcut : (written ++ Utf8.encode line ++ [0x0A]).take capacity = written ++ Utf8.encode line :=
    List.take_left' h
  rw [exportLines, write_of_le (Nat.le_of_eq h)]
  dsimp only
  rw [write_eq (Nat.le_of_eq h), decide_eq_false hfull, hcut]

end Recording

/-- The octets of the object that an entry is exported as. -/
def Entry.octets (e : Entry) : List UInt8 :=
  Utf8.encode e.toJson.render

theorem Entry.newline_notMem_octets (e : Entry) : 0x0A ∉ e.octets :=
  Utf8.newline_notMem_encode (Json.newline_notMem_render e.toJson)

namespace Recording

variable {r : Recording} {capacity : Nat} {before after : List Entry} {e : Entry}

/-- The octets that entries contribute to an export: the object of each, and a newline. -/
def octetsOf (entries : List Entry) : List UInt8 :=
  entries.flatMap fun e => e.octets ++ [0x0A]

theorem octetsOf_append_cons (before after : List Entry) (e : Entry) :
    octetsOf (before ++ e :: after) =
      octetsOf before ++ e.octets ++ ([0x0A] ++ octetsOf after) := by
  simp only [octetsOf, List.flatMap_append, List.flatMap_cons, List.append_assoc]

/-- The lines of entries are made of the octets that the entries contribute. -/
theorem encode_unlines (entries : List Entry) :
    Utf8.encode (unlines (entries.map fun e => e.toJson.render)) = octetsOf entries := by
  induction entries with
  | nil =>
      rw [Utf8.encode_eq]
      rfl
  | cons e entries ih =>
      rw [List.map_cons, unlines_cons, Utf8.encode_append, Utf8.encode_append, Utf8.encode_newline,
        ih]
      rfl

theorem encode_exportText (r : Recording) : Utf8.encode r.exportText = octetsOf r.entries :=
  encode_unlines r.entries

/-- The entries before this one fit into the room, but it does not, or its newline does not. -/
structure FirstMisfit (capacity : Nat) (before : List Entry) (e : Entry) : Prop where
  fit : (octetsOf before).length ≤ capacity
  misfit : capacity < (octetsOf before).length + e.octets.length + 1

/-- If entries do not all fit, one of them is the first that does not. -/
theorem exists_firstMisfit (entries : List Entry) (h : capacity < (octetsOf entries).length) :
    ∃ before e after, entries = before ++ e :: after ∧ FirstMisfit capacity before e := by
  induction entries using List.reverseRecOn with
  | nil => exact absurd h (Nat.not_lt_zero _)
  | append_singleton init last ih =>
      by_cases hinit : capacity < (octetsOf init).length
      · obtain ⟨before, e, after, rfl, hmisfit⟩ := ih hinit
        exact ⟨before, e, after ++ [last], by simp, hmisfit⟩
      · refine ⟨init, last, [], rfl, Nat.not_lt.mp hinit, ?_⟩
        rw [octetsOf_append_cons] at h
        simpa [octetsOf, Nat.add_assoc] using h

/-- The text up to the end of the room. -/
theorem FirstMisfit.take_octetsOf (h : FirstMisfit capacity before e) (after : List Entry) :
    (octetsOf (before ++ e :: after)).take capacity =
      octetsOf before ++ e.octets.take (capacity - (octetsOf before).length) := by
  have hend : capacity ≤ (octetsOf before ++ e.octets).length := by
    have := h.misfit
    rw [List.length_append]
    omega
  rw [octetsOf_append_cons, List.take_append_of_le_length hend, List.take_append,
    List.take_of_length_le h.fit]

/-- **How an export fails.** -/
theorem FirstMisfit.exportInto_eq (h : FirstMisfit capacity before e)
    (hentries : r.entries = before ++ e :: after) :
    r.exportInto (.ofCapacity capacity) =
      (.error (if capacity < (octetsOf before).length + e.octets.length then
          .serialization noRoom else .io noRoom),
        ⟨capacity, (Utf8.encode r.exportText).take capacity⟩) := by
  have hbefore : r.exportInto (.ofCapacity capacity) =
      exportLines (e.toJson.render :: after.map fun e => e.toJson.render)
        ⟨capacity, octetsOf before⟩ := by
    rw [exportInto, lines, hentries, List.map_append, List.map_cons, Room.ofCapacity,
      exportLines_append _ _ (by rw [List.nil_append, encode_unlines]; exact h.fit),
      List.nil_append, encode_unlines]
  have hlength : (octetsOf before ++ e.octets).length =
      (octetsOf before).length + e.octets.length := List.length_append
  rw [hbefore, encode_exportText, hentries, octetsOf_append_cons]
  split
  · next hlt =>
    rw [← hlength] at hlt
    rw [exportLines_of_lt h.fit hlt, List.take_append_of_le_length (Nat.le_of_lt hlt)]
    rfl
  · next hge =>
    have hfull : (octetsOf before ++ e.octets).length = capacity := by
      have := h.misfit
      omega
    rw [exportLines_of_eq hfull, List.take_left' hfull]
    rfl

/-- As much of the text is written as there is room for. -/
theorem written_exportInto (r : Recording) (capacity : Nat) :
    (r.exportInto (.ofCapacity capacity)).2.written =
      (Utf8.encode r.exportText).take capacity := by
  by_cases hfits : (Utf8.encode r.exportText).length ≤ capacity
  · rw [r.exportInto_eq hfits, List.take_of_length_le hfits]
  · rw [encode_exportText, Nat.not_le] at hfits
    obtain ⟨before, e, after, hentries, hmisfit⟩ := exists_firstMisfit r.entries hfits
    rw [hmisfit.exportInto_eq hentries]

/-- If the export succeeds, everything fits. -/
theorem exportInto_ok_iff (r : Recording) (capacity : Nat) :
    (r.exportInto (.ofCapacity capacity)).1 = .ok () ↔
      (Utf8.encode r.exportText).length ≤ capacity := by
  constructor
  · intro hok
    by_contra hfits
    rw [encode_exportText, Nat.not_le] at hfits
    obtain ⟨before, e, after, hentries, hmisfit⟩ := exists_firstMisfit r.entries hfits
    rw [hmisfit.exportInto_eq hentries] at hok
    cases hok
  · intro hfits
    rw [r.exportInto_eq hfits]

/-- The room ends within the object of the first entry that does not fit, -/
theorem FirstMisfit.serialization_iff (h : FirstMisfit capacity before e)
    (hentries : r.entries = before ++ e :: after) :
    (r.exportInto (.ofCapacity capacity)).1 = .error (.serialization noRoom) ↔
      capacity < (octetsOf before).length + e.octets.length := by
  rw [h.exportInto_eq hentries]
  split
  · next hlt => exact iff_of_true rfl hlt
  · next hge => exact iff_of_false nofun hge

/-- or right behind it. -/
theorem FirstMisfit.io_iff (h : FirstMisfit capacity before e)
    (hentries : r.entries = before ++ e :: after) :
    (r.exportInto (.ofCapacity capacity)).1 = .error (.io noRoom) ↔
      (octetsOf before).length + e.octets.length = capacity := by
  have hend := h.misfit
  rw [h.exportInto_eq hentries]
  split
  · next hlt => exact iff_of_false nofun (by omega)
  · next hge => exact iff_of_true rfl (by omega)

/-! ### Lines in the room -/

/-- Cut at newlines, what entries contribute gives the object of each, and what comes behind. -/
theorem splitOn_octetsOf (entries : List Entry) {rest : List UInt8} (hrest : 0x0A ∉ rest) :
    (octetsOf entries ++ rest).splitOn 0x0A = entries.map Entry.octets ++ [rest] := by
  induction entries with
  | nil => exact List.splitOn_eq_singleton hrest
  | cons e entries ih =>
      have hcons : octetsOf (e :: entries) ++ rest =
          e.octets ++ 0x0A :: (octetsOf entries ++ rest) := by
        simp [octetsOf]
      rw [hcons, List.splitOn_append_cons_self_of_not_mem e.newline_notMem_octets, ih,
        List.map_cons, List.cons_append]

/-- What comes of an export into room for so many octets. -/
structure ExportsWithin (r : Recording) (capacity : Nat) (result : Except Error Unit)
    (written : List UInt8) : Prop where
  /-- Each entry contributes its object to the text, and a newline. -/
  text : Utf8.encode r.exportText = octetsOf r.entries
  /-- As much of the text is written as there is room for. -/
  written_eq : written = (Utf8.encode r.exportText).take capacity
  /-- The export succeeds iff the text fits, and then all of it is written. -/
  ok_iff : result = .ok () ↔ (Utf8.encode r.exportText).length ≤ capacity
  whole : result = .ok () → written = Utf8.encode r.exportText ∧
    written.splitOn 0x0A = r.entries.map Entry.octets ++ [[]]
  /-- Otherwise some entry is the first for which there is not enough room. -/
  stops : result ≠ .ok () → ∃ before e after, r.entries = before ++ e :: after ∧
    FirstMisfit capacity before e
  /-- The failure tells whether its object did not fit, or only the newline behind it. The lines
  that are complete are the objects of the entries before it. -/
  fails : ∀ before e after, r.entries = before ++ e :: after → FirstMisfit capacity before e →
    (result = .error (.serialization noRoom) ↔
      capacity < (octetsOf before).length + e.octets.length) ∧
    (result = .error (.io noRoom) ↔ (octetsOf before).length + e.octets.length = capacity) ∧
    written.splitOn 0x0A = before.map Entry.octets ++
      [e.octets.take (capacity - (octetsOf before).length)]

/-- **What comes of an export**, for every recording and every room, and in however many pieces the
objects are written. -/
theorem exportInto_exact (r : Recording) (capacity : Nat) :
    r.ExportsWithin capacity (r.exportInto (.ofCapacity capacity)).1
        (r.exportInto (.ofCapacity capacity)).2.written ∧
      ∀ cut : String → List (List UInt8), (∀ line, (cut line).flatten = Utf8.encode line) →
        exportPieces cut r.lines (.ofCapacity capacity) =
          r.exportInto (.ofCapacity capacity) := by
  have hok := r.exportInto_ok_iff capacity
  have hwritten := r.written_exportInto capacity
  refine ⟨⟨r.encode_exportText, hwritten, hok, fun h => ?_, fun h => ?_, ?_⟩, fun cut hcut =>
    exportPieces_eq hcut r.lines (Nat.zero_le _)⟩
  · have hall := hwritten.trans (List.take_of_length_le (hok.mp h))
    refine ⟨hall, ?_⟩
    rw [hall, encode_exportText, ← List.append_nil (octetsOf r.entries)]
    exact splitOn_octetsOf r.entries List.not_mem_nil
  · rw [Ne, hok, encode_exportText, Nat.not_le] at h
    exact exists_firstMisfit r.entries h
  · intro before e after hentries hmisfit
    have hbegun : 0x0A ∉ e.octets.take (capacity - (octetsOf before).length) := fun h =>
      e.newline_notMem_octets (List.mem_of_mem_take h)
    refine ⟨hmisfit.serialization_iff hentries, hmisfit.io_iff hentries, ?_⟩
    rw [hwritten, encode_exportText, hentries, hmisfit.take_octetsOf]
    exact splitOn_octetsOf before hbegun

end Recording

end CoEdit
