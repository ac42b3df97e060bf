import CoEdit.Document
import Mathlib.Data.String.Basic

/-!
# Edits, by Bytes and by Characters

A text is cut at the bytes where its characters begin. So an edit that works on the bytes is the
exchange of a stretch of characters, of whatever size these are, and also where it reaches beyond
the text or beyond the largest word.

## Main definitions

* `starts`: the bytes at which the characters of a text begin.
* `Operation.inserted`, `Operation.removed`: what an edit puts in, and how many characters it asks
  to take out.

## Main results

* `byteOffset_eq`: where a text is cut.
* `isValid_byteOffset`, `byteOffset_le`, `byteOffset_mono`: it is cut between characters.
* `splice_eq`: the exchange of a stretch of bytes, as text.
* `toList_splice`: it is that of a stretch of characters.
* `Operation.apply_exact`: what an edit does to the bytes, to the characters and to their number.
-/

namespace CoEdit

namespace Document

variable {content text : String} {position length count : Nat}

/-! ### Cutting -/

/-- The first characters of a text. -/
def front (content : String) (count : Nat) : String :=
  String.ofList (content.toList.take count)

/-- The characters after them. -/
def back (content : String) (count : Nat) : String :=
  String.ofList (content.toList.drop count)

theorem front_append_back (content : String) (count : Nat) :
    front content count ++ back content count = content := by
  rw [front, back, ← String.ofList_append, List.take_append_drop, String.ofList_toList]

/-- Between two characters one can cut. -/
theorem isValid_byteOffset (content : String) (count : Nat) :
    (⟨byteOffset content count⟩ : String.Pos.Raw).IsValid content :=
  String.Pos.Raw.isValid_iff_exists_append.mpr
    ⟨front content count, back content count, (front_append_back content count).symm, rfl⟩

/-- The bytes of the characters after a cut are those that remain. -/
theorem byteOffset_add (content : String) (count : Nat) :
    byteOffset content count + (back content count).utf8ByteSize = content.utf8ByteSize := by
  rw [byteOffset, ← front, ← String.utf8ByteSize_append, front_append_back]

theorem byteOffset_le (content : String) (count : Nat) :
    byteOffset content count ≤ content.utf8ByteSize :=
  Nat.le.intro (byteOffset_add content count)

/-- The bytes of the characters before a cut. -/
theorem toByteArray_front (content : String) (count : Nat) :
    (front content count).toByteArray =
      content.toByteArray.extract 0 (byteOffset content count) := by
  have hsplit := congrArg String.toByteArray (front_append_back content count)
  rw [String.toByteArray_append] at hsplit
  rw [← hsplit]
  exact (ByteArray.extract_append_eq_left rfl).symm

/-- The bytes of the characters after a cut. -/
theorem toByteArray_back (content : String) (count : Nat) :
    (back content count).toByteArray =
      content.toByteArray.extract (byteOffset content count) content.utf8ByteSize := by
  have hsplit := congrArg String.toByteArray (front_append_back content count)
  rw [String.toByteArray_append] at hsplit
  rw [← byteOffset_add content count, ← hsplit]
  exact (ByteArray.extract_append_eq_right rfl rfl).symm

/-- More characters take no fewer bytes. -/
theorem byteOffset_mono {fewer more : Nat} (h : fewer ≤ more) :
    byteOffset content fewer ≤ byteOffset content more := by
  have hsplit : front content more =
      front content fewer ++ String.ofList ((content.toList.take more).drop fewer) := by
    have hfirst : content.toList.take fewer = (content.toList.take more).take fewer := by
      rw [List.take_take, Nat.min_eq_left h]
    rw [front, front, ← String.ofList_append, hfirst, List.take_append_drop]
  rw [byteOffset, byteOffset, ← front, ← front, hsplit, String.utf8ByteSize_append]
  exact Nat.le_add_right _ _

/-- The bytes at which the characters of a text begin, if the first one begins at `start`. -/
def startsFrom (start : Nat) : List Char → List Nat
  | [] => []
  | c :: cs => start :: startsFrom (start + c.utf8Size) cs

/-- The bytes at which the characters of a text begin. -/
def starts (content : String) : List Nat :=
  startsFrom 0 content.toList

/-- The size of the first characters says where the next one begins, or where the text ends. -/
theorem startsFrom_getElem? (cs : List Char) (start count : Nat) :
    start + String.utf8Len (cs.take count) =
      (startsFrom start cs)[count]?.getD (start + String.utf8Len cs) := by
  induction cs generalizing start count with
  | nil => simp [startsFrom]
  | cons c cs ih =>
      cases count with
      | zero => simp [startsFrom]
      | succ count =>
          have hrest := ih (start + c.utf8Size) count
          rw [startsFrom, List.getElem?_cons_succ, List.take_succ_cons, String.utf8Len_cons,
            String.utf8Len_cons]
          rw [Nat.add_comm (String.utf8Len (cs.take count)), ← Nat.add_assoc, hrest,
            Nat.add_comm (String.utf8Len cs), ← Nat.add_assoc]

/-- **A text is cut where a character begins, or at its end** if it has not that many. -/
theorem byteOffset_eq (content : String) (count : Nat) :
    byteOffset content count = (starts content)[count]?.getD content.utf8ByteSize := by
  have hsize : content.utf8ByteSize = String.utf8Len content.toList := by
    rw [← String.utf8ByteSize_ofList, String.ofList_toList]
  have hstart := startsFrom_getElem? content.toList 0 count
  rw [Nat.zero_add, Nat.zero_add] at hstart
  rw [byteOffset, String.utf8ByteSize_ofList, hsize, starts, hstart]

/-! ### Exchanging a stretch -/

/-- The bytes before a cut. -/
theorem bytes_front (content : String) (count : Nat) :
    bytes content 0 (byteOffset content count) = front content count := by
  have hcut := String.extract_of_valid [] (content.toList.take count) (content.toList.drop count)
  rw [List.nil_append, List.take_append_drop, String.ofList_toList, String.utf8Len_nil,
    Nat.zero_add, ← String.utf8ByteSize_ofList] at hcut
  exact hcut

/-- The bytes after a cut. -/
theorem bytes_back (content : String) (count : Nat) :
    bytes content (byteOffset content count) content.utf8ByteSize = back content count := by
  have hcut := String.extract_of_valid (content.toList.take count) (content.toList.drop count) []
  rw [List.append_nil, List.take_append_drop, String.ofList_toList, ← String.utf8Len_append,
    List.take_append_drop, ← String.utf8ByteSize_ofList, ← String.utf8ByteSize_ofList,
    String.ofList_toList] at hcut
  exact hcut

/-- **The exchange of a stretch of bytes**, as text. -/
theorem splice_eq (content : String) (position length : Nat) (text : String) :
    splice content position length text =
      front content position ++ text ++
        back content (Decimal.saturatingAdd position length) := by
  rw [splice, bytes_front, bytes_back]

/-- To a text no longer than the largest word it makes no difference that a sum stops there. -/
theorem drop_saturatingAdd {α : Type} {xs : List α} (h : xs.length ≤ Decimal.wordMax)
    (position length : Nat) :
    xs.drop (Decimal.saturatingAdd position length) = xs.drop (position + length) := by
  rw [Decimal.saturatingAdd]
  rcases Nat.le_total (position + length) Decimal.wordMax with hle | hge
  · rw [Nat.min_eq_left hle]
  · rw [Nat.min_eq_right hge, List.drop_eq_nil_of_le h, List.drop_eq_nil_of_le (h.trans hge)]

theorem back_saturatingAdd (h : content.length ≤ Decimal.wordMax) (position length : Nat) :
    back content (Decimal.saturatingAdd position length) = back content (position + length) := by
  rw [back, back, drop_saturatingAdd (String.length_toList ▸ h)]

/-- The stretch taken out does not end before it begins. -/
theorem byteOffset_le_saturatingAdd (h : content.length ≤ Decimal.wordMax)
    (position length : Nat) :
    byteOffset content position ≤
      byteOffset content (Decimal.saturatingAdd position length) := by
  have hstop := byteOffset_add content (Decimal.saturatingAdd position length)
  have hsum := byteOffset_add content (position + length)
  have hmono : byteOffset content position ≤ byteOffset content (position + length) :=
    byteOffset_mono (Nat.le_add_right position length)
  rw [back_saturatingAdd h] at hstop
  omega

/-- **The exchange of a stretch of bytes is that of a stretch of characters.** -/
theorem toList_splice (h : content.length ≤ Decimal.wordMax) (position length : Nat)
    (text : String) :
    (splice content position length text).toList =
      spliceChars content.toList position length text.toList := by
  rw [splice_eq, back_saturatingAdd h, spliceChars, String.toList_append, String.toList_append,
    front, back, String.toList_ofList, String.toList_ofList]

/-- What is taken out and what is put in make the difference in size. -/
theorem utf8ByteSize_splice (h : content.length ≤ Decimal.wordMax) (position length : Nat)
    (text : String) :
    (splice content position length text).utf8ByteSize =
      content.utf8ByteSize - (byteOffset content (Decimal.saturatingAdd position length) -
        byteOffset content position) + text.utf8ByteSize := by
  have hle := byteOffset_le_saturatingAdd h position length
  have hstop := byteOffset_add content (Decimal.saturatingAdd position length)
  have hstart : (front content position).utf8ByteSize = byteOffset content position := rfl
  rw [splice_eq, String.utf8ByteSize_append, String.utf8ByteSize_append, hstart]
  omega

/-- How many characters there are once a stretch has been exchanged. -/
theorem length_spliceChars (content : List Char) (position length : Nat) (text : List Char) :
    (spliceChars content position length text).length =
      content.length - min length (content.length - min position content.length) +
        text.length := by
  rw [spliceChars, List.length_append, List.length_append, List.length_take, List.length_drop]
  omega

end Document

namespace Operation

open Document

/-- What an edit puts in. -/
def inserted : Operation → String
  | .insert _ text => text
  | .delete .. => ""
  | .replace _ text _ => text

/-- How many characters an edit asks to take out. -/
def removed : Operation → Nat
  | .insert .. => 0
  | .delete _ length => length
  | .replace _ _ length => length

/-- All edits are exchanges. -/
theorem apply_eq (op : Operation) (content : String) :
    op.apply content = splice content op.position op.removed op.inserted := by
  cases op <;> rfl

/-- **Edits are exchanges of characters, cut to the text.** An edit of a text that is no longer than
the largest word, as every text is that a machine holds, cuts it at two places, each where a
character begins or at the end, the second one not before the first. It keeps the bytes before the
one and after the other, and so the characters there, and puts its own text between them. -/
theorem apply_exact (op : Operation) (content : String)
    (h : content.length ≤ Decimal.wordMax) :
    let start := byteOffset content op.position
    let stop := byteOffset content (Decimal.saturatingAdd op.position op.removed)
    start = (starts content)[op.position]?.getD content.utf8ByteSize ∧
      (⟨start⟩ : String.Pos.Raw).IsValid content ∧ (⟨stop⟩ : String.Pos.Raw).IsValid content ∧
      start ≤ stop ∧ stop ≤ content.utf8ByteSize ∧
      (op.apply content).toByteArray =
        content.toByteArray.extract 0 start ++ op.inserted.toByteArray ++
          content.toByteArray.extract stop content.utf8ByteSize ∧
      (op.apply content).utf8ByteSize =
        content.utf8ByteSize - (stop - start) + op.inserted.utf8ByteSize ∧
      (op.apply content).toList =
        spliceChars content.toList op.position op.removed op.inserted.toList ∧
      charCount (op.apply content) = charCount content -
        min op.removed (charCount content - min op.position (charCount content)) +
          charCount op.inserted := by
  intro start stop
  have hchars := toList_splice h op.position op.removed op.inserted
  refine ⟨byteOffset_eq content _, isValid_byteOffset content _, isValid_byteOffset content _,
    byteOffset_le_saturatingAdd h _ _, byteOffset_le content _, ?_, ?_, ?_, ?_⟩
  · rw [apply_eq, splice_eq, String.toByteArray_append, String.toByteArray_append,
      toByteArray_front, toByteArray_back]
  · rw [apply_eq, utf8ByteSize_splice h]
  · rw [apply_eq, hchars]
  · rw [charCount, charCount, charCount, ← String.length_toList, apply_eq, hchars,
      length_spliceChars, String.length_toList, String.length_toList]

/-- A text with characters of one to four bytes each. It is cut after the second one and at its end,
as there are not so many characters. -/
theorem apply_exact_toTheEnd :
    let content := "aé→😀"
    let op := replace 2 "ü" Decimal.wordMax
    content.length ≤ Decimal.wordMax ∧
      byteOffset content op.position = 3 ∧
      byteOffset content (Decimal.saturatingAdd op.position op.removed) = 10 ∧
      (⟨3⟩ : String.Pos.Raw).IsValid content ∧ (⟨10⟩ : String.Pos.Raw).IsValid content ∧
      (op.apply content).utf8ByteSize = 10 - (10 - 3) + 2 ∧
      (op.apply content).toList = spliceChars ['a', 'é', '→', '😀'] 2 Decimal.wordMax ['ü'] ∧
      charCount (op.apply content) = 4 - min Decimal.wordMax (4 - min 2 4) + 1 := by
  intro content op
  have hshort : content.length ≤ Decimal.wordMax := by decide
  have hstart : byteOffset content op.position = 3 := by decide +kernel
  have hstop : byteOffset content (Decimal.saturatingAdd op.position op.removed) = 10 := by
    decide +kernel
  have hcontent : content.toList = ['a', 'é', '→', '😀'] := by decide +kernel
  have hinserted : op.inserted.toList = ['ü'] := by decide +kernel
  obtain ⟨-, hfront, hback, -, -, -, hsize, hchars, hcount⟩ := apply_exact op content hshort
  rw [hstart] at hfront hsize
  rw [hstop] at hback hsize
  rw [hcontent, hinserted] at hchars
  have hcounts : charCount content = 4 ∧ charCount op.inserted = 1 := by decide +kernel
  rw [hcounts.1, hcounts.2] at hcount
  exact ⟨hshort, hstart, hstop, hfront, hback, hsize, hchars, hcount⟩

end Operation

end CoEdit
