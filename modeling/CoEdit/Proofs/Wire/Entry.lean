import CoEdit.Proofs.Decode.Fields
import CoEdit.Proofs.Json.RoundTrip
import CoEdit.Proofs.Time.Rfc3339
import CoEdit.Wire.Notice

/-!
# Recorded Entries Are Read Back

What a recorded entry is encoded as is decoded as the same entry: the entries of the fact stand
among those of the envelope and are told apart from them, and the change of a fact is an object of
its own with an edit in it. An entry is also plain JSON, so its text is read back as well.

## Main definitions

* `Decode.RoundTrip`: a decoder takes a written value back, as a value and as a text.
* `Entry.Fits`: its numbers fit a word and its times lie in the years 0 to 9999.

## Main results

* `Operation.reads`, `Change.reads`, `Fact.reads`, `Entry.reads`: encoded values are decoded as
  themselves.
* `Entry.plain`: encoded entries are plain values.
-/

namespace CoEdit

open CoEdit.Decode
open CoEdit.Decimal (signedMax wordMax)
open CoEdit.Time (Instant)
open CoEdit.Time.Rfc3339 (Writable)

namespace Decode

/-! ### Round trips -/

section RoundTrip

variable {α : Type} {decode : Decoder α} {j : Json} {x : α}

/-- Decodes the value that a text denotes, within the depth limit. -/
def ofText? (decode : Decoder α) (s : String) : Option α :=
  let cs := s.toList
  match Json.finish (Json.value true (Json.fuelFor cs) Json.depthLimit cs) with
  | some j => (decode .direct j).toOption
  | none => none

/-- The decoder takes back what was written: from the JSON value in canonical form, whether this
stands by itself or is set aside while the rest of an object is read, and from its text. -/
structure RoundTrip (decode : Decoder α) (j : Json) (x : α) : Prop where
  value : ∀ source, decode source j.sorted = .ok x
  text : ofText? decode j.render = some x

/-- A decoder that takes plain values back also takes back their texts. -/
theorem roundTrip (h : Reads decode j x) (hplain : Json.Plain Json.depthLimit j) :
    RoundTrip decode j x where
  value := h
  text := by
    rw [ofText?, Json.render, String.toList_ofList, hplain.finish_value]
    dsimp only
    rw [h .direct]
    rfl

end RoundTrip

/-! ### Single values -/

theorem reads_text (s : String) : Reads text (.text s) s := fun _ => rfl

theorem reads_unsigned (n : Nat) (expected : Expected) : Reads (unsigned expected) (.nat n) n := by
  intro source
  have hnonneg : ¬(n : Int) < 0 := by omega
  change (if (n : Int) < 0 then Except.error (.outOfRange n expected) else .ok (n : Int).toNat) = _
  rw [if_neg hnonneg]
  rfl

theorem reads_instant {t : Instant} (h : Writable t) : Reads instant (instantJson t) t := by
  intro source
  change (Time.Rfc3339.parse (Time.Rfc3339.render t)).mapError Cause.timestamp = _
  rw [Time.Rfc3339.parse_render h]
  rfl

theorem reads_nullable {α : Type} {decode : Decoder α} {j : Json} {x : α} (hj : j.sorted ≠ .null)
    (h : Reads decode j x) : Reads (nullable decode) j (some x) := by
  intro source
  rw [nullable]
  · rw [h source]
    rfl
  · exact hj

theorem reads_optText (s : Option String) : Reads (nullable text) (.optText s) s := by
  cases s with
  | none => exact fun _ => rfl
  | some s => exact reads_nullable nofun (reads_text s)

theorem reads_optNat (n : Option Nat) : Reads (nullable count) (.optNat n) n := by
  cases n with
  | none => exact fun _ => rfl
  | some n => exact reads_nullable nofun (reads_unsigned n .count)

theorem reads_bool (b : Bool) : Reads bool (.boolean b) b := fun _ => rfl

theorem reads_integer {n : Int} (h : n ≤ signedMax) : Reads integer (.whole n) n := by
  intro source
  exact if_neg (Int.not_lt.mpr h)

/-- A list is read item by item. -/
theorem reads_list {α : Type} {decode : Decoder α} {toJson : α → Json} {xs : List α}
    (h : ∀ x ∈ xs, Reads decode (toJson x) x) :
    Reads (list decode) (.array (xs.map toJson)) xs := by
  intro source
  change (Json.sortedItems (xs.map toJson)).mapM (decode source) = _
  induction xs with
  | nil => rfl
  | cons x xs ih =>
      rw [List.forall_mem_cons] at h
      have hstep : List.mapM (decode source) (Json.sortedItems (xs.map toJson)) >>=
          (fun ys => pure (x :: ys)) = .ok (x :: xs) := by
        rw [ih h.2]
        rfl
      rw [List.map_cons, Json.sortedItems, List.mapM_cons, h.1 source]
      exact hstep

end Decode

theorem Role.reads (role : Role) : Reads Role.decode role.toJson role := by
  intro source
  cases role <;> rfl

theorem EndReason.reads (reason : EndReason) : Reads EndReason.decode reason.toJson reason := by
  intro source
  cases reason <;> rfl

/-! ### Edits and changes -/

namespace Operation

/-- Positions and lengths fit a word. -/
def Fits : Operation → Prop
  | .insert position _ => position ≤ wordMax
  | .delete position length => position ≤ wordMax ∧ length ≤ wordMax
  | .replace position _ length => position ≤ wordMax ∧ length ≤ wordMax

instance (op : Operation) : Decidable op.Fits :=
  match op with
  | .insert .. => inferInstanceAs (Decidable (_ ≤ _))
  | .delete .. => inferInstanceAs (Decidable (_ ∧ _))
  | .replace .. => inferInstanceAs (Decidable (_ ∧ _))

/-- An encoded edit is decoded as itself. -/
theorem reads (op : Operation) : Reads Operation.decode op.toJson op := by
  cases op with
  | insert position text =>
      refine reads_tagged (c := cases[0]) rfl (by simp [tagKey]) ?_ "Operation"
      exact ((Record.reads_required rfl (reads_unsigned position .count)).map insert).seq
        (Record.reads_required rfl (reads_text text))
  | delete position length =>
      refine reads_tagged (c := cases[1]) rfl (by simp [tagKey]) ?_ "Operation"
      exact ((Record.reads_required rfl (reads_unsigned position .count)).map delete).seq
        (Record.reads_required rfl (reads_unsigned length .count))
  | replace position text length =>
      refine reads_tagged (c := cases[2]) rfl (by simp [tagKey]) ?_ "Operation"
      exact (((Record.reads_required rfl (reads_unsigned position .count)).map replace).seq
        (Record.reads_required rfl (reads_text text))).seq
        (Record.reads_required rfl (reads_unsigned length .count))

/-- An encoded edit is plain. -/
theorem plain {op : Operation} {depth : Nat} (h : op.Fits) : Json.Plain (depth + 1) op.toJson := by
  cases op with
  | insert position text => simpa [toJson, Fits] using h
  | delete position length => simpa [toJson, Fits] using h
  | replace position text length => simpa [toJson, Fits] using h

end Operation

namespace Change

/-- The time lies in the years 0 to 9999, and the edit fits. -/
structure Fits (c : Change) : Prop where
  timestamp : Writable c.timestamp
  operation : c.operation.Fits

instance (c : Change) : Decidable c.Fits :=
  decidable_of_iff (_ ∧ _) ⟨fun ⟨timestamp, operation⟩ => ⟨timestamp, operation⟩,
    fun h => ⟨h.timestamp, h.operation⟩⟩

variable {c : Change}

/-- An encoded change is decoded as itself. -/
theorem reads (h : Writable c.timestamp) : Reads Change.decode c.toJson c := by
  refine reads_record ?_ (by simp) "Change"
  exact ((((Record.reads_required rfl (reads_text c.id)).map mk).seq
    (Record.reads_required rfl (reads_text c.authorId))).seq
    (Record.reads_required rfl (reads_instant h))).seq
    (Record.reads_required rfl c.operation.reads)

/-- An encoded change is plain. -/
theorem plain {depth : Nat} (h : c.Fits) : Json.Plain (depth + 2) c.toJson := by
  have hoperation : Json.Plain (depth + 1) c.operation.toJson := Operation.plain h.operation
  simpa [toJson, instantJson] using hoperation

end Change

/-! ### Facts and entries -/

/-- A message that is left out is read as none. -/
theorem reads_messageField (fields : List (String × Json))
    (hfields : Json.lookup "message" fields = none) (message : Option String) :
    (Record.optional "message" (nullable text)).Reads (fields ++ messageField message) message := by
  cases message with
  | none =>
      rw [messageField, List.append_nil]
      exact Record.reads_optional_none hfields
  | some message =>
      have hlook : Json.lookup "message" (fields ++ messageField (some message)) =
          some (.text message) := by
        rw [Json.lookup_append, hfields]
        rfl
      exact Record.reads_optional hlook (reads_nullable nofun (reads_text message))

namespace Fact

/-- The change of a fact fits; other facts hold no numbers and no times. -/
def Fits : Fact → Prop
  | .changed change => change.Fits
  | _ => True

instance (f : Fact) : Decidable f.Fits :=
  match f with
  | .changed change => inferInstanceAs (Decidable change.Fits)
  | .created .. | .joined .. | .left _ | .helpRequested .. | .ended _ => .isTrue trivial

variable {f : Fact} {depth : Nat}

/-- The keys of a fact are distinct, and none of them is a key of the envelope. -/
theorem nodup_keys (f : Fact) :
    ("sequence" :: "timestamp" :: f.toFields.map Prod.fst).Nodup := by
  cases f with
  | helpRequested userId message => cases message <;> simp [toFields, messageField]
  | _ => simp [toFields]

theorem nodup_keys_toFields (f : Fact) : (f.toFields.map Prod.fst).Nodup :=
  (List.nodup_cons.mp (List.nodup_cons.mp f.nodup_keys).2).2

/-- The entries of a fact are those of the case under its name. -/
theorem ofCase (h : f.Fits) : OfCase cases f.toFields f := by
  cases f with
  | created hostId hostName title language seed =>
      refine ⟨cases[0], _, rfl, rfl, ?_⟩
      exact (((((Record.reads_required rfl (reads_text hostId)).map created).seq
        (Record.reads_required rfl (reads_text hostName))).seq
        (Record.reads_required rfl (reads_text title))).seq
        (Record.reads_required rfl (reads_text language))).seq
        (Record.reads_required rfl (reads_text seed))
  | joined userId userName role =>
      refine ⟨cases[1], _, rfl, rfl, ?_⟩
      exact (((Record.reads_required rfl (reads_text userId)).map joined).seq
        (Record.reads_required rfl (reads_text userName))).seq
        (Record.reads_required rfl role.reads)
  | left userId =>
      refine ⟨cases[2], _, rfl, rfl, ?_⟩
      exact (Record.reads_required rfl (reads_text userId)).map left
  | changed change =>
      refine ⟨cases[3], _, rfl, rfl, ?_⟩
      exact (Record.reads_required rfl (change.reads h.timestamp)).map changed
  | helpRequested userId message =>
      refine ⟨cases[4], _, rfl, rfl, ?_⟩
      exact ((Record.reads_required rfl (reads_text userId)).map helpRequested).seq
        (reads_messageField [("user_id", .text userId)] rfl message)
  | ended reason =>
      refine ⟨cases[5], _, rfl, rfl, ?_⟩
      exact (Record.reads_required rfl reason.reads).map ended

/-- An encoded fact is decoded as itself. -/
theorem reads (h : f.Fits) : Reads Fact.decode f.toJson f :=
  (ofCase h).reads f.nodup_keys_toFields "RecordedEventKind"

/-- The entries of an encoded fact are plain. -/
theorem plain_fields (h : f.Fits) : ∀ entry ∈ f.toFields, Json.Plain (depth + 2) entry.2 := by
  cases f with
  | changed change =>
      have hchange : Json.Plain (depth + 2) change.toJson := Change.plain h
      simpa [toFields] using hchange
  | joined userId userName role => simp [toFields, Role.toJson]
  | helpRequested userId message => cases message <;> simp [toFields, messageField]
  | ended reason => simp [toFields, EndReason.toJson]
  | _ => simp [toFields]

/-- An encoded fact is plain. -/
theorem plain (h : f.Fits) : Json.Plain (depth + 3) f.toJson :=
  Json.plain_object.mpr (plain_fields h)

end Fact

namespace Entry

/-- The number fits a word, the time lies in the years 0 to 9999, and the fact fits. -/
structure Fits (e : Entry) : Prop where
  sequence : e.sequence ≤ wordMax
  timestamp : Writable e.timestamp
  fact : e.fact.Fits

instance (e : Entry) : Decidable e.Fits :=
  decidable_of_iff (_ ∧ _ ∧ _) ⟨fun ⟨sequence, timestamp, fact⟩ => ⟨sequence, timestamp, fact⟩,
    fun h => ⟨h.sequence, h.timestamp, h.fact⟩⟩

variable {e : Entry} {depth : Nat}

/-- An encoded entry is decoded as itself. -/
theorem reads (h : e.Fits) : Reads Entry.decode e.toJson e := by
  refine reads_flattened
    [("sequence", .nat e.sequence), ("timestamp", instantJson e.timestamp)] (.refl _)
    e.fact.nodup_keys (a := (e.sequence, e.timestamp)) ?_
    (fun fields hshows => (Fact.ofCase h.fact).taggedFields_eq e.fact.nodup_keys_toFields hshows
      .buffered) "RecordedEvent"
  exact ((Record.reads_required rfl (reads_unsigned e.sequence .serial)).map Prod.mk).seq
    (Record.reads_required rfl (reads_instant h.timestamp))

/-- An encoded entry is plain. -/
theorem plain (h : e.Fits) : Json.Plain (depth + 3) e.toJson := by
  rw [toJson, Json.plain_object]
  simp only [List.cons_append, List.nil_append, List.forall_mem_cons]
  exact ⟨Json.plain_nat.mpr h.sequence, Json.plain_text _, Fact.plain_fields h.fact⟩

end Entry

end CoEdit
