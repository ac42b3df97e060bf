import CoEdit.Proofs.Wire.Session

/-!
# Messages Are Read Back

What a message is encoded as is decoded as the same message: the entries of the notice stand among
those of the envelope, and no notice has an entry that the envelope would take for its own.

## Main definitions

* `Notice.InRange`, `Message.Fits`: numbers fit a word, the time of a message fits one with a sign,
  and the time of a change lies in the years 0 to 9999.

## Main results

* `Notice.nodup_keys`: the entries of envelope and notice are told apart.
* `Notice.reads`, `Message.reads`: encoded values are decoded as themselves.
* `Notice.plain`, `Message.plain`: encoded values are plain.
-/

namespace CoEdit

open CoEdit.Decode
open CoEdit.Decimal (signedMax wordMax)

namespace Notice

/-- Counts and positions fit a word, and the change fits. -/
def InRange : Notice → Prop
  | .userJoined _ _ _ _ onlineCount _ => onlineCount ≤ wordMax
  | .userLeft _ _ onlineCount => onlineCount ≤ wordMax
  | .codeChange change _ => change.Fits
  | .cursorUpdate _ _ position _ => position ≤ wordMax
  | .helpRequested .. => True
  | .sessionEnded _ => True

instance (n : Notice) : Decidable n.InRange :=
  match n with
  | .userJoined .. | .userLeft .. | .cursorUpdate .. => inferInstanceAs (Decidable (_ ≤ _))
  | .codeChange change _ => inferInstanceAs (Decidable change.Fits)
  | .helpRequested .. | .sessionEnded _ => .isTrue trivial

variable {n : Notice} {depth : Nat}

/-- The keys of a notice are distinct, and none of them is a key of the envelope. -/
theorem nodup_keys (n : Notice) :
    ("session_id" :: "sequence_id" :: "timestamp" :: n.toFields.map Prod.fst).Nodup := by
  cases n with
  | helpRequested userId userName message => cases message <;> simp [toFields, messageField]
  | _ => simp [toFields]

theorem nodup_keys_toFields (n : Notice) : (n.toFields.map Prod.fst).Nodup :=
  (List.nodup_cons.mp (List.nodup_cons.mp (List.nodup_cons.mp n.nodup_keys).2).2).2

/-- The entries of a notice are those of the case under its name. -/
theorem ofCase (h : n.InRange) : OfCase cases n.toFields n := by
  cases n with
  | userJoined userId userName role color onlineCount status =>
      refine ⟨cases[0], _, rfl, rfl, ?_⟩
      exact ((((((Record.reads_required rfl (reads_text userId)).map userJoined).seq
        (Record.reads_required rfl (reads_text userName))).seq
        (Record.reads_required rfl role.reads)).seq
        (Record.reads_required rfl (reads_text color))).seq
        (Record.reads_required rfl (reads_unsigned onlineCount .count))).seq
        (Record.reads_required rfl status.reads)
  | userLeft userId userName onlineCount =>
      refine ⟨cases[1], _, rfl, rfl, ?_⟩
      exact (((Record.reads_required rfl (reads_text userId)).map userLeft).seq
        (Record.reads_required rfl (reads_text userName))).seq
        (Record.reads_required rfl (reads_unsigned onlineCount .count))
  | codeChange change content =>
      refine ⟨cases[2], _, rfl, rfl, ?_⟩
      exact ((Record.reads_required rfl (change.reads h.timestamp)).map codeChange).seq
        (Record.reads_required rfl (reads_text content))
  | cursorUpdate userId userName position color =>
      refine ⟨cases[3], _, rfl, rfl, ?_⟩
      exact ((((Record.reads_required rfl (reads_text userId)).map cursorUpdate).seq
        (Record.reads_required rfl (reads_text userName))).seq
        (Record.reads_required rfl (reads_unsigned position .count))).seq
        (Record.reads_required rfl (reads_text color))
  | helpRequested userId userName message =>
      refine ⟨cases[4], _, rfl, rfl, ?_⟩
      exact (((Record.reads_required rfl (reads_text userId)).map helpRequested).seq
        (Record.reads_required rfl (reads_text userName))).seq
        (reads_messageField [("user_id", .text userId), ("user_name", .text userName)] rfl message)
  | sessionEnded reason =>
      refine ⟨cases[5], _, rfl, rfl, ?_⟩
      exact (Record.reads_required rfl reason.reads).map sessionEnded

/-- An encoded notice is decoded as itself. -/
theorem reads (h : n.InRange) : Reads Notice.decode n.toJson n :=
  (ofCase h).reads n.nodup_keys_toFields "SessionEvent"

/-- The entries of an encoded notice are plain. -/
theorem plain_fields (h : n.InRange) : ∀ entry ∈ n.toFields, Json.Plain (depth + 2) entry.2 := by
  cases n with
  | userJoined userId userName role color onlineCount status =>
      have hcount : onlineCount ≤ wordMax := h
      simp [toFields, Role.toJson, Status.toJson, hcount]
  | userLeft userId userName onlineCount =>
      have hcount : onlineCount ≤ wordMax := h
      simp [toFields, hcount]
  | codeChange change content =>
      have hchange : Json.Plain (depth + 2) change.toJson := Change.plain h
      simpa [toFields] using hchange
  | cursorUpdate userId userName position color =>
      have hposition : position ≤ wordMax := h
      simp [toFields, hposition]
  | helpRequested userId userName message => cases message <;> simp [toFields, messageField]
  | sessionEnded reason => simp [toFields, EndReason.toJson]

/-- An encoded notice is plain. -/
theorem plain (h : n.InRange) : Json.Plain (depth + 3) n.toJson :=
  Json.plain_object.mpr (plain_fields h)

end Notice

namespace Message

/-- The number fits a word, the time one with a sign, and the notice fits. -/
structure Fits (m : Message) : Prop where
  sequence : m.sequence ≤ wordMax
  early : -(signedMax + 1 : Int) ≤ m.timestamp
  late : m.timestamp ≤ signedMax
  notice : m.notice.InRange

instance (m : Message) : Decidable m.Fits :=
  decidable_of_iff (_ ∧ _ ∧ _ ∧ _) ⟨fun ⟨sequence, early, late, notice⟩ =>
    ⟨sequence, early, late, notice⟩, fun h => ⟨h.sequence, h.early, h.late, h.notice⟩⟩

variable {m : Message} {depth : Nat}

/-- An encoded message is decoded as itself. -/
theorem reads (h : m.Fits) : Reads Message.decode m.toJson m := by
  refine reads_flattened [("session_id", .text m.sessionId), ("sequence_id", .nat m.sequence),
    ("timestamp", .whole m.timestamp)] (.refl _) m.notice.nodup_keys
    (a := (m.sessionId, m.sequence, m.timestamp)) ?_
    (fun fields hshows => (Notice.ofCase h.notice).taggedFields_eq m.notice.nodup_keys_toFields
      hshows .buffered) "BroadcastMessage"
  exact (((Record.reads_required rfl (reads_text m.sessionId)).map
    fun sessionId (sequence : Nat) (timestamp : Int) => (sessionId, sequence, timestamp)).seq
    (Record.reads_required rfl (reads_unsigned m.sequence .serial))).seq
    (Record.reads_required rfl (reads_integer h.late))

/-- An encoded message is plain. -/
theorem plain (h : m.Fits) : Json.Plain (depth + 3) m.toJson := by
  rw [toJson, Json.plain_object]
  simp only [List.cons_append, List.nil_append, List.forall_mem_cons]
  have htime : Json.Plain (depth + 2) (.whole m.timestamp) := by
    refine .whole h.early (Int.le_trans h.late ?_)
    decide
  exact ⟨Json.plain_text _, Json.plain_nat.mpr h.sequence, htime, Notice.plain_fields h.notice⟩

end Message

end CoEdit
