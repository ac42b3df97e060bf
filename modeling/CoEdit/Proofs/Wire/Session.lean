import CoEdit.Proofs.Wire.Entry

/-!
# Sessions Are Read Back

What roster entries, creation options and the two views of a session are encoded as is decoded as
the same values. Options may be absent and then have defaults, but are written out all the same, so
that no default takes the place of a value.

## Main definitions

* `Participant.Fits`, `SessionOptions.Fits`, `Snapshot.Fits`, `Listing.Fits`: numbers fit a word and
  times lie in the years 0 to 9999.

## Main results

* `Participant.reads`, `SessionOptions.reads`, `Snapshot.reads`, `Listing.reads`: encoded values are
  decoded as themselves.
* `Participant.plain`, `SessionOptions.plain`, `Snapshot.plain`, `Listing.plain`: encoded values are
  plain.
-/

namespace CoEdit

open CoEdit.Decode
open CoEdit.Decimal (wordMax)
open CoEdit.Time.Rfc3339 (Writable)

theorem Status.reads (status : Status) : Reads Status.decode status.toJson status := by
  intro source
  cases status <;> rfl

/-! ### The roster -/

namespace Participant

/-- The position of the cursor fits a word, and the times lie in the years 0 to 9999. -/
structure Fits (p : Participant) : Prop where
  cursor : p.cursor ≤ wordMax
  joinedAt : Writable p.joinedAt
  lastActivity : Writable p.lastActivity

instance (p : Participant) : Decidable p.Fits :=
  decidable_of_iff (_ ∧ _ ∧ _) ⟨fun ⟨cursor, joinedAt, lastActivity⟩ =>
    ⟨cursor, joinedAt, lastActivity⟩, fun h => ⟨h.cursor, h.joinedAt, h.lastActivity⟩⟩

variable {p : Participant} {depth : Nat}

/-- An encoded roster entry is decoded as itself. -/
theorem reads (h : p.Fits) : Reads Participant.decode p.toJson p := by
  refine reads_record ?_ (by simp) "Participant"
  exact ((((((((Record.reads_required rfl (reads_text p.userId)).map mk).seq
    (Record.reads_required rfl (reads_text p.userName))).seq
    (Record.reads_required rfl p.role.reads)).seq
    (Record.reads_required rfl (reads_unsigned p.cursor .count))).seq
    (Record.reads_required rfl (reads_instant h.joinedAt))).seq
    (Record.reads_required rfl (reads_instant h.lastActivity))).seq
    (Record.reads_required rfl (reads_bool p.isOnline))).seq
    (Record.reads_required rfl (reads_text p.color))

/-- An encoded roster entry is plain. -/
theorem plain (h : p.Fits) : Json.Plain (depth + 1) p.toJson := by
  simp [toJson, Role.toJson, instantJson, h.cursor]

end Participant

/-! ### Creation options -/

namespace SessionOptions

/-- The capacity, if there is one, fits a word. -/
def Fits (o : SessionOptions) : Prop :=
  ∀ capacity ∈ o.maxParticipants, capacity ≤ wordMax

instance (o : SessionOptions) : Decidable o.Fits :=
  inferInstanceAs (Decidable (∀ capacity ∈ o.maxParticipants, capacity ≤ wordMax))

variable {o : SessionOptions} {depth : Nat}

/-- The keys of options are distinct, and none of them is another key of the parameters that they
are spread among. -/
theorem nodup_keys (o : SessionOptions) :
    ("host_id" :: "host_name" :: "assignment_id" :: o.toFields.map Prod.fst).Nodup := by
  simp [toFields]

/-- Options are taken from the entries that they are written as. -/
theorem record_reads (o : SessionOptions) : record.Reads o.toFields o :=
  (((((Record.reads_defaulted rfl (reads_optText o.title)).map mk).seq
    (Record.reads_defaulted rfl (reads_bool o.isPublic))).seq
    (Record.reads_defaulted rfl (reads_bool o.lecturerAssistance))).seq
    (Record.reads_defaulted rfl (reads_optText o.language))).seq
    (Record.reads_defaulted rfl (reads_optNat o.maxParticipants))

/-- Encoded options are decoded as themselves. -/
theorem reads (o : SessionOptions) : Reads SessionOptions.decode o.toJson o :=
  reads_record o.record_reads (by simp [toFields]) "SessionOptions"

/-- The entries of encoded options are plain. -/
theorem plain_fields (h : o.Fits) : ∀ entry ∈ o.toFields, Json.Plain depth entry.2 := by
  simpa [toFields, Fits] using h

/-- Encoded options are plain. -/
theorem plain (h : o.Fits) : Json.Plain (depth + 1) o.toJson :=
  Json.plain_object.mpr (plain_fields h)

end SessionOptions

/-! ### Views of a session -/

namespace Snapshot

/-- The numbers fit a word, the times lie in the years 0 to 9999, and so it is throughout the
roster. -/
structure Fits (s : Snapshot) : Prop where
  createdAt : Writable s.createdAt
  updatedAt : Writable s.updatedAt
  participants : ∀ p ∈ s.participants, p.Fits
  onlineCount : s.onlineCount ≤ wordMax
  maxParticipants : s.maxParticipants ≤ wordMax
  changeCount : s.changeCount ≤ wordMax

instance (s : Snapshot) : Decidable s.Fits :=
  decidable_of_iff (_ ∧ _ ∧ _ ∧ _ ∧ _ ∧ _)
    ⟨fun ⟨createdAt, updatedAt, participants, onlineCount, maxParticipants, changeCount⟩ =>
      ⟨createdAt, updatedAt, participants, onlineCount, maxParticipants, changeCount⟩,
    fun h => ⟨h.createdAt, h.updatedAt, h.participants, h.onlineCount, h.maxParticipants,
      h.changeCount⟩⟩

variable {s : Snapshot} {depth : Nat}

/-- An encoded snapshot is decoded as itself. -/
theorem reads (h : s.Fits) : Reads Snapshot.decode s.toJson s := by
  have hroster : Reads (list Participant.decode)
      (.array (s.participants.map Participant.toJson)) s.participants :=
    reads_list fun p hp => Participant.reads (h.participants p hp)
  refine reads_record ?_ (by simp) "SessionInfo"
  exact (((((((((((((((Record.reads_required rfl (reads_text s.id)).map mk).seq
    (Record.reads_required rfl (reads_text s.title))).seq
    (Record.reads_required rfl (reads_text s.assignmentId))).seq
    (Record.reads_required rfl (reads_text s.hostId))).seq
    (Record.reads_required rfl s.status.reads)).seq
    (Record.reads_required rfl (reads_instant h.createdAt))).seq
    (Record.reads_required rfl (reads_instant h.updatedAt))).seq
    (Record.reads_required rfl hroster)).seq
    (Record.reads_required rfl (reads_text s.content))).seq
    (Record.reads_required rfl (reads_text s.language))).seq
    (Record.reads_required rfl (reads_unsigned s.onlineCount .count))).seq
    (Record.reads_required rfl (reads_unsigned s.maxParticipants .count))).seq
    (Record.reads_required rfl (reads_bool s.isPublic))).seq
    (Record.reads_required rfl (reads_bool s.lecturerAssistance))).seq
    (Record.reads_required rfl (reads_unsigned s.changeCount .count))

/-- An encoded snapshot is plain. -/
theorem plain (h : s.Fits) : Json.Plain (depth + 3) s.toJson := by
  have hroster : ∀ p ∈ s.participants, Json.Plain (depth + 1) p.toJson := fun p hp =>
    Participant.plain (h.participants p hp)
  simpa [toJson, Status.toJson, instantJson, h.onlineCount, h.maxParticipants, h.changeCount]
    using hroster

end Snapshot

namespace Listing

/-- The numbers fit a word, and the time lies in the years 0 to 9999. -/
structure Fits (l : Listing) : Prop where
  onlineCount : l.onlineCount ≤ wordMax
  maxParticipants : l.maxParticipants ≤ wordMax
  createdAt : Writable l.createdAt

instance (l : Listing) : Decidable l.Fits :=
  decidable_of_iff (_ ∧ _ ∧ _) ⟨fun ⟨onlineCount, maxParticipants, createdAt⟩ =>
    ⟨onlineCount, maxParticipants, createdAt⟩,
    fun h => ⟨h.onlineCount, h.maxParticipants, h.createdAt⟩⟩

variable {l : Listing} {depth : Nat}

/-- An encoded listing is decoded as itself. -/
theorem reads (h : l.Fits) : Reads Listing.decode l.toJson l := by
  refine reads_record ?_ (by simp) "PublicSessionSummary"
  exact ((((((((((Record.reads_required rfl (reads_text l.id)).map mk).seq
    (Record.reads_required rfl (reads_text l.title))).seq
    (Record.reads_required rfl (reads_text l.assignmentId))).seq
    (Record.reads_required rfl (reads_text l.hostId))).seq
    (Record.reads_required rfl (reads_text l.hostName))).seq
    (Record.reads_required rfl l.status.reads)).seq
    (Record.reads_required rfl (reads_text l.language))).seq
    (Record.reads_required rfl (reads_unsigned l.onlineCount .count))).seq
    (Record.reads_required rfl (reads_unsigned l.maxParticipants .count))).seq
    (Record.reads_required rfl (reads_instant h.createdAt))

/-- An encoded listing is plain. -/
theorem plain (h : l.Fits) : Json.Plain (depth + 1) l.toJson := by
  simp [toJson, Status.toJson, instantJson, h.onlineCount, h.maxParticipants]

end Listing

end CoEdit
