import CoEdit.Proofs.Wire.Notice
import CoEdit.Rpc.Method
import CoEdit.Wire.Config
import CoEdit.Wire.Recording

/-!
# Wire Formats Round-Trip

Whatever is written as JSON is read back: edits, changes, notices, facts, entries, messages, roster
entries, the views and options of sessions, recordings and settings. Where one object holds the
fields of an envelope and of a payload, neither takes a field of the other.

## Main definitions

* `Attendee.Fits`, `Recording.Fits`, `Config.Fits`: numbers fit a word and times lie in the years 0
  to 9999.
* `Wire.RoundTrips`: the round trips of all types.

## Main results

* `Call.reads_creation`: parameters made of ids and encoded options are decoded as these.
* `Wire.roundTrips`: all types round-trip.
-/

namespace CoEdit

open CoEdit.Decode
open CoEdit.Decimal (wordMax)
open CoEdit.Rpc (Call Method)
open CoEdit.Time.Rfc3339 (Writable)

/-! ### Recordings -/

namespace Attendee

/-- The time lies in the years 0 to 9999. -/
def Fits (a : Attendee) : Prop := Writable a.firstSeen

instance (a : Attendee) : Decidable a.Fits := inferInstanceAs (Decidable (Writable a.firstSeen))

variable {a : Attendee} {depth : Nat}

/-- Someone who appears in a recording is decoded as they are encoded. -/
theorem reads (h : a.Fits) : Reads Attendee.decode a.toJson a := by
  refine reads_record ?_ (by simp) "RecordedParticipant"
  exact ((((Record.reads_required rfl (reads_text a.userId)).map mk).seq
    (Record.reads_required rfl (reads_text a.userName))).seq
    (Record.reads_required rfl a.role.reads)).seq
    (Record.reads_required rfl (reads_instant h))

theorem plain (a : Attendee) : Json.Plain (depth + 1) a.toJson := by
  simp [toJson, Role.toJson, instantJson]

end Attendee

namespace Recording

/-- All entries fit, and so does everyone who appears. -/
structure Fits (r : Recording) : Prop where
  entries : ∀ e ∈ r.entries, e.Fits
  attendees : ∀ a ∈ r.attendees, a.Fits

instance (r : Recording) : Decidable r.Fits :=
  decidable_of_iff (_ ∧ _) ⟨fun ⟨entries, attendees⟩ => ⟨entries, attendees⟩,
    fun h => ⟨h.entries, h.attendees⟩⟩

variable {r : Recording} {depth : Nat}

/-- An encoded recording is decoded as itself. -/
theorem reads (h : r.Fits) : Reads Recording.decode r.toJson r := by
  have hentries : Reads (list Entry.decode) (.array (r.entries.map Entry.toJson)) r.entries :=
    reads_list fun e he => Entry.reads (h.entries e he)
  have hattendees : Reads (list Attendee.decode) (.array (r.attendees.map Attendee.toJson))
      r.attendees := reads_list fun a ha => Attendee.reads (h.attendees a ha)
  refine reads_record ?_ (by simp [toFields]) "SessionRecording"
  exact (((Record.reads_required rfl (reads_text r.sessionId)).map mk).seq
    (Record.reads_required rfl hentries)).seq
    (Record.reads_required rfl hattendees)

/-- An encoded recording is plain. -/
theorem plain (h : r.Fits) : Json.Plain (depth + 5) r.toJson := by
  have hentries : ∀ e ∈ r.entries, Json.Plain (depth + 3) e.toJson := fun e he =>
    Entry.plain (h.entries e he)
  have hattendees : ∀ a ∈ r.attendees, Json.Plain (depth + 3) a.toJson := fun a _ => a.plain
  simpa [toJson, toFields] using And.intro hentries hattendees

end Recording

/-! ### Settings -/

namespace Config

/-- All numbers fit a word. -/
structure Fits (c : Config) : Prop where
  maxParticipants : c.maxParticipants ≤ wordMax
  idleTimeoutSecs : c.idleTimeoutSecs ≤ wordMax
  endedRetentionSecs : c.endedRetentionSecs ≤ wordMax
  reapIntervalSecs : c.reapIntervalSecs ≤ wordMax
  historyLimit : ∀ limit ∈ c.historyLimit, limit ≤ wordMax
  tapCapacity : c.tapCapacity ≤ wordMax

instance (c : Config) : Decidable c.Fits :=
  decidable_of_iff (_ ∧ _ ∧ _ ∧ _ ∧ _ ∧ _)
    ⟨fun ⟨maxParticipants, idleTimeoutSecs, endedRetentionSecs, reapIntervalSecs, historyLimit,
      tapCapacity⟩ => ⟨maxParticipants, idleTimeoutSecs, endedRetentionSecs, reapIntervalSecs,
      historyLimit, tapCapacity⟩,
    fun h => ⟨h.maxParticipants, h.idleTimeoutSecs, h.endedRetentionSecs, h.reapIntervalSecs,
      h.historyLimit, h.tapCapacity⟩⟩

variable {c : Config} {depth : Nat}

/-- Encoded settings are decoded as themselves: no default takes the place of a value. -/
theorem reads (c : Config) : Reads Config.decode c.toJson c := by
  refine reads_record ?_ (by simp) "EngineConfig"
  exact (((((((Record.reads_defaulted rfl (reads_unsigned c.maxParticipants .count)).map mk).seq
    (Record.reads_defaulted rfl (reads_text c.defaultLanguage))).seq
    (Record.reads_defaulted rfl (reads_unsigned c.idleTimeoutSecs .serial))).seq
    (Record.reads_defaulted rfl (reads_unsigned c.endedRetentionSecs .serial))).seq
    (Record.reads_defaulted rfl (reads_unsigned c.reapIntervalSecs .serial))).seq
    (Record.reads_defaulted rfl (reads_optNat c.historyLimit))).seq
    (Record.reads_defaulted rfl (reads_unsigned c.tapCapacity .count))

/-- Encoded settings are plain. -/
theorem plain (h : c.Fits) : Json.Plain (depth + 1) c.toJson := by
  simpa [toJson, h.maxParticipants, h.idleTimeoutSecs, h.endedRetentionSecs, h.reapIntervalSecs,
    h.tapCapacity] using h.historyLimit

end Config

/-! ### Parameters of a creation -/

namespace Rpc.Call

variable {hostId hostName assignmentId : String} {options : SessionOptions}
  {params : List (String × Json)}

/-- The entries that name the host and the assignment of a session to be created. -/
def creationIds (hostId hostName assignmentId : String) : List (String × Json) :=
  [("host_id", .text hostId), ("host_name", .text hostName), ("assignment_id", .text assignmentId)]

/-- Parameters made of ids and encoded options, in any order, are decoded as these. -/
theorem reads_creation
    (hparams : params.Perm (creationIds hostId hostName assignmentId ++ options.toFields)) :
    Reads decodeCreation (.object params)
      (.createSession hostId hostName assignmentId options) := by
  refine reads_flattened (creationIds hostId hostName assignmentId) hparams options.nodup_keys
    (a := (hostId, hostName, assignmentId)) ?_
    (fun fields hshows => options.record_reads.ofObject hshows .buffered) "CreateParams"
  exact (((Record.reads_required rfl (reads_text hostId)).map
    fun hostId (hostName assignmentId : String) => (hostId, hostName, assignmentId)).seq
    (Record.reads_defaulted rfl (reads_text hostName))).seq
    (Record.reads_required rfl (reads_text assignmentId))

/-- Such parameters are plain. -/
theorem plain_creation {depth : Nat}
    (hparams : params.Perm (creationIds hostId hostName assignmentId ++ options.toFields))
    (h : options.Fits) : Json.Plain (depth + 1) (.object params) := by
  rw [Json.plain_object]
  intro entry hentry
  rcases List.mem_append.mp (hparams.mem_iff.mp hentry) with hid | hoption
  · simp only [creationIds, List.mem_cons, List.not_mem_nil, or_false] at hid
    rcases hid with rfl | rfl | rfl <;> exact Json.plain_text _
  · exact SessionOptions.plain_fields h entry hoption

end Rpc.Call

/-! ### Round trips -/

namespace Wire

/-- All types round-trip. Numbers have to fit their words and times to lie in the years 0 to 9999;
texts can be any. -/
structure RoundTrips : Prop where
  operation (op : Operation) : op.Fits → RoundTrip Operation.decode op.toJson op
  change (c : Change) : c.Fits → RoundTrip Change.decode c.toJson c
  notice (n : Notice) : n.InRange → RoundTrip Notice.decode n.toJson n
  fact (f : Fact) : f.Fits → RoundTrip Fact.decode f.toJson f
  entry (e : Entry) : e.Fits → RoundTrip Entry.decode e.toJson e
  message (m : Message) : m.Fits → RoundTrip Message.decode m.toJson m
  participant (p : Participant) : p.Fits → RoundTrip Participant.decode p.toJson p
  snapshot (s : Snapshot) : s.Fits → RoundTrip Snapshot.decode s.toJson s
  listing (l : Listing) : l.Fits → RoundTrip Listing.decode l.toJson l
  options (o : SessionOptions) : o.Fits → RoundTrip SessionOptions.decode o.toJson o
  attendee (a : Attendee) : a.Fits → RoundTrip Attendee.decode a.toJson a
  recording (r : Recording) : r.Fits → RoundTrip Recording.decode r.toJson r
  config (c : Config) : c.Fits → RoundTrip Config.decode c.toJson c
  /-- Ids and encoded options make up the parameters of a creation. -/
  creation (hostId hostName assignmentId : String) (options : SessionOptions)
    (params : List (String × Json)) : options.Fits →
    params.Perm (Call.creationIds hostId hostName assignmentId ++ options.toFields) →
    RoundTrip Method.createSession.decode (.object params)
      (.createSession hostId hostName assignmentId options)
  /-- No field of a fact is a field of its envelope. -/
  entryKeys (f : Fact) : ("sequence" :: "timestamp" :: f.toFields.map Prod.fst).Nodup
  /-- No field of a notice is a field of its envelope. -/
  messageKeys (n : Notice) :
    ("session_id" :: "sequence_id" :: "timestamp" :: n.toFields.map Prod.fst).Nodup
  /-- No option is one of the other parameters of a creation. -/
  creationKeys (o : SessionOptions) :
    ("host_id" :: "host_name" :: "assignment_id" :: o.toFields.map Prod.fst).Nodup
  /-- A notice without a message has no field for it. -/
  noticeWithoutMessage (userId userName : String) :
    RoundTrip Notice.decode (.object [("type", .text "lecturer_assistance_requested"),
      ("user_id", .text userId), ("user_name", .text userName)])
      (.helpRequested userId userName none)
  /-- A fact without a message has no field for it. -/
  factWithoutMessage (userId : String) :
    RoundTrip Fact.decode (.object [("type", .text "lecturer_assistance_requested"),
      ("user_id", .text userId)]) (.helpRequested userId none)

/-- **Wire formats round-trip.** -/
theorem roundTrips : RoundTrips where
  operation op h := roundTrip op.reads (Operation.plain h)
  change c h := roundTrip (c.reads h.timestamp) (Change.plain h)
  notice _ h := roundTrip (Notice.reads h) (Notice.plain h)
  fact _ h := roundTrip (Fact.reads h) (Fact.plain h)
  entry _ h := roundTrip (Entry.reads h) (Entry.plain h)
  message _ h := roundTrip (Message.reads h) (Message.plain h)
  participant _ h := roundTrip (Participant.reads h) (Participant.plain h)
  snapshot _ h := roundTrip (Snapshot.reads h) (Snapshot.plain h)
  listing _ h := roundTrip (Listing.reads h) (Listing.plain h)
  options o h := roundTrip o.reads (SessionOptions.plain h)
  attendee a h := roundTrip (Attendee.reads h) a.plain
  recording _ h := roundTrip (Recording.reads h) (Recording.plain h)
  config c h := roundTrip c.reads (Config.plain h)
  creation _ _ _ _ _ h hparams :=
    roundTrip (Call.reads_creation hparams) (Call.plain_creation hparams h)
  entryKeys := Fact.nodup_keys
  messageKeys := Notice.nodup_keys
  creationKeys := SessionOptions.nodup_keys
  noticeWithoutMessage userId userName :=
    have h : (Notice.helpRequested userId userName none).InRange := trivial
    roundTrip (Notice.reads h) (Notice.plain h)
  factWithoutMessage userId :=
    have h : (Fact.helpRequested userId none).Fits := trivial
    roundTrip (Fact.reads h) (Fact.plain h)

/-- A change with texts that need escapes, the largest numbers, and the last time that can be
written. -/
def wildChange : Change :=
  ⟨"\"\\\n", "\x00é🎉", ⟨253402300799, 999999999⟩, .replace wordMax "\x7f\t" wordMax⟩

/-- A message at the earliest time, about a session with the name of a field. -/
def wildMessage : Message :=
  ⟨"timestamp", wordMax, -9223372036854775808, .codeChange wildChange ""⟩

/-- A session with someone in it whose cursor is at the largest position. -/
def wildSnapshot : Snapshot where
  id := ""
  title := "[null]"
  assignmentId := "\x7b\x7d"
  hostId := "host_id"
  status := .ended
  createdAt := ⟨-62167219200, 0⟩
  updatedAt := ⟨0, 1⟩
  participants := [⟨"", "\"", .lecturer, wordMax, ⟨1483228799, 1500000000⟩, ⟨-1, 1000⟩, false, "#"⟩]
  content := "a\r\nb"
  language := ""
  onlineCount := 0
  maxParticipants := wordMax
  isPublic := true
  lecturerAssistance := false
  changeCount := wordMax

/-- A recording with the largest number, and with a plea for help without words. -/
def wildRecording : Recording where
  sessionId := "events"
  entries := [⟨wordMax, ⟨-62167219200, 0⟩, .changed wildChange⟩,
    ⟨0, ⟨0, 0⟩, .helpRequested "" none⟩]
  attendees := [⟨"", "type", .observer, ⟨253402300799, 999999999⟩⟩]

/-- Messages, views, recordings, settings and parameters far from the usual are read back, and so
are parameters whose options come first. -/
theorem roundTrips_wild :
    (wildMessage.Fits ∧ RoundTrip Message.decode wildMessage.toJson wildMessage) ∧
      (wildSnapshot.Fits ∧ RoundTrip Snapshot.decode wildSnapshot.toJson wildSnapshot) ∧
      (wildRecording.Fits ∧ RoundTrip Recording.decode wildRecording.toJson wildRecording) ∧
      (Config.Fits ⟨0, "", wordMax, 0, wordMax, some 0, 0⟩ ∧
        RoundTrip Config.decode (Config.toJson ⟨0, "", wordMax, 0, wordMax, some 0, 0⟩)
          ⟨0, "", wordMax, 0, wordMax, some 0, 0⟩) ∧
      RoundTrip Method.createSession.decode
        (.object (SessionOptions.toFields ⟨some "", true, false, none, some wordMax⟩ ++
          Call.creationIds "h" "" "is_public"))
        (.createSession "h" "" "is_public" ⟨some "", true, false, none, some wordMax⟩) :=
  ⟨⟨by decide +kernel, roundTrips.message wildMessage (by decide +kernel)⟩,
    ⟨by decide +kernel, roundTrips.snapshot wildSnapshot (by decide +kernel)⟩,
    ⟨by decide +kernel, roundTrips.recording wildRecording (by decide +kernel)⟩,
    ⟨by decide +kernel, roundTrips.config _ (by decide +kernel)⟩,
    roundTrips.creation _ _ _ _ _ (by decide +kernel) List.perm_append_comm⟩

end Wire

end CoEdit
