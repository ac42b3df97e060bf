import CoEdit.Proofs.Decode.Places
import CoEdit.Rpc.Method

/-!
# What Methods Take

Which parameters a method takes, under which keys and in which order, which of them may be lacking
and what they stand for then, is told here in one table, apart from the decoders. A call is read
from just those parameters that give it according to the table.

## Main definitions

* `Operation.text?`, `Operation.length?`: the parts of an edit that not every kind has.
* `Call.GivenBy`: the table of calls, with the names and the parameters that give them.

## Main results

* `Operation.ofParts_eq_ok`: which loose parts make an edit.
* `Call.givenBy_iff`: a call is read from a name and parameters if they give it, and only then.
-/

namespace CoEdit

open CoEdit.Json (lookup)

/-! ### The parts of an edit -/

namespace Operation

variable {op : Operation}

/-- The text that the edit puts in, if its kind puts in one. -/
def text? : Operation → Option String
  | .insert _ text => some text
  | .delete .. => none
  | .replace _ text _ => some text

/-- The number of characters that the edit takes out, if its kind takes out any. -/
def length? : Operation → Option Nat
  | .insert .. => none
  | .delete _ length => some length
  | .replace _ _ length => some length

/-- **Loose parts make an edit** if they are all that its kind has; others are superfluous. -/
theorem ofParts_eq_ok {kind : String} {position : Nat} {text : Option String}
    {length : Option Nat} :
    ofParts kind position text length = .ok op ↔
      kind = op.kind ∧ position = op.position ∧ (∀ s, op.text? = some s → text = some s) ∧
        ∀ n, op.length? = some n → length = some n := by
  constructor
  · intro h
    unfold ofParts at h
    split at h
    · next hkind =>
      split at h
      · obtain rfl := Except.ok.inj h
        exact ⟨hkind, rfl, fun _ => id, nofun⟩
      · cases h
    · split at h
      · next hkind =>
        split at h
        · obtain rfl := Except.ok.inj h
          exact ⟨hkind, rfl, nofun, fun _ => id⟩
        · cases h
      · split at h
        · next hkind =>
          split at h
          · obtain rfl := Except.ok.inj h
            exact ⟨hkind, rfl, fun _ => id, fun _ => id⟩
          · cases h
        · cases h
  · rintro ⟨rfl, rfl, htext, hlength⟩
    cases op with
    | insert position s =>
        obtain rfl := htext s rfl
        rfl
    | delete position n =>
        obtain rfl := hlength n rfl
        rfl
    | replace position s n =>
        obtain rfl := htext s rfl
        obtain rfl := hlength n rfl
        rfl

end Operation

namespace Rpc

open CoEdit.Decode
open CoEdit.Decode.Record

/-! ### The table -/

/-- A role is denoted by its name, alone or as the key of an object with nothing in it. -/
def Denotes (j : Json) (role : Role) : Prop :=
  j = .text role.name ∨ j = .object [(role.name, .null)]

/-- **The table of calls**: a call is given by the name of its method together with parameters. -/
def Call.GivenBy (p : Json) (name : String) : Call → Prop
  | .applyChange sessionId authorId kind position text length =>
    name = "apply_change" ∧ Within p 6 ∧ param? p 0 "session_id" = some (.text sessionId) ∧
      param? p 1 "author_id" = some (.text authorId) ∧ param? p 2 "type" = some (.text kind) ∧
      param? p 3 "position" = some (.nat position) ∧ Optionally p 4 "text" .text text ∧
      Optionally p 5 "length" .nat length
  | .connect userId =>
    name = "connect" ∧ Within p 1 ∧ param? p 0 "user_id" = some (.text userId)
  | .createSession hostId hostName assignmentId options =>
    name = "create_session" ∧ ∃ fields, p = .object fields ∧
      lookup "host_id" fields = some (.text hostId) ∧
      Stands (lookup "host_name" fields) (· = .text ·) "" hostName ∧
      lookup "assignment_id" fields = some (.text assignmentId) ∧
      Stands (lookup "title" fields) (OrNull .text) none options.title ∧
      Stands (lookup "is_public" fields) (· = .boolean ·) false options.isPublic ∧
      Stands (lookup "lecturer_assistance" fields) (· = .boolean ·) false
        options.lecturerAssistance ∧
      Stands (lookup "language" fields) (OrNull .text) none options.language ∧
      Stands (lookup "max_participants" fields) (OrNull .nat) none options.maxParticipants
  | .disconnect userId =>
    name = "disconnect" ∧ Within p 1 ∧ param? p 0 "user_id" = some (.text userId)
  | .getPublicSessions => name = "get_public_sessions"
  | .getRecording sessionId replay =>
    name = "get_recording" ∧ Within p 2 ∧ param? p 0 "session_id" = some (.text sessionId) ∧
      Stands (param? p 1 "replay") (· = .boolean ·) false replay
  | .getSessionInfo sessionId =>
    name = "get_session_info" ∧ Within p 1 ∧ param? p 0 "session_id" = some (.text sessionId)
  | .joinSession sessionId userId userName role =>
    name = "join_session" ∧ Within p 4 ∧ param? p 0 "session_id" = some (.text sessionId) ∧
      param? p 1 "user_id" = some (.text userId) ∧
      Stands (param? p 2 "user_name") (· = .text ·) "" userName ∧
      Stands (param? p 3 "role") Denotes .participant role
  | .leaveSession userId =>
    name = "leave_session" ∧ Within p 1 ∧ param? p 0 "user_id" = some (.text userId)
  | .requestAssistance sessionId userId message =>
    name = "request_assistance" ∧ Within p 3 ∧ param? p 0 "session_id" = some (.text sessionId) ∧
      param? p 1 "user_id" = some (.text userId) ∧ Optionally p 2 "message" .text message
  | .updateCursor userId position =>
    name = "update_cursor" ∧ Within p 2 ∧ param? p 0 "user_id" = some (.text userId) ∧
      param? p 1 "position" = some (.nat position)

/-- The names of the methods. -/
def methodNames : List String :=
  ["apply_change", "connect", "create_session", "disconnect", "get_public_sessions",
    "get_recording", "get_session_info", "join_session", "leave_session", "request_assistance",
    "update_cursor"]

variable {p : Json} {call : Call}

theorem caseNamed_role {name : String} {role : Role} :
    caseNamed ([Role.host, .participant, .observer, .lecturer].map fun r => (r.name, r)) name =
      .ok role ↔ name = role.name := by
  constructor
  · intro h
    rw [caseNamed] at h
    split at h
    · next found hlook =>
      obtain rfl := Except.ok.inj h
      obtain ⟨r, -, heq⟩ := List.mem_map.mp (Table.mem_of_lookup hlook)
      obtain ⟨rfl, rfl⟩ := Prod.mk.inj heq
      rfl
    · cases h
  · rintro rfl
    cases role <;> rfl

theorem role_eq_ok_iff {j : Json} {role : Role} :
    Role.decode .direct j = .ok role ↔ Denotes j role := by
  constructor
  · intro h
    rw [Role.decode] at h
    unfold choice at h
    split at h
    · exact .inl (congrArg Json.text (caseNamed_role.mp h))
    · next name payload =>
      obtain ⟨r, hr, h⟩ := bind_eq_ok.mp h
      obtain ⟨_, hpayload, h⟩ := bind_eq_ok.mp h
      obtain rfl := Except.ok.inj h
      obtain rfl := caseNamed_role.mp hr
      cases payload with
      | null => exact .inr rfl
      | object fields => cases fields <;> cases hpayload
      | _ => cases hpayload
    · cases h
    · cases h
  · rintro (rfl | rfl)
    · exact caseNamed_role.mpr rfl
    · rw [Role.decode, choice, caseNamed_role.mpr rfl]
      rfl

theorem at_text {key s : String} {i : Nat} :
    (Record.required key text).At p i s ↔ param? p i key = some (.text s) :=
  at_required text_eq_ok_iff

theorem at_count {key : String} {i n : Nat} :
    (Record.required key count).At p i n ↔ param? p i key = some (.nat n) :=
  at_required count_eq_ok_iff

theorem at_message {key : String} {i : Nat} {s : Option String} :
    (Record.optional key (nullable text)).At p i s ↔ Optionally p i key .text s :=
  at_optional text_eq_ok_iff nofun

theorem at_length {key : String} {i : Nat} {n : Option Nat} :
    (Record.optional key (nullable count)).At p i n ↔ Optionally p i key .nat n :=
  at_optional count_eq_ok_iff nofun

/-! ### Reading calls -/

namespace Call

/-- A call with one parameter, a text. -/
theorem decode_text_eq_ok_iff {make : String → Call} {key name : String} :
    (make <$> Record.required key text).decode name .direct p = .ok call ↔
      ∃ s, call = make s ∧ Within p 1 ∧ param? p 0 key = some (.text s) := by
  simp only [decode_eq_ok_iff, at_map, at_text]
  constructor
  · rintro ⟨hp, s, hs, rfl⟩
    exact ⟨s, rfl, hp, hs⟩
  · rintro ⟨s, rfl, hp, hs⟩
    exact ⟨hp, s, hs, rfl⟩

theorem decode_change_eq_ok_iff {name : String} :
    changeRecord.decode name .direct p = .ok call ↔
      ∃ sessionId authorId kind position text length,
        call = .applyChange sessionId authorId kind position text length ∧
        call.GivenBy p "apply_change" := by
  simp only [changeRecord, decode_eq_ok_iff, at_seq, at_map, at_text, at_count, at_message,
    at_length]
  constructor
  · rintro ⟨hp, _, length, ⟨_, text, ⟨_, position, ⟨_, kind, ⟨_, authorId, ⟨sessionId, h₀, rfl⟩,
      h₁, rfl⟩, h₂, rfl⟩, h₃, rfl⟩, h₄, rfl⟩, h₅, rfl⟩
    exact ⟨sessionId, authorId, kind, position, text, length, rfl, rfl, hp, h₀, h₁, h₂, h₃, h₄, h₅⟩
  · rintro ⟨sessionId, authorId, kind, position, text, length, rfl, -, hp, h₀, h₁, h₂, h₃, h₄, h₅⟩
    exact ⟨hp, _, length, ⟨_, text, ⟨_, position, ⟨_, kind, ⟨_, authorId, ⟨sessionId, h₀, rfl⟩,
      h₁, rfl⟩, h₂, rfl⟩, h₃, rfl⟩, h₄, rfl⟩, h₅, rfl⟩

theorem decode_join_eq_ok_iff {name : String} :
    joinRecord.decode name .direct p = .ok call ↔
      ∃ sessionId userId userName role,
        call = .joinSession sessionId userId userName role ∧ call.GivenBy p "join_session" := by
  rw [joinRecord, decode_eq_ok_iff]
  constructor
  · rintro ⟨hp, h⟩
    simp only [at_seq, at_map, at_text, at_defaulted text_eq_ok_iff hp,
      at_defaulted role_eq_ok_iff hp] at h
    obtain ⟨_, role, ⟨_, userName, ⟨_, userId, ⟨sessionId, h₀, rfl⟩, h₁, rfl⟩, h₂, rfl⟩, h₃, rfl⟩ :=
      h
    exact ⟨sessionId, userId, userName, role, rfl, rfl, hp, h₀, h₁, h₂, h₃⟩
  · rintro ⟨sessionId, userId, userName, role, rfl, -, hp, h₀, h₁, h₂, h₃⟩
    refine ⟨hp, ?_⟩
    simp only [at_seq, at_map, at_text, at_defaulted text_eq_ok_iff hp,
      at_defaulted role_eq_ok_iff hp]
    exact ⟨_, role, ⟨_, userName, ⟨_, userId, ⟨sessionId, h₀, rfl⟩, h₁, rfl⟩, h₂, rfl⟩, h₃, rfl⟩

theorem decode_assistance_eq_ok_iff {name : String} :
    assistanceRecord.decode name .direct p = .ok call ↔
      ∃ sessionId userId message,
        call = .requestAssistance sessionId userId message ∧
        call.GivenBy p "request_assistance" := by
  simp only [assistanceRecord, decode_eq_ok_iff, at_seq, at_map, at_text, at_message]
  constructor
  · rintro ⟨hp, _, message, ⟨_, userId, ⟨sessionId, h₀, rfl⟩, h₁, rfl⟩, h₂, rfl⟩
    exact ⟨sessionId, userId, message, rfl, rfl, hp, h₀, h₁, h₂⟩
  · rintro ⟨sessionId, userId, message, rfl, -, hp, h₀, h₁, h₂⟩
    exact ⟨hp, _, message, ⟨_, userId, ⟨sessionId, h₀, rfl⟩, h₁, rfl⟩, h₂, rfl⟩

theorem decode_recording_eq_ok_iff {name : String} :
    recordingRecord.decode name .direct p = .ok call ↔
      ∃ sessionId replay,
        call = .getRecording sessionId replay ∧ call.GivenBy p "get_recording" := by
  rw [recordingRecord, decode_eq_ok_iff]
  constructor
  · rintro ⟨hp, h⟩
    simp only [at_seq, at_map, at_text, at_defaulted bool_eq_ok_iff hp] at h
    obtain ⟨_, replay, ⟨sessionId, h₀, rfl⟩, h₁, rfl⟩ := h
    exact ⟨sessionId, replay, rfl, rfl, hp, h₀, h₁⟩
  · rintro ⟨sessionId, replay, rfl, -, hp, h₀, h₁⟩
    refine ⟨hp, ?_⟩
    simp only [at_seq, at_map, at_text, at_defaulted bool_eq_ok_iff hp]
    exact ⟨_, replay, ⟨sessionId, h₀, rfl⟩, h₁, rfl⟩

theorem decode_cursor_eq_ok_iff {name : String} :
    cursorRecord.decode name .direct p = .ok call ↔
      ∃ userId position,
        call = .updateCursor userId position ∧ call.GivenBy p "update_cursor" := by
  simp only [cursorRecord, decode_eq_ok_iff, at_seq, at_map, at_text, at_count]
  constructor
  · rintro ⟨hp, _, position, ⟨userId, h₀, rfl⟩, h₁, rfl⟩
    exact ⟨userId, position, rfl, rfl, hp, h₀, h₁⟩
  · rintro ⟨userId, position, rfl, -, hp, h₀, h₁⟩
    exact ⟨hp, _, position, ⟨userId, h₀, rfl⟩, h₁, rfl⟩

/-- The parameters of a creation that are not options. -/
theorem ofFields_creation_eq_ok_iff {fields : List (String × Json)}
    {own : String × String × String} :
    creationRecord.ofFields .direct fields = .ok own ↔
      lookup "host_id" fields = some (.text own.1) ∧
        Stands (lookup "host_name" fields) (· = .text ·) "" own.2.1 ∧
        lookup "assignment_id" fields = some (.text own.2.2) := by
  have hrequired : ∀ {key s}, (Record.required key text).ofFields .direct fields = .ok s ↔
      lookup key fields = some (.text s) := fun {key s} => by
    simp [ofFields_required_eq_ok, text_eq_ok_iff]
  simp only [creationRecord, ofFields_seq_eq_ok, ofFields_map_eq_ok, hrequired,
    ofFields_defaulted text_eq_ok_iff]
  constructor
  · rintro ⟨_, assignmentId, ⟨_, hostName, ⟨hostId, h₀, rfl⟩, h₁, rfl⟩, h₂, rfl⟩
    exact ⟨h₀, h₁, h₂⟩
  · rintro ⟨h₀, h₁, h₂⟩
    exact ⟨_, _, ⟨_, _, ⟨_, h₀, rfl⟩, h₁, rfl⟩, h₂, rfl⟩

/-- The options, as they are read from what is left of an object. -/
theorem ofFields_options_eq_ok_iff {fields : List (String × Json)} {options : SessionOptions} :
    SessionOptions.record.ofFields .buffered fields = .ok options ↔
      Stands (lookup "title" fields) (OrNull .text) none options.title ∧
        Stands (lookup "is_public" fields) (· = .boolean ·) false options.isPublic ∧
        Stands (lookup "lecturer_assistance" fields) (· = .boolean ·) false
          options.lecturerAssistance ∧
        Stands (lookup "language" fields) (OrNull .text) none options.language ∧
        Stands (lookup "max_participants" fields) (OrNull .nat) none options.maxParticipants := by
  simp only [SessionOptions.record, ofFields_seq_eq_ok, ofFields_map_eq_ok,
    ofFields_defaulted bool_eq_ok_iff,
    ofFields_defaulted (nullable_eq_ok_iff .text text_eq_ok_iff nofun),
    ofFields_defaulted (nullable_eq_ok_iff .nat count_eq_ok_iff nofun)]
  constructor
  · rintro ⟨_, capacity, ⟨_, language, ⟨_, assistance, ⟨_, isPublic, ⟨title, h₀, rfl⟩, h₁, rfl⟩,
      h₂, rfl⟩, h₃, rfl⟩, h₄, rfl⟩
    exact ⟨h₀, h₁, h₂, h₃, h₄⟩
  · rintro ⟨h₀, h₁, h₂, h₃, h₄⟩
    exact ⟨_, _, ⟨_, _, ⟨_, _, ⟨_, _, ⟨_, h₀, rfl⟩, h₁, rfl⟩, h₂, rfl⟩, h₃, rfl⟩, h₄, rfl⟩

/-- The parameters of a creation are read from an object only, and the options from those of its
entries that are not the other parameters. -/
theorem decode_creation_eq_ok_iff :
    decodeCreation .direct p = .ok call ↔
      ∃ hostId hostName assignmentId options,
        call = .createSession hostId hostName assignmentId options ∧
        call.GivenBy p "create_session" := by
  cases p with
  | object fields =>
      -- What the envelope takes out is not among the options.
      have hothers : ∀ key, key ∉ ["host_id", "host_name", "assignment_id"] →
          lookup key
              (fields.filter (!List.contains ["host_id", "host_name", "assignment_id"] ·.1)) =
            lookup key fields := fun key hkey => by
        rw [Json.lookup_filter fun key =>
          !List.contains ["host_id", "host_name", "assignment_id"] key]
        simp [hkey]
      have hoptions : ∀ options : SessionOptions,
          SessionOptions.record.ofObject .buffered
              (fields.filter (!List.contains ["host_id", "host_name", "assignment_id"] ·.1)) =
                .ok options ↔ _ := fun options =>
        mapError_eq_ok.trans ofFields_options_eq_ok_iff
      rw [hothers _ (by decide), hothers _ (by decide), hothers _ (by decide),
        hothers _ (by decide), hothers _ (by decide)] at hoptions
      constructor
      · intro h
        obtain ⟨⟨hostId, hostName, assignmentId⟩, hown, h⟩ := bind_eq_ok.mp h
        obtain ⟨options, hrest, h⟩ := bind_eq_ok.mp h
        obtain rfl := Except.ok.inj h
        obtain ⟨h₀, h₁, h₂⟩ := ofFields_creation_eq_ok_iff.mp (mapError_eq_ok.mp hown)
        exact ⟨hostId, hostName, assignmentId, options, rfl, rfl, fields, rfl, h₀, h₁, h₂,
          (hoptions options).mp hrest⟩
      · rintro ⟨hostId, hostName, assignmentId, options, rfl, -, _, heq, h₀, h₁, h₂, hrest⟩
        obtain rfl := Json.object.inj heq
        have hown : creationRecord.ofFields .direct fields = .ok (hostId, hostName, assignmentId) :=
          ofFields_creation_eq_ok_iff.mpr ⟨h₀, h₁, h₂⟩
        exact bind_eq_ok.mpr ⟨_, mapError_eq_ok.mpr hown,
          bind_eq_ok.mpr ⟨options, (hoptions options).mpr hrest, rfl⟩⟩
  | _ =>
      refine iff_of_false nofun ?_
      rintro ⟨_, _, _, _, rfl, -, _, heq, -⟩
      cases heq

end Call

theorem Method.named?_eq_some_iff {name : String} {m : Method} :
    named? name = some m ↔ m.name = name := by
  constructor
  · intro h
    rw [named?] at h
    simpa using List.find?_some h
  · rintro rfl
    cases m <;> rfl

theorem Method.call_eq_ok_iff {m : Method} :
    m.call (some p) = .ok call ↔ m.decode .direct p = .ok call :=
  mapError_eq_ok

/-- **A call is read** from the name of its method and parameters that give it, and from no
others. -/
theorem Call.givenBy_iff {name : String} :
    call.GivenBy p name ↔ ∃ m, Method.named? name = some m ∧ m.call (some p) = .ok call := by
  simp only [Method.named?_eq_some_iff, Method.call_eq_ok_iff]
  constructor
  · intro h
    cases call with
    | applyChange =>
      obtain ⟨rfl, h⟩ := h
      exact ⟨.applyChange, rfl, decode_change_eq_ok_iff.mpr ⟨_, _, _, _, _, _, rfl, rfl, h⟩⟩
    | connect =>
      obtain ⟨rfl, h⟩ := h
      exact ⟨.connect, rfl, decode_text_eq_ok_iff.mpr ⟨_, rfl, h⟩⟩
    | createSession =>
      obtain ⟨rfl, h⟩ := h
      exact ⟨.createSession, rfl, decode_creation_eq_ok_iff.mpr ⟨_, _, _, _, rfl, rfl, h⟩⟩
    | disconnect =>
      obtain ⟨rfl, h⟩ := h
      exact ⟨.disconnect, rfl, decode_text_eq_ok_iff.mpr ⟨_, rfl, h⟩⟩
    | getPublicSessions =>
      obtain rfl := h
      exact ⟨.getPublicSessions, rfl, rfl⟩
    | getRecording =>
      obtain ⟨rfl, h⟩ := h
      exact ⟨.getRecording, rfl, decode_recording_eq_ok_iff.mpr ⟨_, _, rfl, rfl, h⟩⟩
    | getSessionInfo =>
      obtain ⟨rfl, h⟩ := h
      exact ⟨.getSessionInfo, rfl, decode_text_eq_ok_iff.mpr ⟨_, rfl, h⟩⟩
    | joinSession =>
      obtain ⟨rfl, h⟩ := h
      exact ⟨.joinSession, rfl, decode_join_eq_ok_iff.mpr ⟨_, _, _, _, rfl, rfl, h⟩⟩
    | leaveSession =>
      obtain ⟨rfl, h⟩ := h
      exact ⟨.leaveSession, rfl, decode_text_eq_ok_iff.mpr ⟨_, rfl, h⟩⟩
    | requestAssistance =>
      obtain ⟨rfl, h⟩ := h
      exact ⟨.requestAssistance, rfl, decode_assistance_eq_ok_iff.mpr ⟨_, _, _, rfl, rfl, h⟩⟩
    | updateCursor =>
      obtain ⟨rfl, h⟩ := h
      exact ⟨.updateCursor, rfl, decode_cursor_eq_ok_iff.mpr ⟨_, _, rfl, rfl, h⟩⟩
  · rintro ⟨m, rfl, h⟩
    cases m with
    | applyChange =>
      obtain ⟨_, _, _, _, _, _, rfl, h⟩ := decode_change_eq_ok_iff.mp h
      exact h
    | connect | disconnect | getSessionInfo | leaveSession =>
      obtain ⟨_, rfl, hgiven⟩ := decode_text_eq_ok_iff.mp h
      exact ⟨rfl, hgiven⟩
    | createSession =>
      obtain ⟨_, _, _, _, rfl, h⟩ := decode_creation_eq_ok_iff.mp h
      exact h
    | getPublicSessions =>
      obtain rfl := Except.ok.inj h
      exact rfl
    | getRecording =>
      obtain ⟨_, _, rfl, h⟩ := decode_recording_eq_ok_iff.mp h
      exact h
    | joinSession =>
      obtain ⟨_, _, _, _, rfl, h⟩ := decode_join_eq_ok_iff.mp h
      exact h
    | requestAssistance =>
      obtain ⟨_, _, _, rfl, h⟩ := decode_assistance_eq_ok_iff.mp h
      exact h
    | updateCursor =>
      obtain ⟨_, _, rfl, h⟩ := decode_cursor_eq_ok_iff.mp h
      exact h

/-- These are all names of methods. -/
theorem mem_methodNames_iff {name : String} :
    name ∈ methodNames ↔ ∃ m, Method.named? name = some m := by
  simp only [Method.named?_eq_some_iff]
  constructor
  · intro h
    have hnames : methodNames = Method.all.map Method.name := rfl
    obtain ⟨m, -, hm⟩ := List.mem_map.mp (hnames ▸ h)
    exact ⟨m, hm⟩
  · rintro ⟨m, rfl⟩
    cases m <;> decide

end Rpc

end CoEdit
