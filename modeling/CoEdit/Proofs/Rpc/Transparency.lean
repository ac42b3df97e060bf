import CoEdit.Proofs.Rpc.Asking
import CoEdit.Proofs.Rpc.Requests

/-!
# Remote Calls Add Nothing and Hide Nothing

A line that names a method comes to what the method asks for: a command, whose answer is worded as a
value, or a look at the engine. Whether the line has an id decides on nothing but whether there is a
reply. A reply gives the id back as it was read.

## Main definitions

* `Transparent`: all that is to be said of the reply to a line, and of the engine after it.

## Main results

* `handle_transparent`: the reply to every line is transparent.
* `ids_not_always_echoed`: the id of a reply need not be the id of its request.
-/

namespace CoEdit.Rpc

open CoEdit.Time (Instant)
open CoEdit.Engine
open CoEdit.Decode (param? Within)

/-! ### Replies -/

/-- The object of a reply with a result. -/
def resultObject (id value : Json) : Json :=
  .object [("jsonrpc", .text "2.0"), ("id", id), ("result", value)]

/-- The objects of replies with an error of some code. -/
def IsErrorObject (id : Json) (code : Int) (j : Json) : Prop :=
  ∃ more, j = .object [("jsonrpc", .text "2.0"), ("id", id),
    ("error", .object (("code", .whole code) :: more))]

/-- What is to be said of the reply to a line and of the engine after it. -/
structure Transparent (s : Server) (e : Engine) (now : Clock) (line : String)
    (reply : Option Json) (e' : Engine) : Prop where
  /-- What the text of a value is read as, and the id that it gives. -/
  spelled : ∀ j, Request.Legible j → line = j.render →
    (∀ r, Request.parse? line = some r ↔ r.GivenBy j.sorted) ∧
      givenId? line = param? j.sorted 1 "id"
  /-- The table tells what the names that are known ask for, whatever the parameters. -/
  asked : ∀ p name, name ∈ Server.knownNames → ∃ ask, s.Asks p name ask
  /-- To a line that is no request. -/
  unread : Request.parse? line = none →
    e' = e ∧ ∃ j, reply = some j ∧ IsErrorObject .null (-32700) j
  /-- To a request of another version. -/
  otherVersion : ∀ r, Request.parse? line = some r → r.version ≠ "2.0" →
    e' = e ∧ ∃ j, reply = some j ∧ IsErrorObject ((givenId? line).getD .null) (-32600) j
  /-- The engine after any other request, whatever the id. -/
  effect : ∀ r ask, Request.parse? line = some r → r.version = "2.0" →
    s.Asks (r.params.getD (.object [])) r.method ask → e' = (ask.outcome e now).2
  /-- The engine after a request for something unknown. -/
  unmoved : ∀ r, Request.parse? line = some r → r.version = "2.0" →
    r.method ∉ Server.knownNames → e' = e
  /-- The reply to a request without an id. -/
  silent : ∀ r, Request.parse? line = some r → r.version = "2.0" →
    givenId? line = none ∨ givenId? line = some .null → reply = none
  /-- The reply to a request with an id. -/
  answered : ∀ r id ask, Request.parse? line = some r → r.version = "2.0" →
    givenId? line = some id → id ≠ .null → s.Asks (r.params.getD (.object [])) r.method ask →
    ∃ j, reply = some j ∧ match (ask.outcome e now).1 with
      | .ok value => j = resultObject id value.sorted
      | .error error => IsErrorObject id error.category.code j
  /-- The reply to a request with an id for something unknown. -/
  unknown : ∀ r id, Request.parse? line = some r → r.version = "2.0" →
    givenId? line = some id → id ≠ .null → r.method ∉ Server.knownNames →
    ∃ j, reply = some j ∧ IsErrorObject id (-32601) j

/-- A failure is worded as an error of its code. -/
theorem isErrorObject_failure {id : Json} (hid : id.Canonical) (reason : Failure) :
    IsErrorObject id reason.code (Reply.failure id reason).toJson := by
  rw [IsErrorObject, Reply.toJson, hid]
  exact ⟨_, rfl⟩

theorem canonical_getD_givenId? (line : String) : ((givenId? line).getD .null).Canonical := by
  cases hid : givenId? line with
  | none => rfl
  | some id => exact canonical_givenId? hid

/-- A request has an id exactly if its line gives one other than null. -/
theorem Request.id_cases {line : String} {r : Request} (h : parse? line = some r) :
    ((givenId? line = none ∨ givenId? line = some .null) ∧ r.id = none ∧
        (givenId? line).getD .null = .null) ∨
      ∃ id, givenId? line = some id ∧ id ≠ .null ∧ r.id = some id := by
  have hid := id_of_parse? h
  cases hgiven : givenId? line with
  | none =>
    rw [hgiven] at hid
    exact .inl ⟨.inl rfl, hid, rfl⟩
  | some id =>
    rw [hgiven] at hid
    cases id with
    | null => exact .inl ⟨.inr rfl, hid, rfl⟩
    | _ => exact .inr ⟨_, rfl, nofun, hid⟩

/-- A reply to a request without an id would have none, and to one with an id has this. -/
theorem Request.getD_id {line : String} {r : Request} (h : parse? line = some r) :
    r.id.getD .null = (givenId? line).getD .null := by
  rcases id_cases h with ⟨-, hid, hnull⟩ | ⟨id, hgiven, -, hid⟩
  · rw [hid, hnull]
    rfl
  · rw [hid, hgiven]

theorem Request.id_of_given {line : String} {r : Request} {id : Json} (h : parse? line = some r)
    (hgiven : givenId? line = some id) (hnull : id ≠ .null) : r.id = some id := by
  rcases id_cases h with ⟨hnone | hnone, -, -⟩ | ⟨id', hgiven', -, hid⟩
  · rw [hgiven] at hnone
    cases hnone
  · exact absurd (Option.some.inj (hgiven.symm.trans hnone)) hnull
  · rw [hid, hgiven'.symm.trans hgiven]

/-- The reply to a request with an id. -/
def replyWith (id : Json) : Except Failure Json → Reply
  | .ok value => .result id value
  | .error reason => .failure id reason

/-- The reply to a request and the engine after it, told from what its method asks for. -/
theorem Server.handle_of_parse? (s : Server) (e : Engine) (now : Clock) {line : String}
    {r : Request} (hr : Request.parse? line = some r) (hversion : r.version = "2.0") :
    s.handle e now line = (r.id.map (replyWith · (s.outcome e now r.method r.params).1),
      (s.outcome e now r.method r.params).2) := by
  have hvalid : r.isValid = true := decide_eq_true hversion
  rw [handle, hr]
  dsimp only
  rw [hvalid, dispatch_eq_outcome, Request.isNotification]
  cases r.id with
  | none => rfl
  | some id =>
    cases (s.outcome e now r.method r.params).1 with
    | ok => rfl
    | error => rfl

/-- What is asked for is told alike, up to the details of a refusal. -/
theorem Ask.Like.answer {ask other : Ask} (h : ask.Like other) (e : Engine) (now : Clock)
    {id : Json} (hid : id.Canonical) :
    match (ask.outcome e now).1 with
    | .ok value => (replyWith id ((other.outcome e now).1.mapError .ofError)).toJson =
        resultObject id value.sorted
    | .error error => IsErrorObject id error.category.code
        (replyWith id ((other.outcome e now).1.mapError .ofError)).toJson := by
  cases h with
  | refl =>
    cases (ask.outcome e now).1 with
    | ok value =>
      change Json.object [_, ("id", id.sorted), _] = resultObject id value.sorted
      rw [hid]
      rfl
    | error error => exact isErrorObject_failure hid (.ofError error)
  | refuse h =>
    change IsErrorObject id _ _
    rw [h]
    exact isErrorObject_failure hid (.ofError _)

/-- **Remote calls add nothing to the engine and hide nothing of it.** -/
theorem handle_transparent (s : Server) (e : Engine) (now : Clock) (line : String) :
    Transparent s e now line ((s.handle e now line).1.map Reply.toJson)
      (s.handle e now line).2 where
  spelled j hj hline := by
    rw [hline]
    exact Request.parse?_render hj
  asked p name hname := s.exists_asks p hname
  unread hnone := by
    have hnull : Json.Canonical .null := rfl
    rw [Server.handle, hnone]
    exact ⟨rfl, _, rfl, isErrorObject_failure hnull _⟩
  otherVersion r hr hversion := by
    have hvalid : r.isValid = false := decide_eq_false hversion
    rw [Server.handle, hr, ← Request.getD_id hr]
    dsimp only
    rw [hvalid]
    refine ⟨rfl, _, rfl, isErrorObject_failure ?_ _⟩
    rw [Request.getD_id hr]
    exact canonical_getD_givenId? line
  effect r ask hr hversion hasks := by
    obtain ⟨other, hother, hlike⟩ := hasks.exists_ask?
    rw [s.handle_of_parse? e now hr hversion, Server.outcome, hother]
    exact (hlike.snd_eq e now).symm
  unmoved r hr hversion hname := by
    rw [s.handle_of_parse? e now hr hversion, Server.outcome, Server.ask?_eq_none hname]
  silent r hr hversion hgiven := by
    rw [s.handle_of_parse? e now hr hversion]
    rcases Request.id_cases hr with ⟨-, hid, -⟩ | ⟨id, hid, hnull, -⟩
    · rw [hid]
      rfl
    · rcases hgiven with hgiven | hgiven
      · rw [hid] at hgiven
        cases hgiven
      · exact absurd (Option.some.inj (hid.symm.trans hgiven)) hnull
  answered r id ask hr hversion hgiven hnull hasks := by
    obtain ⟨other, hother, hlike⟩ := hasks.exists_ask?
    rw [s.handle_of_parse? e now hr hversion, Request.id_of_given hr hgiven hnull, Server.outcome,
      hother]
    exact ⟨_, rfl, hlike.answer e now (canonical_givenId? hgiven)⟩
  unknown r id hr hversion hgiven hnull hname := by
    rw [s.handle_of_parse? e now hr hversion, Request.id_of_given hr hgiven hnull, Server.outcome,
      Server.ask?_eq_none hname]
    exact ⟨_, rfl, isErrorObject_failure (canonical_givenId? hgiven) _⟩

/-- The id of a reply, if it is an object with one. -/
def repliedId? (reply : Option Reply) : Option Json :=
  reply.bind (·.toJson.field? "id")

/-- An id that is more than a word does not come back. -/
theorem repliedId?_largeId (s : Server) (e : Engine) (now : Clock) {id : Nat}
    (h : Decimal.wordMax < id) :
    repliedId? (s.handle e now (Request.pingWith id).render).1 ≠ some (.nat id) := by
  rcases Request.parse?_largeId h with hread | ⟨bits, hread⟩
  · rw [Server.handle, hread]
    change some Json.null ≠ some (.nat id)
    simp [Json.nat]
  · rw [s.handle_of_parse? e now hread rfl]
    have hsame : ∀ result, repliedId? (some (replyWith (.double bits) result)) =
        some (.double bits) := fun result => by cases result <;> rfl
    change repliedId? (some (replyWith _ _)) ≠ some (.nat id)
    rw [hsame]
    simp [Json.nat]

/-- **Not every id comes back**: to the ping with the id 18446744073709551617, which is more than a
word of 64 bits holds, there is a reply, and its id is not that number. -/
theorem ids_not_always_echoed :
    let line := "\x7b\"jsonrpc\":\"2.0\",\"id\":18446744073709551617,\"method\":\"ping\"\x7d"
    let e := (Server.start {} (Engine.new .default)).2
    let reply := ((Server.start {} (Engine.new .default)).1.handle e (.still ⟨0, 0⟩) line).1
    line = (Json.object [("jsonrpc", .text "2.0"), ("id", .nat 18446744073709551617),
        ("method", .text "ping")]).render ∧
      reply.isSome ∧ repliedId? reply ≠ some (.nat 18446744073709551617) := by
  intro line e reply
  have hline : line = (Request.pingWith 18446744073709551617).render := by decide +kernel
  have hlarge : Decimal.wordMax < 18446744073709551617 := by decide
  refine ⟨hline, ?_, ?_⟩
  · change (Server.handle _ e (.still ⟨0, 0⟩) line).1.isSome = true
    rw [hline]
    rcases Request.parse?_largeId hlarge with hread | ⟨bits, hread⟩
    · rw [Server.handle, hread]
      rfl
    · rw [Server.handle_of_parse? _ e (.still ⟨0, 0⟩) hread rfl]
      rfl
  · change repliedId? (Server.handle _ e (.still ⟨0, 0⟩) line).1 ≠ _
    rw [hline]
    exact repliedId?_largeId _ e (.still ⟨0, 0⟩) hlarge

/-- The entries of a request without an id by which Ada leaves, with its parameters in order. -/
def adaLeaves : List (String × Json) :=
  [("method", .text "leave_session"), ("params", .array [.text "ada"]), ("jsonrpc", .text "2.0")]

/-- The entries of a request by which Ada joins the session of Bob, who keeps it to himself. -/
def adaJoins : List (String × Json) :=
  [("jsonrpc", .text "2.0"), ("id", .array [.text "x", .whole (-1)]),
    ("method", .text "join_session"),
    ("params", .array [.text "$s1", .text "ada"])]

theorem legible_adaLeaves : Request.Legible (.object adaLeaves) where
  plain := .object (by simp [adaLeaves])
  keys fields h := by
    obtain rfl := Json.object.inj h
    simp [adaLeaves, Request.keys]
  nodup fields h := by
    obtain rfl := Json.object.inj h
    simp [adaLeaves]

theorem legible_adaJoins : Request.Legible (.object adaJoins) where
  plain := .object (by simp [adaJoins, Decimal.signedMax, Decimal.wordMax])
  keys fields h := by
    obtain rfl := Json.object.inj h
    simp [adaJoins, Request.keys]
  nodup fields h := by
    obtain rfl := Json.object.inj h
    simp [adaJoins]

/-- Without an id Ada leaves her session all the same, and gets no reply. When she asks to be let
into the full session of Bob instead, she is told that she cannot, under the id she has given. -/
theorem handle_transparent_fullHouse :
    let e := (Engine.new .default).after fullHouse
    let s : Server := ⟨{}, 0, true, fun _ => Server.parseDetails⟩
    ((s.handle e (.still ⟨2, 0⟩) (Json.object adaLeaves).render).1.map Reply.toJson = none ∧
        (s.handle e (.still ⟨2, 0⟩) (Json.object adaLeaves).render).2 =
          (e.step (.still ⟨2, 0⟩) (.leave "ada")).2 ∧
        e.whereabouts.get? "ada" = some "$s0" ∧
        (e.step (.still ⟨2, 0⟩) (.leave "ada")).2.whereabouts.get? "ada" = none) ∧
      (s.handle e (.still ⟨2, 0⟩) (Json.object adaJoins).render).2 = e ∧
      ∃ j, (s.handle e (.still ⟨2, 0⟩) (Json.object adaJoins).render).1.map Reply.toJson = some j ∧
        IsErrorObject (.array [.text "x", .whole (-1)]) (-32009) j := by
  intro e s
  have hhome : e.whereabouts.get? "ada" = some "$s0" := by decide +kernel
  have hgone : (e.step (.still ⟨2, 0⟩) (.leave "ada")).2.whereabouts.get? "ada" = none := by
    decide +kernel
  have hfull : (e.step (.still ⟨2, 0⟩) (.join "$s1" "ada" "" .participant)).1 =
      .error (.sessionFull "$s1" 1) := by
    decide +kernel
  clear_value e
  have hleaves := handle_transparent s e (.still ⟨2, 0⟩) (Json.object adaLeaves).render
  have hjoins := handle_transparent s e (.still ⟨2, 0⟩) (Json.object adaJoins).render
  constructor
  · let r : Request := ⟨"2.0", none, "leave_session", some (.array [.text "ada"])⟩
    have hnodup := legible_adaLeaves.nodup adaLeaves rfl
    obtain ⟨hread, hid⟩ := hleaves.spelled (.object adaLeaves) legible_adaLeaves rfl
    have hr : Request.parse? (Json.object adaLeaves).render = some r :=
      (hread r).mpr ((Request.givenBy_sorted hnodup).mpr
        ⟨trivial, rfl, ⟨rfl, fun _ => ⟨_, rfl⟩⟩, rfl, ⟨rfl, fun _ => ⟨_, rfl⟩⟩⟩)
    have hgiven : Call.GivenBy (.array [.text "ada"]) "leave_session" (.leaveSession "ada") :=
      ⟨rfl, Nat.le_refl 1, rfl⟩
    have hnone : givenId? (Json.object adaLeaves).render = none := by
      rw [hid, Request.param?_sorted hnodup]
      rfl
    have heffect := hleaves.effect r _ hr rfl (.call hgiven .leave)
    dsimp only [Ask.outcome] at heffect
    exact ⟨hleaves.silent r hr rfl (.inl hnone), heffect, hhome, hgone⟩
  · let r : Request := ⟨"2.0", some (.array [.text "x", .whole (-1)]), "join_session",
      some (.array [.text "$s1", .text "ada"])⟩
    have hnodup := legible_adaJoins.nodup adaJoins rfl
    obtain ⟨hread, hid⟩ := hjoins.spelled (.object adaJoins) legible_adaJoins rfl
    have hr : Request.parse? (Json.object adaJoins).render = some r :=
      (hread r).mpr ((Request.givenBy_sorted hnodup).mpr
        ⟨trivial, rfl, ⟨rfl, fun _ => ⟨_, rfl⟩⟩, rfl, ⟨rfl, fun _ => ⟨_, rfl⟩⟩⟩)
    have hgiven : Call.GivenBy (.array [.text "$s1", .text "ada"]) "join_session"
        (.joinSession "$s1" "ada" "" .participant) :=
      ⟨rfl, Nat.le_of_ble_eq_true rfl, rfl, rfl, rfl, rfl⟩
    have hsome : givenId? (Json.object adaJoins).render =
        some (.array [.text "x", .whole (-1)]) := by
      rw [hid, Request.param?_sorted hnodup]
      rfl
    have hanswer := hjoins.answered r _ _ hr rfl hsome nofun (.call hgiven .join)
    have heffect := hjoins.effect r _ hr rfl (.call hgiven .join)
    dsimp only [Ask.outcome] at hanswer heffect
    rw [hfull] at hanswer
    refine ⟨heffect.trans ?_, hanswer⟩
    exact InPlace.eq_of_keep_error ((step_eq_keep e _ _).symm.trans (Prod.ext hfull rfl))

end CoEdit.Rpc
