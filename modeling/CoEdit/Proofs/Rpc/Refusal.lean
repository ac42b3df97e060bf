import CoEdit.Proofs.Engine.InPlace
import CoEdit.Proofs.Engine.Reachable
import CoEdit.Rpc.Server

/-!
# Refusals Change Nothing

Requests carried out in place, and the law that covers operations and requests alike: whatever fails
leaves the whole engine as it was. Nothing is sent, nothing recorded, no id is used up, and
everybody stays in the session they are in.

## Main definitions

* `Call.performInPlace`, `Server.carryOut`: calls and lines of text, carried out in place.
* `Server.replyTo`: the reply to a line, once it is known what came of it.

## Main results

* `handle_eq`: handling a line is carrying it out in place and replying.
* `Reachable.handle`: lines lead to engines that operations lead to as well.
* `failure_atomic`: what fails changes nothing.
-/

namespace CoEdit.Rpc

open CoEdit.Time (Instant)
open CoEdit.Engine
open InPlace

variable {e : Engine} {outbound : Nat} {now : Clock}

/-! ### Calls -/

/-- Carries out a call. -/
def Call.performInPlace (outbound : Nat) (now : Clock) : Call → InPlace Error Engine Json
  | .applyChange sessionId authorId kind position text length => do
    let op ← check fun _ => (Operation.ofParts kind position text length).mapError fun fault =>
      Error.invalidOperation fault.message
    let change ← changeInPlace sessionId authorId op now
    pure change.toJson
  | .connect userId => do
    check fun _ => require userId .userId
    modify fun e => { e with gateway := (e.gateway.connect userId (.shared outbound)).2 }
    pure (.object [("connected", .boolean true)])
  | .createSession hostId hostName assignmentId options => do
    let s ← createInPlace hostId hostName assignmentId options now
    pure s.toJson
  | .disconnect userId => do
    let removed ← modifyGet fun e =>
      let (removed, gateway) := e.gateway.disconnect userId
      (removed, { e with gateway })
    pure (.object [("disconnected", .boolean removed)])
  | .getPublicSessions => do
    pure (.object [("sessions", .array ((← get).publicSessions.map Listing.toJson))])
  | .getRecording sessionId replay => do
    let r ← check fun e => found sessionId (e.recording? sessionId)
    pure (recordingJson r replay)
  | .getSessionInfo sessionId => do
    let s ← check fun e => found sessionId (e.snapshot? sessionId)
    pure s.toJson
  | .joinSession sessionId userId userName role => do
    let s ← joinInPlace sessionId userId userName role now
    pure s.toJson
  | .leaveSession userId => do
    let left ← leaveInPlace userId now
    pure (.object [("left", .boolean left)])
  | .requestAssistance sessionId userId message => do
    assistInPlace sessionId userId message now
    pure (.object [("lecturer_assistance", .boolean true)])
  | .updateCursor userId position => do
    cursorInPlace userId position now
    pure (.object [("ok", .boolean true)])

theorem on_performInPlace (he : e.Keyed) (outbound : Nat) (now : Clock) (call : Call) :
    (call.performInPlace outbound now).on e = keep e (call.perform e outbound now) := by
  cases call with
  | applyChange =>
    exact on_check_bind fun _ _ => on_bind_keep (on_changeInPlace he) fun _ _ _ => rfl
  | connect => exact on_check_bind fun _ _ => rfl
  | createSession => exact on_bind_keep (on_createInPlace he) fun _ _ _ => rfl
  | disconnect => rfl
  | getPublicSessions => rfl
  | getRecording => exact on_check_bind fun _ _ => rfl
  | getSessionInfo => exact on_check_bind fun _ _ => rfl
  | joinSession => exact on_bind_keep (on_joinInPlace he) fun _ _ _ => rfl
  | leaveSession => exact on_bind_keep (on_leaveInPlace he) fun _ _ _ => rfl
  | requestAssistance => exact on_bind_keep (on_assistInPlace he) fun _ _ _ => rfl
  | updateCursor => exact on_bind_keep (on_cursorInPlace he) fun _ _ _ => rfl

/-! ### Lines -/

namespace Server

/-- Carries out a request. -/
def dispatchInPlace (s : Server) (now : Clock) (r : Request) : InPlace Failure Engine Json :=
  if r.method = "ping" then
    pure (.object [("name", .text s.info.name), ("version", .text s.info.version)])
  else if r.method = "methods/list" then
    pure (.object [("methods", .array (Method.all.map (·.definition.toJson)))])
  else match Method.named? r.method with
    | none => throw (.methodNotFound r.method)
    | some method => rewordError .ofError do
      let call ← check fun _ => method.call r.params
      call.performInPlace s.outbound now

/-- Carries out a line. It fails if it is no request, if it names another version, or if the request
fails. -/
def carryOut (s : Server) (now : Clock) (line : String) : InPlace Failure Engine Json :=
  match Request.parse? line with
  | none => throw (.parseError (s.wording line))
  | some r =>
    if r.isValid then s.dispatchInPlace now r
    else throw (.invalidRequest versionDetails)

/-- The reply to a line that has been carried out. Requests without an id get none, but lines that
are no request, or of another version, do. -/
def replyTo (line : String) (outcome : Except Failure Json) : Option Reply :=
  let request := Request.parse? line
  if request.any fun r => r.isValid && r.isNotification then none
  else
    let id := (request.bind (·.id)).getD .null
    match outcome with
    | .ok value => some (.result id value)
    | .error failure => some (.failure id failure)

theorem on_dispatchInPlace (he : e.Keyed) (s : Server) (now : Clock) (r : Request) :
    (s.dispatchInPlace now r).on e = s.dispatch e now r := by
  rw [dispatchInPlace, dispatch]
  split
  · rfl
  · split
    · rfl
    · cases Method.named? r.method with
      | none => rfl
      | some method =>
        have hcall : (do
            let call ← check fun _ => method.call r.params
            call.performInPlace s.outbound now : InPlace Error Engine Json).on e =
            keep e (method.call r.params >>= Call.perform e s.outbound now) :=
          on_check_bind fun call _ => on_performInPlace he s.outbound now call
        dsimp only
        rw [on_rewordError, hcall]
        cases method.call r.params >>= Call.perform e s.outbound now with
        | error => rfl
        | ok => rfl

/-- **Handling a line** is carrying it out and replying. -/
theorem handle_eq (he : e.Keyed) (s : Server) (now : Clock) (line : String) :
    s.handle e now line =
      (replyTo line ((s.carryOut now line).on e).1, ((s.carryOut now line).on e).2) := by
  rw [handle, replyTo, carryOut]
  cases Request.parse? line with
  | none => rfl
  | some r =>
    cases hvalid : r.isValid with
    | false =>
      simp only [hvalid, Option.any_some, Bool.false_and]
      rfl
    | true =>
      have hdispatch := on_dispatchInPlace he s now r
      simp only [hvalid, hdispatch, Option.any_some, Bool.true_and, if_true, not_true, if_false]
      split
      · rfl
      · cases (s.dispatch e now r).1 with
        | error => rfl
        | ok => rfl

/-- A request is all or nothing. -/
theorem exists_dispatch_eq_keep (s : Server) (e : Engine) (now : Clock) (r : Request) :
    ∃ result, s.dispatch e now r = keep e result := by
  rw [dispatch]
  split
  · exact ⟨.ok (_, e), rfl⟩
  · split
    · exact ⟨.ok (_, e), rfl⟩
    · split
      · exact ⟨.error _, rfl⟩
      · split
        · next result e' _ => exact ⟨.ok (result, e'), rfl⟩
        · exact ⟨.error _, rfl⟩

/-- A line is all or nothing. -/
theorem exists_on_carryOut_eq_keep (he : e.Keyed) (s : Server) (now : Clock) (line : String) :
    ∃ result, (s.carryOut now line).on e = keep e result := by
  rw [carryOut]
  split
  · exact ⟨.error _, rfl⟩
  · next r _ =>
    split
    · rw [on_dispatchInPlace he]
      exact s.exists_dispatch_eq_keep e now r
    · exact ⟨.error _, rfl⟩

end Server

/-! ### Lines lead nowhere new -/

/-- A call words the answer of an operation as a value. -/
theorem exists_of_bind_pure {α : Type} {x : Except Error (α × Engine)} {f : α → Json}
    {result : Json} {e' : Engine}
    (h : (x >>= fun y => pure (f y.1, y.2)) = .ok (result, e')) :
    ∃ answer, x = .ok (answer, e') := by
  obtain ⟨⟨answer, after⟩, hok, heq⟩ := bind_eq_ok.mp h
  obtain ⟨-, rfl⟩ := Prod.mk.inj (Except.ok.inj heq)
  exact ⟨answer, hok⟩

/-- A call that succeeds looks at the engine only, or comes to a command. -/
theorem Call.perform_ok {call : Call} {result : Json} {e' : Engine}
    (h : call.perform e outbound now = .ok (result, e')) :
    e' = e ∨ ∃ command answer, e.execute now command = .ok (answer, e') := by
  cases call with
  | applyChange sessionId authorId kind position text length =>
    obtain ⟨op, -, h⟩ := bind_eq_ok.mp h
    obtain ⟨change, hok⟩ := exists_of_bind_pure h
    exact .inr ⟨.change sessionId authorId op, _, map_eq_ok.mpr ⟨_, hok, rfl⟩⟩
  | connect userId =>
    obtain ⟨_, -, heq⟩ := bind_eq_ok.mp h
    obtain ⟨-, rfl⟩ := Prod.mk.inj (Except.ok.inj heq)
    exact .inr ⟨.connect userId (.shared outbound), _, rfl⟩
  | createSession hostId hostName assignmentId options =>
    obtain ⟨snapshot, hok⟩ := exists_of_bind_pure h
    exact .inr ⟨.create hostId hostName assignmentId options, _, map_eq_ok.mpr ⟨_, hok, rfl⟩⟩
  | disconnect userId =>
    obtain ⟨-, rfl⟩ := Prod.mk.inj (Except.ok.inj h)
    exact .inr ⟨.disconnect userId, _, rfl⟩
  | getPublicSessions =>
    obtain ⟨-, rfl⟩ := Prod.mk.inj (Except.ok.inj h)
    exact .inl rfl
  | getRecording | getSessionInfo =>
    obtain ⟨_, -, heq⟩ := bind_eq_ok.mp h
    obtain ⟨-, rfl⟩ := Prod.mk.inj (Except.ok.inj heq)
    exact .inl rfl
  | joinSession sessionId userId userName role =>
    obtain ⟨snapshot, hok⟩ := exists_of_bind_pure h
    exact .inr ⟨.join sessionId userId userName role, _, map_eq_ok.mpr ⟨_, hok, rfl⟩⟩
  | leaveSession userId =>
    obtain ⟨left, hok⟩ :=
      exists_of_bind_pure (f := fun left => .object [("left", .boolean left)]) h
    exact .inr ⟨.leave userId, _, map_eq_ok.mpr ⟨_, hok, rfl⟩⟩
  | requestAssistance sessionId userId message =>
    obtain ⟨_, hok⟩ := exists_of_bind_pure (f := fun _ => _) h
    exact .inr ⟨.assist sessionId userId message, _, map_eq_ok.mpr ⟨_, hok, rfl⟩⟩
  | updateCursor userId position =>
    obtain ⟨_, hok⟩ := exists_of_bind_pure (f := fun _ => _) h
    exact .inr ⟨.cursor userId position, _, map_eq_ok.mpr ⟨_, hok, rfl⟩⟩

namespace Server

variable {config : Config}

/-- The engine after a request comes about by commands alone. -/
theorem reachable_dispatch (he : e.Reachable config) (s : Server) (now : Clock) (r : Request) :
    (s.dispatch e now r).2.Reachable config := by
  rw [dispatch]
  split
  · exact he
  · split
    · exact he
    · split
      · exact he
      · split
        · next result e' hok =>
          obtain ⟨call, -, hperform⟩ := bind_eq_ok.mp hok
          rcases Call.perform_ok hperform with rfl | ⟨command, answer, hexecute⟩
          · exact he
          · have hstep := he.step now command
            rw [Engine.step, hexecute] at hstep
            exact hstep
        · exact he

/-- The engine after a line comes about by commands alone. -/
theorem reachable_handle (he : e.Reachable config) (s : Server) (now : Clock) (line : String) :
    (s.handle e now line).2.Reachable config := by
  rw [handle]
  split
  · exact he
  · next r _ =>
    have hdispatch := reachable_dispatch he s now r
    dsimp only
    split
    · exact he
    · split
      · exact hdispatch
      · split
        · exact hdispatch
        · exact hdispatch

end Server

/-! ### Failures -/

/-- **What fails changes nothing**, in whatever state the engine is. Operations and lines of text
come to the same as the programs that change the engine in place step by step, and where such a
program breaks off, it leaves the engine as it was before: all sessions and who is in which, all
recordings, subscriptions, connections and messages, and the next ids. -/
theorem failure_atomic {config : Config} {e : Engine} (he : e.Reachable config) (now : Clock) :
    (∀ command, (Engine.carryOut now command).on e = e.step now command) ∧
      (∀ command error e', (Engine.carryOut now command).on e = (.error error, e') → e' = e) ∧
      (∀ (s : Server) line, s.handle e now line =
        (Server.replyTo line ((s.carryOut now line).on e).1, ((s.carryOut now line).on e).2)) ∧
      ∀ (s : Server) line failure e',
        (s.carryOut now line).on e = (.error failure, e') → e' = e := by
  have hkeyed : e.Keyed := he.coherent.balanced.id_eq
  refine ⟨on_carryOut hkeyed now, fun command error e' h => ?_, fun s => s.handle_eq hkeyed now,
    fun s line failure e' h => ?_⟩
  · rw [on_carryOut hkeyed, step_eq_keep] at h
    exact eq_of_keep_error h
  · obtain ⟨result, hresult⟩ := s.exists_on_carryOut_eq_keep hkeyed now line
    exact eq_of_keep_error (hresult.symm.trans h)

/-- A history after which Ada and Bob have a session each, and Bob's is full. -/
def fullHouse : History :=
  .still [(⟨0, 0⟩, .create "ada" "Ada" "primes" {}),
    (⟨1, 0⟩, .create "bob" "Bob" "primes" { maxParticipants := some 1 })]

/-- Ada cannot get into the session of Bob, and stays in her own. A line that is no request does
nothing either. -/
theorem failure_atomic_fullHouse :
    let e := (Engine.new .default).after fullHouse
    let s : Server := ⟨{}, 0, true, fun _ => Server.parseDetails⟩
    e.Reachable .default ∧ e.whereabouts.get? "ada" = some "$s0" ∧
      (Engine.carryOut (.still ⟨2, 0⟩) (.join "$s1" "ada" "Ada" .participant)).on e =
        (.error (.sessionFull "$s1" 1), e) ∧
      (s.carryOut (.still ⟨2, 0⟩) "join").on e = (.error (.parseError Server.parseDetails), e) := by
  intro e s
  have he : e.Reachable .default := Reachable.new.after fullHouse
  obtain ⟨hstep, hcommand, -, hline⟩ := failure_atomic he (.still ⟨2, 0⟩)
  refine ⟨he, by decide +kernel, ?_, ?_⟩
  · have hfull : ((Engine.carryOut (.still ⟨2, 0⟩) (.join "$s1" "ada" "Ada" .participant)).on e).1 =
        .error (.sessionFull "$s1" 1) := by
      rw [hstep]
      decide +kernel
    exact Prod.ext hfull (hcommand _ _ _ (Prod.ext hfull rfl))
  · have hparse : ((s.carryOut (.still ⟨2, 0⟩) "join").on e).1 =
        .error (.parseError Server.parseDetails) := by
      rfl
    exact Prod.ext hparse (hline s _ _ _ (Prod.ext hparse rfl))

end CoEdit.Rpc
