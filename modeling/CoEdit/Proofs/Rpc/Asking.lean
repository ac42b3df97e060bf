import CoEdit.Proofs.Rpc.Parameters
import CoEdit.Proofs.Rpc.Refusal

/-!
# What Requests Ask For

A method asks for a command, whose answer is worded as a value, or for a look at the engine. What a
name and parameters ask for is told by a table that the server knows nothing of, and the server does
what the table says.

## Main definitions

* `Ask`, with `Ask.outcome`: what can be asked for, and what comes of it.
* `Call.ask`, `Server.ask?`: what a call asks for, and a method with the parameters of a request.
* `Call.Means`, `Server.Asks`: the table of what calls, names and parameters ask for.

## Main results

* `Call.perform_eq_outcome`: carrying out a call is doing what it asks for.
* `Server.dispatch_eq_outcome`: the same of requests, whatever their id.
* `Server.Asks.exists_ask?`: the server does what the table says.
-/

namespace CoEdit.Rpc

open CoEdit.Time (Instant)
open CoEdit.Engine
open InPlace

/-! ### What a call asks for -/

/-- What a method can ask for. -/
inductive Ask
  /-- A command, and the wording of its answer. -/
  | act (command : Command) (word : Answer → Json)
  /-- A look at the engine. -/
  | look (view : Engine → Except Error Json)
  /-- Nothing: it is refused beforehand. -/
  | refuse (error : Error)

/-- What comes of it. Only a command can change the engine. -/
def Ask.outcome (e : Engine) (now : Clock) : Ask → Except Error Json × Engine
  | .act command word => ((e.step now command).1.map word, (e.step now command).2)
  | .look view => (view e, e)
  | .refuse error => (.error error, e)

/-- The wording of answers that are a session. -/
def wordSession : Answer → Json
  | .session snapshot => snapshot.toJson
  | _ => .null

/-- The wording of answers that are a change. -/
def wordChange : Answer → Json
  | .change change => change.toJson
  | _ => .null

/-- The wording of answers that are a truth value, under a key. -/
def wordFlag (key : String) : Answer → Json
  | .flag value => .object [(key, .boolean value)]
  | _ => .null

/-- The wording of all that went well, under a key. -/
def wordDone (key : String) (_ : Answer) : Json :=
  .object [(key, .boolean true)]

/-- What a call asks for. Connections lead to the mailbox `outbound`. -/
def Call.ask (outbound : Nat) : Call → Ask
  | .applyChange sessionId authorId kind position text length =>
    match Operation.ofParts kind position text length with
    | .ok op => .act (.change sessionId authorId op) wordChange
    | .error fault => .refuse (.invalidOperation fault.message)
  | .connect userId =>
    if Text.isBlank userId then .refuse (.missingField .userId)
    else .act (.connect userId (.shared outbound)) (wordDone "connected")
  | .createSession hostId hostName assignmentId options =>
    .act (.create hostId hostName assignmentId options) wordSession
  | .disconnect userId => .act (.disconnect userId) (wordFlag "disconnected")
  | .getPublicSessions =>
    .look fun e => .ok (.object [("sessions", .array (e.publicSessions.map Listing.toJson))])
  | .getRecording sessionId replay =>
    .look fun e => (found sessionId (e.recording? sessionId)).map (recordingJson · replay)
  | .getSessionInfo sessionId =>
    .look fun e => (found sessionId (e.snapshot? sessionId)).map Snapshot.toJson
  | .joinSession sessionId userId userName role =>
    .act (.join sessionId userId userName role) wordSession
  | .leaveSession userId => .act (.leave userId) (wordFlag "left")
  | .requestAssistance sessionId userId message =>
    .act (.assist sessionId userId message) (wordDone "lecturer_assistance")
  | .updateCursor userId position => .act (.cursor userId position) (wordDone "ok")

variable {e : Engine} {outbound : Nat} {now : Clock}

/-- What is carried out in one go and worded is what the command comes to. -/
theorem keep_bind_eq_outcome {α : Type} {command : Command} {f : α → Json} {g : α → Answer}
    {word : Answer → Json} {x : Except Error (α × Engine)}
    (hexecute : e.execute now command = x.map fun y => (g y.1, y.2))
    (hword : ∀ a, f a = word (g a)) :
    keep e (x >>= fun y => pure (f y.1, y.2)) = (Ask.act command word).outcome e now := by
  rw [Ask.outcome, step, hexecute]
  cases x with
  | error => rfl
  | ok result =>
      change (Except.ok (f result.1), result.2) = (.ok (word (g result.1)), result.2)
      rw [hword]

/-- **Carrying out a call** is doing what it asks for. -/
theorem Call.perform_eq_outcome (call : Call) :
    keep e (call.perform e outbound now) = (call.ask outbound).outcome e now := by
  cases call with
  | applyChange sessionId authorId kind position text length =>
    rw [perform, ask]
    cases Operation.ofParts kind position text length with
    | error => rfl
    | ok op => exact keep_bind_eq_outcome rfl fun _ => rfl
  | connect userId =>
    rw [perform, ask, require]
    split
    · rfl
    · rfl
  | disconnect => rfl
  | getPublicSessions => rfl
  | getRecording sessionId replay =>
    rw [perform, ask, Ask.outcome]
    cases found sessionId (e.recording? sessionId) with
    | error => rfl
    | ok => rfl
  | getSessionInfo sessionId =>
    rw [perform, ask, Ask.outcome]
    cases found sessionId (e.snapshot? sessionId) with
    | error => rfl
    | ok => rfl
  | createSession | joinSession => exact keep_bind_eq_outcome rfl fun _ => rfl
  | leaveSession =>
    exact keep_bind_eq_outcome (f := fun left => .object [("left", .boolean left)]) (g := .flag)
      rfl fun _ => rfl
  | requestAssistance | updateCursor =>
    exact keep_bind_eq_outcome (f := fun _ => .object [(_, .boolean true)]) (g := fun _ => .done)
      rfl fun _ => rfl

/-! ### Requests -/

/-- What a method with the parameters of a request asks for, if there is such a method. The server
itself answers two methods, without a look at the engine. -/
def Server.ask? (s : Server) (method : String) (params : Option Json) : Option Ask :=
  if method = "ping" then
    some (.look fun _ =>
      .ok (.object [("name", .text s.info.name), ("version", .text s.info.version)]))
  else if method = "methods/list" then
    some (.look fun _ => .ok (.object [("methods", .array (Method.all.map (·.definition.toJson)))]))
  else (Method.named? method).map fun m =>
    match m.call params with
    | .ok call => call.ask s.outbound
    | .error error => .refuse error

/-- What comes of a method with the parameters of a request. -/
def Server.outcome (s : Server) (e : Engine) (now : Clock) (method : String)
    (params : Option Json) : Except Failure Json × Engine :=
  match s.ask? method params with
  | none => (.error (.methodNotFound method), e)
  | some ask => ((ask.outcome e now).1.mapError .ofError, (ask.outcome e now).2)

/-- **Carrying out a request** is doing what its method asks for. -/
theorem Server.dispatch_eq_outcome (s : Server) (e : Engine) (now : Clock) (r : Request) :
    s.dispatch e now r = s.outcome e now r.method r.params := by
  rw [dispatch, outcome, ask?]
  split
  · rfl
  · split
    · rfl
    · cases Method.named? r.method with
      | none => rfl
      | some m =>
        dsimp only [Option.map_some]
        cases m.call r.params with
        | error => rfl
        | ok call =>
          have hbind : (Except.ok call >>= Call.perform e s.outbound now) =
              call.perform e s.outbound now := rfl
          dsimp only
          rw [hbind, ← call.perform_eq_outcome]
          cases call.perform e s.outbound now with
          | error => rfl
          | ok => rfl

/-! ### What is asked for -/

/-- What a call comes to: the direct command, or a refusal beforehand if the parts that are given
make no edit, or the user to be connected is blank. -/
inductive Call.Means (outbound : Nat) : Call → Ask → Prop
  | edit {sessionId authorId : String} {op : Operation} {text : Option String}
      {length : Option Nat} (htext : ∀ s, op.text? = some s → text = some s)
      (hlength : ∀ n, op.length? = some n → length = some n) :
      Means outbound (.applyChange sessionId authorId op.kind op.position text length)
        (.act (.change sessionId authorId op) wordChange)
  | noEdit {sessionId authorId kind : String} {position : Nat} {text : Option String}
      {length : Option Nat} {details : String}
      (h : ∀ op : Operation, kind = op.kind → position = op.position →
        (∀ s, op.text? = some s → text = some s) →
        ¬∀ n, op.length? = some n → length = some n) :
      Means outbound (.applyChange sessionId authorId kind position text length)
        (.refuse (.invalidOperation details))
  | connect {userId : String} (h : ¬Text.isBlank userId) :
      Means outbound (.connect userId)
        (.act (.connect userId (.shared outbound)) (wordDone "connected"))
  | blank {userId : String} (h : Text.isBlank userId) :
      Means outbound (.connect userId) (.refuse (.missingField .userId))
  | create {hostId hostName assignmentId : String} {options : SessionOptions} :
      Means outbound (.createSession hostId hostName assignmentId options)
        (.act (.create hostId hostName assignmentId options) wordSession)
  | disconnect {userId : String} :
      Means outbound (.disconnect userId) (.act (.disconnect userId) (wordFlag "disconnected"))
  | listing :
      Means outbound .getPublicSessions (.look fun e =>
        .ok (.object [("sessions", .array (e.publicSessions.map Listing.toJson))]))
  | recording {sessionId : String} {replay : Bool} :
      Means outbound (.getRecording sessionId replay) (.look fun e =>
        match e.recording? sessionId with
        | none => .error (.sessionNotFound sessionId)
        | some r => .ok (.object (r.toFields ++ [("duration_ms", .whole r.durationMillis)] ++
          if replay then (r.replay?.map fun s => ("content", Json.text s)).toList else [])))
  | info {sessionId : String} :
      Means outbound (.getSessionInfo sessionId) (.look fun e =>
        match e.snapshot? sessionId with
        | none => .error (.sessionNotFound sessionId)
        | some s => .ok s.toJson)
  | join {sessionId userId userName : String} {role : Role} :
      Means outbound (.joinSession sessionId userId userName role)
        (.act (.join sessionId userId userName role) wordSession)
  | leave {userId : String} :
      Means outbound (.leaveSession userId) (.act (.leave userId) (wordFlag "left"))
  | assist {sessionId userId : String} {message : Option String} :
      Means outbound (.requestAssistance sessionId userId message)
        (.act (.assist sessionId userId message) (wordDone "lecturer_assistance"))
  | cursor {userId : String} {position : Nat} :
      Means outbound (.updateCursor userId position)
        (.act (.cursor userId position) (wordDone "ok"))

/-- **The table of requests**: what a name and parameters ask for. The server itself answers two
methods, without a look at the engine. -/
inductive Server.Asks (s : Server) (p : Json) (name : String) : Ask → Prop
  | ping (hname : name = "ping") :
      Asks s p name (.look fun _ =>
        .ok (.object [("name", .text s.info.name), ("version", .text s.info.version)]))
  | methods (hname : name = "methods/list") :
      Asks s p name (.look fun _ =>
        .ok (.object [("methods", .array (Method.all.map (·.definition.toJson)))]))
  | call {call : Call} {ask : Ask} (hcall : call.GivenBy p name)
      (hmeans : call.Means s.outbound ask) : Asks s p name ask
  | misread {details : String} (hname : name ∈ methodNames)
      (h : ∀ call, ¬Call.GivenBy p name call) :
      Asks s p name (.refuse (.invalidParams details))

/-- The same is asked for, up to the details of a refusal. -/
inductive Ask.Like : Ask → Ask → Prop
  | refl (ask : Ask) : Like ask ask
  | refuse {error other : Error} (h : error.category = other.category) :
      Like (.refuse error) (.refuse other)

/-- What is asked for changes the engine in the same way. -/
theorem Ask.Like.snd_eq {ask other : Ask} (h : ask.Like other) (e : Engine) (now : Clock) :
    (ask.outcome e now).2 = (other.outcome e now).2 := by
  cases h <;> rfl

namespace Call

variable {call : Call} {ask : Ask}

/-- What is told of a look at a recording. -/
theorem found_recording (sessionId : String) (replay : Bool) :
    (fun e : Engine => (found sessionId (e.recording? sessionId)).map (recordingJson · replay)) =
      fun e => match e.recording? sessionId with
        | none => .error (.sessionNotFound sessionId)
        | some r => .ok (.object (r.toFields ++ [("duration_ms", .whole r.durationMillis)] ++
          if replay then (r.replay?.map fun s => ("content", Json.text s)).toList else [])) := by
  funext e
  cases e.recording? sessionId with
  | none => rfl
  | some r =>
    cases replay with
    | false => rfl
    | true =>
      change Except.ok (recordingJson r true) = _
      rw [recordingJson]
      cases hcontent : r.replay? <;> simp [hcontent]

/-- A call asks for what it comes to. -/
theorem Means.like (h : call.Means outbound ask) : ask.Like (call.ask outbound) := by
  cases h with
  | edit htext hlength =>
    rw [Call.ask, Operation.ofParts_eq_ok.mpr ⟨rfl, rfl, htext, hlength⟩]
    exact .refl _
  | @noEdit sessionId authorId kind position text length details h =>
    rw [Call.ask]
    cases hparts : Operation.ofParts kind position text length with
    | error fault => exact .refuse rfl
    | ok op =>
      obtain ⟨hkind, hposition, htext, hlength⟩ := Operation.ofParts_eq_ok.mp hparts
      exact absurd hlength (h op hkind hposition htext)
  | connect h =>
    rw [Call.ask, if_neg h]
    exact .refl _
  | blank h =>
    rw [Call.ask, if_pos h]
    exact .refl _
  | recording =>
    rw [Call.ask, found_recording]
    exact .refl _
  | @info sessionId =>
    have hview : (fun e : Engine =>
        (found sessionId (e.snapshot? sessionId)).map Snapshot.toJson) = fun e =>
          match e.snapshot? sessionId with
          | none => .error (.sessionNotFound sessionId)
          | some s => .ok s.toJson := by
      funext e
      cases e.snapshot? sessionId <;> rfl
    rw [Call.ask, hview]
    exact .refl _
  | create | disconnect | listing | join | leave | assist | cursor => exact .refl _

/-- Every call comes to something. -/
theorem exists_means (outbound : Nat) (call : Call) : ∃ ask, call.Means outbound ask := by
  cases call with
  | applyChange sessionId authorId kind position text length =>
    cases hparts : Operation.ofParts kind position text length with
    | ok op =>
      obtain ⟨rfl, rfl, htext, hlength⟩ := Operation.ofParts_eq_ok.mp hparts
      exact ⟨_, .edit htext hlength⟩
    | error fault =>
      refine ⟨.refuse (.invalidOperation fault.message),
        .noEdit fun op hkind hposition htext hlength => ?_⟩
      have hop := Operation.ofParts_eq_ok.mpr ⟨hkind, hposition, htext, hlength⟩
      rw [hparts] at hop
      cases hop
  | connect userId =>
    by_cases h : Text.isBlank userId
    · exact ⟨_, .blank h⟩
    · exact ⟨_, .connect h⟩
  | createSession => exact ⟨_, .create⟩
  | disconnect => exact ⟨_, .disconnect⟩
  | getPublicSessions => exact ⟨_, .listing⟩
  | getRecording => exact ⟨_, .recording⟩
  | getSessionInfo => exact ⟨_, .info⟩
  | joinSession => exact ⟨_, .join⟩
  | leaveSession => exact ⟨_, .leave⟩
  | requestAssistance => exact ⟨_, .assist⟩
  | updateCursor => exact ⟨_, .cursor⟩

end Call

namespace Server

variable {s : Server} {name : String} {params : Option Json} {ask : Ask}

/-- The names that requests may have: those of the server itself, and those of the methods. -/
def knownNames : List String :=
  "ping" :: "methods/list" :: methodNames

theorem ask?_of_named {m : Method} (h : Method.named? name = some m) :
    s.ask? name params = some (match m.call params with
      | .ok call => call.ask s.outbound
      | .error error => .refuse error) := by
  have hname := Method.named?_eq_some_iff.mp h
  have hping : name ≠ "ping" := by
    rintro rfl
    cases m <;> exact absurd hname (by decide)
  have hlist : name ≠ "methods/list" := by
    rintro rfl
    cases m <;> exact absurd hname (by decide)
  rw [ask?, if_neg hping, if_neg hlist, h]
  rfl

/-- **The server does what the table says**, up to the details of a refusal. -/
theorem Asks.exists_ask? (h : s.Asks (params.getD (.object [])) name ask) :
    ∃ other, s.ask? name params = some other ∧ ask.Like other := by
  cases h with
  | ping hname => exact ⟨_, if_pos hname, .refl _⟩
  | methods hname =>
    subst hname
    exact ⟨_, rfl, .refl _⟩
  | @call call ask hcall hmeans =>
    obtain ⟨m, hm, hcall⟩ := Call.givenBy_iff.mp hcall
    have hread : m.call params = .ok call := hcall
    refine ⟨_, ask?_of_named hm, ?_⟩
    rw [hread]
    exact hmeans.like
  | misread hname h =>
    obtain ⟨m, hm⟩ := mem_methodNames_iff.mp hname
    refine ⟨_, ask?_of_named hm, ?_⟩
    cases hread : m.call params with
    | ok call => exact absurd (Call.givenBy_iff.mpr ⟨m, hm, hread⟩) (h call)
    | error error =>
      obtain ⟨cause, -, rfl⟩ : ∃ cause, m.decode .direct (params.getD (.object [])) = .error cause ∧
          error = .invalidParams cause.message := by
        rw [Method.call] at hread
        cases hdecode : m.decode .direct (params.getD (.object [])) with
        | ok call =>
          rw [hdecode] at hread
          cases hread
        | error cause =>
          rw [hdecode] at hread
          exact ⟨cause, rfl, (Except.error.inj hread).symm⟩
      exact .refuse rfl

/-- The table says something of every name that is known. -/
theorem exists_asks (s : Server) (p : Json) (h : name ∈ knownNames) : ∃ ask, s.Asks p name ask := by
  rw [knownNames, List.mem_cons, List.mem_cons] at h
  rcases h with h | h | h
  · exact ⟨_, .ping h⟩
  · exact ⟨_, .methods h⟩
  · by_cases hcall : ∃ call, Call.GivenBy p name call
    · obtain ⟨call, hcall⟩ := hcall
      obtain ⟨ask, hmeans⟩ := call.exists_means s.outbound
      exact ⟨ask, .call hcall hmeans⟩
    · exact ⟨.refuse (.invalidParams ""), .misread h fun call hgiven => hcall ⟨call, hgiven⟩⟩

/-- No other name asks for anything. -/
theorem ask?_eq_none (h : name ∉ knownNames) : s.ask? name params = none := by
  simp only [knownNames, List.mem_cons, not_or, mem_methodNames_iff] at h
  obtain ⟨hping, hlist, hnamed⟩ := h
  rw [ask?, if_neg hping, if_neg hlist]
  cases hm : Method.named? name with
  | none => rfl
  | some m => exact absurd ⟨m, hm⟩ hnamed

end Server

end CoEdit.Rpc
