import CoEdit.Proofs.Delivery.Twins
import CoEdit.Proofs.Engine.Outcome

/-!
# Engines that Differ in Delivery

An engine tells its gateway what to send and who is subscribed, and never asks it anything. So two
engines that differ only in their gateways give the same answers, and if their gateways send the
same and have twin mailboxes, this remains so.

## Main definitions

* `Command.isOperation`: the commands that are not about connections.
* `Engine.Twinned`: two engines that differ only in their gateways, which have twin mailboxes.
* `Engine.Agree`: two operations are refused alike, or give the same and lead to related engines.

## Main results

* `Twinned.departFrom`, `Twinned.sweep`, …: the parts of the operations keep engines twinned.
* `Twinned.execute`, `Twinned.step`: so do the commands, with the same answers.
-/

namespace CoEdit

open CoEdit.Time (Instant)

/-- Whether a command is an operation on sessions. The others are about connections. -/
def Command.isOperation : Command → Bool
  | .connect .. => false
  | .disconnect .. => false
  | _ => true

namespace Engine

/-- Two engines that differ only in their gateways. These send the same and have twin mailboxes. -/
inductive Twinned (watched : String → Prop) (twins : List (Nat × Nat)) (e : Engine) :
    Engine → Prop
  | intro {gateway : Gateway} (h : e.gateway.Twinned watched twins gateway) :
      Twinned watched twins e { e with gateway }

/-- Two operations agree: both are refused for the same reason, or both succeed with the same
answer and lead to engines that are related. -/
inductive Agree {α : Type} (R : Engine → Engine → Prop) :
    Except Error (α × Engine) → Except Error (α × Engine) → Prop
  | refused (error : Error) : Agree R (.error error) (.error error)
  | done (a : α) {e e' : Engine} (h : R e e') : Agree R (.ok (a, e)) (.ok (a, e'))

variable {R : Engine → Engine → Prop} {α β : Type}

/-- Operations that begin alike agree if what is left of them does. -/
theorem Agree.bind {x : Except Error β} {f f' : β → Except Error (α × Engine)}
    (h : ∀ b, Agree R (f b) (f' b)) : Agree R (x >>= f) (x >>= f') := by
  cases x with
  | error error => exact .refused error
  | ok b => exact h b

/-- Operations that agree still do so if their answers are worded differently. -/
theorem Agree.map {x x' : Except Error (α × Engine)} {f : α × Engine → β × Engine} (g : α → β)
    (hf : ∀ a e, f (a, e) = (g a, e)) (h : Agree R x x') : Agree R (x.map f) (x'.map f) := by
  cases h with
  | refused error => exact .refused error
  | done a h =>
      rw [Except.map, Except.map, hf, hf]
      exact .done (g a) h

namespace Twinned

variable {watched : String → Prop} {twins : List (Nat × Nat)} {e e' : Engine}
  {sessionId userId : String} {now : Clock}

/-- Two engines without sessions have no twins yet. -/
theorem new (watched : String → Prop) (config : Config) :
    Twinned watched [] (Engine.new config) (Engine.new config) :=
  .intro (.new watched config.tapCapacity)

theorem gateway (h : Twinned watched twins e e') :
    e.gateway.Twinned watched twins e'.gateway := by
  cases h with
  | intro h => exact h

theorem config (h : Twinned watched twins e e') : e'.config = e.config := by
  cases h with
  | intro => rfl

theorem sessions (h : Twinned watched twins e e') : e'.sessions = e.sessions := by
  cases h with
  | intro => rfl

theorem whereabouts (h : Twinned watched twins e e') : e'.whereabouts = e.whereabouts := by
  cases h with
  | intro => rfl

theorem sessionsMade (h : Twinned watched twins e e') : e'.sessionsMade = e.sessionsMade := by
  cases h with
  | intro => rfl

theorem changesMade (h : Twinned watched twins e e') : e'.changesMade = e.changesMade := by
  cases h with
  | intro => rfl

theorem symm (h : Twinned watched twins e e') : Twinned watched (twins.map Prod.swap) e' e := by
  cases h with
  | intro h => exact .intro h.symm

/-! ### The parts of an operation -/

theorem putSession (h : Twinned watched twins e e') (s : Session) :
    Twinned watched twins (e.putSession s) (e'.putSession s) := by
  cases h with
  | intro h => exact .intro h

theorem tell (h : Twinned watched twins e e') (sessionId : String) (facts : List Fact)
    (notices : List (Notice × Option String)) (stamps : Stamps) :
    Twinned watched twins (e.tell sessionId facts notices stamps)
      (e'.tell sessionId facts notices stamps) := by
  cases h with
  | @intro gateway h =>
      refine .intro ?_
      change Gateway.Twinned watched twins
        (e.gateway.broadcastAll sessionId notices stamps.announced)
        (gateway.broadcastAll sessionId notices stamps.announced)
      generalize e.gateway = g at h
      generalize stamps.announced = times
      induction notices generalizing g gateway times with
      | nil => exact h
      | cons n notices ih => exact ih _ (h.broadcast sessionId n.1 n.2 (times 0)) _

theorem enroll (h : Twinned watched twins e e') (sessionId : String) (s : Session)
    (userId : String) :
    Twinned watched twins (e.enroll sessionId s userId) (e'.enroll sessionId s userId) := by
  cases h with
  | intro h => exact .intro (h.subscribe sessionId userId)

theorem dismiss (h : Twinned watched twins e e') (sessionId : String) (s : Session)
    (userId : String) :
    Twinned watched twins (e.dismiss sessionId s userId) (e'.dismiss sessionId s userId) := by
  cases h with
  | intro h => exact .intro (h.unsubscribe sessionId userId)

theorem place (h : Twinned watched twins e e') (userId sessionId : String) :
    Twinned watched twins (e.place userId sessionId) (e'.place userId sessionId) := by
  cases h with
  | intro h => exact .intro h

theorem displace (h : Twinned watched twins e e') (userId : String) :
    Twinned watched twins (e.displace userId) (e'.displace userId) := by
  cases h with
  | intro h => exact .intro h

theorem departFrom (h : Twinned watched twins e e') (sessionId userId : String) (now : Clock) :
    Twinned watched twins (e.departFrom sessionId userId now)
      (e'.departFrom sessionId userId now) := by
  cases hs : e.sessions.get? sessionId with
  | none =>
      rw [Engine.departFrom, Engine.departFrom, h.sessions, hs]
      exact h
  | some s =>
      cases hd : s.depart userId (now.acting sessionId) with
      | error =>
          rw [Engine.departFrom, Engine.departFrom, h.sessions, hs]
          simp only [hd]
          exact h
      | ok result =>
          have hs' : e'.sessions.get? sessionId = some s := by rw [h.sessions, hs]
          rw [departFrom_eq hs hd, departFrom_eq hs' hd]
          exact (h.dismiss sessionId _ userId).tell sessionId _ _ _

theorem vacate (h : Twinned watched twins e e') (userId : String) (now : Clock) :
    Twinned watched twins (e.vacate userId now) (e'.vacate userId now) := by
  rw [Engine.vacate, Engine.vacate, h.whereabouts]
  cases e.whereabouts.get? userId with
  | none => exact h
  | some previous => exact (h.displace userId).departFrom previous userId now

theorem setSessionsMade (h : Twinned watched twins e e') (count : Nat) :
    Twinned watched twins { e with sessionsMade := count } { e' with sessionsMade := count } := by
  cases h with
  | intro h => exact .intro h

theorem setChangesMade (h : Twinned watched twins e e') (count : Nat) :
    Twinned watched twins { e with changesMade := count } { e' with changesMade := count } := by
  cases h with
  | intro h => exact .intro h

theorem setWhereabouts (h : Twinned watched twins e e') (whereabouts : Table String) :
    Twinned watched twins { e with whereabouts } { e' with whereabouts } := by
  cases h with
  | intro h => exact .intro h

theorem install (h : Twinned watched twins e e') (s : Session) (hostName : String)
    (now : Clock) :
    Twinned watched twins (e.install s hostName now) (e'.install s hostName now) := by
  have hplaced := ((h.enroll s.id s s.hostId).tell s.id
    [.created s.hostId hostName s.title s.language s.content] []
    (now.promptStamps s.id)).place s.hostId s.id
  rw [Engine.install, Engine.install, h.sessionsMade]
  exact hplaced.setSessionsMade _

theorem welcome (h : Twinned watched twins e e') (sessionId userId : String)
    (admission : Admission) (s : Session) (now : Clock) :
    Twinned watched twins (e.welcome sessionId userId admission s now)
      (e'.welcome sessionId userId admission s now) :=
  ((h.enroll sessionId s userId).tell sessionId _ _ _).place userId sessionId

theorem leaveBehind (h : Twinned watched twins e e') (previous : Option String)
    (sessionId userId : String) (now : Clock) :
    Twinned watched twins (e.leaveBehind previous sessionId userId now)
      (e'.leaveBehind previous sessionId userId now) := by
  cases previous with
  | none => exact h
  | some key =>
      rw [Engine.leaveBehind, Engine.leaveBehind]
      by_cases hkey : key = sessionId
      · rw [if_pos hkey, if_pos hkey]
        exact h
      · rw [if_neg hkey, if_neg hkey]
        exact h.departFrom key userId now

theorem endIdle (h : Twinned watched twins e e') (asOf : Instant) (now : Clock)
    (sessionId : String) :
    Twinned watched twins (Engine.endIdle asOf now e sessionId)
      (Engine.endIdle asOf now e' sessionId) := by
  cases hs : e.sessions.get? sessionId with
  | none =>
      have hs' : e'.sessions.get? sessionId = none := by rw [h.sessions, hs]
      rw [endIdle_of_none hs, endIdle_of_none hs']
      exact h
  | some s =>
      have hs' : e'.sessions.get? sessionId = some s := by rw [h.sessions, hs]
      rw [endIdle_eq hs, endIdle_eq hs']
      exact (h.putSession _).tell sessionId _ _ _

theorem removeSession (h : Twinned watched twins e e') (sessionId : String) :
    Twinned watched twins (e.removeSession sessionId) (e'.removeSession sessionId) := by
  cases h with
  | intro h => exact .intro (h.dropSession sessionId)

/-- What keeps engines twinned does so for one session after the other. -/
theorem foldl {f : Engine → String → Engine}
    (hf : ∀ {e e'}, Twinned watched twins e e' → ∀ key,
      Twinned watched twins (f e key) (f e' key))
    (h : Twinned watched twins e e') (keys : List String) :
    Twinned watched twins (keys.foldl f e) (keys.foldl f e') := by
  induction keys generalizing e e' with
  | nil => exact h
  | cons key keys ih => exact ih (hf h key)

/-- A sweep reports the same, and leads to engines that differ in delivery alone. -/
theorem sweep (h : Twinned watched twins e e') (asOf : Instant) (now : Clock) :
    (e'.sweep asOf now).1 = (e.sweep asOf now).1 ∧
      Twinned watched twins (e.sweep asOf now).2 (e'.sweep asOf now).2 := by
  have habandoned : e'.abandoned asOf = e.abandoned asOf := by
    rw [abandoned, abandoned, h.sessions, h.config]
  have hexpired : e'.expired asOf = e.expired asOf := by
    rw [expired, expired, h.sessions, h.config]
  have hswept : Twinned watched twins (e.swept asOf now) (e'.swept asOf now) := by
    rw [swept, swept, habandoned, hexpired]
    exact foldl removeSession (foldl (endIdle · asOf now) h _) _
  rw [sweep_eq, sweep_eq, habandoned, hexpired, hswept.whereabouts]
  exact ⟨rfl, hswept.setWhereabouts _⟩

/-! ### Commands -/

theorem requireSession (h : Twinned watched twins e e') (sessionId : String) :
    e'.requireSession sessionId = e.requireSession sessionId := by
  rw [Engine.requireSession, Engine.requireSession, h.sessions]

theorem create (h : Twinned watched twins e e') (hostId hostName assignmentId : String)
    (options : SessionOptions) (now : Clock) :
    Agree (Twinned watched twins) (e.create hostId hostName assignmentId options now)
      (e'.create hostId hostName assignmentId options now) := by
  rw [create_eq, create_eq, h.config, freshSessionId, freshSessionId, h.sessionsMade]
  refine .bind fun _ => .bind fun settings => ?_
  exact .done _ ((h.vacate hostId now).install _ _ now)

theorem join (h : Twinned watched twins e e') (sessionId userId userName : String) (role : Role)
    (now : Clock) :
    Agree (Twinned watched twins) (e.join sessionId userId userName role now)
      (e'.join sessionId userId userName role now) := by
  rw [join_eq, join_eq, h.requireSession, h.whereabouts]
  refine .bind fun _ => .bind fun _ => .bind fun s => .bind fun ⟨admission, s'⟩ => ?_
  exact .done _ ((h.welcome sessionId userId admission s' now).leaveBehind _ sessionId userId now)

theorem leave (h : Twinned watched twins e e') (userId : String) (now : Clock) :
    Agree (Twinned watched twins) (e.leave userId now) (e'.leave userId now) := by
  rw [leave_eq, leave_eq, h.whereabouts]
  refine .bind fun _ => ?_
  exact .done _ (h.vacate userId now)

theorem change (h : Twinned watched twins e e') (sessionId authorId : String) (op : Operation)
    (now : Clock) :
    Agree (Twinned watched twins) (e.change sessionId authorId op now)
      (e'.change sessionId authorId op now) := by
  rw [change_eq, change_eq, h.requireSession, h.whereabouts, h.config, freshChangeId,
    freshChangeId, h.changesMade]
  refine .bind fun _ => .bind fun _ => .bind fun s => ?_
  by_cases hwhere : e.whereabouts.get? authorId = some sessionId
  · rw [if_pos hwhere, if_pos hwhere]
    refine .bind fun ⟨change, s'⟩ => ?_
    exact .done _ (((h.putSession _).tell sessionId _ _ _).setChangesMade _)
  · rw [if_neg hwhere, if_neg hwhere]
    exact .refused _

theorem cursor (h : Twinned watched twins e e') (userId : String) (position : Nat)
    (now : Clock) :
    Agree (Twinned watched twins) (e.cursor userId position now)
      (e'.cursor userId position now) := by
  rw [cursor_eq, cursor_eq, h.whereabouts]
  refine .bind fun _ => ?_
  cases e.whereabouts.get? userId with
  | none => exact .refused _
  | some sessionId =>
      dsimp only
      rw [h.requireSession]
      refine .bind fun s => .bind fun ⟨entry, s'⟩ => ?_
      exact .done _ ((h.putSession s').tell sessionId _ _ _)

theorem assist (h : Twinned watched twins e e') (sessionId userId : String)
    (message : Option String) (now : Clock) :
    Agree (Twinned watched twins) (e.assist sessionId userId message now)
      (e'.assist sessionId userId message now) := by
  rw [assist_eq, assist_eq, h.requireSession]
  refine .bind fun _ => .bind fun _ => .bind fun s => .bind fun ⟨entry, s'⟩ => ?_
  exact .done _ ((h.putSession s').tell sessionId _ _ _)

/-- **An operation is answered alike, and leads to engines that differ in delivery alone.** -/
theorem execute (h : Twinned watched twins e e') (now : Clock) {command : Command}
    (hoperation : command.isOperation = true) :
    Agree (Twinned watched twins) (e.execute now command) (e'.execute now command) := by
  cases command with
  | create hostId hostName assignmentId options =>
      exact (h.create hostId hostName assignmentId options now).map .session fun _ _ => rfl
  | join sessionId userId userName role =>
      exact (h.join sessionId userId userName role now).map .session fun _ _ => rfl
  | leave userId => exact (h.leave userId now).map .flag fun _ _ => rfl
  | change sessionId authorId operation =>
      exact (h.change sessionId authorId operation now).map .change fun _ _ => rfl
  | cursor userId position =>
      exact (h.cursor userId position now).map (fun _ => .done) fun _ _ => rfl
  | assist sessionId userId message =>
      exact (h.assist sessionId userId message now).map (fun _ => .done) fun _ _ => rfl
  | connect => cases hoperation
  | disconnect => cases hoperation
  | sweep asOf =>
      obtain ⟨hreport, hswept⟩ := h.sweep asOf now
      rw [Engine.execute, Engine.execute]
      dsimp only
      rw [hreport]
      exact .done _ hswept

theorem step (h : Twinned watched twins e e') (now : Clock) {command : Command}
    (hoperation : command.isOperation = true) :
    (e'.step now command).1 = (e.step now command).1 ∧
      Twinned watched twins (e.step now command).2 (e'.step now command).2 := by
  have hagree := h.execute now hoperation
  rw [Engine.step, Engine.step]
  generalize e.execute now command = result at hagree ⊢
  generalize e'.execute now command = result' at hagree ⊢
  cases hagree with
  | refused error => exact ⟨rfl, h⟩
  | done answer h => exact ⟨rfl, h⟩

end Twinned

end Engine

end CoEdit
