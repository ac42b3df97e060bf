import CoEdit.Proofs.Engine.Dossier
import CoEdit.Proofs.Engine.Seating

/-!
# What a Command Does to One Session

Seen from a single session, a command does one of a few things: it lets somebody in or out, changes
the document, moves a cursor, calls for help, gives the session up, creates or removes it, or has
nothing to do with it. This module lists them once and for all. An invariant of single sessions is
an invariant of these steps.

## Main definitions

* `Moment`: a command together with what the clock shows meanwhile and its answer.
* `Turn`: what a command can do to a session that is there, and what is told of it.
* `Dossier.Step`: what a command can do to the dossier of a session.

## Main results

* `Turn.sameTerms`: what is settled at the creation of a session stays settled.
* `Turn.changes_eq`: a change is recorded exactly if the session took one.
* `Turn.follows`: the document follows what is recorded.
-/

namespace CoEdit

open CoEdit.Time (Instant)
open Engine

/-- A command with what the clock shows while it is carried out and the answer to it. -/
structure Moment where
  clock : Clock
  command : Command
  answer : Except Error Answer

/-- The user who leaves a session by a command, if they are in one. -/
def Command.mover? : Command → Option String
  | .create hostId _ _ _ => some hostId
  | .join _ userId _ _ => some userId
  | .leave userId => some userId
  | _ => none

namespace Moment

/-- The change that a session took at a moment. -/
def edit? (m : Moment) (sessionId : String) : Option Change :=
  match m.command, m.answer with
  | .change target _ _, .ok (.change change) => if target = sessionId then some change else none
  | _, _ => none

/-- The snapshot that was given out when a session was created. -/
def creation? (m : Moment) (sessionId : String) : Option Snapshot :=
  match m.command, m.answer with
  | .create _ _ _ _, .ok (.session snapshot) =>
    if snapshot.id = sessionId then some snapshot else none
  | _, _ => none

/-- When a moment changes a session. -/
def time (m : Moment) (sessionId : String) : Instant :=
  m.clock.acting sessionId

/-- When the facts of a moment are recorded, by their order: a change carries the time of the edit,
everything else is recorded after the deed. -/
def times (m : Moment) (sessionId : String) : Nat → Instant :=
  match m.command with
  | .change .. => fun _ => m.time sessionId
  | _ => m.clock.recording sessionId

variable {m : Moment} {sessionId : String}

/-- A session is created by a command to create one, and the answer shows it. -/
theorem creation?_eq_some {snapshot : Snapshot} (h : m.creation? sessionId = some snapshot) :
    (∃ hostId hostName assignmentId options,
      m.command = .create hostId hostName assignmentId options) ∧
      m.answer = .ok (.session snapshot) ∧ snapshot.id = sessionId := by
  rw [creation?] at h
  split at h
  · next hcommand hanswer =>
    split at h
    · next hid =>
      obtain rfl := Option.some.inj h
      exact ⟨⟨_, _, _, _, hcommand⟩, hanswer, hid⟩
    · cases h
  · cases h

/-- What is refused changes no document. -/
theorem edit?_of_error {error : Error} (h : m.answer = .error error) :
    m.edit? sessionId = none := by
  rw [edit?, h]
  split <;> simp_all

/-- What is refused creates nothing. -/
theorem creation?_of_error {error : Error} (h : m.answer = .error error) :
    m.creation? sessionId = none := by
  rw [creation?, h]
  split <;> simp_all

/-- A user who leaves a session makes no edit. -/
theorem edit?_of_mover {userId : String} (h : m.command.mover? = some userId) :
    m.edit? sessionId = none := by
  rw [edit?]
  split
  · next hcommand _ => simp [hcommand, Command.mover?] at h
  · rfl

/-- When somebody leaves a session, this is recorded after the deed. -/
theorem times_of_mover {userId : String} (h : m.command.mover? = some userId) :
    m.times sessionId = m.clock.recording sessionId := by
  rw [times]
  split
  · next hcommand => simp [hcommand, Command.mover?] at h
  · rfl

/-- A sweep changes no document. -/
theorem edit?_of_sweep {asOf : Instant} (h : m.command = .sweep asOf) :
    m.edit? sessionId = none := by
  simp only [edit?, h]

/-- The creation of a session is no change of a document. -/
theorem edit?_of_creation {key : String} {snapshot : Snapshot}
    (h : m.creation? key = some snapshot) : m.edit? sessionId = none := by
  obtain ⟨⟨_, _, _, _, hcommand⟩, -, -⟩ := creation?_eq_some h
  simp only [edit?, hcommand]

end Moment

/-- What a moment does to a session that is there, with the facts recorded, the notices sent, and
the state afterwards. -/
inductive Turn (config : Config) (m : Moment) (s : Session) :
    List Fact → List Notice → Session → Prop
  | arrive {userId userName : String} {role : Role} {admission : Admission} {s' : Session}
      (hcommand : m.command = .join s.id userId userName role)
      (hanswer : m.answer = .ok (.session s'.snapshot))
      (hjoin : s.join userId (Text.orElseIfBlank userName userId) role (m.time s.id) =
        .ok (admission, s')) :
      Turn config m s (arrivalFacts userId admission) [arrivalNotice userId admission s'] s'
  | depart {userId : String} {departure : Departure} {s' : Session}
      (hmover : m.command.mover? = some userId) (honline : s.isOnline userId = true)
      (hdepart : s.depart userId (m.time s.id) = .ok (departure, s')) :
      Turn config m s (departureFacts userId departure) (departureNotices userId departure s') s'
  | edit {changeId authorId : String} {op : Operation} {change : Change} {s' : Session}
      (hcommand : m.command = .change s.id authorId op)
      (hanswer : m.answer = .ok (.change change))
      (hedit : s.edit changeId authorId op (m.time s.id) = .ok (change, s')) :
      Turn config m s [.changed change] [.codeChange change (limitHistory config s').content]
        (limitHistory config s')
  | point {userId : String} {position : Nat} {entry : Participant} {s' : Session}
      (hcommand : m.command = .cursor userId position)
      (hmove : s.moveCursor userId position (m.time s.id) = .ok (entry, s')) :
      Turn config m s [] [.cursorUpdate userId entry.userName position entry.color] s'
  | help {userId : String} {message : Option String} {entry : Participant} {s' : Session}
      (hcommand : m.command = .assist s.id userId message)
      (hrequest : s.requestHelp userId (m.time s.id) = .ok (entry, s')) :
      Turn config m s [.helpRequested userId message]
        [.helpRequested userId entry.userName message] s'
  | giveUp {asOf : Instant} (hcommand : m.command = .sweep asOf)
      (habandoned : isAbandoned config s asOf = true) :
      Turn config m s [.ended .idle] [.sessionEnded .idle] (s.close asOf).2

/-- Neither an arrival nor a departure is recorded as a change. -/
theorem changes_arrivalFacts (userId : String) (admission : Admission) :
    (arrivalFacts userId admission).filterMap Fact.change? = [] := by
  rw [arrivalFacts]
  split <;> rfl

theorem changes_departureFacts (userId : String) (departure : Departure) :
    (departureFacts userId departure).filterMap Fact.change? = [] := by
  rw [departureFacts]
  cases departure.ended <;> rfl

namespace Turn

variable {config : Config} {m : Moment} {s s' : Session} {facts : List Fact}
  {notices : List Notice}

/-- The same session comes out of a turn as went in. -/
theorem sameTerms (h : Turn config m s facts notices s') : Session.SameTerms s s' := by
  cases h with
  | arrive _ _ hjoin => exact Session.sameTerms_join hjoin
  | depart _ _ hdepart => exact Session.sameTerms_depart hdepart
  | @edit _ _ _ _ s' _ _ hedit =>
      exact (Session.sameTerms_edit hedit).trans (sameTerms_limitHistory config s')
  | point _ hmove => exact Session.sameTerms_moveCursor hmove
  | help _ hrequest => exact Session.sameTerms_requestHelp hrequest
  | giveUp => exact Session.sameTerms_close

/-- The facts of a turn tell of a change exactly if the session took one. -/
theorem changes_eq (h : Turn config m s facts notices s') :
    facts.filterMap Fact.change? = (m.edit? s.id).toList := by
  cases h with
  | arrive hcommand _ _ =>
      rw [changes_arrivalFacts]
      simp [Moment.edit?, hcommand]
  | depart hmover _ _ => rw [changes_departureFacts, Moment.edit?_of_mover hmover, Option.toList]
  | edit hcommand hanswer _ => simp [Moment.edit?, hcommand, hanswer, Fact.change?]
  | point hcommand _ => simp [Moment.edit?, hcommand]
  | help hcommand _ => simp [Moment.edit?, hcommand, Fact.change?]
  | giveUp hcommand _ => simp [Moment.edit?, hcommand, Fact.change?]

/-- The document after a turn comes from the one before it by the changes recorded. -/
theorem follows (h : Turn config m s facts notices s') :
    Session.Follows s (facts.filterMap Fact.change?) s' := by
  cases h with
  | arrive _ _ hjoin =>
      rw [changes_arrivalFacts]
      exact (Session.sameDocument_join hjoin).follows
  | depart _ _ hdepart =>
      rw [changes_departureFacts]
      exact (Session.sameDocument_depart hdepart).follows
  | @edit _ _ _ _ s' _ _ hedit =>
      have hfollows := Session.follows_edit hedit
      exact ⟨(content_limitHistory config s').trans hfollows.content,
        (changeCount_limitHistory config s').trans hfollows.changeCount⟩
  | point _ hmove => exact (Session.sameDocument_moveCursor hmove).follows
  | help _ hrequest => exact (Session.sameDocument_requestHelp hrequest).follows
  | giveUp => exact Session.sameDocument_close.follows

end Turn

namespace Dossier

/-- The session of a dossier takes a turn. -/
def Turned (config : Config) (m : Moment) (sessionId : String) (d d' : Dossier) : Prop :=
  ∃ s facts notices s', d.session = some s ∧ s.id = sessionId ∧
    Turn config m s facts notices s' ∧ d' = d.advance s' facts notices (m.times sessionId)

/-- What a moment does to the dossier of a session that is not created at it. -/
inductive Step (config : Config) (m : Moment) (sessionId : String) : Dossier → Dossier → Prop
  | quiet {d : Dossier} (hedit : m.edit? sessionId = none)
      (hcreation : m.creation? sessionId = none) : Step config m sessionId d d
  | turn {d d' : Dossier} (hcreation : m.creation? sessionId = none)
      (hturn : Turned config m sessionId d d') : Step config m sessionId d d'
  | remove {d : Dossier} {s : Session} {asOf : Instant} (hsession : d.session = some s)
      (hcommand : m.command = .sweep asOf) (hexpired : isExpired config s asOf = true) :
      Step config m sessionId d { d with session := none }

/-- The dossier of a session at the moment of its creation. -/
inductive Begun (config : Config) (m : Moment) (sessionId : String) : Dossier → Prop
  | created {hostId hostName assignmentId : String} {options : SessionOptions}
      {settings : SessionSettings} {s : Session}
      (hcommand : m.command = .create hostId hostName assignmentId options)
      (hsettings : settingsFor config (Text.orElseIfBlank hostName hostId) options = .ok settings)
      (hstart : s = Session.start sessionId hostId (Text.orElseIfBlank hostName hostId)
        assignmentId settings (m.time sessionId))
      (hanswer : m.answer = .ok (.session s.snapshot)) :
      Begun config m sessionId ((Dossier.blank sessionId).advance s
        [.created hostId (Text.orElseIfBlank hostName hostId) s.title s.language s.content] []
        fun _ => m.time sessionId)

/-- What a moment does to the dossier of a session: it makes one of the steps, or creates the
session. -/
def Moved (config : Config) (m : Moment) (sessionId : String) (d d' : Dossier) : Prop :=
  Step config m sessionId d d' ∨ (d = .blank sessionId ∧ Begun config m sessionId d')

variable {config : Config} {m : Moment} {sessionId : String} {d d' : Dossier}

/-- The session is not created at a moment that is a step of it. -/
theorem Step.creation?_eq_none (h : Step config m sessionId d d') :
    m.creation? sessionId = none := by
  cases h with
  | quiet _ hcreation => exact hcreation
  | turn hcreation _ => exact hcreation
  | remove _ hcommand _ => simp only [Moment.creation?, hcommand]

/-- A step of a session that there has never been does nothing. -/
theorem Step.of_blank (h : Step config m sessionId (.blank sessionId) d) :
    d = .blank sessionId ∧ m.edit? sessionId = none := by
  cases h with
  | quiet hedit _ => exact ⟨rfl, hedit⟩
  | turn _ hturn =>
      obtain ⟨s, -, -, -, hs, -⟩ := hturn
      cases hs
  | remove hs => cases hs

/-- What is created is answered with its snapshot. -/
theorem Begun.creation? (h : Begun config m sessionId d) :
    ∃ s, d.session = some s ∧ m.creation? sessionId = some s.snapshot := by
  cases h with
  | created hcommand _ hstart hanswer =>
      refine ⟨_, rfl, ?_⟩
      subst hstart
      simp only [Moment.creation?, hcommand, hanswer]
      exact if_pos rfl

end Dossier

end CoEdit
