import CoEdit.Proofs.Delivery.Subscriptions
import CoEdit.Proofs.Engine.Outcome
import CoEdit.Proofs.Recording.Growth

/-!
# The Dossier of a Session

An engine keeps what concerns one session in three places: its state among the sessions, its
recording in the archive, and the notices sent about it in the gateway's log. The dossier of a
session is all of this together. Every operation touches the dossiers of the sessions it is about
and of no others.

## Main definitions

* `Dossier`, `Engine.dossier`.
* `Dossier.advance`: a new state together with what is told about it.

## Main results

* `dossier_putSession`, `dossier_tell`: the two ways in which a dossier changes.
* `dossier_store_tell`: both together, which is what every operation does.
-/

namespace CoEdit

open CoEdit.Time (Instant)

/-- What an engine holds about a session: its state while it is in the directory, its recording, and
the notices sent about it, oldest first. -/
structure Dossier where
  session : Option Session
  recording : Recording
  notices : List Notice

namespace Dossier

/-- The dossier of a session that there has never been. -/
def blank (sessionId : String) : Dossier := ⟨none, .empty sessionId, []⟩

/-- The dossier with a new state of the session, and with facts and notices added to it. -/
def advance (d : Dossier) (s : Session) (facts : List Fact) (notices : List Notice)
    (times : Nat → Instant) : Dossier :=
  ⟨some s, d.recording.extend facts times, d.notices ++ notices⟩

end Dossier

namespace Engine

variable {e : Engine} {sessionId key userId : String} {now : Instant} {stamps : Stamps}

/-- The dossier of a session. -/
def dossier (e : Engine) (sessionId : String) : Dossier where
  session := e.sessions.get? sessionId
  recording := (e.archive.get? sessionId).getD (.empty sessionId)
  notices := (e.gateway.log.filter (·.message.sessionId = sessionId)).map (·.message.notice)

/-- A dossier depends on the sessions, the archive and the gateway's log alone. -/
theorem dossier_congr {e' : Engine} (hs : e'.sessions = e.sessions) (ha : e'.archive = e.archive)
    (hl : e'.gateway.log = e.gateway.log) (key : String) : e'.dossier key = e.dossier key := by
  rw [dossier, dossier, hs, ha, hl]

/-! ### The parts of an operation -/

theorem dossier_putSession (s : Session) :
    (e.putSession s).dossier key =
      if key = s.id then { e.dossier key with session := some s } else e.dossier key := by
  simp only [dossier, putSession, Table.get?_put]
  split <;> rfl

theorem dossier_log (fact : Fact) :
    (e.log sessionId fact now).dossier key =
      if key = sessionId then
        { e.dossier key with recording := ((e.dossier key).recording.push fact now).2 }
      else e.dossier key := by
  simp only [dossier, log, Archive.record, Archive.get?, Table.get?_put]
  by_cases h : key = sessionId
  · simp [h]
  · simp [h]

theorem dossier_announce (notice : Notice) (exclude : Option String) :
    (e.announce sessionId notice exclude now).dossier key =
      if key = sessionId then { e.dossier key with notices := (e.dossier key).notices ++ [notice] }
      else e.dossier key := by
  have hlog : (e.announce sessionId notice exclude now).gateway.log = e.gateway.log ++
      [⟨⟨sessionId, e.gateway.nextSequence, now.toMillis, notice⟩,
        (e.gateway.recipients sessionId exclude).map (·.1)⟩] := rfl
  rw [dossier, hlog]
  by_cases h : key = sessionId
  · simp [h, dossier, announce]
  · simp [h, Ne.symm h, dossier, announce]

/-- Telling adds the facts and the notices to the dossier of the session that they are about. -/
theorem dossier_tell (facts : List Fact) (notices : List (Notice × Option String)) :
    (e.tell sessionId facts notices stamps).dossier key =
      if key = sessionId then
        { e.dossier key with
          recording := (e.dossier key).recording.extend facts stamps.recorded
          notices := (e.dossier key).notices ++ notices.map (·.1) }
      else e.dossier key := by
  induction facts generalizing e stamps with
  | cons fact facts ih =>
      change ((e.log sessionId fact (stamps.recorded 0)).tell sessionId facts notices
        ⟨fun k => stamps.recorded (k + 1), stamps.announced⟩).dossier key = _
      rw [ih, dossier_log]
      by_cases h : key = sessionId
      · simp [h]
      · simp [h]
  | nil =>
      induction notices generalizing e stamps with
      | nil => simp [tell, Archive.recordAll, Gateway.broadcastAll]
      | cons n notices ih =>
          change ((e.announce sessionId n.1 n.2 (stamps.announced 0)).tell sessionId [] notices
            ⟨stamps.recorded, fun k => stamps.announced (k + 1)⟩).dossier key = _
          rw [ih, dossier_announce]
          by_cases h : key = sessionId
          · simp [h]
          · simp [h]

/-- Storing a session under its id and telling of it advances its dossier, and no other. What
happens to the subscriptions meanwhile shows in no dossier. -/
theorem dossier_store_tell {s : Session} {g : Gateway} (hid : s.id = sessionId)
    (hlog : g.log = e.gateway.log) (facts : List Fact)
    (notices : List (Notice × Option String)) :
    ({ e.putSession s with gateway := g }.tell sessionId facts notices stamps).dossier key =
      if key = sessionId then (e.dossier key).advance s facts (notices.map (·.1)) stamps.recorded
      else e.dossier key := by
  have hstore : ({ e.putSession s with gateway := g } : Engine).dossier key =
      (e.putSession s).dossier key :=
    dossier_congr (by rfl) (by rfl) hlog key
  subst hid
  rw [dossier_tell, hstore, dossier_putSession]
  by_cases h : key = s.id
  · simp [h, Dossier.advance]
  · simp [h]

/-- In particular when a user is taken out of the session. -/
theorem dossier_dismiss_tell {s : Session} (hid : s.id = sessionId) (facts : List Fact)
    (notices : List Notice) :
    ((e.dismiss sessionId s userId).tell sessionId facts (notices.map (·, none)) stamps).dossier
      key = if key = sessionId then (e.dossier key).advance s facts notices stamps.recorded
        else e.dossier key := by
  have hnotices : (notices.map (·, (none : Option String))).map (·.1) = notices := by
    rw [List.map_map]
    exact List.map_id notices
  refine (dossier_store_tell hid ?_ facts _).trans ?_
  · exact Gateway.log_unsubscribe
  · rw [hnotices]

end Engine

end CoEdit
