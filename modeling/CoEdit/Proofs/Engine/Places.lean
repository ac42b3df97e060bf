import CoEdit.Proofs.Engine.Reachable
import CoEdit.Proofs.Session.Places

/-!
# Places in the Sessions of an Engine

Whatever an engine does to one of its sessions is a course of this session, which began with at
least one place. So no session of an engine ever has more people online than it has places,
lecturers not counted.

## Main results

* `Turn.exists_course`: a turn is a course.
* `Reachable.exists_course`: every session of an engine has come about by a course.
* `places_respected`: rosters stay in order, and sessions keep within their places.
-/

namespace CoEdit

open CoEdit.Time (Instant)
open Engine

/-- Whether a history is limited or not, limiting it is a course. -/
theorem Session.exists_course_limitHistory (config : Config) (s : Session) (now : Instant) :
    ∃ course, limitHistory config s = s.after course := by
  rw [limitHistory]
  cases config.historyLimit with
  | none => exact ⟨[], rfl⟩
  | some limit => exact ⟨[(now, .compact limit)], rfl⟩

open Session in
/-- **What a moment does to a session is a course of the session.** -/
theorem Turn.exists_course {config : Config} {m : Moment} {s s' : Session} {facts : List Fact}
    {notices : List Notice} (h : Turn config m s facts notices s') :
    ∃ course, s' = s.after course := by
  have hone : ∀ {now : Instant} {action : Action} {result : Result} {s' : Session},
      Acted s now action result s' → ∃ course, s' = s.after course :=
    fun hacted => ⟨[(_, _)], (hacted.after_cons []).symm⟩
  cases h with
  | arrive _ _ hjoin => exact hone (.join hjoin)
  | depart _ _ hdepart => exact hone (.depart hdepart)
  | @edit _ _ _ _ s' _ _ hedit =>
      obtain ⟨rest, hrest⟩ := exists_course_limitHistory config s' (m.time s.id)
      exact ⟨(m.time s.id, _) :: rest, by rw [(Acted.edit hedit).after_cons rest, hrest]⟩
  | point _ hmove => exact hone (.moveCursor hmove)
  | help _ hrequest => exact hone (.requestHelp hrequest)
  | @giveUp asOf _ _ => exact hone (@Acted.close s asOf)

namespace Engine

variable {config : Config} {e : Engine} {sessionId : String} {s : Session}

namespace Reachable

/-- The configuration is that of the beginning. -/
theorem config_eq (h : e.Reachable config) : e.config = config :=
  h.of_outcome (I := fun e => e.config = config) rfl (fun _ hok he => hok.config_eq.trans he)
    fun hsame he => hsame.config.trans he

/-- What holds of every session when it is created and is kept by its turns holds of all sessions of
every engine that comes about. -/
theorem session_invariant {I : Session → Prop}
    (hstart : ∀ sessionId hostId hostName assignmentId options settings now,
      settingsFor config hostName options = .ok settings →
        I (Session.start sessionId hostId hostName assignmentId settings now))
    (hturn : ∀ {m s s' facts notices}, Turn config m s facts notices s' → I s → I s')
    (h : e.Reachable config) : ∀ s, e.sessions.get? sessionId = some s → I s := by
  refine h.invariant (I := fun e => ∀ s, e.sessions.get? sessionId = some s → I s) nofun ?_ ?_
  · intro e h now command he
    have hmoved := h.coherent.step_dossier now command sessionId
    rw [h.config_eq] at hmoved
    exact hmoved.session_invariant (hstart sessionId) hturn he
  · intro e e' hsame he s hs
    exact he s ((hsame.session sessionId).symm.trans hs)

/-- **Every session of an engine has come about by a course**, and with at least one place. -/
theorem exists_course (h : e.Reachable config) (hs : e.sessions.get? sessionId = some s) :
    ∃ id hostId hostName assignmentId settings created course,
      1 ≤ settings.maxParticipants ∧
      s = (Session.start id hostId hostName assignmentId settings created).after course := by
  refine h.session_invariant (I := fun s => ∃ id hostId hostName assignmentId settings created
    course, 1 ≤ settings.maxParticipants ∧
      s = (Session.start id hostId hostName assignmentId settings created).after course) ?_ ?_ s hs
  · intro id hostId hostName assignmentId options settings now hsettings
    exact ⟨id, hostId, hostName, assignmentId, settings, now, [],
      (settingsFor_ok hsettings).1, rfl⟩
  · rintro m s s' facts notices hturn ⟨id, hostId, hostName, assignmentId, settings, created,
      course, hplaces, rfl⟩
    obtain ⟨rest, hrest⟩ := hturn.exists_course
    refine ⟨id, hostId, hostName, assignmentId, settings, created, course ++ rest, hplaces, ?_⟩
    rw [hrest, Session.after_append]

end Reachable

/-- **Rosters stay in order, and sessions keep within their places.** After any course of a session
nobody is on its roster twice, the host comes first and is the only one, the colours are given out
in turn, and no more places are taken than there are, the host's apart. In any state that an engine
can be in, no more people are online in a session than there are places and lecturers. -/
theorem places_respected :
    (∀ id hostId hostName assignmentId settings created course,
      let s := (Session.start id hostId hostName assignmentId settings created).after course
      (s.roster.map Participant.userId).Nodup ∧
      (∃ host, s.roster[0]? = some host ∧ host.userId = hostId ∧ host.role = .host) ∧
      (∀ (i : Nat) (p : Participant), s.roster[i]? = some p →
        (p.role = .host → i = 0) ∧ palette[i % 8]? = some p.color) ∧
      s.roster.countP (fun p => p.isOnline && p.role ≠ .lecturer) ≤
        max 1 settings.maxParticipants) ∧
    ∀ (config : Config) (e : Engine), e.Reachable config →
      ∀ sessionId s, e.sessions.get? sessionId = some s →
        s.onlineCount ≤
          s.maxParticipants + s.roster.countP fun p => p.isOnline && p.role = .lecturer := by
  refine ⟨?_, fun config e he sessionId s hs => ?_⟩
  · intro id hostId hostName assignmentId settings created course s
    obtain ⟨hsound, horder, hfitted⟩ :=
      Session.fitted_after id hostId hostName assignmentId settings created course
    have hterms := Session.sameTerms_after
      (Session.start id hostId hostName assignmentId settings created) course
    obtain ⟨host, hfirst, hid⟩ := horder.host
    refine ⟨hsound.distinct, ⟨host, hfirst, hid.trans hterms.hostId, ?_⟩, fun i p hp => ?_, ?_⟩
    · exact (horder.entry 0 host hfirst).1.mpr rfl
    · obtain ⟨hrole, hcolor⟩ := horder.entry i p hp
      refine ⟨hrole.mp, ?_⟩
      rw [hcolor]
      exact List.getElem?_eq_getElem (Nat.mod_lt i (by decide))
    · rw [Session.Fitted, hterms.maxParticipants] at hfitted
      exact hfitted
  · obtain ⟨id, hostId, hostName, assignmentId, settings, created, course, hplaces, rfl⟩ :=
      he.exists_course hs
    obtain ⟨-, -, hfitted⟩ :=
      Session.fitted_after id hostId hostName assignmentId settings created course
    have hterms := Session.sameTerms_after
      (Session.start id hostId hostName assignmentId settings created) course
    rw [Session.Fitted, hterms.maxParticipants] at hfitted
    have hmax : max 1 settings.maxParticipants = settings.maxParticipants := max_eq_right hplaces
    rw [Session.onlineCount_eq, hterms.maxParticipants]
    exact Nat.add_le_add_right (le_trans hfitted (le_of_eq hmax)) _

/-- Ada opens a session for herself alone, and a lecturer looks in. -/
def lecturerVisit : History :=
  .still [(⟨0, 0⟩, .create "ada" "Ada" "primes" { maxParticipants := some 1 }),
    (⟨1, 0⟩, .join "$s0" "lee" "Lee" .lecturer)]

/-- With the lecturer there are two people in a session for one, and not more than that. -/
theorem places_respected_lecturerVisit :
    ∃ s, ((Engine.new .default).after lecturerVisit).sessions.get? "$s0" = some s ∧
      s.onlineCount = 2 ∧ s.maxParticipants = 1 ∧
      s.onlineCount ≤
        s.maxParticipants + s.roster.countP fun p => p.isOnline && p.role = .lecturer := by
  have hthere : ((((Engine.new .default).after lecturerVisit).sessions.get? "$s0").map
      fun s => (s.onlineCount, s.maxParticipants)) = some (2, 1) := by decide +kernel
  obtain ⟨s, hs, hcounts⟩ := Option.map_eq_some_iff.mp hthere
  obtain ⟨honline, hplaces⟩ := Prod.mk.inj hcounts
  refine ⟨s, hs, honline, hplaces, ?_⟩
  exact places_respected.2 .default _ (Reachable.new.after lecturerVisit) "$s0" s hs

end Engine

end CoEdit
