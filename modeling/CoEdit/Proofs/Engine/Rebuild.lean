import CoEdit.Proofs.Engine.Clock
import CoEdit.Proofs.Engine.Documents
import CoEdit.Proofs.Recording.Outline

/-!
# Rebuilding a Session from Its Recording

What is recorded of a session suffices to outline its present state, but for whether help was asked
for at its creation. For each turn of a session, the facts recorded of it tell of the state after
it: who came and went, what became of the status, how many changes there are. As long as the clock
does not go back, the list of attendees is the roster; whoever joins is listed with the time at
which this is recorded.

## Main results

* `Turn.told`: a turn is recorded as it happens.
* `Turn.forall₂_listedAs`: the list of attendees follows the roster.
* `outline?_after`: after any history, the recording outlines the session as it is.
* `recording_falls_short`: it does not tell the creation option, nor when users were let in.
-/

namespace CoEdit

open CoEdit.Time (Instant)
open Engine

variable {config : Config} {m : Moment} {s s' : Session} {facts : List Fact}
  {notices : List Notice}

/-! ### Who is online -/

/-- Whoever comes and goes is recorded. -/
theorem Turn.online_iff (h : Turn config m s facts notices s') {online : Finset String}
    (honline : ∀ user, user ∈ online ↔ s.isOnline user = true) (user : String) :
    user ∈ facts.foldl Fact.attend online ↔ s'.isOnline user = true := by
  cases h with
  | @arrive userId _ _ admission _ _ _ hjoin =>
      rw [Session.isOnline_join_iff hjoin, ← honline, arrivalFacts]
      obtain ⟨-, -, -, -, halready⟩ := Session.join_ok hjoin
      split
      · next honce =>
        rw [halready, ← honline] at honce
        constructor
        · exact Or.inl
        · rintro (hold | rfl)
          · exact hold
          · exact honce
      · simp [Fact.attend, or_comm]
  | @depart userId departure _ _ _ hdepart =>
      rw [Session.isOnline_depart_iff hdepart, ← honline, departureFacts]
      cases departure.ended <;> simp [Fact.attend, and_comm]
  | @edit _ _ _ _ s' _ _ hedit =>
      rw [Session.isOnline_congr (roster_limitHistory config s'), Session.isOnline_edit hedit]
      exact honline user
  | point _ hmove =>
      rw [Session.isOnline_moveCursor hmove]
      exact honline user
  | help _ hrequest =>
      rw [Session.isOnline_requestHelp hrequest]
      exact honline user
  | giveUp =>
      rw [Session.isOnline_close]
      exact honline user

/-! ### The status -/

/-- An arrival is recorded as somebody's joining unless they were there, and as nothing else. -/
theorem arrivalFacts_kinds (userId : String) (admission : Admission) :
    (arrivalFacts userId admission).any Fact.isEnd = false ∧
      (arrivalFacts userId admission).any Fact.isJoin = !admission.alreadyOnline ∧
      (arrivalFacts userId admission).any Fact.isCall = false := by
  rw [arrivalFacts]
  cases admission.alreadyOnline with
  | true => exact ⟨rfl, rfl, rfl⟩
  | false => exact ⟨rfl, rfl, rfl⟩

/-- A departure is recorded as an end if it ends the session, and as nobody's joining. -/
theorem departureFacts_kinds (userId : String) (departure : Departure) :
    (departureFacts userId departure).any Fact.isEnd = departure.ended.isSome ∧
      (departureFacts userId departure).any Fact.isJoin = false ∧
      (departureFacts userId departure).any Fact.isCall = false := by
  rw [departureFacts]
  cases departure.ended with
  | none => exact ⟨rfl, rfl, rfl⟩
  | some reason => exact ⟨rfl, rfl, rfl⟩

/-- The status that the facts tell of stays that of the session. -/
theorem Turn.status_eq (h : Turn config m s facts notices s') (hs : s.Sound) {before : List Fact}
    (hstatus : statusOf before = s.status) : statusOf (before ++ facts) = s'.status := by
  cases h with
  | @arrive userId _ _ admission _ _ _ hjoin =>
      obtain ⟨hend, hjoined, -⟩ := arrivalFacts_kinds userId admission
      obtain ⟨hopen, -⟩ := Session.join_ok hjoin
      rw [hs.status_join hjoin]
      cases halready : admission.alreadyOnline with
      | true =>
          rw [halready] at hjoined
          exact (statusOf_append_of_neither hend hjoined).trans hstatus
      | false =>
          rw [halready] at hjoined
          exact statusOf_append_of_join (hstatus ▸ hopen) hend hjoined
  | @depart userId departure _ _ _ hdepart =>
      obtain ⟨hend, hjoined, -⟩ := departureFacts_kinds userId departure
      obtain ⟨-, -, rfl⟩ := Session.depart_ok hdepart
      cases hended : departure.ended with
      | none =>
          rw [hended] at hend
          exact (statusOf_append_of_neither hend hjoined).trans hstatus
      | some reason =>
          rw [hended] at hend
          exact statusOf_append_of_end hend
  | @edit _ _ _ _ s' _ _ hedit =>
      obtain ⟨-, -, -, rfl⟩ := Session.edit_ok hedit
      rw [status_limitHistory]
      exact (statusOf_append_of_neither rfl rfl).trans hstatus
  | point _ hmove =>
      obtain ⟨-, -, rfl⟩ := Session.moveCursor_ok hmove
      exact (statusOf_append_of_neither rfl rfl).trans hstatus
  | help _ hrequest =>
      obtain ⟨-, -, rfl⟩ := Session.requestHelp_ok hrequest
      exact (statusOf_append_of_neither rfl rfl).trans hstatus
  | @giveUp asOf _ _ =>
      rw [s.status_close asOf]
      exact statusOf_append_of_end rfl

/-! ### Calls for help -/

/-- The flag is up after a call for help, and otherwise stays as it was. -/
theorem Turn.lecturerAssistance_eq (h : Turn config m s facts notices s') :
    s'.lecturerAssistance = (s.lecturerAssistance || facts.any Fact.isCall) := by
  cases h with
  | @arrive userId _ _ admission _ _ _ hjoin =>
      obtain ⟨-, -, hcall⟩ := arrivalFacts_kinds userId admission
      obtain ⟨-, -, rfl, -⟩ := Session.join_ok hjoin
      rw [hcall, Bool.or_false, Session.seat_eq]
  | @depart userId departure _ _ _ hdepart =>
      obtain ⟨-, -, hcall⟩ := departureFacts_kinds userId departure
      obtain ⟨-, -, rfl⟩ := Session.depart_ok hdepart
      rw [hcall, Bool.or_false]
      rfl
  | edit _ _ hedit =>
      obtain ⟨-, -, -, rfl⟩ := Session.edit_ok hedit
      rw [lecturerAssistance_limitHistory]
      exact (Bool.or_false _).symm
  | point _ hmove =>
      obtain ⟨-, -, rfl⟩ := Session.moveCursor_ok hmove
      exact (Bool.or_false _).symm
  | help _ hrequest =>
      obtain ⟨-, -, rfl⟩ := Session.requestHelp_ok hrequest
      exact (Bool.or_true _).symm
  | giveUp =>
      rw [Session.close]
      split <;> exact (Bool.or_false _).symm

/-- **A turn is recorded as it happens.** If the facts so far tell of the session before the turn,
those recorded at the turn tell of the session after it. -/
theorem Turn.told (h : Turn config m s facts notices s') (hs : s.Sound) {assistance : Bool}
    {before : List Fact} (htold : Told assistance before s) :
    Told assistance (before ++ facts) s' :=
  htold.append h.sameTerms (h.online_iff htold.online) (h.status_eq hs htold.status)
    h.follows.changeCount h.lecturerAssistance_eq

/-! ### Attendees -/

/-- Facts that bring nobody in leave the list of attendees as it is. -/
theorem arrival_departureFacts (userId : String) (departure : Departure) :
    ∀ fact ∈ departureFacts userId departure, Recording.arrival fact = none := by
  intro fact hfact
  rcases List.mem_cons.mp hfact with rfl | hended
  · rfl
  · obtain ⟨reason, -, rfl⟩ := Option.map_eq_some_iff.mp (Option.mem_toList.mp hended)
    rfl

/-- When somebody who was let in at some time was first seen: the host when they created the
session, and everybody else when it was recorded that they joined. -/
inductive FirstSeen (hostId sessionId : String) (moments : List Moment) (userId : String)
    (joinedAt : Instant) : Instant → Prop
  | host (h : userId = hostId) : FirstSeen hostId sessionId moments userId joinedAt joinedAt
  | joined {m : Moment} {userName : String} {role : Role} (hm : m ∈ moments)
      (hcommand : m.command = .join sessionId userId userName role)
      (htime : m.clock.acting sessionId = joinedAt) :
      FirstSeen hostId sessionId moments userId joinedAt (m.clock.recording sessionId 0)

/-- Somebody on the roster is listed as an attendee. -/
structure Participant.ListedAs (hostId sessionId : String) (moments : List Moment)
    (p : Participant) (a : Attendee) : Prop where
  userId : a.userId = p.userId
  userName : a.userName = p.userName
  role : a.role = p.role
  firstSeen : FirstSeen hostId sessionId moments p.userId p.joinedAt a.firstSeen

section Listing

variable {hostId sessionId userId : String} {moments : List Moment} {p q : Participant}
  {a : Attendee} {roster : List Participant} {attendees : List Attendee}

/-- Other moments do not change when somebody was first seen. -/
theorem FirstSeen.mono {more : List Moment} {joinedAt seen : Instant}
    (h : FirstSeen hostId sessionId moments userId joinedAt seen) (hsub : moments ⊆ more) :
    FirstSeen hostId sessionId more userId joinedAt seen := by
  cases h with
  | host hid => exact .host hid
  | joined hm hcommand htime => exact .joined (hsub hm) hcommand htime

/-- If no time passes before joinings are recorded, everybody is first seen when they are let in. -/
theorem FirstSeen.eq_of_prompt {joinedAt seen : Instant}
    (h : FirstSeen hostId sessionId moments userId joinedAt seen)
    (hprompt : ∀ m ∈ moments, m.clock.recording sessionId 0 = m.clock.acting sessionId) :
    seen = joinedAt := by
  cases h with
  | host => rfl
  | joined hm _ htime => exact (hprompt _ hm).trans htime

theorem Participant.ListedAs.congr (h : p.ListedAs hostId sessionId moments a)
    (hq : q.attendee = p.attendee) : q.ListedAs hostId sessionId moments a := by
  obtain ⟨hid, hname, hrole, hjoined⟩ := Attendee.mk.inj hq
  refine ⟨h.userId.trans hid.symm, h.userName.trans hname.symm, h.role.trans hrole.symm, ?_⟩
  rw [hid, hjoined]
  exact h.firstSeen

theorem Participant.ListedAs.mono {more : List Moment} (h : p.ListedAs hostId sessionId moments a)
    (hsub : moments ⊆ more) : p.ListedAs hostId sessionId more a where
  userId := h.userId
  userName := h.userName
  role := h.role
  firstSeen := h.firstSeen.mono hsub

/-- Then everybody is listed as on the roster. -/
theorem Participant.ListedAs.eq_attendee (h : p.ListedAs hostId sessionId moments a)
    (hprompt : ∀ m ∈ moments, m.clock.recording sessionId 0 = m.clock.acting sessionId) :
    a = p.attendee := by
  obtain ⟨hid, hname, hrole, hseen⟩ := h
  have htime := hseen.eq_of_prompt hprompt
  obtain ⟨_, _, _, _⟩ := a
  subst hid hname hrole htime
  rfl

/-- The users listed are those on the roster. -/
theorem userIds_of_forall₂
    (h : List.Forall₂ (Participant.ListedAs hostId sessionId moments) roster attendees) :
    attendees.map Attendee.userId = roster.map Participant.userId := by
  induction h with
  | nil => rfl
  | cons hfirst _ ih => rw [List.map_cons, List.map_cons, ih, hfirst.userId]

/-- Whoever is listed is on the roster. -/
theorem exists_listedAs
    (h : List.Forall₂ (Participant.ListedAs hostId sessionId moments) roster attendees)
    (ha : a ∈ attendees) : ∃ p ∈ roster, p.ListedAs hostId sessionId moments a := by
  induction h with
  | nil => cases ha
  | cons hfirst _ ih =>
      rcases List.mem_cons.mp ha with rfl | hlater
      · exact ⟨_, List.mem_cons_self, hfirst⟩
      · obtain ⟨p, hp, hlisted⟩ := ih hlater
        exact ⟨p, List.mem_cons_of_mem _ hp, hlisted⟩

/-- A change of one entry that leaves its name, its role and the time of joining alone leaves it
listed. -/
theorem forall₂_updateEntry {f : Participant → Participant}
    (h : List.Forall₂ (Participant.ListedAs hostId sessionId moments) s.roster attendees)
    (hf : ∀ p, (f p).attendee = p.attendee) :
    List.Forall₂ (Participant.ListedAs hostId sessionId moments) (s.updateEntry userId f).roster
      attendees := by
  refine List.forall₂_map_left_iff.mpr (h.imp fun p a hlisted => ?_)
  split
  · exact hlisted.congr (hf p)
  · exact hlisted

/-- To note somebody who is on the roster, under the name that stands there, changes nothing. -/
theorem noteAttendee_of_participant? {entry : Participant}
    (h : List.Forall₂ (Participant.ListedAs hostId sessionId moments) s.roster attendees)
    (hd : s.DistinctEntries) (hentry : s.participant? userId = some entry) (role : Role)
    (time : Instant) :
    Recording.noteAttendee attendees userId entry.userName role time = attendees := by
  obtain ⟨hmem, hid⟩ := Session.mem_of_participant? hentry
  refine Recording.noteAttendee_of_mem ?_ fun a ha haid => ?_
  · rw [userIds_of_forall₂ h]
    exact List.mem_map.mpr ⟨entry, hmem, hid⟩
  · obtain ⟨p, hp, hlisted⟩ := exists_listedAs h ha
    have hfound := hd.participant?_of_mem hp
    obtain rfl : p.userId = userId := hlisted.userId.symm.trans haid
    obtain rfl := Option.some.inj (hentry.symm.trans hfound)
    exact hlisted.userName

/-- Who joins is noted with the time at which this is recorded, if nothing on record is later. -/
theorem Recording.attendees_extend_joined {r : Recording} {times : Nat → Instant}
    (hclock : r.NotAfter (times 0)) (userId userName : String) (role : Role) :
    (r.extend [.joined userId userName role] times).attendees =
      noteAttendee r.attendees userId userName role (times 0) := by
  have hnote : (r.extend [.joined userId userName role] times).attendees =
      noteAttendee r.attendees userId userName role (atOrAfter r.lastTime (times 0)) := rfl
  rw [hnote, atOrAfter_eq fun _ hlast => hclock.lastTime_le hlast]

/-- The list of attendees after an arrival: a newcomer is put at the end, and for somebody who comes
back nothing changes. -/
theorem Session.attendees_join {givenName userName : String} {role : Role} {admission : Admission}
    {r : Recording} (hd : s.DistinctEntries)
    (hcommand : m.command = .join sessionId userId givenName role)
    (hjoin : s.join userId userName role (m.clock.acting sessionId) = .ok (admission, s'))
    (hclock : r.NotAfter (m.clock.recording sessionId 0))
    (hr : List.Forall₂ (Participant.ListedAs hostId sessionId (moments ++ [m])) s.roster
      r.attendees) :
    List.Forall₂ (Participant.ListedAs hostId sessionId (moments ++ [m])) s'.roster
      (r.extend (arrivalFacts userId admission) (m.clock.recording sessionId)).attendees := by
  obtain ⟨-, -, -, -, halready⟩ := join_ok hjoin
  have hentry := participant_join hjoin
  rw [roster_join hjoin, arrivalFacts]
  cases hfind : s.participant? userId with
  | none =>
      have hoffline : admission.alreadyOnline = false := halready.trans (isOnline_of_none hfind)
      have hnew : userId ∉ r.attendees.map Attendee.userId := by
        rw [userIds_of_forall₂ hr]
        exact participant?_eq_none_iff.mp hfind
      rw [hfind] at hentry
      rw [hoffline, seat_of_none hfind, hentry, if_neg Bool.false_ne_true,
        Recording.attendees_extend_joined hclock, Recording.noteAttendee_of_notMem hnew]
      have hlisted : (Participant.enter userId userName role.onJoining
          (colorAt s.roster.length) (m.clock.acting sessionId)).ListedAs hostId sessionId
            (moments ++ [m]) ⟨userId, userName, role.onJoining, m.clock.recording sessionId 0⟩ :=
        ⟨rfl, rfl, rfl, .joined (by simp) hcommand rfl⟩
      exact List.rel_append hr (.cons hlisted .nil)
  | some entry =>
      rw [seat_of_some hfind]
      have hsame : List.Forall₂ (Participant.ListedAs hostId sessionId (moments ++ [m]))
          (s.updateEntry userId fun p =>
            { p.touch (m.clock.acting sessionId) with isOnline := true }).roster r.attendees :=
        forall₂_updateEntry hr fun _ => rfl
      split
      · exact hsame
      · rw [hfind] at hentry
        rw [Recording.attendees_extend_joined hclock, hentry, Option.elim_some]
        exact (noteAttendee_of_participant? hr hd hfind _ _).symm ▸ hsame

/-- **The list of attendees follows the roster**, if nothing is on record that is later than what is
recorded at the turn. -/
theorem Turn.forall₂_listedAs (h : Turn config m s facts notices s') (hs : s.Sound) {r : Recording}
    (hclock : r.NotAfter (m.times s.id 0))
    (hr : List.Forall₂ (Participant.ListedAs hostId s.id moments) s.roster r.attendees) :
    List.Forall₂ (Participant.ListedAs hostId s.id (moments ++ [m])) s'.roster
      (r.extend facts (m.times s.id)).attendees := by
  have hlater : List.Forall₂ (Participant.ListedAs hostId s.id (moments ++ [m])) s.roster
      r.attendees := hr.imp fun p a hlisted => hlisted.mono (List.subset_append_left _ _)
  cases h with
  | arrive hcommand _ hjoin =>
      rw [Moment.times_of_mover (congrArg Command.mover? hcommand)] at hclock ⊢
      exact Session.attendees_join hs.distinct hcommand hjoin hclock hlater
  | @depart userId departure _ _ _ hdepart =>
      obtain ⟨-, -, rfl⟩ := Session.depart_ok hdepart
      rw [Recording.attendees_extend_of_arrival_eq_none (arrival_departureFacts userId departure)]
      exact forall₂_updateEntry hlater fun _ => rfl
  | edit _ _ hedit =>
      obtain ⟨-, -, -, rfl⟩ := Session.edit_ok hedit
      rw [roster_limitHistory]
      exact forall₂_updateEntry hlater fun _ => rfl
  | point _ hmove =>
      obtain ⟨-, -, rfl⟩ := Session.moveCursor_ok hmove
      exact forall₂_updateEntry hlater fun _ => rfl
  | help _ hrequest =>
      obtain ⟨-, -, rfl⟩ := Session.requestHelp_ok hrequest
      exact forall₂_updateEntry hlater fun _ => rfl
  | giveUp =>
      rw [Session.close]
      split <;> exact hlater

end Listing

/-! ### From the creation on -/

namespace Dossier

variable {sessionId : String} {c : Moment} {moments : List Moment} {d : Dossier}

/-- From the creation on, the recorded facts tell of the session that is there. -/
theorem Since.told (h : Since config sessionId c moments d) :
    ∃ hostId hostName assignmentId options,
      c.command = .create hostId hostName assignmentId options ∧
      ∀ s, d.session = some s → Told options.lecturerAssistance d.recording.facts s := by
  induction h with
  | begun h =>
      cases h with
      | @created hostId hostName assignmentId options settings s hcommand hsettings hstart _ =>
          refine ⟨hostId, hostName, assignmentId, options, hcommand, fun t ht => ?_⟩
          obtain rfl := Option.some.inj ht
          obtain ⟨-, -, hflag⟩ := settingsFor_ok hsettings
          subst hstart
          exact ⟨rfl, fun user => Finset.mem_singleton.trans Session.isOnline_start_iff.symm, rfl,
            rfl, (Bool.or_false _).trans hflag.symm⟩
  | @snoc moments m d d' hbefore hstep ih =>
      obtain ⟨hostId, hostName, assignmentId, options, hcommand, htold⟩ := ih
      refine ⟨hostId, hostName, assignmentId, options, hcommand, fun t ht => ?_⟩
      cases hstep with
      | quiet => exact htold t ht
      | turn _ hturned =>
          obtain ⟨s, facts, notices, s', hs, -, hturn, rfl⟩ := hturned
          obtain rfl := Option.some.inj ht
          rw [advance, Recording.facts_extend]
          exact hturn.told (hbefore.sound s hs) (htold s hs)
      | remove => cases ht

/-- As long as the clock does not go back, the list of attendees is the roster of the session. -/
theorem Since.forall₂_listedAs (h : Since config sessionId c moments d)
    (hclock : ((c :: moments).map Moment.clock).Pairwise Clock.Precedes) :
    ∀ s, d.session = some s →
      List.Forall₂ (Participant.ListedAs s.hostId sessionId (c :: moments)) s.roster
        d.recording.attendees := by
  induction h with
  | begun h =>
      cases h with
      | created _ _ hstart _ =>
          intro t ht
          obtain rfl := Option.some.inj ht
          subst hstart
          exact .cons ⟨rfl, rfl, rfl, .host rfl⟩ .nil
  | @snoc moments m d d' hbefore hstep ih =>
      rw [← List.cons_append, List.map_append, List.pairwise_append] at hclock
      obtain ⟨hearlier, -, hlast⟩ := hclock
      intro t ht
      rw [← List.cons_append]
      cases hstep with
      | quiet =>
          exact (ih hearlier t ht).imp fun p a hlisted =>
            hlisted.mono (List.subset_append_left _ _)
      | turn _ hturned =>
          obtain ⟨s, facts, notices, s', hs, rfl, hturn, rfl⟩ := hturned
          obtain rfl := Option.some.inj ht
          rw [hturn.sameTerms.hostId]
          refine hturn.forall₂_listedAs (hbefore.sound s hs) (hbefore.notAfter fun x hx => ?_)
            (ih hearlier s hs)
          have hprecedes : x.clock.Precedes m.clock :=
            hlast x.clock (List.mem_map_of_mem hx) m.clock (by simp)
          exact hprecedes.until Moment.shows_times
      | remove => cases ht

end Dossier

namespace Engine

/-- **A session can be rebuilt from its recording.** In a history whose clock does not go back, the
recording of a session that is there outlines the session as it is, given only whether help was
asked for when it was created, at the moment `m`. The attendees on record are those on its roster,
in the same order: the host as of the creation, and everybody else as of the time at which their
joining was recorded, which may be later than they were let in. If no time passes in between, the
attendees are listed as on the roster. -/
theorem outline?_after (config : Config) (history : History) (sessionId : String) (s : Session)
    (hclock : history.GoesForward)
    (hs : ((Engine.new config).after history).sessions.get? sessionId = some s) :
    ∃ r m snapshot hostId hostName assignmentId options,
      ((Engine.new config).after history).recording? sessionId = some r ∧
      m ∈ (Engine.new config).trace history ∧ m.creation? sessionId = some snapshot ∧
      m.command = .create hostId hostName assignmentId options ∧
      r.outline? options.lecturerAssistance = some s.outline ∧
      List.Forall₂ (Participant.ListedAs s.hostId sessionId ((Engine.new config).trace history))
        s.roster r.attendees ∧
      ((∀ x ∈ history, x.1.recording sessionId 0 = x.1.acting sessionId) →
        r.attendees = s.roster.map Participant.attendee) := by
  obtain ⟨past, c, rest, htrace, hsince⟩ := (life_after config history sessionId).of_session hs
  obtain ⟨snapshot, hcreation⟩ := hsince.creation?_eq_some
  obtain ⟨hostId, hostName, assignmentId, options, hcommand, htold⟩ := hsince.told
  have hc : c ∈ (Engine.new config).trace history := by simp [htrace]
  have hforward : ((c :: rest).map Moment.clock).Pairwise Clock.Precedes := by
    have hacross := hclock.across
    rw [← map_clock_trace (e := Engine.new config), htrace, List.map_append,
      List.pairwise_append] at hacross
    exact hacross.2.1
  have hlisted := hsince.forall₂_listedAs hforward s hs
  refine ⟨_, c, snapshot, hostId, hostName, assignmentId, options,
    recording?_eq_some hsince.facts_ne_nil, hc, hcreation, hcommand,
    (htold s hs).outline?_eq (hsince.sound s hs).distinct, ?_, fun hprompt => ?_⟩
  · rw [htrace]
    exact hlisted.imp fun p a h => h.mono (List.subset_append_right past (c :: rest))
  · have hmoments : ∀ x ∈ c :: rest,
        x.clock.recording sessionId 0 = x.clock.acting sessionId := by
      intro x hx
      have hmem : x.clock ∈ history.map Prod.fst := by
        rw [← map_clock_trace (e := Engine.new config), htrace]
        exact List.mem_map_of_mem (List.mem_append_right past hx)
      obtain ⟨y, hy, hyx⟩ := List.mem_map.mp hmem
      rw [← hyx]
      exact hprompt y hy
    have heq : List.Forall₂ (· = ·) (s.roster.map Participant.attendee)
        (((Engine.new config).after history).dossier sessionId).recording.attendees :=
      List.forall₂_map_left_iff.mpr (hlisted.imp fun p a h => (h.eq_attendee hmoments).symm)
    rw [List.forall₂_eq_eq_eq] at heq
    exact heq.symm

/-- The case of a short history, up to where the host has left and the session has ended. -/
theorem outline?_after_shortHistory :
    ∃ r s assistance,
      ((Engine.new .default).after (shortHistory.take 4)).sessions.get? "$s0" = some s ∧
      ((Engine.new .default).after (shortHistory.take 4)).recording? "$s0" = some r ∧
      r.outline? assistance = some s.outline ∧ s.status = .ended ∧
      r.attendees.map Attendee.userName = ["Ada", "Bob"] := by
  have hstate : (((Engine.new .default).after (shortHistory.take 4)).sessions.get? "$s0").map
      (fun s => (s.status, s.roster.map Participant.userName)) = some (.ended, ["Ada", "Bob"]) := by
    decide +kernel
  obtain ⟨s, hs, hpair⟩ := Option.map_eq_some_iff.mp hstate
  obtain ⟨hstatus, hnames⟩ := Prod.mk.inj hpair
  have hforward : History.GoesForward (shortHistory.take 4 ++ shortHistory.drop 4) := by
    rw [List.take_append_drop]
    exact History.goesForward_still (by decide)
  obtain ⟨r, _, _, _, _, _, options, hr, -, -, -, houtline, -, hattendees⟩ :=
    outline?_after .default (shortHistory.take 4) "$s0" s hforward.append.1 hs
  refine ⟨r, s, options.lecturerAssistance, hs, hr, houtline, hstatus, ?_⟩
  rw [hattendees (by decide), List.map_map, ← hnames]
  rfl

/-- A session with and without help asked for at its creation. -/
def withHelp (asked : Bool) : History :=
  .still [(⟨0, 0⟩, .create "ada" "Ada" "primes" { lecturerAssistance := asked })]

/-- A second passes between letting Bob in and recording that he has joined. -/
def slowJoin : History :=
  [(.still ⟨0, 0⟩, .create "ada" "Ada" "primes" {}),
    (⟨fun _ => ⟨1, 0⟩, fun _ _ => ⟨2, 0⟩, fun _ _ => ⟨2, 0⟩⟩,
      .join "$s0" "bob" "Bob" .participant)]

/-- **A recording falls short of its session.** It does not tell whether help was asked for at the
creation. And although the clock does not go back, Bob is first seen later than he has joined. -/
theorem recording_falls_short :
    (((Engine.new .default).after (withHelp true)).recording? "$s0" =
        ((Engine.new .default).after (withHelp false)).recording? "$s0" ∧
      (∃ s ∈ ((Engine.new .default).after (withHelp true)).sessions.get? "$s0",
        s.lecturerAssistance = true) ∧
      ∃ s ∈ ((Engine.new .default).after (withHelp false)).sessions.get? "$s0",
        s.lecturerAssistance = false) ∧
    slowJoin.GoesForward ∧
      (∃ s ∈ ((Engine.new .default).after slowJoin).sessions.get? "$s0",
        s.roster.map Participant.joinedAt = [⟨0, 0⟩, ⟨1, 0⟩]) ∧
      ∃ r ∈ ((Engine.new .default).after slowJoin).recording? "$s0",
        r.attendees.map Attendee.firstSeen = [⟨0, 0⟩, ⟨2, 0⟩] := by
  have hsame : ((Engine.new .default).after (withHelp true)).recording? "$s0" =
      ((Engine.new .default).after (withHelp false)).recording? "$s0" := by decide +kernel
  have hforward : slowJoin.GoesForward := by
    refine ⟨List.pairwise_pair.mpr fun t ht u hu => ?_, fun x hx key k => ?_⟩
    · rw [Clock.eq_of_shows_still ht]
      cases hu <;> dsimp only <;> decide
    · simp only [slowJoin, List.mem_cons, List.not_mem_nil, or_false] at hx
      rcases hx with rfl | rfl
      · exact Clock.onward_still key k
      · dsimp only
        decide
  exact ⟨⟨hsame, by decide +kernel, by decide +kernel⟩, hforward, by decide +kernel,
    by decide +kernel⟩

end Engine

end CoEdit
