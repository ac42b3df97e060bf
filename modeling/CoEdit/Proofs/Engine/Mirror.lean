import CoEdit.ClientView
import CoEdit.Proofs.Delivery.Sending
import CoEdit.Proofs.Engine.Parts
import CoEdit.Proofs.Engine.Rebuild

/-!
# The Messages Mirror the Session

A client that starts from the snapshot given out at the creation of a session, and follows the
messages sent about it, sees the session as it is: the document, the status, who is there in which
role and colour, and where the cursors stand. Every message fits the view it meets. The document
that comes with a change is the one seen so far with the edit applied, and a count of the people
online is the number of those seen online.

## Main definitions

* `Notice.Fits`, `ClientView.Accords`: what the messages say fits what has been seen.
* `Gateway.messagesOf`: the messages of a session.

## Main results

* `Turn.follow_eq`, `Turn.accords`: a turn is announced as it happens.
* `Since.mirror`: the view is that of the session from its creation on.
* `messages_ascending`: the messages are logged in the order of their numbers.
* `mirror_after`: the view after any history.
-/

namespace CoEdit

open CoEdit.Time (Instant)
open Engine

/-! ### Views -/

namespace ClientView

variable {v : ClientView}

/-- How many people are online in a view. -/
def onlineCount (v : ClientView) : Nat :=
  v.seats.countP (·.isOnline)

@[simp] theorem follow_nil : v.follow [] = v := rfl

@[simp] theorem follow_cons (notice : Notice) (rest : List Notice) :
    v.follow (notice :: rest) = (v.receive notice).follow rest := rfl

theorem follow_append (first second : List Notice) :
    v.follow (first ++ second) = (v.follow first).follow second :=
  List.foldl_append

end ClientView

/-- Whether what a notice says fits the view that it meets. -/
def Notice.Fits (v : ClientView) (notice : Notice) : Prop :=
  match notice with
  | .userJoined _ _ _ _ count _ => count = (v.receive notice).onlineCount
  | .userLeft _ _ count => count = (v.receive notice).onlineCount
  | .codeChange change content => content = change.operation.apply v.content
  | _ => True

/-- Every notice of a list fits the view that it meets. -/
def ClientView.Accords (v : ClientView) : List Notice → Prop
  | [] => True
  | notice :: rest => notice.Fits v ∧ (v.receive notice).Accords rest

namespace ClientView

variable {v : ClientView} {s : Session} {userId : String}

theorem accords_append (first second : List Notice) :
    v.Accords (first ++ second) ↔ v.Accords first ∧ (v.follow first).Accords second := by
  induction first generalizing v with
  | nil => simp [Accords]
  | cons notice rest ih =>
      rw [List.cons_append, Accords, Accords, follow_cons, ih, and_assoc]

/-- A client counts the changes it is told of. -/
theorem changeCount_follow (notices : List Notice) :
    (v.follow notices).changeCount =
      v.changeCount + notices.countP (·.name = "code_change") := by
  induction notices generalizing v with
  | nil => simp
  | cons notice rest ih =>
      rw [follow_cons, ih]
      cases notice with
      | codeChange => simp [receive, Notice.name, Nat.add_assoc, Nat.add_comm]
      | userJoined =>
          simp only [receive, seatUser]
          split <;> simp [Notice.name, updateSeat]
      | _ => simp [receive, Notice.name, updateSeat]

/-! ### Sessions as a client shows them -/

theorem ofSnapshot_snapshot (s : Session) : ofSnapshot s.snapshot =
    ⟨s.content, s.status, s.lecturerAssistance, s.changeCount, s.roster.map Participant.seat⟩ :=
  rfl

/-- A view that agrees with a session in everything that clients show is the view of it. -/
theorem eq_ofSnapshot (hcontent : v.content = s.content) (hstatus : v.status = s.status)
    (hassistance : v.lecturerAssistance = s.lecturerAssistance)
    (hcount : v.changeCount = s.changeCount) (hseats : v.seats = s.roster.map Participant.seat) :
    v = ofSnapshot s.snapshot := by
  rw [ofSnapshot_snapshot, ← hcontent, ← hstatus, ← hassistance, ← hcount, ← hseats]

/-- As many people are online in the view of a session as in the session. -/
theorem onlineCount_ofSnapshot (s : Session) :
    (ofSnapshot s.snapshot).onlineCount = s.onlineCount := by
  rw [onlineCount, ofSnapshot_snapshot, Session.onlineCount, List.countP_map]
  rfl

/-- A change of one entry shows as a change of one seat. -/
theorem seats_updateSeat {f : Participant → Participant} {g : Seat → Seat}
    (hfg : ∀ p, g p.seat = (f p).seat) :
    ((ofSnapshot s.snapshot).updateSeat userId g).seats =
      (s.updateEntry userId f).roster.map Participant.seat := by
  simp only [Session.updateEntry, updateSeat, ofSnapshot_snapshot, List.map_map]
  refine List.map_congr_left fun p _ => ?_
  by_cases hp : p.userId = userId
  · have hseat : p.seat.userId = userId := hp
    rw [Function.comp_apply, Function.comp_apply, if_pos hp, if_pos hseat, hfg]
  · have hseat : ¬p.seat.userId = userId := hp
    rw [Function.comp_apply, Function.comp_apply, if_neg hp, if_neg hseat]

/-- Activity shows in no seat. -/
theorem map_seat_touch (now : Instant) :
    (s.updateEntry userId fun p => p.touch now).roster.map Participant.seat =
      s.roster.map Participant.seat := by
  rw [← seats_updateSeat (f := fun p => p.touch now) (g := fun seat => seat) fun _ => rfl]
  simp [updateSeat, ofSnapshot_snapshot]

/-- The view has a seat for whoever is on the roster. -/
theorem any_seat_iff :
    (ofSnapshot s.snapshot).seats.any (·.userId = userId) = true ↔
      s.participant? userId ≠ none := by
  rw [Ne, Session.participant?_eq_none_iff, not_not, ofSnapshot_snapshot, List.any_map,
    List.any_eq_true, List.mem_map]
  refine exists_congr fun p => and_congr_right fun _ => ?_
  exact decide_eq_true_iff

/-- What a client makes of the arrival of an entry shows as the seating of this entry. -/
theorem seats_seatUser {userName : String} {role : Role} {now : Instant} {entry : Participant}
    (hentry : (s.seat userId userName role now).participant? userId = some entry) :
    ((ofSnapshot s.snapshot).seatUser userId entry.userName entry.role entry.color).seats =
      (s.seat userId userName role now).roster.map Participant.seat := by
  rw [Session.participant?_seat, if_pos rfl] at hentry
  obtain rfl := Option.some.inj hentry
  cases hfind : s.participant? userId with
  | some before =>
      have hany := any_seat_iff.mpr (hfind ▸ Option.some_ne_none before)
      rw [Session.seat_of_some hfind, seatUser, if_pos hany]
      exact seats_updateSeat fun _ => rfl
  | none =>
      have hany : ¬(ofSnapshot s.snapshot).seats.any (·.userId = userId) = true :=
        fun hsome => any_seat_iff.mp hsome hfind
      rw [Session.seat_of_none hfind, seatUser, if_neg hany, List.map_append]
      rfl

/-- Seating someone changes the seats of a view alone. -/
theorem seatUser_eq (v : ClientView) (userId userName : String) (role : Role) (color : String) :
    v.seatUser userId userName role color =
      { v with seats := (v.seatUser userId userName role color).seats } := by
  rw [seatUser]
  split <;> rfl

end ClientView

/-! ### Turns -/

section Turn

open ClientView

variable {config : Config} {m : Moment} {s s' : Session} {facts : List Fact}
  {notices : List Notice}

/-- What an arrival shows of a session. -/
theorem receive_arrivalNotice {userId userName : String} {role : Role} {now : Instant}
    {admission : Admission} (hjoin : s.join userId userName role now = .ok (admission, s')) :
    (ofSnapshot s.snapshot).receive (arrivalNotice userId admission s') =
      ofSnapshot s'.snapshot := by
  obtain ⟨-, -, hs', hentry, -⟩ := Session.join_ok hjoin
  have hroster := Session.roster_join hjoin
  have hdocument := (Session.sameDocument_join hjoin).follows
  have hassistance : s'.lecturerAssistance = s.lecturerAssistance := by rw [hs', Session.seat_eq]
  rw [Session.participant?_congr hroster] at hentry
  rw [arrivalNotice, receive, seatUser_eq]
  refine eq_ofSnapshot hdocument.content.symm rfl hassistance.symm hdocument.changeCount.symm ?_
  rw [hroster]
  exact seats_seatUser hentry

/-- A departure shows the user offline, and the end of the session if it ends by it. -/
theorem follow_departureNotices {userId : String} {now : Instant} {departure : Departure}
    (hdepart : s.depart userId now = .ok (departure, s')) :
    (ofSnapshot s.snapshot).follow (departureNotices userId departure s') =
      ofSnapshot s'.snapshot := by
  have hdocument := (Session.sameDocument_depart hdepart).follows
  obtain ⟨-, -, hs'⟩ := Session.depart_ok hdepart
  have hseats : ((ofSnapshot s.snapshot).updateSeat userId ({ · with isOnline := false })).seats =
      s'.roster.map Participant.seat := by
    rw [hs']
    exact seats_updateSeat fun _ => rfl
  have hstatus : s'.status = if departure.ended = none then s.status else .ended := by rw [hs']
  have hassistance : s'.lecturerAssistance = s.lecturerAssistance := by
    rw [hs']
    rfl
  rw [departureNotices, follow_cons, receive]
  cases hended : departure.ended with
  | none =>
      rw [hended, if_pos rfl] at hstatus
      exact eq_ofSnapshot hdocument.content.symm hstatus.symm hassistance.symm
        hdocument.changeCount.symm hseats
  | some reason =>
      rw [hended, if_neg (Option.some_ne_none reason)] at hstatus
      exact eq_ofSnapshot hdocument.content.symm hstatus.symm hassistance.symm
        hdocument.changeCount.symm hseats

/-- **A turn is announced as it happens.** Whoever has seen the session before the turn, and gets
the notices of the turn, sees the session after it. -/
theorem Turn.follow_eq (h : Turn config m s facts notices s') :
    (ofSnapshot s.snapshot).follow notices = ofSnapshot s'.snapshot := by
  have hdocument := h.follows
  cases h with
  | arrive _ _ hjoin => exact receive_arrivalNotice hjoin
  | depart _ _ hdepart => exact follow_departureNotices hdepart
  | @edit _ _ _ _ s' _ _ hedit =>
      have hcount := hdocument.changeCount
      obtain ⟨-, -, -, hs'⟩ := Session.edit_ok hedit
      refine eq_ofSnapshot rfl ?_ ?_ hcount.symm ?_
      · rw [status_limitHistory, hs']
        rfl
      · rw [lecturerAssistance_limitHistory, hs']
        rfl
      · rw [roster_limitHistory, hs']
        exact (map_seat_touch (m.time s.id)).symm
  | point _ hmove =>
      obtain ⟨-, -, rfl⟩ := Session.moveCursor_ok hmove
      exact eq_ofSnapshot rfl rfl rfl rfl (seats_updateSeat fun _ => rfl)
  | help _ hrequest =>
      obtain ⟨-, -, rfl⟩ := Session.requestHelp_ok hrequest
      exact eq_ofSnapshot rfl rfl rfl rfl (map_seat_touch (m.time s.id)).symm
  | @giveUp asOf _ _ =>
      rw [Session.close]
      split
      · next hended => exact eq_ofSnapshot rfl hended.symm rfl rfl rfl
      · exact eq_ofSnapshot rfl rfl rfl rfl rfl

/-- **What is announced of a turn fits** what has been seen of the session before it. -/
theorem Turn.accords (h : Turn config m s facts notices s') :
    (ofSnapshot s.snapshot).Accords notices := by
  cases h with
  | @arrive userId _ _ admission s' _ _ hjoin =>
      have hseen := receive_arrivalNotice hjoin
      have hcount : s'.onlineCount =
          ((ofSnapshot s.snapshot).receive (arrivalNotice userId admission s')).onlineCount := by
        rw [hseen, onlineCount_ofSnapshot]
      exact ⟨hcount, trivial⟩
  | @depart userId departure s' _ _ hdepart =>
      have hseen := congrArg onlineCount (follow_departureNotices hdepart)
      rw [onlineCount_ofSnapshot, departureNotices, follow_cons] at hseen
      -- The end of the session, if it is announced, shows in no seat.
      rw [departureNotices]
      cases hended : departure.ended with
      | none =>
          rw [hended] at hseen
          exact ⟨hseen.symm, trivial⟩
      | some reason =>
          rw [hended] at hseen
          exact ⟨hseen.symm, trivial, trivial⟩
  | edit _ _ hedit =>
      obtain ⟨-, -, rfl, hs'⟩ := Session.edit_ok hedit
      refine ⟨?_, trivial⟩
      rw [Notice.Fits, content_limitHistory, hs']
      rfl
  | point => exact ⟨trivial, trivial⟩
  | help => exact ⟨trivial, trivial⟩
  | giveUp => exact ⟨trivial, trivial⟩

end Turn

/-! ### From the creation on -/

namespace Dossier

open ClientView

variable {config : Config} {sessionId : String} {c : Moment} {moments : List Moment}
  {snapshot : Snapshot} {d : Dossier}

/-- At the creation of a session there has been no change. -/
theorem Begun.changeCount_eq (h : Begun config c sessionId d)
    (hcreation : c.creation? sessionId = some snapshot) : snapshot.changeCount = 0 := by
  obtain ⟨s, hs, hsnapshot⟩ := h.creation?
  obtain rfl := Option.some.inj (hsnapshot.symm.trans hcreation)
  cases h with
  | created _ _ hstart _ =>
      obtain rfl := Option.some.inj hs
      subst hstart
      rfl

theorem Since.changeCount_eq (h : Since config sessionId c moments d)
    (hcreation : c.creation? sessionId = some snapshot) : snapshot.changeCount = 0 := by
  induction h with
  | begun h => exact h.changeCount_eq hcreation
  | snoc _ _ ih => exact ih

/-- From the creation of a session on, its notices fit the view of whoever follows them from the
first snapshot, and as long as the session is there this view is that of the session. -/
theorem Since.mirror (h : Since config sessionId c moments d)
    (hcreation : c.creation? sessionId = some snapshot) :
    (ofSnapshot snapshot).Accords d.notices ∧
      ∀ s, d.session = some s → (ofSnapshot snapshot).follow d.notices = ofSnapshot s.snapshot := by
  induction h with
  | begun h =>
      obtain ⟨s, hs, hsnapshot⟩ := h.creation?
      obtain rfl := Option.some.inj (hsnapshot.symm.trans hcreation)
      cases h with
      | created =>
          refine ⟨trivial, fun t ht => ?_⟩
          obtain rfl := Option.some.inj (hs.symm.trans ht)
          rfl
  | snoc _ hstep ih =>
      obtain ⟨haccords, hview⟩ := ih
      cases hstep with
      | quiet => exact ⟨haccords, hview⟩
      | turn _ hturned =>
          obtain ⟨s, facts, notices, s', hs, -, hturn, rfl⟩ := hturned
          rw [advance]
          refine ⟨(accords_append _ _).mpr ⟨haccords, ?_⟩, fun t ht => ?_⟩
          · rw [hview s hs]
            exact hturn.accords
          · obtain rfl := Option.some.inj ht
            rw [follow_append, hview s hs, hturn.follow_eq]
      | remove => exact ⟨haccords, fun t ht => by cases ht⟩

end Dossier

/-! ### The messages of a session -/

/-- The messages sent about a session, in the order in which they were logged. -/
def Gateway.messagesOf (g : Gateway) (sessionId : String) : List Message :=
  (g.log.map Dispatch.message).filter (·.sessionId = sessionId)

namespace Engine

open ClientView

variable {e e' : Engine}

/-- The notices of a dossier are those of the messages of the session. -/
theorem notices_dossier (e : Engine) (sessionId : String) :
    (e.dossier sessionId).notices = (e.gateway.messagesOf sessionId).map Message.notice := by
  rw [dossier, Gateway.messagesOf, List.filter_map, List.map_map]
  rfl

/-- Every part of an operation keeps the messages numbered. -/
theorem Part.numbered (h : Part e e') (he : e.gateway.Numbered) : e'.gateway.Numbered := by
  cases h with
  | directory _ hgateway =>
      rw [hgateway]
      exact he
  | announce sessionId notice exclude time => exact he.broadcast sessionId notice exclude time
  | subscribe =>
      rw [Gateway.subscribe_eq]
      exact he
  | unsubscribe =>
      rw [Gateway.unsubscribe_eq]
      exact he
  | connect _ line => cases line <;> exact he
  | _ => exact he

/-- After every history, the messages are logged in the order of their numbers. -/
theorem messages_ascending (config : Config) (history : History) (sessionId : String) :
    (((Engine.new config).after history).gateway.messagesOf sessionId).Pairwise
      fun first second => first.sequence < second.sequence := by
  have hnumbered : ((Engine.new config).after history).gateway.Numbered :=
    after_of_part (I := fun e => e.gateway.Numbered) Part.numbered history rfl
  have hlog : (((Engine.new config).after history).gateway.log.map Dispatch.message).Pairwise
      fun first second => first.sequence < second.sequence := by
    rw [← List.pairwise_map, List.map_map]
    exact hnumbered ▸ List.pairwise_lt_range
  exact hlog.filter _

/-- **The messages mirror the session.** The messages of a session are logged in ascending order of
their numbers. Whoever follows them from the snapshot given out at the creation of the session, at
the moment `m`, meets only messages that fit what they have seen, and as long as the session is
there they see it as it is, with as many changes as there were messages of changes. Every session
that is there was created at such a moment. -/
theorem mirror_after (config : Config) (history : History) (sessionId : String) :
    let e := (Engine.new config).after history
    let messages := e.gateway.messagesOf sessionId
    messages.Pairwise (fun first second => first.sequence < second.sequence) ∧
      (∀ s, e.sessions.get? sessionId = some s →
        ∃ m ∈ (Engine.new config).trace history, ∃ snapshot,
          m.creation? sessionId = some snapshot) ∧
      ∀ m ∈ (Engine.new config).trace history, ∀ snapshot,
        m.creation? sessionId = some snapshot →
        (ofSnapshot snapshot).Accords (messages.map Message.notice) ∧
          ∀ s, e.sessions.get? sessionId = some s →
            (ofSnapshot snapshot).follow (messages.map Message.notice) = ofSnapshot s.snapshot ∧
              s.changeCount = messages.countP (·.notice.name = "code_change") := by
  intro e messages
  have hlife := life_after config history sessionId
  refine ⟨messages_ascending config history sessionId, fun s hs => ?_,
    fun m hm snapshot hcreation => ?_⟩
  · obtain ⟨past, c, rest, htrace, hsince⟩ := hlife.of_session hs
    obtain ⟨snapshot, hcreation⟩ := hsince.creation?_eq_some
    exact ⟨c, by simp [htrace], snapshot, hcreation⟩
  · obtain ⟨_, _, -, -, hsince⟩ := hlife.of_creation hm hcreation
    obtain ⟨haccords, hview⟩ := hsince.mirror hcreation
    rw [notices_dossier] at haccords hview
    refine ⟨haccords, fun s hs => ⟨hview s hs, ?_⟩⟩
    have hcount := changeCount_follow (v := ofSnapshot snapshot) (messages.map Message.notice)
    rw [hview s hs, List.countP_map] at hcount
    change s.changeCount = snapshot.changeCount + _ at hcount
    rwa [hsince.changeCount_eq hcreation, Nat.zero_add] at hcount

/-- The case of a short history, up to where the host has left. -/
theorem mirror_after_shortHistory :
    ∃ s, ((Engine.new .default).after (shortHistory.take 4)).sessions.get? "$s0" = some s ∧
      (ofSnapshot shortHistorySnapshot).follow
        ((((Engine.new .default).after (shortHistory.take 4)).gateway.messagesOf "$s0").map
          Message.notice) = ofSnapshot s.snapshot ∧
      s.status = .ended ∧ s.changeCount = 1 := by
  have hstate : (((Engine.new .default).after (shortHistory.take 4)).sessions.get? "$s0").map
      (fun s => (s.status, s.changeCount)) = some (.ended, 1) := by
    decide +kernel
  obtain ⟨s, hs, hpair⟩ := Option.map_eq_some_iff.mp hstate
  obtain ⟨hstatus, hcount⟩ := Prod.mk.inj hpair
  obtain ⟨-, -, hmirror⟩ := mirror_after .default (shortHistory.take 4) "$s0"
  have hm : shortHistoryStart ∈ (Engine.new .default).trace (shortHistory.take 4) :=
    List.mem_cons_self
  obtain ⟨-, hview⟩ := hmirror _ hm _ creation?_shortHistoryStart
  exact ⟨s, hs, (hview s hs).1, hstatus, hcount⟩

end Engine

end CoEdit
