import CoEdit.Proofs.Delivery.Sending
import CoEdit.Proofs.Engine.Parts

/-!
# Messages Reach Exactly Those Who Are There

Every message that an operation sends about a session is offered to the connections of exactly those
users who are online in the session once the operation is done, but not to the one whose own edit or
cursor it is. So nobody gets to see anything of a session while they are not in it, and nobody who
is in it misses anything, as long as their connection takes what it is offered.

## Main definitions

* `Notice.actor?`: the user whose own doing a notice is.
* `Engine.Reaches`: a message was offered to exactly those who are to have it.
* `Engine.Sending`: an operation sends some messages, each to exactly those.
* `Engine.Routes`: the same for a moment, with the mailboxes.

## Main results

* `Balanced.sending_departFrom`, `Balanced.sending_join`, `Balanced.sending_sweep`, ...: the
  operations.
* `Coherent.routes`: every command.
* `routing_exact`: after any history, and for everything that anybody has ever received.
-/

namespace CoEdit

open CoEdit.Time (Instant)

/-- The user whose own doing a notice is; they know of it already. -/
def Notice.actor? : Notice → Option String
  | .codeChange change _ => some change.authorId
  | .cursorUpdate userId _ _ _ => some userId
  | _ => none

/-- Whoever is announced to have left is not there any more. -/
theorem Turn.isOnline_of_userLeft {config : Config} {m : Moment} {s s' : Session}
    {facts : List Fact} {notices : List Notice} {userId userName : String} {count : Nat}
    (h : Turn config m s facts notices s') (hleft : .userLeft userId userName count ∈ notices) :
    s'.isOnline userId = false := by
  cases h with
  | arrive => simp [Engine.arrivalNotice] at hleft
  | @depart leaver departure _ _ _ hdepart =>
      have huser : userId = leaver := by
        rcases List.mem_cons.mp hleft with heq | hended
        · exact (Notice.userLeft.inj heq).1
        · obtain ⟨reason, -, heq⟩ := Option.map_eq_some_iff.mp (Option.mem_toList.mp hended)
          cases heq
      rw [Bool.eq_false_iff, ne_eq, Session.isOnline_depart_iff hdepart]
      exact fun hboth => hboth.2 huser
  | edit => simp at hleft
  | point => simp at hleft
  | help => simp at hleft
  | giveUp => simp at hleft

/-- A notice that comes in at a moment tells of the turn that the session takes at it. -/
theorem Dossier.Moved.exists_turn {config : Config} {m : Moment} {sessionId : String}
    {d d' : Dossier} {added : List Notice} {notice : Notice} (h : Moved config m sessionId d d')
    (hnotices : d'.notices = d.notices ++ added) (hmem : notice ∈ added) :
    ∃ s facts notices s', d.session = some s ∧ Turn config m s facts notices s' ∧
      notice ∈ notices ∧ d'.session = some s' := by
  rcases h with hstep | ⟨rfl, hbegun⟩
  · cases hstep with
    | quiet =>
        rw [List.self_eq_append_right.mp hnotices] at hmem
        cases hmem
    | turn _ hturned =>
        obtain ⟨s, facts, notices, s', hs, -, hturn, rfl⟩ := hturned
        obtain rfl : notices = added := List.append_cancel_left hnotices
        exact ⟨s, facts, notices, s', hs, hturn, hmem, rfl⟩
    | remove =>
        rw [List.self_eq_append_right.mp hnotices] at hmem
        cases hmem
  · cases hbegun with
    | created =>
        rw [List.self_eq_append_right.mp hnotices] at hmem
        cases hmem

namespace Engine

variable {e e' : Engine} {sessionId userId : String} {now : Clock}
  {seated : String → String → Prop} {d : Dispatch} {sent : List Dispatch}

/-! ### Who is reached -/

/-- A message was offered to exactly those who are online in its session and connected, except the
user whose own doing it is, and to nobody twice. -/
structure Reaches (e : Engine) (d : Dispatch) : Prop where
  nodup : d.audience.Nodup
  mem_iff : ∀ user, user ∈ d.audience ↔
    e.IsPresent user d.message.sessionId ∧ e.gateway.isConnected user = true ∧
      d.message.notice.actor? ≠ some user

/-- What keeps the connections, and everybody's presence in a session, keeps who is reached by the
messages of the session. -/
theorem Reaches.congr (h : e.Reaches d)
    (hconnections : e'.gateway.connections = e.gateway.connections)
    (hpresent : ∀ user, e'.IsPresent user d.message.sessionId ↔
      e.IsPresent user d.message.sessionId) : e'.Reaches d where
  nodup := h.nodup
  mem_iff user := by
    rw [hpresent, Gateway.isConnected, hconnections]
    exact h.mem_iff user

/-- Some messages are sent between two states, and each reaches exactly those who are to have it. -/
structure Sending (e : Engine) (sent : List Dispatch) (e' : Engine) : Prop where
  sends : e.gateway.Sends sent e'.gateway
  reaches : ∀ d ∈ sent, e'.Reaches d

/-- Nothing is sent where the gateway keeps its log, its connections and its mailboxes. -/
theorem Sending.nil (hlog : e'.gateway.log = e.gateway.log)
    (hconnections : e'.gateway.connections = e.gateway.connections)
    (hmailboxes : e'.gateway.mailboxes = e.gateway.mailboxes) : e.Sending [] e' :=
  ⟨.nil hlog hconnections hmailboxes, fun d hd => by cases hd⟩

/-- What is sent does not depend on the whereabouts, the archive and the counters. -/
theorem Sending.congr {e₁ e₂ e₃ : Engine} (h : e₁.Sending sent e₂) (hs : e₃.sessions = e₂.sessions)
    (hg : e₃.gateway = e₂.gateway) : e₁.Sending sent e₃ where
  sends := by
    rw [hg]
    exact h.sends
  reaches d hd := by
    refine (h.reaches d hd).congr (by rw [hg]) fun user => ?_
    rw [IsPresent, hs]
    exact Iff.rfl

/-- One after the other, as long as what comes second keeps everybody's presence in the sessions of
the messages sent first. -/
theorem Sending.append {e₁ e₂ e₃ : Engine} {first second : List Dispatch}
    (h₁ : e₁.Sending first e₂) (h₂ : e₂.Sending second e₃)
    (hkeep : ∀ d ∈ first, ∀ user, e₃.IsPresent user d.message.sessionId ↔
      e₂.IsPresent user d.message.sessionId) : e₁.Sending (first ++ second) e₃ where
  sends := h₁.sends.append h₂.sends
  reaches d hd := by
    rcases List.mem_append.mp hd with hfirst | hsecond
    · exact (h₁.reaches d hfirst).congr h₂.sends.connections (hkeep d hfirst)
    · exact h₂.reaches d hsecond

/-! ### The parts of an operation -/

/-- Every part of an operation leaves nobody subscribed twice. -/
theorem Part.distinctSubscribers (h : Part e e') (he : e.gateway.DistinctSubscribers) :
    e'.gateway.DistinctSubscribers := by
  cases h with
  | directory _ hgateway =>
      rw [hgateway]
      exact he
  | subscribe => exact he.subscribe
  | unsubscribe => exact he.unsubscribe
  | dropSession => exact he.dropSession
  | connect _ line => cases line <;> exact he
  | _ => exact he

theorem Parts.distinctSubscribers (h : Parts e e') (he : e.gateway.DistinctSubscribers) :
    e'.gateway.DistinctSubscribers :=
  h.invariant (I := fun e => e.gateway.DistinctSubscribers) Part.distinctSubscribers he

/-- Enrolling and dismissing send nothing. -/
theorem sending_enroll (sessionId userId : String) (s : Session) :
    e.Sending [] (e.enroll sessionId s userId) := by
  refine .nil ?_ ?_ ?_ <;> rw [enroll, Gateway.subscribe_eq]

theorem sending_dismiss (sessionId userId : String) (s : Session) :
    e.Sending [] (e.dismiss sessionId s userId) := by
  refine .nil ?_ ?_ ?_ <;> rw [dismiss, Gateway.unsubscribe_eq]

namespace Seating

/-- Sending a notice, except to the user whose own doing it is. -/
theorem sending_announce (h : e.Seating seated) (hdistinct : e.gateway.DistinctSubscribers)
    (sessionId : String) (notice : Notice) (now : Instant) :
    ∃ d, d.message.sessionId = sessionId ∧
      e.Sending [d] (e.announce sessionId notice notice.actor? now) := by
  refine ⟨_, rfl, e.gateway.sends_broadcast sessionId notice notice.actor? now, fun d hd => ?_⟩
  obtain rfl := List.mem_singleton.mp hd
  refine ⟨hdistinct.nodup_audience sessionId notice.actor?, fun user => ?_⟩
  rw [Gateway.mem_audience_iff, h.subscribed_iff, ← h.present_iff]
  exact Iff.rfl

/-- **Telling.** Every notice reaches exactly those who are to have it. -/
theorem sending_tell {facts : List Fact} {notices : List (Notice × Option String)}
    (h : e.Seating seated) (hdistinct : e.gateway.DistinctSubscribers)
    (hactor : ∀ n ∈ notices, n.2 = n.1.actor?) (stamps : Stamps) :
    ∃ sent, (∀ d ∈ sent, d.message.sessionId = sessionId) ∧
      e.Sending sent (e.tell sessionId facts notices stamps) := by
  induction notices generalizing e stamps with
  | nil => exact ⟨[], fun _ hd => absurd hd List.not_mem_nil, .nil rfl rfl rfl⟩
  | cons n notices ih =>
      obtain ⟨d, hid, hfirst⟩ := h.sending_announce hdistinct sessionId n.1
        (stamps.announced 0)
      rw [← hactor n List.mem_cons_self] at hfirst
      obtain ⟨sent, hids, hrest⟩ := ih (e := e.announce sessionId n.1 n.2 (stamps.announced 0))
        (h.congr rfl rfl) hdistinct (fun n' hn' => hactor n' (List.mem_cons_of_mem _ hn'))
        ⟨stamps.recorded, fun k => stamps.announced (k + 1)⟩
      refine ⟨d :: sent, fun d' hd' => ?_, hfirst.append hrest fun d' hd' user => Iff.rfl⟩
      rcases List.mem_cons.mp hd' with rfl | hmem
      · exact hid
      · exact hids d' hmem

/-- Storing a session with other subscribers, and telling of it. -/
theorem sending_store_tell {e₁ : Engine} {notices : List (Notice × Option String)}
    (h : e₁.Seating seated) (facts : List Fact) (stamps : Stamps) (hfirst : e.Sending [] e₁)
    (hparts : Parts e e₁) (hdistinct : e.gateway.DistinctSubscribers)
    (hactor : ∀ n ∈ notices, n.2 = n.1.actor?) :
    ∃ sent, (∀ d ∈ sent, d.message.sessionId = sessionId) ∧
      e.Sending sent (e₁.tell sessionId facts notices stamps) := by
  obtain ⟨sent, hids, htell⟩ :=
    h.sending_tell (hparts.distinctSubscribers hdistinct) hactor stamps
  exact ⟨sent, hids, hfirst.append htell fun _ hd => absurd hd List.not_mem_nil⟩

/-- Somebody's leaving is announced in the session they leave, and nowhere else. -/
theorem sending_departFrom (h : e.Seating seated) (hdistinct : e.gateway.DistinctSubscribers)
    (hseat : seated userId sessionId) (now : Clock) :
    ∃ sent, (∀ d ∈ sent, d.message.sessionId = sessionId) ∧
      e.Sending sent (e.departFrom sessionId userId now) := by
  obtain ⟨s, s', departure, hs, hid, -, hd, heq⟩ := h.exists_departFrom hseat now
  have hid' : s'.id = sessionId := (Session.sameTerms_depart hd).id.trans hid
  have hon : ∀ user, s'.isOnline user = true ↔ seated user sessionId ∧ user ≠ userId :=
    fun user => by rw [Session.isOnline_depart_iff hd, h.isOnline_iff hs]
  rw [heq]
  refine (h.dismiss hid' hon).sending_store_tell _ _ (sending_dismiss sessionId userId s')
    (parts_dismiss s') hdistinct ?_
  intro n hn
  obtain ⟨notice, hnotice, rfl⟩ := List.mem_map.mp hn
  rcases List.mem_cons.mp hnotice with rfl | hended
  · rfl
  · obtain ⟨reason, -, rfl⟩ := Option.map_eq_some_iff.mp (Option.mem_toList.mp hended)
    rfl

/-- Giving a session up is announced in it. -/
theorem sending_endIdle (h : e.Seating seated) (hdistinct : e.gateway.DistinctSubscribers)
    (asOf : Instant) (now : Clock) (sessionId : String) :
    ∃ sent, (∀ d ∈ sent, d.message.sessionId = sessionId) ∧
      e.Sending sent (Engine.endIdle asOf now e sessionId) := by
  cases hs : e.sessions.get? sessionId with
  | none =>
      rw [endIdle_of_none hs]
      exact ⟨[], fun _ hd => absurd hd List.not_mem_nil, .nil rfl rfl rfl⟩
  | some s =>
      have hstored : (e.putSession (s.close asOf).2).Seating seated :=
        h.putSession hs Session.sameTerms_close.id fun _ => Session.isOnline_close
      rw [endIdle_eq hs]
      refine hstored.sending_store_tell _ _ (.nil rfl rfl rfl) (parts_putSession _)
        hdistinct ?_
      intro n hn
      rw [List.mem_singleton.mp hn]
      rfl

/-- Giving up one session after the other is announced in each of them. -/
theorem sending_foldl_endIdle (h : e.Seating seated) (hdistinct : e.gateway.DistinctSubscribers)
    (asOf : Instant) (now : Clock) (keys : List String) :
    ∃ sent, (∀ d ∈ sent, d.message.sessionId ∈ keys) ∧
      e.Sending sent (keys.foldl (Engine.endIdle asOf now) e) := by
  induction keys generalizing e with
  | nil => exact ⟨[], fun _ hd => absurd hd List.not_mem_nil, .nil rfl rfl rfl⟩
  | cons key keys ih =>
      have hnext : (Engine.endIdle asOf now e key).Seating seated := h.endIdle asOf now
      obtain ⟨first, hfirst, hfirstsent⟩ := h.sending_endIdle hdistinct asOf now key
      obtain ⟨later, hlater, hlatersent⟩ := ih hnext
        ((parts_endIdle asOf e key).distinctSubscribers hdistinct)
      refine ⟨first ++ later, fun d hd => ?_, hfirstsent.append hlatersent fun d _ user => ?_⟩
      · rcases List.mem_append.mp hd with hearly | hlate
        · rw [hfirst d hearly]
          exact List.mem_cons_self
        · exact List.mem_cons_of_mem _ (hlater d hlate)
      · rw [List.foldl_cons, (hnext.foldl_endIdle asOf now keys).present_iff, hnext.present_iff]

end Seating

/-- Removing sessions sends nothing. -/
theorem sending_foldl_removeSession (keys : List String) :
    e.Sending [] (keys.foldl removeSession e) := by
  induction keys generalizing e with
  | nil => exact .nil rfl rfl rfl
  | cons key keys ih =>
      have hfirst : e.Sending [] (e.removeSession key) := .nil rfl rfl rfl
      exact hfirst.append ih fun _ hd => absurd hd List.not_mem_nil

/-! ### Operations -/

namespace Balanced

/-- Emptying a user's place is announced in the session they were in. -/
theorem sending_vacate (h : e.Balanced) (hdistinct : e.gateway.DistinctSubscribers)
    (userId : String) (now : Clock) :
    ∃ sent, (∀ d ∈ sent, e.Located userId d.message.sessionId) ∧
      e.Sending sent (e.vacate userId now) := by
  rw [Engine.vacate]
  split
  · exact ⟨[], fun _ hd => absurd hd List.not_mem_nil, .nil rfl rfl rfl⟩
  · next previous hprevious =>
    have hseating : (e.displace userId).Seating e.Located := h.congr rfl rfl
    obtain ⟨sent, hids, hsent⟩ := hseating.sending_departFrom hdistinct hprevious now
    refine ⟨sent, fun d hd => ?_, ⟨hsent.sends, hsent.reaches⟩⟩
    rw [hids d hd]
    exact hprevious

/-- Creating a session is announced to nobody but in the session that the host leaves. -/
theorem sending_create {hostId hostName assignmentId : String} {options : SessionOptions}
    {snapshot : Snapshot} (h : e.Balanced) (hdistinct : e.gateway.DistinctSubscribers)
    (hfresh : e.sessions.get? e.freshSessionId = none)
    (hok : e.create hostId hostName assignmentId options now = .ok (snapshot, e')) :
    ∃ sent, e.Sending sent e' := by
  obtain ⟨settings, -, -, rfl⟩ := create_ok hok
  obtain ⟨sent, hids, hsent⟩ := h.sending_vacate hdistinct hostId now
  have hinstall : (e.vacate hostId now).Sending [] ((e.vacate hostId now).install
      (Session.start e.freshSessionId hostId (Text.orElseIfBlank hostName hostId) assignmentId
        settings (now.acting e.freshSessionId)) (Text.orElseIfBlank hostName hostId) now) := by
    exact .congr (sending_enroll e.freshSessionId hostId _) rfl rfl
  refine ⟨sent ++ [], hsent.append hinstall fun d hd user => ?_⟩
  -- The session left is in the directory, so it is not the new one.
  have hne : d.message.sessionId ≠ e.freshSessionId := by
    intro heq
    exact h.not_seated_of_none hfresh (heq ▸ hids d hd)
  change (∃ s, ((e.vacate hostId now).sessions.put e.freshSessionId _).get? _ = some s ∧ _) ↔ _
  rw [Table.get?_put_of_ne _ _ hne]
  exact Iff.rfl

/-- Joining is announced in the session joined, and leaving the session before it in that one. -/
theorem sending_join {userName : String} {role : Role} {snapshot : Snapshot} (h : e.Balanced)
    (hdistinct : e.gateway.DistinctSubscribers)
    (hok : e.join sessionId userId userName role now = .ok (snapshot, e')) :
    ∃ sent, e.Sending sent e' := by
  obtain ⟨s, s', admission, hs, hjoin, -, rfl⟩ := join_ok hok
  have hid : s'.id = sessionId := (Session.sameTerms_join hjoin).id.trans (h.id_eq hs)
  have hon : ∀ user, s'.isOnline user = true ↔ e.Located user sessionId ∨ user = userId :=
    fun user => by rw [Session.isOnline_join_iff hjoin, h.isOnline_iff hs]
  obtain ⟨first, hids, hwelcome⟩ : ∃ first, (∀ d ∈ first, d.message.sessionId = sessionId) ∧
      e.Sending first (e.welcome sessionId userId admission s' now) := by
    have hactor : ∀ n ∈ [(arrivalNotice userId admission s', (none : Option String))],
        n.2 = n.1.actor? := by simp [arrivalNotice, Notice.actor?]
    obtain ⟨first, hids, hfirst⟩ := (h.enroll hid hon).sending_store_tell
      (arrivalFacts userId admission) (now.stamps sessionId)
      (sending_enroll sessionId userId s') (parts_enroll s') hdistinct hactor
    exact ⟨first, hids, hfirst.congr rfl rfl⟩
  by_cases hstay : ∀ key, e.whereabouts.get? userId = some key → key = sessionId
  · rw [leaveBehind_of_forall hstay]
    exact ⟨first, hwelcome⟩
  · simp only [not_forall] at hstay
    obtain ⟨previous, hprevious, hother⟩ := hstay
    rw [hprevious, leaveBehind_of_ne hother]
    have hseating := h.welcome hs hjoin
    obtain ⟨second, -, hsecond⟩ := hseating.sending_departFrom
      ((parts_welcome admission s').distinctSubscribers hdistinct) (.inl hprevious) now
    refine ⟨first ++ second, hwelcome.append hsecond fun d hd user => ?_⟩
    rw [(hseating.departFrom (.inl hprevious) now).present_iff, hseating.present_iff, hids d hd]
    exact and_iff_left fun hsame => hother hsame.2.symm

/-- An operation that stores a session with the same people online announces it in the session. -/
theorem sending_store {s s' : Session} {notices : List (Notice × Option String)}
    (h : e.Balanced) (hdistinct : e.gateway.DistinctSubscribers)
    (hs : e.sessions.get? sessionId = some s) (hid : s'.id = s.id)
    (hon : ∀ user, s'.isOnline user = s.isOnline user) (hactor : ∀ n ∈ notices, n.2 = n.1.actor?)
    (facts : List Fact) (stamps : Stamps) :
    ∃ sent, e.Sending sent ((e.putSession s').tell sessionId facts notices stamps) := by
  have hstored : e.Sending [] (e.putSession s') := .nil rfl rfl rfl
  obtain ⟨sent, -, hsent⟩ := (h.putSession hs hid hon).sending_store_tell facts stamps
    hstored (parts_putSession s') hdistinct hactor
  exact ⟨sent, hsent⟩

/-- An edit is announced in the session edited, to all but its author. -/
theorem sending_change {authorId : String} {op : Operation} {change : Change} (h : e.Balanced)
    (hdistinct : e.gateway.DistinctSubscribers)
    (hok : e.change sessionId authorId op now = .ok (change, e')) : ∃ sent, e.Sending sent e' := by
  obtain ⟨s, s', hs, -, hedit, rfl⟩ := change_ok hok
  obtain ⟨-, -, hchange, -⟩ := Session.edit_ok hedit
  have hid : (limitHistory e.config s').id = s.id :=
    (sameTerms_limitHistory e.config s').id.trans (Session.sameTerms_edit hedit).id
  have hon : ∀ user, (limitHistory e.config s').isOnline user = s.isOnline user := fun user => by
    rw [Session.isOnline_congr (roster_limitHistory e.config s'), Session.isOnline_edit hedit]
  have hactor : ∀ n ∈ [(Notice.codeChange change (limitHistory e.config s').content,
      some authorId)], n.2 = n.1.actor? := by
    simp [Notice.actor?, hchange]
  obtain ⟨sent, hsent⟩ := h.sending_store hdistinct hs hid hon hactor [.changed change]
    (now.promptStamps sessionId)
  exact ⟨sent, hsent.congr rfl rfl⟩

/-- A cursor is announced in the session the user is in, to all but the user. -/
theorem sending_cursor {position : Nat} {u : Unit} (h : e.Balanced)
    (hdistinct : e.gateway.DistinctSubscribers)
    (hok : e.cursor userId position now = .ok (u, e')) : ∃ sent, e.Sending sent e' := by
  obtain ⟨key, s, s', entry, -, hs, hmove, rfl⟩ := cursor_ok hok
  have hactor : ∀ n ∈ [(Notice.cursorUpdate userId entry.userName position entry.color,
      some userId)], n.2 = n.1.actor? := by
    simp [Notice.actor?]
  exact h.sending_store hdistinct hs (Session.sameTerms_moveCursor hmove).id
    (fun _ => Session.isOnline_moveCursor hmove) hactor _ _

/-- A call for help is announced to everybody in the session, the caller included. -/
theorem sending_assist {message : Option String} {u : Unit} (h : e.Balanced)
    (hdistinct : e.gateway.DistinctSubscribers)
    (hok : e.assist sessionId userId message now = .ok (u, e')) : ∃ sent, e.Sending sent e' := by
  obtain ⟨s, s', entry, hs, hrequest, rfl⟩ := assist_ok hok
  have hactor : ∀ n ∈ [(Notice.helpRequested userId entry.userName message, none)],
      n.2 = n.1.actor? := by
    simp [Notice.actor?]
  exact h.sending_store hdistinct hs (Session.sameTerms_requestHelp hrequest).id
    (fun _ => Session.isOnline_requestHelp hrequest) hactor _ _

/-- A sweep is announced in the sessions it gives up, and they are not among those it removes. -/
theorem sending_sweep (h : e.Balanced) (hdistinct : e.gateway.DistinctSubscribers)
    (asOf : Instant) (now : Clock) : ∃ sent, e.Sending sent (e.sweep asOf now).2 := by
  obtain ⟨sent, hids, hsent⟩ := h.sending_foldl_endIdle hdistinct asOf now (e.abandoned asOf)
  have hended := h.foldl_endIdle asOf now (e.abandoned asOf)
  have hremove : ((e.abandoned asOf).foldl (Engine.endIdle asOf now) e).Sending []
      (e.swept asOf now) := sending_foldl_removeSession _
  have hswept : e.Sending (sent ++ []) (e.swept asOf now) := by
    refine hsent.append hremove fun d hd user => ?_
    rw [swept, (hended.foldl_removeSession (e.expired asOf)).present_iff, hended.present_iff]
    refine and_iff_left fun hexpired => ?_
    obtain ⟨s, hs, hidle⟩ := (h.mem_ids_iff _).mp (hids d hd)
    obtain ⟨t, ht, htest⟩ := (h.mem_ids_iff _).mp hexpired
    obtain rfl := Option.some.inj (hs.symm.trans ht)
    rw [not_isAbandoned_of_isExpired htest] at hidle
    cases hidle
  exact ⟨sent ++ [], hswept.congr rfl rfl⟩

end Balanced

/-! ### Commands -/

/-- What is offered to the mailboxes at a command: those that were there are offered what is sent to
their users, and a new one holds nothing. -/
structure Delivers (e : Engine) (sent : List Dispatch) (e' : Engine) : Prop where
  log : e'.gateway.log = e.gateway.log ++ sent
  reaches : ∀ d ∈ sent, e'.Reaches d
  mailboxes : ∀ (k : Nat) (mailbox : Mailbox), e.gateway.mailboxes[k]? = some mailbox →
    e'.gateway.mailboxes[k]? =
      some (mailbox.takeAll (sent.flatMap (·.deliveries e'.gateway.connections k)))
  fresh : ∀ (k : Nat) (mailbox : Mailbox), e.gateway.mailboxes[k]? = none →
    e'.gateway.mailboxes[k]? = some mailbox → mailbox.held = []

theorem Sending.delivers (h : e.Sending sent e') : e.Delivers sent e' where
  log := h.sends.log
  reaches := h.reaches
  mailboxes k mailbox hk := by rw [h.sends.mailboxes, hk, h.sends.connections, Option.map_some]
  fresh k mailbox hnone hk := by
    rw [h.sends.mailboxes, hnone] at hk
    cases hk

/-- Opening a line adds at most an empty mailbox. -/
theorem delivers_connect (e : Engine) (userId : String) (line : Line) :
    e.Delivers [] { e with gateway := (e.gateway.connect userId line).2 } where
  log := by cases line <;> simp [Gateway.connect, Gateway.openLine, Gateway.addMailbox]
  reaches d hd := absurd hd List.not_mem_nil
  mailboxes k mailbox hk := by
    obtain ⟨hlt, -⟩ := List.getElem?_eq_some_iff.mp hk
    cases line <;> simp [Gateway.connect, Gateway.openLine, Gateway.addMailbox,
      List.getElem?_append_left hlt, hk]
  fresh k mailbox hnone hk := by
    have hge := List.getElem?_eq_none_iff.mp hnone
    cases line with
    | shared =>
        rw [Gateway.connect, Gateway.openLine] at hk
        rw [hnone] at hk
        cases hk
    | _ =>
        simp only [Gateway.connect, Gateway.openLine, Gateway.addMailbox,
          List.getElem?_append_right hge] at hk
        rw [List.getElem?_singleton] at hk
        split at hk
        · obtain rfl := Option.some.inj hk
          rfl
        · cases hk

/-- Every command that opens no connection and closes none sends some messages, each to exactly
those who are to have it, and leaves the connections as they are. -/
theorem Outcome.sending {command : Command} {answer : Answer} (h : Outcome e now command answer e')
    (hbalanced : e.Balanced) (hdistinct : e.gateway.DistinctSubscribers)
    (hfresh : e.sessions.get? e.freshSessionId = none)
    (hconnect : ∀ userId line, command ≠ .connect userId line)
    (hdisconnect : ∀ userId, command ≠ .disconnect userId) : ∃ sent, e.Sending sent e' := by
  cases h with
  | create hok => exact hbalanced.sending_create hdistinct hfresh hok
  | join hok => exact hbalanced.sending_join hdistinct hok
  | leave hok =>
      rw [leave_ok hok]
      obtain ⟨sent, -, hsent⟩ := hbalanced.sending_vacate hdistinct _ now
      exact ⟨sent, hsent⟩
  | change hok => exact hbalanced.sending_change hdistinct hok
  | cursor hok => exact hbalanced.sending_cursor hdistinct hok
  | assist hok => exact hbalanced.sending_assist hdistinct hok
  | connect userId line => exact absurd rfl (hconnect userId line)
  | disconnect userId => exact absurd rfl (hdisconnect userId)
  | sweep asOf => exact hbalanced.sending_sweep hdistinct asOf now

/-- Every command sends some messages, each to exactly those who are to have it. -/
theorem Outcome.delivers {command : Command} {answer : Answer} (h : Outcome e now command answer e')
    (hbalanced : e.Balanced) (hdistinct : e.gateway.DistinctSubscribers)
    (hfresh : e.sessions.get? e.freshSessionId = none) : ∃ sent, e.Delivers sent e' := by
  have hsending := h.sending hbalanced hdistinct hfresh
  cases h with
  | connect userId line => exact ⟨[], delivers_connect e userId line⟩
  | disconnect userId =>
      exact ⟨[], by simp [Gateway.disconnect], fun _ hd => absurd hd List.not_mem_nil,
        fun k mailbox hk => hk, fun k mailbox hnone hk => by simp_all [Gateway.disconnect]⟩
  | create | join | leave | change | cursor | assist | sweep =>
      obtain ⟨sent, hsent⟩ := hsending (fun _ _ => nofun) fun _ => nofun
      exact ⟨sent, hsent.delivers⟩

/-! ### Moments -/

/-- What is sent and delivered at a moment. -/
structure Routes (e : Engine) (m : Moment) (sent : List Dispatch) (e' : Engine) : Prop where
  /-- The messages in `sent` are those that are logged at the moment. -/
  log : e'.gateway.log = e.gateway.log ++ sent
  /-- Each of them tells of a turn of its session, and is offered to the connections of exactly
  those who are online in the session after the turn, except the user whose own doing it is. -/
  audience : ∀ d ∈ sent, ∃ s facts notices s',
    e.sessions.get? d.message.sessionId = some s ∧ Turn e.config m s facts notices s' ∧
    d.message.notice ∈ notices ∧ e'.sessions.get? d.message.sessionId = some s' ∧
    d.audience.Nodup ∧
    ∀ user, user ∈ d.audience ↔ s'.isOnline user = true ∧ e'.gateway.isConnected user = true ∧
      d.message.notice.actor? ≠ some user
  /-- Nobody is told of their own leaving. -/
  notLeaver : ∀ d ∈ sent, ∀ userId userName count,
    d.message.notice = .userLeft userId userName count → userId ∉ d.audience
  /-- A mailbox gets only what is for its users, in order. -/
  noOther : ∀ (k : Nat) (mailbox : Mailbox), e.gateway.mailboxes[k]? = some mailbox →
    ∃ taken : List Delivery,
      taken.Sublist (sent.flatMap (·.deliveries e'.gateway.connections k)) ∧
        e'.gateway.mailboxes[k]? = some { mailbox with held := mailbox.held ++ taken }
  /-- An open mailbox without a bound gets all of it. -/
  noneMissed : ∀ (k : Nat) (mailbox : Mailbox), e.gateway.mailboxes[k]? = some mailbox →
    mailbox.isOpen = true → mailbox.capacity = none →
      e'.gateway.mailboxes[k]? = some { mailbox with
        held := mailbox.held ++ sent.flatMap (·.deliveries e'.gateway.connections k) }
  /-- A new mailbox holds nothing. -/
  fresh : ∀ (k : Nat) (mailbox : Mailbox), e.gateway.mailboxes[k]? = none →
    e'.gateway.mailboxes[k]? = some mailbox → mailbox.held = []

/-- The audience of a message that is logged at a moment. -/
theorem Coherent.exists_turn_of_mem {command : Command} (h : e.Coherent)
    (hlog : (e.step now command).2.gateway.log = e.gateway.log ++ sent) (hd : d ∈ sent) :
    ∃ s facts notices s', e.sessions.get? d.message.sessionId = some s ∧
      Turn e.config ⟨now, command, (e.step now command).1⟩ s facts notices s' ∧
      d.message.notice ∈ notices ∧
      (e.step now command).2.sessions.get? d.message.sessionId = some s' := by
  have hnotices : ((e.step now command).2.dossier d.message.sessionId).notices =
      (e.dossier d.message.sessionId).notices ++
        (sent.filter (·.message.sessionId = d.message.sessionId)).map (·.message.notice) := by
    rw [dossier, dossier, hlog, List.filter_append, List.map_append]
  refine (h.step_dossier now command d.message.sessionId).exists_turn hnotices ?_
  exact List.mem_map_of_mem (f := fun d : Dispatch => d.message.notice)
    (List.mem_filter.mpr ⟨hd, decide_eq_true rfl⟩)

/-- What is delivered at a command goes to exactly those who are there. -/
theorem Coherent.routes_of_delivers {command : Command} (h : e.Coherent)
    (hdelivers : e.Delivers sent (e.step now command).2) :
    e.Routes ⟨now, command, (e.step now command).1⟩ sent (e.step now command).2 where
  log := hdelivers.log
  audience d hd := by
    obtain ⟨s, facts, notices, s', hs, hturn, hmem, hs'⟩ := h.exists_turn_of_mem hdelivers.log hd
    have hreaches := hdelivers.reaches d hd
    refine ⟨s, facts, notices, s', hs, hturn, hmem, hs', hreaches.nodup, fun user => ?_⟩
    rw [hreaches.mem_iff, IsPresent, hs']
    simp
  notLeaver d hd userId userName count hleft hmem := by
    obtain ⟨s, facts, notices, s', -, hturn, hnotice, hs'⟩ :=
      h.exists_turn_of_mem hdelivers.log hd
    rw [hleft] at hnotice
    obtain ⟨⟨t, ht, hon⟩, -⟩ := ((hdelivers.reaches d hd).mem_iff userId).mp hmem
    obtain rfl := Option.some.inj (hs'.symm.trans ht)
    rw [hturn.isOnline_of_userLeft hnotice] at hon
    cases hon
  noOther k mailbox hk := by
    obtain ⟨taken, hsub, htaken⟩ := mailbox.exists_takeAll
      (sent.flatMap (·.deliveries (e.step now command).2.gateway.connections k))
    exact ⟨taken, hsub, (hdelivers.mailboxes k mailbox hk).trans (congrArg some htaken)⟩
  noneMissed k mailbox hk hopen hbound := by
    rw [hdelivers.mailboxes k mailbox hk, Mailbox.takeAll_of_unbounded hopen hbound]
  fresh := hdelivers.fresh

/-- A refused command delivers nothing. -/
theorem Delivers.refl (e : Engine) : e.Delivers [] e where
  log := (List.append_nil _).symm
  reaches d hd := absurd hd List.not_mem_nil
  mailboxes k mailbox hk := hk
  fresh k mailbox hnone hk := by
    rw [hnone] at hk
    cases hk

/-- **Every command sends its messages to exactly those who are there.** -/
theorem Coherent.exists_routes (h : e.Coherent) (hdistinct : e.gateway.DistinctSubscribers)
    (now : Clock) (command : Command) :
    ∃ sent, e.Routes ⟨now, command, (e.step now command).1⟩ sent (e.step now command).2 := by
  have hdelivers : ∃ sent, e.Delivers sent (e.step now command).2 := by
    rcases e.step_cases now command with ⟨error, hstep⟩ | ⟨answer, e', hok, hstep⟩
    · rw [hstep]
      exact ⟨[], .refl e⟩
    · rw [hstep]
      exact hok.delivers h.balanced hdistinct h.fresh
  obtain ⟨sent, hsent⟩ := hdelivers
  exact ⟨sent, h.routes_of_delivers hsent⟩

theorem distinctSubscribers_after (config : Config) (history : History) :
    ((Engine.new config).after history).gateway.DistinctSubscribers :=
  after_of_part (I := fun e => e.gateway.DistinctSubscribers) Part.distinctSubscribers history
    fun _ => List.nodup_nil

/-! ### Whole histories -/

/-- What is held for a user was sent at some moment of the history to an audience with this user in
it, who was online in the session it is about. -/
def ReceivedWhileThere (config : Config) (history : History) (delivery : Delivery) : Prop :=
  ∃ past x rest sent d, history = past ++ x :: rest ∧
    ((Engine.new config).after (past ++ [x])).gateway.log =
      ((Engine.new config).after past).gateway.log ++ sent ∧
    d ∈ sent ∧ d.message = delivery.message ∧ delivery.userId ∈ d.audience ∧
    ((Engine.new config).after (past ++ [x])).IsPresent delivery.userId delivery.message.sessionId

/-- A longer history changes nothing about what was received in it. -/
theorem ReceivedWhileThere.append {config : Config} {history : History} {delivery : Delivery}
    (h : ReceivedWhileThere config history delivery) (later : History) :
    ReceivedWhileThere config (history ++ later) delivery := by
  obtain ⟨past, x, rest, sent, d, rfl, hsent⟩ := h
  exact ⟨past, x, rest ++ later, sent, d, by simp, hsent⟩

/-- What is offered to a mailbox at the last moment of a history is received while there. -/
theorem Routes.receivedWhileThere {config : Config} {history : History} {x : Clock × Command}
    {k : Nat} {delivery : Delivery} {m : Moment}
    (h : ((Engine.new config).after history).Routes m sent
      ((Engine.new config).after (history ++ [x])))
    (hmem : delivery ∈ sent.flatMap
      (·.deliveries ((Engine.new config).after (history ++ [x])).gateway.connections k)) :
    ReceivedWhileThere config (history ++ [x]) delivery := by
  obtain ⟨d, hd, hdelivery⟩ := List.mem_flatMap.mp hmem
  obtain ⟨user, huser, rfl⟩ := List.mem_map.mp hdelivery
  obtain ⟨_, _, _, s', -, -, -, hs', -, hexact⟩ := h.audience d hd
  have haudience := (List.mem_filter.mp huser).1
  exact ⟨history, x, [], sent, d, rfl, h.log, hd, rfl, haudience, s', hs',
    ((hexact user).mp haudience).1⟩

/-- Whatever a mailbox has got in the course of a history was sent while its user was there. -/
theorem received_while_there (config : Config) (history : History) (k : Nat) (mailbox : Mailbox)
    (hk : ((Engine.new config).after history).gateway.mailboxes[k]? = some mailbox) :
    ∀ delivery ∈ mailbox.held, ReceivedWhileThere config history delivery := by
  induction history using List.reverseRecOn generalizing mailbox with
  | nil => cases hk
  | append_singleton history x ih =>
      intro delivery hdelivery
      obtain ⟨sent, hroutes⟩ := ((coherent_new config).after history).exists_routes
        (distinctSubscribers_after config history) x.1 x.2
      have hstep : (((Engine.new config).after history).step x.1 x.2).2 =
          (Engine.new config).after (history ++ [x]) := (after_append history [x]).symm
      rw [hstep] at hroutes
      cases hold : ((Engine.new config).after history).gateway.mailboxes[k]? with
      | none =>
          rw [hroutes.fresh k mailbox hold hk] at hdelivery
          cases hdelivery
      | some before =>
          obtain ⟨taken, hsub, hafter⟩ := hroutes.noOther k before hold
          obtain rfl := Option.some.inj (hk.symm.trans hafter)
          rcases List.mem_append.mp hdelivery with hearly | hlate
          · exact (ih before hold delivery hearly).append [x]
          · exact hroutes.receivedWhileThere (hsub.subset hlate)

/-- **Messages reach exactly those who are there.** After any history, whatever command comes next,
each message that it sends is offered to the connections of exactly those who are online in the
session of the message once the command is done, except the one whose own edit or cursor it is.
Whatever a mailbox has got in the whole history was sent while its user was online in the
session. -/
theorem routing_exact (config : Config) (history : History) :
    let e := (Engine.new config).after history
    (∀ now command, ∃ sent,
      e.Routes ⟨now, command, (e.step now command).1⟩ sent (e.step now command).2) ∧
    ∀ (k : Nat) (mailbox : Mailbox), e.gateway.mailboxes[k]? = some mailbox →
      ∀ delivery ∈ mailbox.held, ReceivedWhileThere config history delivery :=
  ⟨((coherent_new config).after history).exists_routes (distinctSubscribers_after config history),
    received_while_there config history⟩

/-- Bob's arrival is told to Ada and Bob, his edit to Ada alone. -/
example :
    ((Engine.new .default).after
      [(.still ⟨0, 0⟩, .connect "ada" .unbounded), (.still ⟨0, 0⟩, .connect "bob" .unbounded),
        (.still ⟨0, 0⟩, .create "ada" "Ada" "primes" {}),
        (.still ⟨1, 0⟩, .join "$s0" "bob" "Bob" .participant),
        (.still ⟨2, 0⟩, .change "$s0" "bob" (.insert 0 "x"))]).gateway.log.map Dispatch.audience =
      [["ada", "bob"], ["ada"]] := by
  cbv

end Engine

end CoEdit
