import CoEdit.Proofs.Engine.InPlace
import CoEdit.Proofs.Engine.Reachable

/-!
# What an Operation Leaves Alone

An operation of a user concerns few sessions: the one it is about and, when it has let the user into
a session, the one they were in before. All others stay as they are, with their recordings and their
subscribers; nobody else is moved, and every message is about one of the sessions concerned.

## Main definitions

* `Engine.StaysWithin`: from one engine to the next, only some sessions and the whereabouts of one
  user have changed.
* `Command.caller?`, `Engine.footprint`: whose operation it is, and the sessions it concerns.

## Main results

* `staysWithin_departFrom`: a departure concerns the session that is left, also when it ends it.
* `Outcome.staysWithin`: every operation stays within its footprint.
* `step_staysWithin`: the same of every operation in every state, refused ones included.
-/

namespace CoEdit

open CoEdit.Time (Instant)

namespace Gateway

variable {g : Gateway} {sessionId key userId : String}

/-- A new subscription leaves the lists of the other sessions alone. -/
theorem subscriptionsOf_subscribe_of_ne (h : key ≠ sessionId) :
    (g.subscribe sessionId userId).subscriptionsOf key = g.subscriptionsOf key := by
  rw [subscriptionsOf_subscribe, if_neg fun hnew => h hnew.1]

/-- So does the end of a subscription, also of the last one. -/
theorem subscriptionsOf_unsubscribe_of_ne (h : key ≠ sessionId) :
    (g.unsubscribe sessionId userId).subscriptionsOf key = g.subscriptionsOf key := by
  rw [subscriptionsOf_unsubscribe, if_neg h]

end Gateway

/-- A new entry leaves the recordings of the other sessions alone. -/
theorem Archive.get?_record_of_ne {a : Archive} {sessionId key : String} (h : key ≠ sessionId)
    (fact : Fact) (now : Instant) :
    (a.record sessionId fact now).2.get? key = a.get? key :=
  Table.get?_put_of_ne _ _ h

/-- The user whose operation a command is. Connections and sweeps are no operations of a user. -/
def Command.caller? : Command → Option String
  | .create hostId .. => some hostId
  | .join _ userId .. => some userId
  | .leave userId => some userId
  | .change _ authorId _ => some authorId
  | .cursor userId _ => some userId
  | .assist _ userId _ => some userId
  | .connect .. | .disconnect .. | .sweep .. => none

/-- Whether a command lets its caller into a session. -/
def Command.isArrival : Command → Bool
  | .create .. | .join .. => true
  | _ => false

namespace Engine

variable {config : Config} {e e' : Engine} {sessionId userId : String} {now : Clock}
  {area : List String}

/-- The session that a command is about: a creation is about the new one; leaving and moving the
cursor are about the session that the caller is in. -/
def target? (e : Engine) : Command → Option String
  | .create .. => some e.freshSessionId
  | .join sessionId .. => some sessionId
  | .leave userId => e.whereabouts.get? userId
  | .change sessionId .. => some sessionId
  | .cursor userId _ => e.whereabouts.get? userId
  | .assist sessionId .. => some sessionId
  | .connect .. | .disconnect .. | .sweep .. => none

/-- The session that the caller of a command is in when they give it. -/
def callerSession? (e : Engine) (command : Command) : Option String :=
  command.caller?.bind e.whereabouts.get?

/-- The sessions that a command concerns: the one it is about and, if it has let its caller into a
session, the one they were in before. -/
def footprint (e : Engine) (now : Clock) (command : Command) : List String :=
  (e.target? command).toList ++
    if command.isArrival && (e.step now command).1.isOk then (e.callerSession? command).toList
    else []

/-- Nothing has changed but the sessions of an area and the whereabouts of one user: every other
session is as before, with its recording and its subscribers, every other user is where they were,
and all that was sent is about sessions of the area. -/
structure StaysWithin (area : List String) (userId : String) (e e' : Engine) : Prop where
  session : ∀ key ∉ area, e'.sessions.get? key = e.sessions.get? key
  recording : ∀ key ∉ area, e'.recording? key = e.recording? key
  subscriptions : ∀ key ∉ area,
    e'.gateway.subscriptionsOf key = e.gateway.subscriptionsOf key
  whereabouts : ∀ other, other ≠ userId → e'.whereabouts.get? other = e.whereabouts.get? other
  sent : ∃ sent, e'.gateway.log = e.gateway.log ++ sent ∧
    ∀ d ∈ sent, d.message.sessionId ∈ area

namespace StaysWithin

theorem refl (area : List String) (userId : String) (e : Engine) : StaysWithin area userId e e where
  session _ _ := rfl
  recording _ _ := rfl
  subscriptions _ _ := rfl
  whereabouts _ _ := rfl
  sent := ⟨[], (List.append_nil _).symm, fun _ hd => absurd hd List.not_mem_nil⟩

theorem trans {e₁ e₂ e₃ : Engine} (h₁ : StaysWithin area userId e₁ e₂)
    (h₂ : StaysWithin area userId e₂ e₃) : StaysWithin area userId e₁ e₃ where
  session key hkey := (h₂.session key hkey).trans (h₁.session key hkey)
  recording key hkey := (h₂.recording key hkey).trans (h₁.recording key hkey)
  subscriptions key hkey := (h₂.subscriptions key hkey).trans (h₁.subscriptions key hkey)
  whereabouts other hother := (h₂.whereabouts other hother).trans (h₁.whereabouts other hother)
  sent := by
    obtain ⟨first, hfirst, hfirstArea⟩ := h₁.sent
    obtain ⟨second, hsecond, hsecondArea⟩ := h₂.sent
    refine ⟨first ++ second, ?_, fun d hd => ?_⟩
    · rw [hsecond, hfirst, List.append_assoc]
    · rcases List.mem_append.mp hd with hd | hd
      · exact hfirstArea d hd
      · exact hsecondArea d hd

/-- What stays within an area stays within every larger one. -/
theorem mono {larger : List String} (h : StaysWithin area userId e e') (hsub : area ⊆ larger) :
    StaysWithin larger userId e e' where
  session key hkey := h.session key fun hmem => hkey (hsub hmem)
  recording key hkey := h.recording key fun hmem => hkey (hsub hmem)
  subscriptions key hkey := h.subscriptions key fun hmem => hkey (hsub hmem)
  whereabouts := h.whereabouts
  sent := by
    obtain ⟨sent, hlog, harea⟩ := h.sent
    exact ⟨sent, hlog, fun d hd => hsub (harea d hd)⟩

/-- The numbers of the ids given out are in none of the tables. -/
theorem counted (h : StaysWithin area userId e e') (sessionsMade changesMade : Nat) :
    StaysWithin area userId e { e' with sessionsMade, changesMade } :=
  ⟨h.session, h.recording, h.subscriptions, h.whereabouts, h.sent⟩

end StaysWithin

/-! ### The parts of an operation -/

/-- What changes nothing but the whereabouts of the user stays within every area. -/
theorem staysWithin_whereabouts {whereabouts : Table String}
    (h : ∀ other, other ≠ userId → whereabouts.get? other = e.whereabouts.get? other) :
    StaysWithin area userId e { e with whereabouts } where
  session _ _ := rfl
  recording _ _ := rfl
  subscriptions _ _ := rfl
  whereabouts := h
  sent := (StaysWithin.refl area userId e).sent

theorem staysWithin_place (e : Engine) :
    StaysWithin area userId e (e.place userId sessionId) :=
  staysWithin_whereabouts fun _ hother => Table.get?_put_of_ne _ _ hother

theorem staysWithin_displace (e : Engine) : StaysWithin area userId e (e.displace userId) :=
  staysWithin_whereabouts fun other hother => by rw [Table.get?_erase, if_neg hother]

/-- Storing a session concerns this session. -/
theorem staysWithin_putSession {s : Session} (hid : s.id = sessionId) :
    StaysWithin [sessionId] userId e (e.putSession s) where
  session key hkey := by
    rw [putSession, hid, Table.get?_put_of_ne _ _ (List.mem_singleton.not.mp hkey)]
  recording _ _ := rfl
  subscriptions _ _ := rfl
  whereabouts _ _ := rfl
  sent := (StaysWithin.refl _ userId e).sent

/-- Storing a session concerns this session, also if its list of subscribers changes with it. -/
theorem staysWithin_store {s : Session} {g : Gateway} (hid : s.id = sessionId)
    (hsub : ∀ key, key ≠ sessionId → g.subscriptionsOf key = e.gateway.subscriptionsOf key)
    (hlog : g.log = e.gateway.log) :
    StaysWithin [sessionId] userId e { e.putSession s with gateway := g } where
  session := by
    have hput : StaysWithin [sessionId] userId e (e.putSession s) := staysWithin_putSession hid
    exact hput.session
  recording _ _ := rfl
  subscriptions key hkey := hsub key (List.mem_singleton.not.mp hkey)
  whereabouts _ _ := rfl
  sent := ⟨[], hlog.trans (List.append_nil _).symm, fun _ hd => absurd hd List.not_mem_nil⟩

theorem staysWithin_enroll {s : Session} {subscriber : String} (hid : s.id = sessionId) :
    StaysWithin [sessionId] userId e (e.enroll sessionId s subscriber) :=
  staysWithin_store hid (fun _ hkey => Gateway.subscriptionsOf_subscribe_of_ne hkey)
    Gateway.log_subscribe

theorem staysWithin_dismiss {s : Session} {subscriber : String} (hid : s.id = sessionId) :
    StaysWithin [sessionId] userId e (e.dismiss sessionId s subscriber) :=
  staysWithin_store hid (fun _ hkey => Gateway.subscriptionsOf_unsubscribe_of_ne hkey)
    Gateway.log_unsubscribe

/-- Recording a fact concerns its session. -/
theorem staysWithin_log (fact : Fact) (time : Instant) :
    StaysWithin [sessionId] userId e (e.log sessionId fact time) where
  session _ _ := rfl
  recording _ hkey := Archive.get?_record_of_ne (List.mem_singleton.not.mp hkey) fact time
  subscriptions _ _ := rfl
  whereabouts _ _ := rfl
  sent := (StaysWithin.refl _ userId e).sent

/-- A notice is sent under the id of its session. -/
theorem staysWithin_announce (notice : Notice) (exclude : Option String) (time : Instant) :
    StaysWithin [sessionId] userId e (e.announce sessionId notice exclude time) where
  session _ _ := rfl
  recording _ _ := rfl
  subscriptions _ _ := rfl
  whereabouts _ _ := rfl
  sent := ⟨_, rfl, fun _ hd => by
    obtain rfl := List.mem_singleton.mp hd
    exact List.mem_singleton_self sessionId⟩

theorem staysWithin_tell (e : Engine) (facts : List Fact)
    (notices : List (Notice × Option String)) (stamps : Stamps) :
    StaysWithin [sessionId] userId e (e.tell sessionId facts notices stamps) := by
  induction facts generalizing e stamps with
  | cons fact facts ih =>
      exact (staysWithin_log fact _).trans
        (ih (e.log sessionId fact _) ⟨fun k => stamps.recorded (k + 1), stamps.announced⟩)
  | nil =>
      induction notices generalizing e stamps with
      | nil => exact .refl _ userId e
      | cons n notices ih =>
          exact (staysWithin_announce n.1 n.2 _).trans
            (ih (e.announce sessionId n.1 n.2 _)
              ⟨stamps.recorded, fun k => stamps.announced (k + 1)⟩)

/-! ### Coming and going -/

/-- A departure concerns the session that is left, also when it ends it for those who are still
there. -/
theorem staysWithin_departFrom (he : e.Keyed) :
    StaysWithin [sessionId] userId e (e.departFrom sessionId userId now) := by
  cases hs : e.sessions.get? sessionId with
  | none =>
      rw [departFrom, hs]
      exact .refl _ userId e
  | some s =>
      cases hd : s.depart userId (now.acting sessionId) with
      | error =>
          rw [departFrom, hs]
          simp only [hd]
          exact .refl _ userId e
      | ok result =>
          obtain ⟨departure, s'⟩ := result
          have hid : s'.id = sessionId := (Session.sameTerms_depart hd).id.trans (he hs)
          rw [departFrom_eq hs hd]
          exact (staysWithin_dismiss hid).trans (staysWithin_tell _ _ _ _)

theorem staysWithin_vacate (he : e.Keyed) :
    StaysWithin (e.whereabouts.get? userId).toList userId e (e.vacate userId now) := by
  rw [vacate]
  split
  · exact .refl _ userId e
  · next previous hwhere =>
    rw [hwhere]
    have hdisplaced : (e.displace userId).Keyed := he
    exact (staysWithin_displace e).trans (staysWithin_departFrom hdisplaced)

theorem staysWithin_install {s : Session} (hostName : String) (hid : s.id = sessionId)
    (hhost : s.hostId = userId) : StaysWithin [sessionId] userId e (e.install s hostName now) := by
  subst hid hhost
  have htold : StaysWithin [s.id] s.hostId e (((e.enroll s.id s s.hostId).tell s.id
      [.created s.hostId hostName s.title s.language s.content] [] (now.promptStamps s.id)).place
        s.hostId s.id) :=
    ((staysWithin_enroll rfl).trans (staysWithin_tell _ _ _ _)).trans (staysWithin_place _)
  exact htold.counted _ _

theorem staysWithin_welcome {s : Session} (admission : Admission) (hid : s.id = sessionId) :
    StaysWithin [sessionId] userId e (e.welcome sessionId userId admission s now) :=
  ((staysWithin_enroll hid).trans (staysWithin_tell _ _ _ _)).trans (staysWithin_place _)

theorem staysWithin_leaveBehind (he : e.Keyed) (previous : Option String) :
    StaysWithin previous.toList userId e (e.leaveBehind previous sessionId userId now) := by
  cases previous with
  | none => exact .refl _ userId e
  | some key =>
      rw [leaveBehind]
      split
      · exact .refl _ userId e
      · exact staysWithin_departFrom he

/-! ### Operations -/

/-- Whoever creates a session touches it and the one they were in. -/
theorem staysWithin_create {hostId hostName assignmentId : String} {options : SessionOptions}
    {snapshot : Snapshot} (he : e.Keyed)
    (h : e.create hostId hostName assignmentId options now = .ok (snapshot, e')) :
    StaysWithin (e.freshSessionId :: (e.whereabouts.get? hostId).toList) hostId e e' := by
  obtain ⟨settings, -, -, rfl⟩ := create_ok h
  have hvacate : StaysWithin (e.freshSessionId :: (e.whereabouts.get? hostId).toList) hostId e
      (e.vacate hostId now) := (staysWithin_vacate he).mono (List.subset_cons_self _ _)
  have hinstall : StaysWithin [e.freshSessionId] hostId (e.vacate hostId now)
      ((e.vacate hostId now).install (Session.start e.freshSessionId hostId
        (Text.orElseIfBlank hostName hostId) assignmentId settings (now.acting e.freshSessionId))
        (Text.orElseIfBlank hostName hostId) now) := staysWithin_install _ rfl rfl
  exact hvacate.trans (hinstall.mono (List.cons_subset_cons _ (List.nil_subset _)))

/-- Whoever joins a session touches it and the one they were in. -/
theorem staysWithin_join {userName : String} {role : Role} {snapshot : Snapshot} (he : e.Keyed)
    (h : e.join sessionId userId userName role now = .ok (snapshot, e')) :
    StaysWithin (sessionId :: (e.whereabouts.get? userId).toList) userId e e' := by
  obtain ⟨s, s', admission, hs, hjoin, -, rfl⟩ := join_ok h
  have hid : s'.id = sessionId := (Session.sameTerms_join hjoin).id.trans (he hs)
  have hkeyed : (e.welcome sessionId userId admission s' now).Keyed := he.putSession s'
  have hwelcome : StaysWithin (sessionId :: (e.whereabouts.get? userId).toList) userId e
      (e.welcome sessionId userId admission s' now) :=
    (staysWithin_welcome admission hid).mono (List.cons_subset_cons _ (List.nil_subset _))
  exact hwelcome.trans ((staysWithin_leaveBehind hkeyed _).mono (List.subset_cons_self _ _))

/-- A new state of a session of the directory, and what is told of it, concerns this session. -/
theorem staysWithin_store_tell {s s' : Session} (he : e.Keyed)
    (hs : e.sessions.get? sessionId = some s) (hterms : Session.SameTerms s s')
    (facts : List Fact) (notices : List (Notice × Option String)) (stamps : Stamps) :
    StaysWithin [sessionId] userId e ((e.putSession s').tell sessionId facts notices stamps) :=
  (staysWithin_putSession (hterms.id.trans (he hs))).trans (staysWithin_tell _ _ _ _)

/-- **Every operation that succeeds stays within its footprint.** -/
theorem Outcome.staysWithin {command : Command} {answer : Answer} (he : e.Keyed)
    (h : Outcome e now command answer e') (hcaller : command.caller? = some userId) :
    StaysWithin ((e.target? command).toList ++
      if command.isArrival then (e.callerSession? command).toList else []) userId e e' := by
  cases h with
  | create hok =>
      obtain rfl := Option.some.inj hcaller
      exact staysWithin_create he hok
  | join hok =>
      obtain rfl := Option.some.inj hcaller
      exact staysWithin_join he hok
  | leave hok =>
      obtain rfl := Option.some.inj hcaller
      rw [leave_ok hok]
      exact (staysWithin_vacate he).mono (List.subset_append_left _ _)
  | change hok =>
      obtain ⟨s, s', hs, -, hedit, rfl⟩ := change_ok hok
      have hterms := (Session.sameTerms_edit hedit).trans (sameTerms_limitHistory e.config s')
      exact (staysWithin_store_tell he hs hterms _ _ _).counted _ _
  | @cursor user position _ _ hok =>
      obtain ⟨key, s, s', entry, hwhere, hs, hmove, rfl⟩ := cursor_ok hok
      have htarget : e.target? (.cursor user position) = some key := hwhere
      rw [htarget]
      exact staysWithin_store_tell he hs (Session.sameTerms_moveCursor hmove) _ _ _
  | assist hok =>
      obtain ⟨s, s', entry, hs, hrequest, rfl⟩ := assist_ok hok
      exact staysWithin_store_tell he hs (Session.sameTerms_requestHelp hrequest) _ _ _
  | connect | disconnect | sweep => cases hcaller

/-- **Operations touch only the sessions they concern.** In every state, every operation of a user
leaves all sessions outside its footprint as they were, with their recordings and their subscribers,
and all other users where they were; every message that it sends is about a session of the
footprint. -/
theorem step_staysWithin (he : e.Reachable config) (now : Clock) (command : Command)
    (userId : String) (hcaller : command.caller? = some userId) :
    StaysWithin (e.footprint now command) userId e (e.step now command).2 := by
  rcases e.step_cases now command with ⟨error, hstep⟩ | ⟨answer, e', hok, hstep⟩
  · rw [hstep]
    exact .refl _ userId e
  · rw [footprint, hstep]
    have hkeyed : e.Keyed := he.coherent.balanced.id_eq
    rw [Except.isOk, Except.toBool, Bool.and_true]
    exact hok.staysWithin hkeyed hcaller

/-- A history after which Bob is in a session of Ada's, and Cy and Dan have a session each. -/
def threeSessions : History :=
  .still [(⟨0, 0⟩, .create "ada" "Ada" "primes" {}),
    (⟨1, 0⟩, .join "$s0" "bob" "Bob" .participant),
    (⟨2, 0⟩, .create "cy" "Cy" "primes" {}), (⟨3, 0⟩, .create "dan" "Dan" "primes" {})]

/-- When Ada goes over to Cy, her own session ends. This concerns the two sessions: that of Dan goes
on, and Bob is where he was. -/
theorem step_staysWithin_threeSessions :
    let e := (Engine.new .default).after threeSessions
    let command := Command.join "$s1" "ada" "Ada" .participant
    e.Reachable .default ∧ command.caller? = some "ada" ∧
      e.footprint (.still ⟨4, 0⟩) command = ["$s1", "$s0"] ∧
      ((e.step (.still ⟨4, 0⟩) command).2.sessions.get? "$s0").map Session.status = some .ended ∧
      (e.step (.still ⟨4, 0⟩) command).2.sessions.get? "$s2" = e.sessions.get? "$s2" ∧
      (e.step (.still ⟨4, 0⟩) command).2.whereabouts.get? "bob" = some "$s0" := by
  intro e command
  have he : e.Reachable .default := Reachable.new.after threeSessions
  have hfootprint : e.footprint (.still ⟨4, 0⟩) command = ["$s1", "$s0"] := by decide +kernel
  have hstays := step_staysWithin he (.still ⟨4, 0⟩) command "ada" rfl
  rw [hfootprint] at hstays
  refine ⟨he, rfl, hfootprint, by decide +kernel, hstays.session "$s2" (by decide), ?_⟩
  exact (hstays.whereabouts "bob" (by decide)).trans (by decide +kernel)

end Engine

end CoEdit
