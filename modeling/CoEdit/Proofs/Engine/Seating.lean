import CoEdit.Proofs.Delivery.Subscriptions
import CoEdit.Proofs.Engine.Outcome

/-!
# Who Sits Where

Three tables of an engine say which user is in which session: the rosters of the sessions, the
subscriptions of the gateway, and the directory of whereabouts. A *seating* is a relation that the
rosters and the subscriptions both describe. The parts of an operation change a seating by one
place at a time, and between two operations the whereabouts describe it as well.

## Main definitions

* `Engine.Seating`: the rosters and the subscriptions agree with a relation.
* `Engine.Located`: the relation that the whereabouts describe.
* `Engine.Balanced`: all three tables agree.

## Main results

* `Seating.enroll`, `Seating.dismiss`, `Seating.removeSession`: the seating after each part.
* `Seating.exists_departFrom`: whoever has a place in a session can leave it.
* `Seating.departFrom`: leaving takes this place and no other.
-/

namespace CoEdit.Engine

open CoEdit.Time (Instant)

variable {e e' : Engine} {sessionId userId : String} {now : Clock}
  {seated : String → String → Prop}

/-- Whether a user is online in a session of the directory. -/
def IsPresent (e : Engine) (userId sessionId : String) : Prop :=
  ∃ s, e.sessions.get? sessionId = some s ∧ s.isOnline userId = true

/-- Whether the directory says that a user is in a session. -/
def Located (e : Engine) (userId sessionId : String) : Prop :=
  e.whereabouts.get? userId = some sessionId

/-- The rosters and the subscriptions agree with a relation between users and sessions. -/
structure Seating (e : Engine) (seated : String → String → Prop) : Prop where
  /-- Sessions are kept under their own ids. -/
  id_eq : ∀ {key s}, e.sessions.get? key = some s → s.id = key
  present_iff : ∀ user key, e.IsPresent user key ↔ seated user key
  subscribed_iff : ∀ user key, user ∈ e.gateway.subscriptionsOf key ↔ seated user key
  noneEmpty : e.gateway.NoneEmpty

/-- Rosters, subscriptions and whereabouts agree. -/
def Balanced (e : Engine) : Prop :=
  e.Seating e.Located

namespace Seating

/-- A seating is a matter of the sessions and the subscriptions alone. -/
theorem congr (h : e.Seating seated) (hs : e'.sessions = e.sessions)
    (hg : e'.gateway.subscriptions = e.gateway.subscriptions) : e'.Seating seated where
  id_eq hget := h.id_eq (hs ▸ hget)
  present_iff user key := by rw [IsPresent, hs]; exact h.present_iff user key
  subscribed_iff user key := by
    rw [Gateway.subscriptionsOf, hg]
    exact h.subscribed_iff user key
  noneEmpty := by rw [Gateway.NoneEmpty, hg]; exact h.noneEmpty

/-- Relations that hold of the same pairs are the same seating. -/
theorem of_iff {seated' : String → String → Prop} (h : e.Seating seated)
    (hiff : ∀ user key, seated user key ↔ seated' user key) : e.Seating seated' where
  id_eq := h.id_eq
  present_iff user key := (h.present_iff user key).trans (hiff user key)
  subscribed_iff user key := (h.subscribed_iff user key).trans (hiff user key)
  noneEmpty := h.noneEmpty

/-- In a session of the directory, the users online are those who are seated there. -/
theorem isOnline_iff {s : Session} (h : e.Seating seated)
    (hs : e.sessions.get? sessionId = some s) :
    s.isOnline userId = true ↔ seated userId sessionId := by
  rw [← h.present_iff, IsPresent]
  constructor
  · exact fun hon => ⟨s, hs, hon⟩
  · rintro ⟨t, ht, hon⟩
    obtain rfl := Option.some.inj (hs.symm.trans ht)
    exact hon

/-- Nobody is seated in a session that is not in the directory. -/
theorem not_seated_of_none (h : e.Seating seated) (hs : e.sessions.get? sessionId = none) :
    ¬seated userId sessionId := by
  rw [← h.present_iff]
  rintro ⟨s, hget, -⟩
  rw [hs] at hget
  cases hget

/-! ### The parts of an operation -/

/-- Telling changes no seating. -/
theorem tell (h : e.Seating seated) (facts : List Fact)
    (notices : List (Notice × Option String)) (stamps : Stamps) :
    (e.tell sessionId facts notices stamps).Seating seated := by
  refine h.congr rfl ?_
  change (e.gateway.broadcastAll sessionId notices stamps.announced).subscriptions =
    e.gateway.subscriptions
  generalize e.gateway = g, stamps.announced = times
  induction notices generalizing g times with
  | nil => rfl
  | cons n notices ih => exact ih _ _

/-- Storing a session and changing its subscribers together changes the seating in this session
alone. -/
theorem store {s : Session} {g : Gateway} {here : String → Prop} (h : e.Seating seated)
    (hid : s.id = sessionId) (hon : ∀ user, s.isOnline user = true ↔ here user)
    (hsub : ∀ user key, user ∈ g.subscriptionsOf key ↔
      if key = sessionId then here user else user ∈ e.gateway.subscriptionsOf key)
    (hne : g.NoneEmpty) :
    Seating { e.putSession s with gateway := g }
      fun user key => if key = sessionId then here user else seated user key where
  id_eq {key t} hget := by
    simp only [Engine.putSession, Table.get?_put] at hget
    split at hget
    · next hkey =>
      obtain rfl := Option.some.inj hget
      exact hkey.symm
    · exact h.id_eq hget
  present_iff user key := by
    simp only [IsPresent, Engine.putSession, Table.get?_put, hid]
    by_cases heq : key = sessionId
    · simpa [heq] using hon user
    · simpa [heq, IsPresent] using h.present_iff user key
  subscribed_iff user key := by
    rw [hsub]
    split
    · exact Iff.rfl
    · exact h.subscribed_iff user key
  noneEmpty := hne

/-- A new state of a session that keeps everybody's presence keeps the seating. -/
theorem putSession {s s' : Session} (h : e.Seating seated)
    (hs : e.sessions.get? sessionId = some s) (hid : s'.id = s.id)
    (hon : ∀ user, s'.isOnline user = s.isOnline user) : (e.putSession s').Seating seated := by
  have hkey : s'.id = sessionId := hid.trans (h.id_eq hs)
  have hhere : ∀ user, s'.isOnline user = true ↔ seated user sessionId := fun user => by
    rw [hon, h.isOnline_iff hs]
  refine (h.store hkey hhere (fun user key => ?_) h.noneEmpty).of_iff fun user key => ?_
  · rw [h.subscribed_iff]
    split
    · next heq => rw [heq]
    · exact Iff.rfl
  · split
    · next heq => rw [heq]
    · exact Iff.rfl

/-- Enrolling a user in a session gives them a place there. -/
theorem enroll {s : Session} (h : e.Seating seated) (hid : s.id = sessionId)
    (hon : ∀ user, s.isOnline user = true ↔ seated user sessionId ∨ user = userId) :
    (e.enroll sessionId s userId).Seating fun user key =>
      seated user key ∨ (user = userId ∧ key = sessionId) := by
  refine (h.store hid hon (fun user key => ?_) h.noneEmpty.subscribe).of_iff fun user key => ?_
  · rw [Gateway.mem_subscribe_iff, h.subscribed_iff]
    by_cases heq : key = sessionId
    · simp [heq]
    · simp [heq]
  · by_cases heq : key = sessionId
    · simp [heq]
    · simp [heq]

/-- Dismissing a user from a session takes their place there. -/
theorem dismiss {s : Session} (h : e.Seating seated) (hid : s.id = sessionId)
    (hon : ∀ user, s.isOnline user = true ↔ seated user sessionId ∧ user ≠ userId) :
    (e.dismiss sessionId s userId).Seating fun user key =>
      seated user key ∧ ¬(user = userId ∧ key = sessionId) := by
  refine (h.store hid hon (fun user key => ?_) h.noneEmpty.unsubscribe).of_iff fun user key => ?_
  · rw [Gateway.mem_unsubscribe_iff, h.subscribed_iff]
    by_cases heq : key = sessionId
    · simp [heq]
    · simp [heq]
  · by_cases heq : key = sessionId
    · simp [heq]
    · simp [heq]

/-- Removing a session takes all places in it. -/
theorem removeSession (h : e.Seating seated) :
    (e.removeSession sessionId).Seating fun user key => seated user key ∧ key ≠ sessionId where
  id_eq {key s} hget := by
    simp only [Engine.removeSession, Table.get?_erase] at hget
    split at hget
    · cases hget
    · exact h.id_eq hget
  present_iff user key := by
    simp only [IsPresent, Engine.removeSession, Table.get?_erase]
    by_cases heq : key = sessionId
    · simp [heq]
    · simpa [heq, IsPresent] using h.present_iff user key
  subscribed_iff user key := by
    change user ∈ (e.gateway.dropSession sessionId).subscriptionsOf key ↔ _
    rw [Gateway.mem_dropSession_iff, h.subscribed_iff]
  noneEmpty := h.noneEmpty.dropSession

/-! ### Leaving -/

/-- Whoever has a place in a session can leave it: they are online there, and the session lets them
go. -/
theorem exists_departFrom (h : e.Seating seated) (hseat : seated userId sessionId)
    (now : Clock) :
    ∃ s s' departure, e.sessions.get? sessionId = some s ∧ s.id = sessionId ∧
      s.isOnline userId = true ∧
      s.depart userId (now.acting sessionId) = .ok (departure, s') ∧
      e.departFrom sessionId userId now =
        (e.dismiss sessionId s' userId).tell sessionId (departureFacts userId departure)
          ((departureNotices userId departure s').map (·, none)) (now.stamps sessionId) := by
  obtain ⟨s, hs, hon⟩ := (h.present_iff userId sessionId).mpr hseat
  obtain ⟨entry, hentry, -⟩ := Session.isOnline_iff.mp hon
  obtain ⟨departure, s', hd⟩ := Session.exists_depart hentry (now.acting sessionId)
  exact ⟨s, s', departure, hs, h.id_eq hs, hon, hd, departFrom_eq hs hd⟩

/-- Leaving takes the place of the user in the session, and no other place. -/
theorem departFrom (h : e.Seating seated) (hseat : seated userId sessionId) (now : Clock) :
    (e.departFrom sessionId userId now).Seating fun user key =>
      seated user key ∧ ¬(user = userId ∧ key = sessionId) := by
  obtain ⟨s, s', departure, hs, hid, -, hd, heq⟩ := h.exists_departFrom hseat now
  have hid' : s'.id = sessionId := (Session.sameTerms_depart hd).id.trans hid
  have hon : ∀ user, s'.isOnline user = true ↔ seated user sessionId ∧ user ≠ userId :=
    fun user => by rw [Session.isOnline_depart_iff hd, h.isOnline_iff hs]
  rw [heq]
  exact (h.dismiss hid' hon).tell _ _ _

/-- Leaving a session removes none and makes none. -/
theorem sessions_departFrom_eq_none_iff {key : String} (h : e.Seating seated)
    (hseat : seated userId sessionId) (now : Clock) :
    (e.departFrom sessionId userId now).sessions.get? key = none ↔
      e.sessions.get? key = none := by
  obtain ⟨s, s', departure, hs, hid, -, hd, heq⟩ := h.exists_departFrom hseat now
  have hid' : s'.id = sessionId := (Session.sameTerms_depart hd).id.trans hid
  rw [heq]
  change (e.sessions.put s'.id s').get? key = none ↔ _
  rw [Table.get?_put, hid']
  by_cases hkey : key = sessionId
  · simp [hkey, hs]
  · simp [hkey]

/-! ### Sweeping -/

/-- Giving a session up changes nobody's place. -/
theorem endIdle (h : e.Seating seated) (asOf : Instant) (now : Clock) :
    (Engine.endIdle asOf now e sessionId).Seating seated := by
  cases hs : e.sessions.get? sessionId with
  | none =>
      rw [endIdle_of_none hs]
      exact h
  | some s =>
      rw [endIdle_eq hs]
      exact (h.putSession hs Session.sameTerms_close.id fun _ => Session.isOnline_close).tell _ _ _

/-- Giving up one session after the other changes nobody's place. -/
theorem foldl_endIdle (h : e.Seating seated) (asOf : Instant) (now : Clock) (keys : List String) :
    (keys.foldl (Engine.endIdle asOf now) e).Seating seated := by
  induction keys generalizing e with
  | nil => exact h
  | cons key keys ih => exact ih (h.endIdle asOf now)

/-- Removing one session after the other takes all places in them. -/
theorem foldl_removeSession (h : e.Seating seated) (keys : List String) :
    (keys.foldl Engine.removeSession e).Seating fun user key => seated user key ∧ key ∉ keys := by
  induction keys generalizing e seated with
  | nil => exact h.of_iff fun user key => by simp
  | cons key keys ih =>
      refine (ih h.removeSession).of_iff fun user other => ?_
      rw [List.mem_cons, not_or, and_assoc]

end Seating

/-! ### Whereabouts -/

/-- Leaving a session does not itself change the whereabouts. -/
theorem whereabouts_departFrom :
    (e.departFrom sessionId userId now).whereabouts = e.whereabouts := by
  rw [departFrom]
  split
  · rfl
  · split
    · rfl
    · simp only
      split <;> rfl

theorem whereabouts_vacate {user : String} :
    (e.vacate userId now).whereabouts.get? user =
      if user = userId then none else e.whereabouts.get? user := by
  rw [vacate]
  split
  · next hnone =>
    split
    · next huser => rw [huser, hnone]
    · rfl
  · rw [whereabouts_departFrom, displace, Table.get?_erase]

theorem whereabouts_foldl_endIdle (asOf : Instant) (keys : List String) :
    (keys.foldl (endIdle asOf now) e).whereabouts = e.whereabouts := by
  induction keys generalizing e with
  | nil => rfl
  | cons key keys ih =>
      rw [List.foldl_cons, ih, endIdle]
      split <;> rfl

theorem whereabouts_foldl_removeSession (keys : List String) :
    (keys.foldl removeSession e).whereabouts = e.whereabouts := by
  induction keys generalizing e with
  | nil => rfl
  | cons key keys ih => exact ih

end CoEdit.Engine
