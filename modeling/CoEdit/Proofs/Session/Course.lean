import CoEdit.Proofs.Session.InPlace
import CoEdit.Proofs.Session.Sound
import CoEdit.Session.Action
import Mathlib.Data.List.Induction

/-!
# The Course of a Session

What is done to a session, one action after the other, at times that may also go back. Actions are
taken in place, so that one that is refused leaves behind whatever it has done by then; it turns out
that this is nothing. Whatever the successful actions keep holds in the whole course.

## Main definitions

* `Session.carryOut`, `Session.step`: an action taken in place, with the state it leaves behind.
* `Session.Acted`: the successful actions with their results and the states they lead to.
* `Course`, `Session.after`, `Session.changesIn`: a course, the session after it, and the changes
  applied in it.
* `Participant.Continues`, `Session.RosterContinues`, `Session.RosterStep`: how the entries of a
  roster go on.
* `Session.InOrder`: the host comes first, and the colours are given out in turn.

## Main results

* `step_eq_keep`, `step_cases`: an action that is refused changes nothing.
* `after_invariant`: what is kept by every successful action holds after every course.
* `Acted.rosterStep`, `Acted.sameTerms`, `Acted.follows`: what an action does to the roster, to what
  is settled, and to the document.
* `Acted.sound`, `Acted.inOrder`: every action keeps a session sound and its roster in order.
-/

namespace CoEdit

open CoEdit.Time (Instant)

/-- The change that is the result of an edit. -/
def Result.change? : Result → Option Change
  | .edited change => some change
  | _ => none

/-- What is done to a session, with the times, the first action first. -/
abbrev Course := List (Instant × Action)

namespace Session

open InPlace

variable {s s' : Session} {now : Instant} {action : Action} {result : Result}

/-! ### One action -/

/-- Takes an action in place. -/
def carryOut (now : Instant) : Action → InPlace Error Session Result
  | .join userId userName role => Result.joined <$> joinInPlace userId userName role now
  | .depart userId => Result.departed <$> departInPlace userId now
  | .close => Result.closed <$> modifyGet (·.close now)
  | .edit changeId authorId operation =>
    Result.edited <$> editInPlace changeId authorId operation now
  | .moveCursor userId position => Result.entry <$> moveCursorInPlace userId position now
  | .requestHelp userId => Result.entry <$> requestHelpInPlace userId now
  | .compact keepLast => Result.folded <$> modifyGet (·.compact keepLast)

/-- Takes an action: its result or the refusal, and the session that it leaves behind. -/
def step (s : Session) (now : Instant) (action : Action) : Except Error Result × Session :=
  (carryOut now action).on s

/-- Every action taken in place is all or nothing. -/
theorem step_eq_keep (s : Session) (now : Instant) (action : Action) :
    s.step now action = keep s (s.perform now action) := by
  cases action with
  | join => exact on_map_keep _ (on_joinInPlace s)
  | depart => exact on_map_keep _ (on_departInPlace s)
  | close => rfl
  | edit => exact on_map_keep _ (on_editInPlace s)
  | moveCursor => exact on_map_keep _ (on_moveCursorInPlace s)
  | requestHelp => exact on_map_keep _ (on_requestHelpInPlace s)
  | compact => rfl

/-- The successful actions, each with its result and the session after it. -/
inductive Acted (s : Session) (now : Instant) : Action → Result → Session → Prop
  | join {userId userName : String} {role : Role} {admission : Admission} {s' : Session}
      (hok : s.join userId userName role now = .ok (admission, s')) :
      Acted s now (.join userId userName role) (.joined admission) s'
  | depart {userId : String} {departure : Departure} {s' : Session}
      (hok : s.depart userId now = .ok (departure, s')) :
      Acted s now (.depart userId) (.departed departure) s'
  | close : Acted s now .close (.closed (s.close now).1) (s.close now).2
  | edit {changeId authorId : String} {op : Operation} {change : Change} {s' : Session}
      (hok : s.edit changeId authorId op now = .ok (change, s')) :
      Acted s now (.edit changeId authorId op) (.edited change) s'
  | moveCursor {userId : String} {position : Nat} {entry : Participant} {s' : Session}
      (hok : s.moveCursor userId position now = .ok (entry, s')) :
      Acted s now (.moveCursor userId position) (.entry entry) s'
  | requestHelp {userId : String} {entry : Participant} {s' : Session}
      (hok : s.requestHelp userId now = .ok (entry, s')) :
      Acted s now (.requestHelp userId) (.entry entry) s'
  | compact (keepLast : Nat) :
      Acted s now (.compact keepLast) (.folded (s.compact keepLast).1) (s.compact keepLast).2

/-- An action that is not refused is one of the successful ones. -/
theorem perform_ok (h : s.perform now action = .ok (result, s')) :
    Acted s now action result s' := by
  cases action with
  | join =>
      obtain ⟨⟨admission, after⟩, hok, heq⟩ := map_eq_ok.mp h
      obtain ⟨rfl, rfl⟩ := Prod.mk.inj heq
      exact .join hok
  | depart =>
      obtain ⟨⟨departure, after⟩, hok, heq⟩ := map_eq_ok.mp h
      obtain ⟨rfl, rfl⟩ := Prod.mk.inj heq
      exact .depart hok
  | close =>
      obtain ⟨rfl, rfl⟩ := Prod.mk.inj (Except.ok.inj h)
      exact .close
  | edit =>
      obtain ⟨⟨change, after⟩, hok, heq⟩ := map_eq_ok.mp h
      obtain ⟨rfl, rfl⟩ := Prod.mk.inj heq
      exact .edit hok
  | moveCursor =>
      obtain ⟨⟨entry, after⟩, hok, heq⟩ := map_eq_ok.mp h
      obtain ⟨rfl, rfl⟩ := Prod.mk.inj heq
      exact .moveCursor hok
  | requestHelp =>
      obtain ⟨⟨entry, after⟩, hok, heq⟩ := map_eq_ok.mp h
      obtain ⟨rfl, rfl⟩ := Prod.mk.inj heq
      exact .requestHelp hok
  | compact keepLast =>
      obtain ⟨rfl, rfl⟩ := Prod.mk.inj (Except.ok.inj h)
      exact .compact keepLast

/-- **An action is refused and changes nothing, or it is one of the successful ones.** -/
theorem step_cases (s : Session) (now : Instant) (action : Action) :
    (∃ error, s.step now action = (.error error, s)) ∨
      ∃ result s', Acted s now action result s' ∧ s.step now action = (.ok result, s') := by
  rw [step_eq_keep]
  cases hperform : s.perform now action with
  | error error => exact .inl ⟨error, rfl⟩
  | ok acted => exact .inr ⟨acted.1, acted.2, perform_ok hperform, rfl⟩

/-- A successful action gives its result and the session after it. -/
theorem Acted.step_eq (h : Acted s now action result s') :
    s.step now action = (.ok result, s') := by
  rw [step_eq_keep]
  cases h with
  | close => rfl
  | compact => rfl
  | join hok | depart hok | edit hok | moveCursor hok | requestHelp hok =>
      rw [perform, hok]
      rfl

/-! ### Whole courses -/

/-- The session after a course. -/
def after (s : Session) : Course → Session
  | [] => s
  | (now, action) :: rest => (s.step now action).2.after rest

/-- The changes applied in a course, the first one first. -/
def changesIn (s : Session) : Course → List Change
  | [] => []
  | (now, action) :: rest =>
    ((s.step now action).1.toOption.bind Result.change?).toList ++
      (s.step now action).2.changesIn rest

theorem after_append (course rest : Course) :
    s.after (course ++ rest) = (s.after course).after rest := by
  induction course generalizing s with
  | nil => rfl
  | cons x course ih => exact ih

/-- A course that begins with a successful action goes on in the session after it. -/
theorem Acted.after_cons (h : Acted s now action result s') (rest : Course) :
    s.after ((now, action) :: rest) = s'.after rest := by
  rw [after, h.step_eq]

theorem changesIn_append (course rest : Course) :
    s.changesIn (course ++ rest) = s.changesIn course ++ (s.after course).changesIn rest := by
  induction course generalizing s with
  | nil => rfl
  | cons x course ih =>
      rw [List.cons_append, changesIn, ih, changesIn, List.append_assoc]
      rfl

/-- **What is kept by every successful action holds after every course**, for the session together
with the changes that it has taken. -/
theorem after_invariant {I : List Change → Session → Prop} (hstart : I [] s)
    (hacted : ∀ {changes : List Change} {t t' : Session} {now : Instant} {action : Action}
      {result : Result}, Acted t now action result t' → I changes t →
        I (changes ++ result.change?.toList) t')
    (course : Course) : I (s.changesIn course) (s.after course) := by
  induction course using List.reverseRecOn with
  | nil => exact hstart
  | append_singleton course x ih =>
      rw [changesIn_append, after_append]
      change I (_ ++ (_ ++ [])) ((s.after course).step x.1 x.2).2
      rw [List.append_nil]
      rcases (s.after course).step_cases x.1 x.2 with ⟨error, hstep⟩ | ⟨result, s', hok, hstep⟩
      · rw [hstep]
        exact (List.append_nil (s.changesIn course)).symm ▸ ih
      · rw [hstep]
        exact hacted hok ih

/-! ### What is settled, and the document -/

theorem Acted.sameTerms (h : Acted s now action result s') : SameTerms s s' := by
  cases h with
  | join hok => exact sameTerms_join hok
  | depart hok => exact sameTerms_depart hok
  | close => exact sameTerms_close
  | edit hok => exact sameTerms_edit hok
  | moveCursor hok => exact sameTerms_moveCursor hok
  | requestHelp hok => exact sameTerms_requestHelp hok
  | compact keepLast => exact sameTerms_of_snapshot_eq (snapshot_compact s keepLast)

/-- The document after an action comes from the one before it by the change that is its result. -/
theorem Acted.follows (h : Acted s now action result s') :
    Follows s result.change?.toList s' := by
  cases h with
  | join hok => exact (sameDocument_join hok).follows
  | depart hok => exact (sameDocument_depart hok).follows
  | close => exact sameDocument_close.follows
  | edit hok => exact follows_edit hok
  | moveCursor hok => exact (sameDocument_moveCursor hok).follows
  | requestHelp hok => exact (sameDocument_requestHelp hok).follows
  | compact keepLast => exact ⟨rfl, changeCount_compact s keepLast⟩

/-- No course changes what is settled. -/
theorem sameTerms_after (s : Session) (course : Course) : SameTerms s (s.after course) :=
  after_invariant (I := fun _ t => SameTerms s t) ⟨rfl, rfl, rfl, rfl, rfl, rfl, rfl, rfl⟩
    (fun hacted h => h.trans hacted.sameTerms) course

/-- The document after a course comes from the one before it by the changes in the course. -/
theorem follows_after (s : Session) (course : Course) :
    Follows s (s.changesIn course) (s.after course) := by
  refine after_invariant (I := fun changes t => Follows s changes t) ⟨rfl, rfl⟩
    (fun hacted h => ?_) course
  have hlast := hacted.follows
  refine ⟨?_, ?_⟩
  · rw [hlast.content, h.content, foldChanges_append]
  · rw [hlast.changeCount, h.changeCount, List.length_append, Nat.add_assoc]

/-- Every action keeps a session sound. -/
theorem Acted.sound (h : Acted s now action result s') (hs : s.Sound) : s'.Sound := by
  cases h with
  | join hok => exact hs.join hok
  | depart hok => exact hs.depart hok
  | close => exact hs.close now
  | edit hok => exact hs.edit hok
  | moveCursor hok => exact hs.moveCursor hok
  | requestHelp hok => exact hs.requestHelp hok
  | compact keepLast => exact hs.compact keepLast

end Session

/-! ### The roster -/

/-- An entry goes on as another: only the cursor, the presence and the mark of activity have
changed, and the mark has not gone back. -/
structure Participant.Continues (p q : Participant) : Prop where
  userId : q.userId = p.userId
  userName : q.userName = p.userName
  role : q.role = p.role
  joinedAt : q.joinedAt = p.joinedAt
  color : q.color = p.color
  lastActivity : p.lastActivity ≤ q.lastActivity

/-- An entry goes on as itself, also when activity is noted. -/
theorem Participant.continues_touch (p : Participant) (cursor : Nat) (isOnline : Bool)
    (now : Instant) : p.Continues ({ p with cursor, isOnline }.touch now) :=
  ⟨rfl, rfl, rfl, rfl, rfl, Instant.le_later_left _ _⟩

theorem Participant.continues_self (p : Participant) : p.Continues p :=
  ⟨rfl, rfl, rfl, rfl, rfl, le_refl _⟩

namespace Session

variable {s s' : Session} {userId : String} {now : Instant} {action : Action} {result : Result}

/-- Every entry of the roster goes on in its place. -/
def RosterContinues (s s' : Session) : Prop :=
  ∀ (i : Nat) (p : Participant), s.roster[i]? = some p →
    ∃ q, s'.roster[i]? = some q ∧ p.Continues q

/-- How the roster goes on: all entries go on in their places, and nobody or, if somebody has joined
who was not online, somebody new comes at the end. -/
inductive RosterStep (s : Session) (now : Instant) (result : Result) (s' : Session) : Prop
  | same (hlength : s'.roster.length = s.roster.length) (hcontinues : s.RosterContinues s')
  | newcomer (userId userName : String) (role : Role) (admission : Admission)
      (hresult : result = .joined admission) (halready : admission.alreadyOnline = false)
      (hroster : s'.roster = s.roster ++
        [Participant.enter userId userName role.onJoining (colorAt s.roster.length) now])
      (hmark : now ≤ s'.updatedAt)

theorem rosterContinues_of_eq (h : s'.roster = s.roster) : s.RosterContinues s' := by
  intro i p hp
  exact ⟨p, by rw [h, hp], p.continues_self⟩

/-- No entry is lost. -/
theorem RosterContinues.length_le (h : s.RosterContinues s') :
    s.roster.length ≤ s'.roster.length := by
  by_contra hlt
  have hlast : s'.roster.length < s.roster.length := by omega
  obtain ⟨q, hq, -⟩ := h s'.roster.length _ (List.getElem?_eq_getElem hlast)
  rw [List.getElem?_eq_none (le_refl _)] at hq
  cases hq

/-- On a roster that is no longer than before, every entry goes on from one before. -/
theorem RosterContinues.exists_getElem? (h : s.RosterContinues s')
    (hlength : s'.roster.length = s.roster.length) {i : Nat} {q : Participant}
    (hq : s'.roster[i]? = some q) : ∃ p, s.roster[i]? = some p ∧ p.Continues q := by
  obtain ⟨hi, -⟩ := List.getElem?_eq_some_iff.mp hq
  have hlt : i < s.roster.length := by omega
  obtain ⟨q', hq', hcontinues⟩ := h i _ (List.getElem?_eq_getElem hlt)
  obtain rfl := Option.some.inj (hq.symm.trans hq')
  exact ⟨_, List.getElem?_eq_getElem hlt, hcontinues⟩

/-- The entries of a roster go on in their places, whatever the action. -/
theorem RosterStep.rosterContinues (h : RosterStep s now result s') : s.RosterContinues s' := by
  cases h with
  | same _ hcontinues => exact hcontinues
  | newcomer userId userName role admission _ _ hroster _ =>
      intro i p hp
      obtain ⟨hlt, -⟩ := List.getElem?_eq_some_iff.mp hp
      exact ⟨p, by rw [hroster, List.getElem?_append_left hlt, hp], p.continues_self⟩

/-- A change of one entry that lets it go on lets the roster go on. -/
theorem rosterStep_updateEntry {f : Participant → Participant}
    (hf : ∀ p : Participant, p.Continues (f p))
    (hroster : s'.roster = (s.updateEntry userId f).roster) : RosterStep s now result s' := by
  refine .same (by rw [hroster, updateEntry, List.length_map]) fun i p hp => ?_
  refine ⟨if p.userId = userId then f p else p, ?_, ?_⟩
  · rw [hroster, updateEntry, List.getElem?_map, hp, Option.map_some]
  · split
    · exact hf p
    · exact p.continues_self

/-- What an action does to the roster. -/
theorem Acted.rosterStep (h : Acted s now action result s') :
    RosterStep s now result s' := by
  cases h with
  | @join userId userName role admission _ hok =>
      obtain ⟨-, -, hs', -, halready⟩ := join_ok hok
      have hroster := roster_join hok
      have hmark : now ≤ s'.updatedAt := by
        rw [hs']
        exact Instant.le_later_right _ _
      cases hentry : s.participant? userId with
      | none =>
          rw [seat_of_none hentry] at hroster
          have habsent : admission.alreadyOnline = false :=
            halready.trans (isOnline_of_none hentry)
          exact .newcomer userId userName role admission rfl habsent hroster hmark
      | some entry =>
          rw [seat_of_some hentry] at hroster
          exact rosterStep_updateEntry (fun p => p.continues_touch p.cursor true now) hroster
  | depart hok =>
      obtain ⟨-, -, hs'⟩ := depart_ok hok
      have hroster := congrArg Session.roster hs'
      exact rosterStep_updateEntry (fun p => p.continues_touch p.cursor false now) hroster
  | close =>
      have hroster := s.roster_close now
      exact .same (by rw [hroster]) (rosterContinues_of_eq hroster)
  | edit hok =>
      obtain ⟨-, -, -, hs'⟩ := edit_ok hok
      have hroster := congrArg Session.roster hs'
      exact rosterStep_updateEntry (fun p => p.continues_touch p.cursor p.isOnline now) hroster
  | @moveCursor _ position _ _ hok =>
      obtain ⟨-, -, hs'⟩ := moveCursor_ok hok
      have hroster := congrArg Session.roster hs'
      exact rosterStep_updateEntry (fun p => p.continues_touch position p.isOnline now) hroster
  | requestHelp hok =>
      obtain ⟨-, -, hs'⟩ := requestHelp_ok hok
      have hroster := congrArg Session.roster hs'
      exact rosterStep_updateEntry (fun p => p.continues_touch p.cursor p.isOnline now) hroster
  | compact keepLast => exact .same rfl (rosterContinues_of_eq rfl)

/-- Only somebody who joins and was not online can make the roster longer. -/
theorem Acted.length_eq (h : Acted s now action result s')
    (hsame : ∀ admission, result = .joined admission → admission.alreadyOnline = true) :
    s'.roster.length = s.roster.length := by
  cases h.rosterStep with
  | same hlength _ => exact hlength
  | newcomer _ _ _ admission hresult halready _ _ =>
      rw [hsame admission hresult] at halready
      cases halready

/-- A roster in order: the first entry is that of the host, nobody else is host, and the colours are
given out in order of arrival. -/
structure InOrder (s : Session) : Prop where
  host : ∃ host, s.roster[0]? = some host ∧ host.userId = s.hostId
  entry : ∀ (i : Nat) (p : Participant), s.roster[i]? = some p →
    (p.role = .host ↔ i = 0) ∧ p.color = colorAt i

/-- A roster is in order at the start. -/
theorem inOrder_start (id hostId hostName assignmentId : String) (settings : SessionSettings)
    (now : Instant) : (start id hostId hostName assignmentId settings now).InOrder where
  host := ⟨_, rfl, rfl⟩
  entry i p hp := by
    cases i with
    | zero =>
        obtain rfl := Option.some.inj hp
        exact ⟨iff_of_true rfl rfl, rfl⟩
    | succ i => cases hp

/-- Nobody joins as host. -/
theorem onJoining_ne_host (role : Role) : role.onJoining ≠ .host := by
  cases role <;> exact nofun

/-- Every action keeps the roster in order. -/
theorem Acted.inOrder (h : Acted s now action result s') (hs : s.InOrder) : s'.InOrder := by
  obtain ⟨host, hfirst, hid⟩ := hs.host
  obtain ⟨host', hfirst', hcontinues⟩ := h.rosterStep.rosterContinues 0 host hfirst
  refine ⟨⟨host', hfirst', ?_⟩, fun i q hq => ?_⟩
  · rw [hcontinues.userId, hid, h.sameTerms.hostId]
  · cases h.rosterStep with
    | same hlength hroster =>
        obtain ⟨p, hp, hpq⟩ := hroster.exists_getElem? hlength hq
        rw [hpq.role, hpq.color]
        exact hs.entry i p hp
    | newcomer userId userName role admission _ _ hroster _ =>
        rw [hroster] at hq
        rcases Nat.lt_or_ge i s.roster.length with hlt | hge
        · rw [List.getElem?_append_left hlt] at hq
          exact hs.entry i q hq
        · -- Beyond the old roster there is only the newcomer, who comes after the host.
          rw [List.getElem?_append_right hge, List.getElem?_singleton] at hq
          split at hq
          · next hzero =>
            obtain rfl := Option.some.inj hq
            obtain ⟨hpos, -⟩ := List.getElem?_eq_some_iff.mp hfirst
            have hlast : i = s.roster.length := by omega
            have hne : i ≠ 0 := by omega
            exact ⟨iff_of_false (onJoining_ne_host role) hne, by rw [hlast]; rfl⟩
          · cases hq

end Session

end CoEdit
