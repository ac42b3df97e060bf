import CoEdit.Proofs.InPlace
import CoEdit.Proofs.Session.Outcome

/-!
# Sessions Changed in Place

What happens to a session, as programs that change it in place, field after field. They check before
they change anything, so each comes to the same as the operation that is all or nothing. Letting
somebody in looks the new entry up at the end, when it is too late to refuse; the look-up cannot
fail.

## Main definitions

* `Session.joinInPlace`, `Session.departInPlace`, `Session.editInPlace`,
  `Session.moveCursorInPlace`, `Session.requestHelpInPlace`.

## Main results

* `on_joinInPlace`, `on_departInPlace`, `on_editInPlace`, `on_moveCursorInPlace`,
  `on_requestHelpInPlace`: each program is all or nothing.
-/

namespace CoEdit.Session

open CoEdit.Time (Instant)
open InPlace

variable {s : Session} {userId userName : String} {role : Role} {now : Instant}

/-- Lets a user in. -/
def joinInPlace (userId userName : String) (role : Role) (now : Instant) :
    InPlace Error Session Admission := do
  check (·.requireStatus openStatuses)
  let s ← get
  let before := s.participant? userId
  let effective := before.elim role (·.role)
  let alreadyOnline := s.isOnline userId
  if !alreadyOnline && s.maxParticipants ≤ s.onlineCount && !effective.bypassesCapacity then
    throw (.sessionFull s.id s.maxParticipants)
  modify (·.seat userId userName role now)
  let seated ← get
  modify activate
  modify (·.touch now)
  let after ← get
  let participant ← check (·.requireEntry userId)
  pure { participant
         activated := seated.status = .waiting && after.status = .active
         rejoined := before.isSome
         alreadyOnline }

/-- Puts a user offline, and ends the session with the host or with the last one online. -/
def departInPlace (userId : String) (now : Instant) : InPlace Error Session Departure := do
  let entry ← check (·.requireEntry userId)
  modify (·.updateEntry userId fun p => { p with isOnline := false }.touch now)
  let absent ← get
  let ended ← match absent.reasonToEnd userId with
    | none => pure none
    | some reason => do
      let ended ← modifyGet (·.close now)
      pure (if ended then some reason else none)
  modify (·.touch now)
  pure ⟨{ entry with isOnline := false }.touch now, ended⟩

/-- Applies an edit. -/
def editInPlace (changeId authorId : String) (op : Operation) (now : Instant) :
    InPlace Error Session Change := do
  check (·.requireStatus [.active])
  if !(← get).isOnline authorId then throw (.notInSession authorId)
  let change : Change := ⟨changeId, authorId, now, op⟩
  modify fun s => { s with content := op.apply s.content }
  modify fun s => { s with history := s.history ++ [change] }
  modify (·.updateEntry authorId (·.touch now))
  modify (·.touch now)
  pure change

/-- Moves a participant's cursor. -/
def moveCursorInPlace (userId : String) (position : Nat) (now : Instant) :
    InPlace Error Session Participant := do
  match ((← get).participant? userId).filter (·.isOnline) with
  | none => throw (.notInSession userId)
  | some entry =>
    modify (·.updateEntry userId fun p => { p with cursor := position }.touch now)
    pure ({ entry with cursor := position }.touch now)

/-- Raises the flag by which a participant asks for a lecturer. -/
def requestHelpInPlace (userId : String) (now : Instant) : InPlace Error Session Participant := do
  check (·.requireStatus openStatuses)
  let entry ← check (·.requireEntry userId)
  modify (·.updateEntry userId (·.touch now))
  modify fun s => { s with lecturerAssistance := true }
  modify (·.touch now)
  pure (entry.touch now)

/-- Whoever has been seated is found on the roster, so the look-up after the change never
refuses. -/
theorem exists_requireEntry_seat (s : Session) (userId userName : String) (role : Role)
    (now : Instant) : ∃ entry,
    ((s.seat userId userName role now).activate.touch now).requireEntry userId = .ok entry := by
  have hroster : ((s.seat userId userName role now).activate.touch now).roster =
      (s.seat userId userName role now).roster := by
    simp only [touch, activate]
    split
    · rfl
    · rfl
  obtain ⟨entry, hentry⟩ : ∃ entry,
      (s.seat userId userName role now).participant? userId = some entry :=
    ⟨_, participant?_seat.trans (if_pos rfl)⟩
  exact ⟨entry, requireEntry_eq_ok.mpr ((participant?_congr hroster userId).trans hentry)⟩

theorem on_joinInPlace (s : Session) :
    (joinInPlace userId userName role now).on s = keep s (s.join userId userName role now) := by
  refine on_check_bind fun _ _ => ?_
  rw [on_bind_get]
  dsimp only
  split
  · rfl
  · obtain ⟨entry, hentry⟩ := exists_requireEntry_seat s userId userName role now
    simp only [on_bind_modify, on_bind_get]
    rw [on_bind, on_check, hentry]
    rfl

theorem on_departInPlace (s : Session) :
    (departInPlace userId now).on s = keep s (s.depart userId now) := by
  refine on_check_bind fun entry _ => ?_
  simp only [on_bind_modify, on_bind_get]
  cases hreason : (s.updateEntry userId fun p => { p with isOnline := false }.touch now).reasonToEnd
      userId with
  | none => rfl
  | some reason => rfl

theorem on_editInPlace {changeId authorId : String} {op : Operation} (s : Session) :
    (editInPlace changeId authorId op now).on s = keep s (s.edit changeId authorId op now) := by
  refine on_check_bind fun _ _ => ?_
  rw [on_bind_get]
  dsimp only
  split
  · rfl
  · rfl

theorem on_moveCursorInPlace {position : Nat} (s : Session) :
    (moveCursorInPlace userId position now).on s = keep s (s.moveCursor userId position now) := by
  rw [moveCursorInPlace, on_bind_get, moveCursor]
  cases hentry : (s.participant? userId).filter (·.isOnline) with
  | none => rfl
  | some entry => rfl

theorem on_requestHelpInPlace (s : Session) :
    (requestHelpInPlace userId now).on s = keep s (s.requestHelp userId now) :=
  on_check_bind fun _ _ => on_check_bind fun _ _ => rfl

end CoEdit.Session
