import CoEdit.Proofs.Engine.Joining

/-!
# What Working Together Comes To

Who may edit, who may point, and who may call for help. To edit a session one has to be in it, and
the session has to be active. To point it is enough to be in a session, ended or not. To call for
help one has to be on the roster of a session that has not ended, online or not. Everybody else is
told the first reason that applies, and the checks that a session makes for itself refuse nobody
whom the directory has let through.

## Main definitions

* `Engine.requestRefusal?`: why a request to a session is refused.
* `Engine.editRefusal?`, `Engine.pointRefusal?`, `Engine.helpRefusal?`: why an edit, a cursor, and a
  call for help are.
* `Session.TakesEdit`: what an edit means for the session.
* `Engine.TakesEdit`, `Engine.TakesCursor`, `Engine.TakesCall`: what the three mean for the engine.

## Main results

* `limitHistory_eq`: which changes are folded when the history is limited.
* `Sound.takesEdit`: the session after an edit.
* `authoring_outcome`: editing, pointing and calling for help, in every state, by everybody.
-/

namespace CoEdit

open CoEdit.Time (Instant)

namespace Session

variable {s s' : Session} {userId : String} {needed : List Status}

/-! ### The checks of a session -/

theorem requireStatus_of_mem (h : s.status ∈ needed) : s.requireStatus needed = .ok () :=
  if_pos h

theorem requireStatus_of_notMem (h : s.status ∉ needed) :
    s.requireStatus needed = .error (.sessionInactive s.id s.status needed) :=
  if_neg h

/-- A session that is not active takes no edits. -/
theorem edit_of_not_active (h : s.status ≠ .active) (changeId authorId : String) (op : Operation)
    (now : Instant) :
    s.edit changeId authorId op now = .error (.sessionInactive s.id s.status [.active]) := by
  rw [edit, requireStatus_of_notMem (mt List.mem_singleton.mp h)]
  rfl

/-- An active session takes every edit of those who are online. -/
theorem exists_edit {authorId : String} (hactive : s.status = .active)
    (hon : s.isOnline authorId = true) (changeId : String) (op : Operation) (now : Instant) :
    ∃ change s', s.edit changeId authorId op now = .ok (change, s') := by
  rw [edit, requireStatus_of_mem (List.mem_singleton.mpr hactive), hon]
  exact ⟨_, _, rfl⟩

/-- Whoever is online can point. -/
theorem exists_moveCursor (hon : s.isOnline userId = true) (position : Nat) (now : Instant) :
    ∃ entry s', s.moveCursor userId position now = .ok (entry, s') := by
  obtain ⟨entry, hentry, honline⟩ := isOnline_iff.mp hon
  rw [moveCursor, hentry, Option.filter_some, if_pos honline]
  exact ⟨_, _, rfl⟩

/-- Nobody calls for help in a session that has ended. -/
theorem requestHelp_of_ended (h : s.status = .ended) (userId : String) (now : Instant) :
    s.requestHelp userId now = .error (.sessionInactive s.id .ended openStatuses) := by
  rw [requestHelp, requireStatus_of_notMem (mt mem_openStatuses.mp (not_not.mpr h)), h]
  rfl

/-- Nor does anybody who is not on the roster. -/
theorem requestHelp_of_none (hopen : s.status ≠ .ended) (h : s.participant? userId = none)
    (now : Instant) :
    s.requestHelp userId now = .error (.participantNotFound s.id userId) := by
  rw [requestHelp, requireStatus_of_mem (mem_openStatuses.mpr hopen), requireEntry, h]
  rfl

/-- Everybody else does. -/
theorem exists_requestHelp {entry : Participant} (hopen : s.status ≠ .ended)
    (h : s.participant? userId = some entry) (now : Instant) :
    ∃ after s', s.requestHelp userId now = .ok (after, s') := by
  rw [requestHelp, requireStatus_of_mem (mem_openStatuses.mpr hopen), requireEntry_eq_ok.mpr h]
  exact ⟨_, _, rfl⟩

/-! ### The session afterwards -/

/-- The entry of one user is changed where it is on the roster, and all others stay as they are. -/
def ChangesEntry (s : Session) (userId : String) (f : Participant → Participant) (s' : Session) :
    Prop :=
  ∃ front entry back, s.participant? userId = some entry ∧
    s.roster = front ++ entry :: back ∧ s'.roster = front ++ f entry :: back

theorem DistinctEntries.changesEntry {entry : Participant} {f : Participant → Participant}
    (hd : s.DistinctEntries) (hentry : s.participant? userId = some entry)
    (hroster : s'.roster = (s.updateEntry userId f).roster) : s.ChangesEntry userId f s' := by
  obtain ⟨front, back, hfront, hupdate⟩ := hd.exists_split hentry
  exact ⟨front, entry, back, hentry, hfront, hroster.trans (hupdate f)⟩

/-- A session has taken a change. It keeps no more changes one by one than the limit allows, if
there is one. -/
structure TakesEdit (s : Session) (limit : Option Nat) (change : Change) (s' : Session) : Prop where
  content : s'.content = change.operation.apply s.content
  /-- The change comes after all others, and those that are not kept are folded into the base. If
  none are to be kept, the change itself is folded. -/
  layers : ∃ folded, s.history ++ [change] = folded ++ s'.history ∧
    s'.base = foldChanges s.base folded ∧ s'.compacted = s.compacted + folded.length
  kept : s'.history.length = limit.elim (s.history.length + 1) (min (s.history.length + 1))
  latest : limit ≠ some 0 → s'.history.getLast? = some change
  /-- The author shows a sign of life. -/
  author : s.ChangesEntry change.authorId
    (fun p => { p with lastActivity := p.lastActivity.later change.timestamp }) s'
  /-- There are no other changes. -/
  rest : s' = { s with
    content := s'.content, base := s'.base, history := s'.history, compacted := s'.compacted
    roster := s'.roster, updatedAt := s.updatedAt.later change.timestamp }

end Session

namespace Engine

/-- **Limiting the history** folds the first changes and keeps the last ones, as many as the limit
allows. -/
theorem limitHistory_eq (config : Config) (s : Session) :
    ∃ folded kept, s.history = folded ++ kept ∧
      kept.length = config.historyLimit.elim s.history.length (min s.history.length) ∧
      limitHistory config s = { s with
        base := foldChanges s.base folded, history := kept
        compacted := s.compacted + folded.length } := by
  cases hlimit : config.historyLimit with
  | none =>
      refine ⟨[], s.history, rfl, rfl, ?_⟩
      rw [limitHistory, hlimit]
      rfl
  | some limit =>
      have hcut : (s.history.take (s.history.length - limit)).length =
          s.history.length - limit := by
        rw [List.length_take]
        omega
      refine ⟨s.history.take (s.history.length - limit), s.history.drop (s.history.length - limit),
        (List.take_append_drop _ _).symm, ?_, ?_⟩
      · rw [List.length_drop, Option.elim_some]
        omega
      · rw [limitHistory, hlimit, hcut]
        rfl

end Engine

/-- **The session after an edit.** -/
theorem Session.Sound.takesEdit {s s' : Session} {changeId authorId : String} {op : Operation}
    {now : Instant} {change : Change} (h : s.Sound) (config : Config)
    (hedit : s.edit changeId authorId op now = .ok (change, s')) :
    s.TakesEdit config.historyLimit change (Engine.limitHistory config s') := by
  obtain ⟨-, hon, hchange, hs'⟩ := edit_ok hedit
  obtain ⟨entry, hentry, -⟩ := isOnline_iff.mp hon
  obtain ⟨folded, kept, hhistory, hkept, hlimited⟩ := Engine.limitHistory_eq config s'
  have hall : s'.history = s.history ++ [change] := by rw [hs']
  have hlength : s'.history.length = s.history.length + 1 := by
    rw [hall, List.length_append, List.length_singleton]
  have hroster : s'.roster = (s.updateEntry authorId (·.touch now)).roster := by rw [hs']
  have hauthor : change.authorId = authorId := by rw [hchange]
  have htime : change.timestamp = now := by rw [hchange]
  have hop : change.operation = op := by rw [hchange]
  rw [hlength] at hkept
  rw [hlimited]
  refine ⟨?_, ⟨folded, hall.symm.trans hhistory, ?_, ?_⟩, hkept, fun hlimit => ?_, ?_, ?_⟩
  · rw [hop, hs']
  · rw [hs']
    rfl
  · rw [hs']
    rfl
  · -- Something is kept, so the last change is among what is kept.
    have hsome : kept ≠ [] := by
      rw [ne_eq, ← List.length_eq_zero_iff, hkept]
      cases hvalue : config.historyLimit with
      | none => exact Nat.succ_ne_zero _
      | some limit =>
          have hne : limit ≠ 0 := fun hzero => hlimit (hvalue.trans (congrArg some hzero))
          rw [Option.elim_some]
          omega
    have hlast : (folded ++ kept).getLast? = some change := by
      rw [← hhistory, hall, List.getLast?_concat]
    rwa [List.getLast?_append_of_ne_nil _ hsome] at hlast
  · rw [hauthor, htime]
    exact h.distinct.changesEntry hentry hroster
  · rw [htime, hs']
    rfl

namespace Engine

variable {config : Config} {e e' : Engine} {sessionId userId : String} {now : Clock}
  {s s' : Session} {error : Error} {field : Field} {objects : Session → Option Error} {α : Type}
  {act : Session → Except Error α}

/-! ### Requests to a session -/

/-- Why a request to a session is refused: an id is blank, or there is no such session, or the
session objects. -/
def requestRefusal? (e : Engine) (sessionId userId : String) (field : Field)
    (objects : Session → Option Error) : Option Error :=
  if Text.isBlank sessionId then some (.missingField .sessionId)
  else if Text.isBlank userId then some (.missingField field)
  else match e.sessions.get? sessionId with
  | none => some (.sessionNotFound sessionId)
  | some s => objects s

/-- A request that is refused is answered with the reason. -/
theorem request_of_refusal
    (hact : ∀ s, e.sessions.get? sessionId = some s → objects s = some error →
      act s = .error error)
    (h : e.requestRefusal? sessionId userId field objects = some error) :
    (do
      require sessionId .sessionId
      require userId field
      let s ← e.requireSession sessionId
      act s) = .error error := by
  rw [requestRefusal?] at h
  split at h
  · next hsession =>
    obtain rfl := Option.some.inj h
    rw [require_of_blank hsession]
    rfl
  · next hsession =>
    rw [require_of_not_blank (Bool.eq_false_iff.mpr hsession)]
    split at h
    · next huser =>
      obtain rfl := Option.some.inj h
      rw [require_of_blank huser]
      rfl
    · next huser =>
      rw [require_of_not_blank (Bool.eq_false_iff.mpr huser)]
      split at h
      · next hnone =>
        obtain rfl := Option.some.inj h
        rw [requireSession, hnone]
        rfl
      · next s hs =>
        rw [requireSession, hs]
        exact hact s hs h

/-- A request that is not refused is up to the session. -/
theorem exists_request (h : e.requestRefusal? sessionId userId field objects = none) :
    ∃ s, e.sessions.get? sessionId = some s ∧ objects s = none ∧
      ∀ {α : Type} (act : Session → Except Error α),
        (do
          require sessionId .sessionId
          require userId field
          let s ← e.requireSession sessionId
          act s) = act s := by
  rw [requestRefusal?] at h
  split at h
  · cases h
  · next hsession =>
    split at h
    · cases h
    · next huser =>
      split at h
      · cases h
      · next s hs =>
        refine ⟨s, hs, h, fun act => ?_⟩
        rw [require_of_not_blank (Bool.eq_false_iff.mpr hsession),
          require_of_not_blank (Bool.eq_false_iff.mpr huser), requireSession, hs]
        rfl

/-- A session that is stored again, and of which something is told, is in its dossier as it is
now. -/
theorem Balanced.dossier_stored (h : e.Balanced) (hs : e.sessions.get? sessionId = some s)
    (hterms : Session.SameTerms s s') (facts : List Fact)
    (notices : List (Notice × Option String)) (stamps : Stamps) :
    ((e.putSession s').tell sessionId facts notices stamps).dossier sessionId =
      (e.dossier sessionId).advance s' facts (notices.map (·.1)) stamps.recorded :=
  (dossier_store_tell (hterms.id.trans (h.id_eq hs)) rfl facts notices).trans (if_pos rfl)

/-! ### Editing -/

/-- Why an edit is refused, if it is: the first of the reasons that applies. -/
def editRefusal? (e : Engine) (sessionId authorId : String) : Option Error :=
  e.requestRefusal? sessionId authorId .authorId fun s =>
    if e.whereabouts.get? authorId ≠ some sessionId then some (.notInSession authorId)
    else if s.status ≠ .active then some (.sessionInactive sessionId s.status [.active])
    else none

/-- What an edit that is taken comes to. `s` is the session before and `s'` the session
afterwards. -/
structure TakesEdit (e : Engine) (sessionId : String) (change : Change) (s s' : Session)
    (e' : Engine) : Prop where
  before : e.sessions.get? sessionId = some s
  after : e'.sessions.get? sessionId = some s'
  session : s.TakesEdit e.config.historyLimit change s'
  /-- The change is recorded and announced, with the document as it is now. -/
  told : e'.dossier sessionId = (e.dossier sessionId).advance s' [.changed change]
    [.codeChange change s'.content] fun _ => change.timestamp
  elsewhere : StaysWithin [sessionId] change.authorId e e'

/-- Whoever has a reason not to edit is told this reason. -/
theorem Balanced.change_of_refusal (h : e.Balanced) (op : Operation) (now : Clock)
    (hrefusal : e.editRefusal? sessionId userId = some error) :
    e.change sessionId userId op now = .error error := by
  rw [change_eq]
  refine request_of_refusal (fun s hs hobjects => ?_) hrefusal
  obtain rfl := h.id_eq hs
  split at hobjects
  · next hwhere =>
    obtain rfl := Option.some.inj hobjects
    exact if_neg hwhere
  · next hwhere =>
    rw [if_pos (not_not.mp hwhere)]
    split at hobjects
    · next hstatus =>
      obtain rfl := Option.some.inj hobjects
      rw [Session.edit_of_not_active hstatus]
      rfl
    · cases hobjects

/-- Everybody else edits: the session asks for no more than that they are online in it, as all those
are of whom the directory says that they are in it. -/
theorem Balanced.exists_change (h : e.Balanced) (op : Operation) (now : Clock)
    (hrefusal : e.editRefusal? sessionId userId = none) :
    ∃ change e', e.change sessionId userId op now = .ok (change, e') := by
  obtain ⟨s, hs, hobjects, hrequest⟩ := exists_request hrefusal
  split at hobjects
  · cases hobjects
  · next hwhere =>
    replace hwhere := not_not.mp hwhere
    split at hobjects
    · cases hobjects
    · next hstatus =>
      have hon : s.isOnline userId = true := (h.isOnline_iff hs).mpr hwhere
      obtain ⟨change, s', hedit⟩ :=
        Session.exists_edit (not_not.mp hstatus) hon e.freshChangeId op (now.acting sessionId)
      rw [change_eq, hrequest, if_pos hwhere, hedit]
      exact ⟨_, _, rfl⟩

/-- What comes of an edit that succeeds. -/
theorem Reachable.takesEdit {authorId : String} {op : Operation} {change : Change}
    (he : e.Reachable config) (hok : e.change sessionId authorId op now = .ok (change, e')) :
    change = ⟨e.freshChangeId, authorId, now.acting sessionId, op⟩ ∧
      ∃ s s', e.TakesEdit sessionId change s s' e' := by
  have hbalanced := he.coherent.balanced
  have hstays := (Outcome.change hok).staysWithin hbalanced.id_eq rfl
  obtain ⟨s, s', hs, -, hedit, he'⟩ := change_ok hok
  obtain ⟨-, -, hchange, -⟩ := Session.edit_ok hedit
  have hterms := (Session.sameTerms_edit hedit).trans (sameTerms_limitHistory e.config s')
  have htold : e'.dossier sessionId = (e.dossier sessionId).advance (limitHistory e.config s')
      [.changed change] [.codeChange change (limitHistory e.config s').content]
      fun _ => now.acting sessionId := by
    rw [he']
    exact hbalanced.dossier_stored hs hterms _ _ _
  have htime : change.timestamp = now.acting sessionId := by rw [hchange]
  have hauthor : change.authorId = authorId := by rw [hchange]
  refine ⟨hchange, s, limitHistory e.config s', hs, congrArg Dossier.session htold,
    (he.sound hs).takesEdit e.config hedit, ?_, ?_⟩
  · rw [htime]
    exact htold
  · rw [hauthor]
    exact hstays

/-! ### Pointing -/

/-- Why a cursor is refused, if it is: the first of the reasons that applies. -/
def pointRefusal? (e : Engine) (userId : String) : Option Error :=
  if Text.isBlank userId then some (.missingField .userId)
  else if e.whereabouts.get? userId = none then some (.notInSession userId)
  else none

/-- What a cursor that is taken comes to. `s` is the session that the user is in, and `s'` is that
session afterwards. Pointing is no activity of the session. -/
structure TakesCursor (e : Engine) (userId : String) (position : Nat) (now : Clock)
    (sessionId : String) (s s' : Session) (e' : Engine) : Prop where
  located : e.Located userId sessionId
  before : e.sessions.get? sessionId = some s
  after : e'.sessions.get? sessionId = some s'
  entry : s.ChangesEntry userId
    (fun p => { p with
      cursor := position, lastActivity := p.lastActivity.later (now.acting sessionId) }) s'
  rest : s' = { s with roster := s'.roster }
  /-- The cursor is announced and not recorded. -/
  told : ∃ entry, s.participant? userId = some entry ∧
    e'.dossier sessionId = (e.dossier sessionId).advance s' []
      [.cursorUpdate userId entry.userName position entry.color] (now.recording sessionId)
  elsewhere : StaysWithin [sessionId] userId e e'

/-- Whoever has a reason not to point is told this reason. -/
theorem cursor_of_refusal (position : Nat) (now : Clock)
    (hrefusal : e.pointRefusal? userId = some error) :
    e.cursor userId position now = .error error := by
  rw [pointRefusal?] at hrefusal
  rw [cursor_eq]
  split at hrefusal
  · next huser =>
    obtain rfl := Option.some.inj hrefusal
    rw [require_of_blank huser]
    rfl
  · next huser =>
    rw [require_of_not_blank (Bool.eq_false_iff.mpr huser)]
    split at hrefusal
    · next hnowhere =>
      obtain rfl := Option.some.inj hrefusal
      rw [hnowhere]
      rfl
    · cases hrefusal

/-- Everybody else points. Nobody is in a session that is not there, and everybody is online in the
session they are in, also once it has ended. -/
theorem Balanced.exists_cursor (h : e.Balanced) (position : Nat) (now : Clock)
    (hrefusal : e.pointRefusal? userId = none) :
    ∃ e', e.cursor userId position now = .ok ((), e') := by
  rw [pointRefusal?] at hrefusal
  split at hrefusal
  · cases hrefusal
  · next huser =>
    split at hrefusal
    · cases hrefusal
    · next hsomewhere =>
      obtain ⟨sessionId, hlocated⟩ := Option.ne_none_iff_exists'.mp hsomewhere
      obtain ⟨s, hs, hon⟩ := (h.present_iff userId sessionId).mpr hlocated
      obtain ⟨entry, s', hmove⟩ :=
        Session.exists_moveCursor hon position (now.acting sessionId)
      rw [cursor_eq, require_of_not_blank (Bool.eq_false_iff.mpr huser), hlocated]
      dsimp only [bind, Except.bind]
      rw [requireSession_eq_ok.mpr hs]
      dsimp only
      rw [hmove]
      exact ⟨_, rfl⟩

/-- What comes of a cursor that is taken. -/
theorem Reachable.takesCursor {position : Nat} {u : Unit} (he : e.Reachable config)
    (hok : e.cursor userId position now = .ok (u, e')) :
    ∃ sessionId s s', e.TakesCursor userId position now sessionId s s' e' := by
  have hbalanced := he.coherent.balanced
  have hstays := (Outcome.cursor hok).staysWithin hbalanced.id_eq rfl
  obtain ⟨sessionId, s, s', entry, hlocated, hs, hmove, he'⟩ := cursor_ok hok
  obtain ⟨-, ⟨before, hbefore, rfl⟩, hs'⟩ := Session.moveCursor_ok hmove
  have htold : e'.dossier sessionId = (e.dossier sessionId).advance s' []
      [.cursorUpdate userId before.userName position before.color]
      (now.recording sessionId) := by
    rw [he']
    exact hbalanced.dossier_stored hs (Session.sameTerms_moveCursor hmove) _ _ _
  have htarget : e.target? (.cursor userId position) = some sessionId := hlocated
  rw [htarget] at hstays
  refine ⟨sessionId, s, s', hlocated, hs, congrArg Dossier.session htold, ?_, ?_,
    ⟨before, hbefore, htold⟩, hstays⟩
  · exact (he.sound hs).distinct.changesEntry hbefore (congrArg Session.roster hs')
  · rw [hs']
    rfl

/-! ### Calling for help -/

/-- Why a call for help is refused, if it is: the first of the reasons that applies. -/
def helpRefusal? (e : Engine) (sessionId userId : String) : Option Error :=
  e.requestRefusal? sessionId userId .userId fun s =>
    if s.status = .ended then some (.sessionInactive sessionId .ended [.waiting, .active])
    else if s.participant? userId = none then some (.participantNotFound sessionId userId)
    else none

/-- What a call for help that is taken comes to. `s` is the session before and `s'` the session
afterwards. -/
structure TakesCall (e : Engine) (sessionId userId : String) (message : Option String)
    (now : Clock) (s s' : Session) (e' : Engine) : Prop where
  before : e.sessions.get? sessionId = some s
  after : e'.sessions.get? sessionId = some s'
  entry : s.ChangesEntry userId
    (fun p => { p with lastActivity := p.lastActivity.later (now.acting sessionId) }) s'
  /-- The flag is up. -/
  rest : s' = { s with
    roster := s'.roster, lecturerAssistance := true
    updatedAt := s.updatedAt.later (now.acting sessionId) }
  /-- The call is recorded and announced. -/
  told : ∃ entry, s.participant? userId = some entry ∧
    e'.dossier sessionId = (e.dossier sessionId).advance s' [.helpRequested userId message]
      [.helpRequested userId entry.userName message] (now.recording sessionId)
  elsewhere : StaysWithin [sessionId] userId e e'

/-- Whoever has a reason not to call for help is told this reason. -/
theorem Balanced.assist_of_refusal (h : e.Balanced) (message : Option String) (now : Clock)
    (hrefusal : e.helpRefusal? sessionId userId = some error) :
    e.assist sessionId userId message now = .error error := by
  rw [assist_eq]
  refine request_of_refusal (fun s hs hobjects => ?_) hrefusal
  obtain rfl := h.id_eq hs
  split at hobjects
  · next hended =>
    obtain rfl := Option.some.inj hobjects
    rw [Session.requestHelp_of_ended hended]
    rfl
  · next hopen =>
    split at hobjects
    · next hnone =>
      obtain rfl := Option.some.inj hobjects
      rw [Session.requestHelp_of_none hopen hnone]
      rfl
    · cases hobjects

/-- Everybody else calls, online or not. -/
theorem exists_assist (message : Option String) (now : Clock)
    (hrefusal : e.helpRefusal? sessionId userId = none) :
    ∃ e', e.assist sessionId userId message now = .ok ((), e') := by
  obtain ⟨s, hs, hobjects, hrequest⟩ := exists_request hrefusal
  split at hobjects
  · cases hobjects
  · next hopen =>
    split at hobjects
    · cases hobjects
    · next hsome =>
      obtain ⟨entry, hentry⟩ := Option.ne_none_iff_exists'.mp hsome
      obtain ⟨after, s', hhelp⟩ := Session.exists_requestHelp hopen hentry (now.acting sessionId)
      rw [assist_eq, hrequest, hhelp]
      exact ⟨_, rfl⟩

/-- What comes of a call for help that is taken. -/
theorem Reachable.takesCall {message : Option String} {u : Unit} (he : e.Reachable config)
    (hok : e.assist sessionId userId message now = .ok (u, e')) :
    ∃ s s', e.TakesCall sessionId userId message now s s' e' := by
  have hbalanced := he.coherent.balanced
  have hstays := (Outcome.assist hok).staysWithin hbalanced.id_eq rfl
  obtain ⟨s, s', entry, hs, hhelp, he'⟩ := assist_ok hok
  obtain ⟨-, ⟨before, hbefore, rfl⟩, hs'⟩ := Session.requestHelp_ok hhelp
  have htold : e'.dossier sessionId = (e.dossier sessionId).advance s'
      [.helpRequested userId message] [.helpRequested userId before.userName message]
      (now.recording sessionId) := by
    rw [he']
    exact hbalanced.dossier_stored hs (Session.sameTerms_requestHelp hhelp) _ _ _
  refine ⟨s, s', hs, congrArg Dossier.session htold, ?_, ?_, ⟨before, hbefore, htold⟩, hstays⟩
  · refine (he.sound hs).distinct.changesEntry hbefore ?_
    rw [hs']
    rfl
  · rw [hs']
    rfl

/-! ### All three -/

/-- **What working together comes to, in every state and for everybody.** An edit, a cursor and a
call for help are refused for the first reason that applies, and taken if none does. -/
theorem authoring_outcome (he : e.Reachable config) (sessionId userId : String) (op : Operation)
    (position : Nat) (message : Option String) (now : Clock) :
    (match e.editRefusal? sessionId userId with
    | some error => e.change sessionId userId op now = .error error
    | none => ∃ change s s' e', e.change sessionId userId op now = .ok (change, e') ∧
        change = ⟨e.freshChangeId, userId, now.acting sessionId, op⟩ ∧
        e.TakesEdit sessionId change s s' e') ∧
    (match e.pointRefusal? userId with
    | some error => e.cursor userId position now = .error error
    | none => ∃ key s s' e', e.cursor userId position now = .ok ((), e') ∧
        e.TakesCursor userId position now key s s' e') ∧
    (match e.helpRefusal? sessionId userId with
    | some error => e.assist sessionId userId message now = .error error
    | none => ∃ s s' e', e.assist sessionId userId message now = .ok ((), e') ∧
        e.TakesCall sessionId userId message now s s' e') := by
  have hbalanced := he.coherent.balanced
  refine ⟨?_, ?_, ?_⟩
  · cases hrefusal : e.editRefusal? sessionId userId with
    | some error => exact hbalanced.change_of_refusal op now hrefusal
    | none =>
        obtain ⟨change, e', hok⟩ := hbalanced.exists_change op now hrefusal
        obtain ⟨hchange, s, s', htakes⟩ := he.takesEdit hok
        exact ⟨change, s, s', e', hok, hchange, htakes⟩
  · cases hrefusal : e.pointRefusal? userId with
    | some error => exact cursor_of_refusal position now hrefusal
    | none =>
        obtain ⟨e', hok⟩ := hbalanced.exists_cursor position now hrefusal
        obtain ⟨key, s, s', htakes⟩ := he.takesCursor hok
        exact ⟨key, s, s', e', hok, htakes⟩
  · cases hrefusal : e.helpRefusal? sessionId userId with
    | some error => exact hbalanced.assist_of_refusal message now hrefusal
    | none =>
        obtain ⟨e', hok⟩ := exists_assist message now hrefusal
        obtain ⟨s, s', htakes⟩ := he.takesCall hok
        exact ⟨s, s', e', hok, htakes⟩

/-- Ada, Bob and Cy were together in a session. Cy has left, and then Ada, its host, so that it has
ended; Bob is still in it. -/
def hostGone : History :=
  .still [(⟨0, 0⟩, .create "ada" "Ada" "primes" {}),
    (⟨1, 0⟩, .join "$s0" "bob" "Bob" .participant), (⟨2, 0⟩, .join "$s0" "cy" "Cy" .participant),
    (⟨3, 0⟩, .leave "cy"), (⟨4, 0⟩, .leave "ada")]

/-- As long as Ada is there, Bob may edit, and Cy may not, but may call for help. Then Bob may not
edit or call for help any more, but may still point. -/
theorem authoring_outcome_hostGone :
    let e := (Engine.new .default).after (hostGone.take 4)
    let ended := (Engine.new .default).after hostGone
    let op := Operation.insert 0 "two, "
    e.Reachable .default ∧ ended.Reachable .default ∧
      (∃ change s s' e', e.change "$s0" "bob" op (.still ⟨5, 0⟩) = .ok (change, e') ∧
        e.TakesEdit "$s0" change s s' e') ∧
      e.change "$s0" "cy" op (.still ⟨5, 0⟩) = .error (.notInSession "cy") ∧
      e.cursor "cy" 7 (.still ⟨5, 0⟩) = .error (.notInSession "cy") ∧
      (∃ s s' e', e.assist "$s0" "cy" none (.still ⟨5, 0⟩) = .ok ((), e') ∧
        e.TakesCall "$s0" "cy" none (.still ⟨5, 0⟩) s s' e') ∧
      ended.change "$s0" "bob" op (.still ⟨5, 0⟩) =
        .error (.sessionInactive "$s0" .ended [.active]) ∧
      (∃ key s s' e', ended.cursor "bob" 7 (.still ⟨5, 0⟩) = .ok ((), e') ∧
        ended.TakesCursor "bob" 7 (.still ⟨5, 0⟩) key s s' e') ∧
      ended.assist "$s0" "bob" none (.still ⟨5, 0⟩) =
        .error (.sessionInactive "$s0" .ended [.waiting, .active]) := by
  intro e ended op
  have he : e.Reachable .default := Reachable.new.after _
  have hended : ended.Reachable .default := Reachable.new.after _
  have hbobEdits : e.editRefusal? "$s0" "bob" = none := by decide +kernel
  have hcyEdits : e.editRefusal? "$s0" "cy" = some (.notInSession "cy") := by decide +kernel
  have hcyPoints : e.pointRefusal? "cy" = some (.notInSession "cy") := by decide +kernel
  have hcyCalls : e.helpRefusal? "$s0" "cy" = none := by decide +kernel
  have hedits : ended.editRefusal? "$s0" "bob" =
      some (.sessionInactive "$s0" .ended [.active]) := by decide +kernel
  have hpoints : ended.pointRefusal? "bob" = none := by decide +kernel
  have hcalls : ended.helpRefusal? "$s0" "bob" =
      some (.sessionInactive "$s0" .ended [.waiting, .active]) := by decide +kernel
  obtain ⟨hbob, -, -⟩ := authoring_outcome he "$s0" "bob" op 7 none (.still ⟨5, 0⟩)
  obtain ⟨hcyEdit, hcyPoint, hcyCall⟩ := authoring_outcome he "$s0" "cy" op 7 none (.still ⟨5, 0⟩)
  obtain ⟨hedit, hpoint, hcall⟩ := authoring_outcome hended "$s0" "bob" op 7 none (.still ⟨5, 0⟩)
  rw [hbobEdits] at hbob
  rw [hcyEdits] at hcyEdit
  rw [hcyPoints] at hcyPoint
  rw [hcyCalls] at hcyCall
  rw [hedits] at hedit
  rw [hpoints] at hpoint
  rw [hcalls] at hcall
  obtain ⟨change, s, s', after, hok, -, htakes⟩ := hbob
  exact ⟨he, hended, ⟨change, s, s', after, hok, htakes⟩, hcyEdit, hcyPoint, hcyCall, hedit, hpoint,
    hcall⟩

end Engine

end CoEdit
