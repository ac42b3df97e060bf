import CoEdit.Proofs.Session.Course

/-!
# The Life Cycle of a Session

A session waits, is active, and ends, in this order and for good. It waits exactly as long as the
host has been alone, and it is open exactly as long as the host is there. So it never ends because
nobody is left, and it is given up only because it has waited too long.

## Main definitions

* `Status.Leads`: how a status may change.
* `Session.Staged`: what the status tells about the roster and the changes.

## Main results

* `Acted.leads`, `Acted.staged`: one action.
* `life_cycle`: whole courses.
-/

namespace CoEdit

open CoEdit.Time (Instant)

/-- How a status may change: it stays, a waiting session becomes active, and an open one ends. -/
inductive Status.Leads : Status → Status → Prop
  | stay (status : Status) : Leads status status
  | activate : Leads .waiting .active
  | giveUp : Leads .waiting .ended
  | finish : Leads .active .ended

/-- Whatever the status, a session can end, or have ended. -/
theorem Status.leads_ended (status : Status) : status.Leads .ended := by
  cases status with
  | waiting => exact .giveUp
  | active => exact .finish
  | ended => exact .stay .ended

/-- Nothing leads back to waiting. -/
theorem Status.Leads.eq_waiting {status : Status} (h : status.Leads .waiting) :
    status = .waiting := by
  cases h
  rfl

/-- Nothing leads out of the end. -/
theorem Status.Leads.eq_ended {status : Status} (h : Status.ended.Leads status) :
    status = .ended := by
  cases h
  rfl

namespace Session

variable {s s' : Session} {now : Instant} {action : Action} {result : Result}

/-! ### Status -/

/-- **Every action takes a session on in its life cycle, or leaves it where it is.** -/
theorem Acted.leads (h : Acted s now action result s') : s.status.Leads s'.status := by
  cases h with
  | @join userId userName role _ _ hok =>
      obtain ⟨-, -, hs', -, -⟩ := join_ok hok
      have hsame : (s.seat userId userName role now).status = s.status := by rw [seat_eq]
      rw [hs']
      dsimp only
      rw [statusSeated, hsame]
      split
      · next hcompany =>
        rw [hcompany.1]
        exact .activate
      · exact .stay _
  | depart hok =>
      obtain ⟨-, -, hs'⟩ := depart_ok hok
      rw [hs']
      dsimp only
      split
      · exact .stay _
      · exact s.status.leads_ended
  | close =>
      rw [status_close]
      exact s.status.leads_ended
  | edit hok =>
      obtain ⟨-, -, -, rfl⟩ := edit_ok hok
      exact .stay _
  | moveCursor hok =>
      obtain ⟨-, -, rfl⟩ := moveCursor_ok hok
      exact .stay _
  | requestHelp hok =>
      obtain ⟨-, -, rfl⟩ := requestHelp_ok hok
      exact .stay _
  | compact keepLast => exact .stay _

/-- Only the company of somebody else makes a session active. -/
theorem Acted.company (h : Acted s now action result s') (hs : s.status = .waiting)
    (hs' : s'.status = .active) : 1 < s'.onlineCount := by
  cases h with
  | @join userId userName role _ _ hok =>
      obtain ⟨-, -, hjoined, -, -⟩ := join_ok hok
      have hstatus : s'.status = (s.seat userId userName role now).statusSeated := by rw [hjoined]
      have hsame : (s.seat userId userName role now).status = .waiting := by rw [seat_eq, hs]
      rw [hstatus, statusSeated] at hs'
      split at hs'
      · next hcompany =>
        rw [onlineCount, roster_join hok]
        exact hcompany.2
      · rw [hsame] at hs'
        cases hs'
  | depart hok =>
      obtain ⟨-, -, hdeparted⟩ := depart_ok hok
      rw [hdeparted] at hs'
      dsimp only at hs'
      split at hs'
      · rw [hs] at hs'
        cases hs'
      · cases hs'
  | close =>
      rw [status_close] at hs'
      cases hs'
  | edit hok =>
      rw [(edit_ok hok).1] at hs
      cases hs
  | moveCursor hok =>
      obtain ⟨-, -, rfl⟩ := moveCursor_ok hok
      cases hs.symm.trans hs'
  | requestHelp hok =>
      obtain ⟨-, -, rfl⟩ := requestHelp_ok hok
      cases hs.symm.trans hs'
  | compact keepLast => cases hs.symm.trans hs'

/-! ### What the status tells -/

/-- What the status of a session tells: a session that waits has its host alone on the roster and
has taken no change, and an active one has two people on the roster at least. -/
structure Staged (changes : List Change) (s : Session) : Prop where
  sound : s.Sound
  inOrder : s.InOrder
  waiting : s.status = .waiting → s.roster.length = 1 ∧ changes = []
  active : s.status = .active → 2 ≤ s.roster.length

theorem staged_start (id hostId hostName assignmentId : String) (settings : SessionSettings)
    (now : Instant) : Staged [] (start id hostId hostName assignmentId settings now) where
  sound := sound_start
  inOrder := inOrder_start id hostId hostName assignmentId settings now
  waiting _ := ⟨rfl, rfl⟩
  active h := by cases h

/-- Nobody edits a session that waits, and whoever joins it and leaves it waiting was online. -/
theorem Acted.of_waiting (h : Acted s now action result s') (hs : s.Sound)
    (hs' : s'.status = .waiting) : result.change? = none ∧
      ∀ admission, result = .joined admission → admission.alreadyOnline = true := by
  cases h with
  | @join _ _ _ admission _ hok =>
      refine ⟨rfl, fun other hother => ?_⟩
      obtain rfl := Result.joined.inj hother
      rw [hs.status_join hok] at hs'
      split at hs'
      · next halready => exact halready
      · cases hs'
  | edit hok =>
      have hleads := (Acted.edit hok).leads
      rw [hs'] at hleads
      cases hleads.eq_waiting.symm.trans (edit_ok hok).1
  | depart | close | moveCursor | requestHelp | compact =>
      refine ⟨rfl, fun admission hjoined => ?_⟩
      cases hjoined

/-- **Every action keeps true what the status tells.** -/
theorem Acted.staged {changes : List Change} (h : Acted s now action result s')
    (hs : Staged changes s) : Staged (changes ++ result.change?.toList) s' where
  sound := h.sound hs.sound
  inOrder := h.inOrder hs.inOrder
  waiting hwaiting := by
    have hleads := h.leads
    rw [hwaiting] at hleads
    obtain ⟨hlength, hchanges⟩ := hs.waiting hleads.eq_waiting
    obtain ⟨hnone, halready⟩ := h.of_waiting hs.sound hwaiting
    exact ⟨(h.length_eq halready).trans hlength, by rw [hchanges, hnone]; rfl⟩
  active hactive := by
    have hleads := h.leads
    rw [hactive] at hleads
    cases hbefore : s.status with
    | waiting =>
        have hcompany := h.company hbefore hactive
        have hle : s'.onlineCount ≤ s'.roster.length := List.countP_le_length
        omega
    | active => exact le_trans (hs.active hbefore) h.rosterStep.rosterContinues.length_le
    | ended =>
        rw [hbefore] at hleads
        cases hleads

theorem staged_after (id hostId hostName assignmentId : String) (settings : SessionSettings)
    (created : Instant) (course : Course) :
    Staged ((start id hostId hostName assignmentId settings created).changesIn course)
      ((start id hostId hostName assignmentId settings created).after course) :=
  after_invariant (staged_start id hostId hostName assignmentId settings created) Acted.staged
    course

/-- A session that waits has nobody but its host on the roster. -/
theorem Staged.roster_eq {changes : List Change} (h : Staged changes s)
    (hs : s.status = .waiting) :
    ∃ host, s.roster = [host] ∧ host.userId = s.hostId ∧ host.role = .host := by
  obtain ⟨hlength, -⟩ := h.waiting hs
  obtain ⟨host, hroster⟩ := List.length_eq_one_iff.mp hlength
  obtain ⟨first, hfirst, hid⟩ := h.inOrder.host
  obtain rfl : host = first := by
    rw [hroster] at hfirst
    exact Option.some.inj hfirst
  exact ⟨host, hroster, hid, ((h.inOrder.entry 0 host hfirst).1).mpr rfl⟩

/-- Being idle is waiting for too long: as long as a session waits, its host is online. -/
theorem Sound.isIdle_iff (h : s.Sound) (now : Instant) (timeout : Int) :
    s.isIdle now timeout = true ↔ s.status = .waiting ∧ timeout ≤ now.since s.updatedAt := by
  rw [isIdle, Bool.and_eq_true, Bool.or_eq_true, decide_eq_true_iff, decide_eq_true_iff,
    decide_eq_true_iff]
  refine and_congr_right fun hwaiting => or_iff_right fun hnobody => ?_
  have hopen : s.status ≠ .ended := by
    rw [hwaiting]
    exact nofun
  have hpos := onlineCount_pos (h.host_online hopen)
  omega

/-- An action takes a session on or leaves it where it is, also if it is refused. -/
theorem leads_step (s : Session) (now : Instant) (action : Action) :
    s.status.Leads (s.step now action).2.status := by
  rcases s.step_cases now action with ⟨error, hstep⟩ | ⟨result, s', hok, hstep⟩
  · rw [hstep]
    exact .stay s.status
  · rw [hstep]
    exact hok.leads

/-- A departure ends a session exactly if it is that of the host, and for this reason. -/
theorem Sound.ended_of_step {userId : String} {departure : Departure} (h : s.Sound)
    (hdeparted : (s.step now (.depart userId)).1 = .ok (.departed departure)) :
    departure.ended =
      if s.status ≠ .ended ∧ userId = s.hostId then some .hostLeft else none := by
  rcases s.step_cases now (.depart userId) with ⟨error, hstep⟩ | ⟨result, s', hok, hstep⟩
  · rw [hstep] at hdeparted
    cases hdeparted
  · rw [hstep] at hdeparted
    obtain rfl := Except.ok.inj hdeparted
    cases hok with
    | depart hok => exact h.ended_eq hok

/-- The host, who has an entry, can depart. -/
theorem Staged.exists_departure {changes : List Change} (h : Staged changes s) (now : Instant) :
    ∃ departure, (s.step now (.depart s.hostId)).1 = .ok (.departed departure) := by
  obtain ⟨host, hfirst, hid⟩ := h.inOrder.host
  have hentry : s.participant? host.userId = some host :=
    h.sound.distinct.participant?_of_mem (List.mem_of_getElem? hfirst)
  rw [hid] at hentry
  obtain ⟨departure, s', hdepart⟩ := exists_depart hentry now
  exact ⟨departure, by rw [(Acted.depart hdepart).step_eq]⟩

/-! ### Whole courses -/

/-- **The life cycle of a session.** After any course, at whatever times, the next action takes the
session on or leaves it where it is. Until it has ended, the host is online. While it waits, nobody
else is on the roster and no change has ever been taken; while it is active, there are two at least.
A departure ends it exactly if it is that of the host, who can always depart, and only because of
that. It is idle exactly if it waits and nothing has happened for long. -/
theorem life_cycle (id hostId hostName assignmentId : String) (settings : SessionSettings)
    (created : Instant) (course : Course) :
    let s₀ := start id hostId hostName assignmentId settings created
    let s := s₀.after course
    (∀ now action, s.status.Leads (s.step now action).2.status) ∧
    (s.status ≠ .ended → s.isOnline hostId = true) ∧
    (s.status = .waiting →
      (∃ host, s.roster = [host] ∧ host.userId = hostId ∧ host.role = .host) ∧
      s₀.changesIn course = [] ∧ s.changeCount = 0 ∧
      s.content = seedContent settings.title assignmentId) ∧
    (s.status = .active → 2 ≤ s.roster.length) ∧
    (∀ now userId departure, (s.step now (.depart userId)).1 = .ok (.departed departure) →
      departure.ended = if s.status ≠ .ended ∧ userId = hostId then some .hostLeft else none) ∧
    (∀ now, ∃ departure, (s.step now (.depart hostId)).1 = .ok (.departed departure)) ∧
    ∀ now timeout, s.isIdle now timeout = true ↔
      s.status = .waiting ∧ timeout ≤ now.since s.updatedAt := by
  intro s₀ s
  have hstaged : Staged (s₀.changesIn course) s :=
    staged_after id hostId hostName assignmentId settings created course
  have hhost : s.hostId = hostId := (sameTerms_after s₀ course).hostId
  have hfollows : Follows s₀ (s₀.changesIn course) s := follows_after s₀ course
  rw [← hhost]
  refine ⟨s.leads_step, hstaged.sound.host_online, fun hwaiting => ?_, hstaged.active,
    fun now userId departure => hstaged.sound.ended_of_step, hstaged.exists_departure,
    hstaged.sound.isIdle_iff⟩
  obtain ⟨-, hnone⟩ := hstaged.waiting hwaiting
  have hcount := hfollows.changeCount
  have hcontent := hfollows.content
  rw [hnone] at hcount hcontent
  exact ⟨hstaged.roster_eq hwaiting, hnone, hcount, hcontent⟩

end Session

end CoEdit
