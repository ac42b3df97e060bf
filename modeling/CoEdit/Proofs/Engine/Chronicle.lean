import CoEdit.Proofs.Engine.Parts
import CoEdit.Proofs.Engine.Rebuild
import CoEdit.Proofs.Recording.WellFormed

/-!
# Every Recording Is a Well-Formed History

At every point of every history, each recording in the archive tells a well-formed story of its
session, and whatever happens later only adds to its end. So a reader of recordings need not know
what was done to the engine in order to rely on the order of the entries.

## Main results

* `Turn.wellFormed`: a turn of a session records what may be recorded next.
* `Since.wellFormed`: the recording is well-formed from the creation of the session on.
* `exists_entries_after`: a history only appends to recordings.
* `wellFormed_after`: both together, for every recording after every history.
-/

namespace CoEdit

open CoEdit.Time (Instant)
open Engine

variable {config : Config} {m : Moment} {s s' : Session} {facts before : List Fact}
  {notices : List Notice} {assistance : Bool}

/-! ### Who has been seen -/

/-- Everybody on the roster has come at some time. -/
def Seen (facts : List Fact) (s : Session) : Prop :=
  ∀ userId ∈ s.roster.map Participant.userId, true ∈ movements userId facts

/-- With the same people on the roster, more facts do not change that all of them have come. -/
theorem Seen.append (h : Seen before s)
    (hids : s'.roster.map Participant.userId = s.roster.map Participant.userId) :
    Seen (before ++ facts) s' := by
  intro userId hmem
  rw [hids] at hmem
  exact mem_movements_append (h userId hmem)

/-- Whoever is new on the roster after a turn has come at it. -/
theorem Turn.seen (h : Turn config m s facts notices s') (hseen : Seen before s) :
    Seen (before ++ facts) s' := by
  cases h with
  | @arrive userId _ _ admission _ _ _ hjoin =>
      obtain ⟨-, -, hs', -, halready⟩ := Session.join_ok hjoin
      intro user hmem
      rw [hs'] at hmem
      rcases Session.mem_ids_seat hmem with hold | rfl
      · exact mem_movements_append (hseen user hold)
      · cases hwas : admission.alreadyOnline with
        | false => simp [arrivalFacts, hwas, movements_concat, Fact.presence?]
        | true =>
            rw [hwas] at halready
            obtain ⟨p, hp, -⟩ := Session.isOnline_iff.mp halready.symm
            obtain ⟨hon, rfl⟩ := Session.mem_of_participant? hp
            exact mem_movements_append (hseen _ (List.mem_map_of_mem hon))
  | depart _ _ hdepart =>
      obtain ⟨-, -, rfl⟩ := Session.depart_ok hdepart
      exact hseen.append (Session.map_userId_updateEntry fun _ => rfl)
  | @edit _ _ _ _ s' _ _ hedit =>
      have hlimit := congrArg (List.map Participant.userId) (roster_limitHistory config s')
      obtain ⟨-, -, -, rfl⟩ := Session.edit_ok hedit
      exact hseen.append (hlimit.trans (Session.map_userId_updateEntry fun _ => rfl))
  | point _ hmove =>
      obtain ⟨-, -, rfl⟩ := Session.moveCursor_ok hmove
      exact hseen.append (Session.map_userId_updateEntry fun _ => rfl)
  | help _ hrequest =>
      obtain ⟨-, -, rfl⟩ := Session.requestHelp_ok hrequest
      exact hseen.append (Session.map_userId_updateEntry fun _ => rfl)
  | giveUp =>
      refine hseen.append ?_
      rw [Session.close]
      split <;> rfl

/-! ### What may be recorded next -/

/-- A departure may be recorded, and the end of the session after it if it is the host's. -/
theorem wellFormed_departureFacts {userId : String} {departure : Departure} {now : Instant}
    (hwell : WellFormed before) (htold : Told assistance before s) (hs : s.Sound)
    (honline : s.isOnline userId = true)
    (hdepart : s.depart userId now = .ok (departure, s')) :
    WellFormed (before ++ departureFacts userId departure) := by
  have hleft : WellFormed (before ++ [.left userId]) :=
    hwell.concat ((htold.isThere_eq hwell userId).trans honline)
  rw [departureFacts, hs.ended_eq hdepart]
  split
  · next hboth =>
    obtain ⟨hopen, rfl⟩ := hboth
    have hhost : hostOf? (before ++ [.left s.hostId]) = some s.hostId := by
      rw [hostOf?, List.findSome?_append, htold.terms]
      rfl
    have hreason : EndReason.hostLeft = reasonAfter (before ++ [.left s.hostId]) :=
      (if_pos ⟨s.hostId, hhost, List.getLast?_concat⟩).symm
    have hend : (before ++ [Fact.left s.hostId]).any Fact.isEnd = false := by
      rw [List.any_append, htold.any_isEnd_eq_false hopen]
      rfl
    have hadmissible : (Fact.ended .hostLeft).AdmissibleAfter (before ++ [.left s.hostId]) :=
      ⟨hend, hreason, fun h => by cases h⟩
    have hboth := hleft.concat hadmissible
    rwa [List.append_assoc] at hboth
  · exact hleft

/-- Giving up a session may be recorded: it still waits, with its host in it. -/
theorem admissible_idle (hwell : WellFormed before) (htold : Told assistance before s)
    (hs : s.Sound) (hwaiting : s.status = .waiting) :
    (Fact.ended .idle).AdmissibleAfter before := by
  have hopen : s.status ≠ .ended := by
    rw [hwaiting]
    exact Status.noConfusion
  have hthere : isThere s.hostId before = true :=
    (htold.isThere_eq hwell s.hostId).trans (hs.host_online hopen)
  refine ⟨htold.any_isEnd_eq_false hopen, ?_, fun _ => htold.any_isJoin_eq_false hwaiting⟩
  refine (if_neg ?_).symm
  rintro ⟨hostId, hhost, hlast⟩
  obtain rfl : s.hostId = hostId := Option.some.inj (htold.hostOf?_eq.symm.trans hhost)
  rw [isThere_of_getLast?_eq_left hlast] at hthere
  cases hthere

/-- Only sessions that still wait are given up. -/
theorem status_of_isAbandoned {asOf : Instant} (h : isAbandoned config s asOf = true) :
    s.status = .waiting := by
  rw [isAbandoned, Session.isIdle, Bool.and_eq_true, decide_eq_true_iff] at h
  exact h.1

/-- **A turn records what may be recorded next.** -/
theorem Turn.wellFormed (h : Turn config m s facts notices s') (hs : s.Sound)
    (hwell : WellFormed before) (htold : Told assistance before s) (hseen : Seen before s) :
    WellFormed (before ++ facts) := by
  have hthere := htold.isThere_eq hwell
  cases h with
  | @arrive userId _ _ admission _ _ _ hjoin =>
      obtain ⟨hopen, -, -, -, halready⟩ := Session.join_ok hjoin
      rw [arrivalFacts]
      split
      · simpa using hwell
      · next hwas =>
        have haway : isThere userId before = false := by
          rw [hthere, ← halready]
          exact Bool.eq_false_iff.mpr hwas
        exact hwell.concat ⟨htold.any_isEnd_eq_false hopen, haway⟩
  | depart _ honline hdepart => exact wellFormed_departureFacts hwell htold hs honline hdepart
  | @edit _ authorId _ _ _ _ _ hedit =>
      obtain ⟨hactive, honline, rfl, -⟩ := Session.edit_ok hedit
      have hopen : s.status ≠ .ended := by
        rw [hactive]
        exact Status.noConfusion
      exact hwell.concat ⟨htold.any_isEnd_eq_false hopen, (hthere authorId).trans honline,
        htold.any_isJoin_eq_true hactive⟩
  | point => simpa using hwell
  | help _ hrequest =>
      obtain ⟨hopen, ⟨entry, hentry, -⟩, -⟩ := Session.requestHelp_ok hrequest
      obtain ⟨hmem, rfl⟩ := Session.mem_of_participant? hentry
      exact hwell.concat ⟨htold.any_isEnd_eq_false hopen, hseen _ (List.mem_map_of_mem hmem)⟩
  | giveUp _ habandoned =>
      exact hwell.concat (admissible_idle hwell htold hs (status_of_isAbandoned habandoned))

/-! ### From the creation on -/

namespace Dossier

variable {sessionId : String} {c : Moment} {moments : List Moment} {d d' : Dossier}

/-- From the creation of a session on, its recording is well-formed, and everybody on its roster has
been seen. -/
theorem Since.wellFormed_and_seen (h : Since config sessionId c moments d) :
    WellFormed d.recording.facts ∧ ∀ s, d.session = some s → Seen d.recording.facts s := by
  induction h with
  | begun h =>
      cases h with
      | created _ _ hstart _ =>
          refine ⟨wellFormed_created, fun t ht => ?_⟩
          obtain rfl := Option.some.inj ht
          subst hstart
          intro userId hmem
          obtain rfl := List.mem_singleton.mp hmem
          exact List.mem_filterMap.mpr ⟨_, List.mem_singleton_self _, if_pos rfl⟩
  | snoc hbefore hstep ih =>
      obtain ⟨hwell, hseen⟩ := ih
      cases hstep with
      | quiet => exact ⟨hwell, hseen⟩
      | turn _ hturned =>
          obtain ⟨s, facts, notices, s', hs, -, hturn, rfl⟩ := hturned
          obtain ⟨_, _, _, options, -, htold⟩ := hbefore.told
          rw [advance, Recording.facts_extend]
          refine ⟨hturn.wellFormed (hbefore.sound s hs) hwell (htold s hs) (hseen s hs),
            fun t ht => ?_⟩
          obtain rfl := Option.some.inj ht
          exact hturn.seen (hseen s hs)
      | remove => exact ⟨hwell, fun t ht => by cases ht⟩

/-- What is on record has been created, and has developed since. -/
theorem Life.of_entries (h : Life config sessionId moments d) (hd : d.recording.entries ≠ []) :
    ∃ past c rest, moments = past ++ c :: rest ∧ Since config sessionId c rest d := by
  cases h with
  | unborn => exact absurd rfl hd
  | @born past rest c _ _ h => exact ⟨past, c, rest, rfl, h⟩

/-- **The recording is well-formed from the creation of the session on**, also after its removal. -/
theorem Since.wellFormed (h : Since config sessionId c moments d) :
    WellFormed d.recording.facts :=
  h.wellFormed_and_seen.1

end Dossier

namespace Engine

variable {e : Engine} {sessionId : String} {r : Recording}

/-! ### Recordings in the archive -/

/-- No recording is kept before something is recorded in it. -/
def NoneBlank (e : Engine) : Prop :=
  ∀ sessionId r, e.recording? sessionId = some r → r.entries ≠ []

/-- Recordings come about by recording facts, and no part of an operation empties one. -/
theorem Part.noneBlank {e e' : Engine} (h : Part e e') (he : e.NoneBlank) :
    e'.NoneBlank := by
  cases h with
  | directory harchive _ =>
      intro key r hr
      rw [recording?, harchive] at hr
      exact he key r hr
  | log sessionId fact =>
      intro key r hr
      simp only [recording?, Engine.log, Archive.record, Archive.get?, Table.get?_put] at hr
      split at hr
      · obtain rfl := Option.some.inj hr
        simp [Recording.push]
      · exact he key r hr
  | _ => exact he

theorem noneBlank_after (config : Config) (history : History) :
    ((Engine.new config).after history).NoneBlank :=
  after_of_part Part.noneBlank history fun key r hr => by cases hr

/-- A recording in the archive is that of the dossier. -/
theorem recording_dossier (hr : e.recording? sessionId = some r) :
    (e.dossier sessionId).recording = r := by
  rw [recording?] at hr
  rw [dossier, hr]
  rfl

/-- A recording in the archive has developed since the creation of its session. -/
theorem since_of_recording? {config : Config} {history : History}
    (hr : ((Engine.new config).after history).recording? sessionId = some r) :
    ∃ past c rest, (Engine.new config).trace history = past ++ c :: rest ∧
      Dossier.Since config sessionId c rest
        (((Engine.new config).after history).dossier sessionId) := by
  refine (life_after config history sessionId).of_entries ?_
  rw [recording_dossier hr]
  exact noneBlank_after config history sessionId r hr

/-- A history only appends to recordings. -/
theorem Coherent.exists_entries_after (h : e.Coherent) (history : History) (sessionId : String) :
    (e.dossier sessionId).recording.entries <+:
      ((e.after history).dossier sessionId).recording.entries := by
  induction history generalizing e with
  | nil => exact List.prefix_rfl
  | cons x rest ih =>
      obtain ⟨new, hentries, -⟩ := (h.step_dossier x.1 x.2 sessionId).exists_entries
      have hfirst : (e.dossier sessionId).recording.entries <+:
          ((e.step x.1 x.2).2.dossier sessionId).recording.entries :=
        ⟨new, hentries.symm⟩
      exact hfirst.trans (ih (h.step x.1 x.2))

/-- **Every recording is a well-formed history, and is only ever appended to.** After any history,
each recording begins with the creation of its session and goes on with facts that may come after
those before them. Everybody comes and goes by turns, and after the end people only leave. Whatever
happens later, the recording is still there and begins with the same entries. -/
theorem wellFormed_after (config : Config) (history : History) (sessionId : String) (r : Recording)
    (hr : ((Engine.new config).after history).recording? sessionId = some r) :
    WellFormed r.facts ∧
      (∀ userId, (false :: movements userId r.facts).IsChain (· ≠ ·)) ∧
      (∀ before reason after, r.facts = before ++ .ended reason :: after →
        ∀ fact ∈ after, ∃ userId, fact = .left userId) ∧
      ∀ rest, ∃ r', ((Engine.new config).after (history ++ rest)).recording? sessionId = some r' ∧
        r.entries <+: r'.entries := by
  obtain ⟨past, c, rest, -, hsince⟩ := since_of_recording? hr
  have hwell := hsince.wellFormed
  rw [recording_dossier hr] at hwell
  refine ⟨hwell, hwell.alternate, fun before reason after heq fact hmem =>
    hwell.left_of_mem_after_end heq hmem, fun rest => ?_⟩
  have hprefix := ((coherent_new config).after history).exists_entries_after rest sessionId
  rw [recording_dossier hr, ← after_append] at hprefix
  refine ⟨_, recording?_eq_some fun hnil => ?_, hprefix⟩
  have hsome := noneBlank_after config history sessionId r hr
  rw [Recording.facts, List.map_eq_nil_iff] at hnil
  rw [hnil, List.prefix_nil] at hprefix
  exact hsome hprefix

/-- The case of a short history, up to where the host has left: the recording then outlasts the
removal of the session. -/
theorem wellFormed_after_shortHistory :
    ∃ r, ((Engine.new .default).after (shortHistory.take 4)).recording? "$s0" = some r ∧
      r.facts.getLast? = some (.ended .hostLeft) ∧ WellFormed r.facts ∧
      ∃ r', ((Engine.new .default).after shortHistory).recording? "$s0" = some r' ∧
        r.entries <+: r'.entries := by
  have hlast : (((Engine.new .default).after (shortHistory.take 4)).recording? "$s0").map
      (·.facts.getLast?) = some (some (.ended .hostLeft)) := by
    decide +kernel
  obtain ⟨r, hr, hended⟩ := Option.map_eq_some_iff.mp hlast
  obtain ⟨hwell, -, -, hlater⟩ := wellFormed_after .default (shortHistory.take 4) "$s0" r hr
  exact ⟨r, hr, hended, hwell, hlater [(.still ⟨4, 0⟩, .sweep ⟨9000, 0⟩)]⟩

end Engine

end CoEdit
