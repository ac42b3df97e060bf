import CoEdit.Proofs.Engine.Footprint
import CoEdit.Proofs.Session.Likeness

/-!
# Engines that Are Alike

Two engines need not agree in everything to answer an operation alike: it is enough that they agree
in the sessions that the operation concerns and in the whereabouts of its caller, and there only up
to what sessions take no notice of. This module shows it once for all notions of agreement that the
parts of operations keep.

## Main definitions

* `Fact.renamed`, `Notice.renamed`: what is told, with the ids of changes renamed.
* `Answer.Like`: answers about sessions that are alike.
* `Engine.Likeness`: a relation between engines that the parts of operations keep, as long as they
  concern some sessions and one user.
* `Engine.area`: the session that a command is about, and the one that its caller is in.

## Main results

* `Likeness.departFrom`, `Likeness.join`, `Likeness.change`, …: so do the operations.
* `Likeness.execute`, `Likeness.step`: operations within the area correspond.
-/

namespace CoEdit

open CoEdit.Time (Instant)

/-- A fact with the id of the change in it renamed. -/
def Fact.renamed (ρ : String → String) : Fact → Fact
  | .changed change => .changed (change.renamed ρ)
  | fact => fact

/-- A notice with the id of the change in it renamed. -/
def Notice.renamed (ρ : String → String) : Notice → Notice
  | .codeChange change content => .codeChange (change.renamed ρ) content
  | notice => notice

/-- Two answers are alike: they show sessions that are alike, or are the same but for the id of a
change. -/
inductive Answer.Like (P : Participant → Participant → Prop) (ρ : String → String) :
    Answer → Answer → Prop
  | session {s t : Session} (h : s.Like P ρ t) :
      Like P ρ (.session s.snapshot) (.session t.snapshot)
  | flag (value : Bool) : Like P ρ (.flag value) (.flag value)
  | change (change : Change) : Like P ρ (.change change) (.change (change.renamed ρ))
  | done : Like P ρ .done .done

namespace Engine

/-- The sessions that a command concerns in any case: the one that it is about, and the one that its
caller is in. -/
def area (e : Engine) (command : Command) : List String :=
  (e.target? command).toList ++ (e.callerSession? command).toList

/-- A relation between engines that agree in the sessions of an area and in the whereabouts of a
user. The parts of an operation keep it, if they concern these sessions and this user. -/
structure Likeness (P : Participant → Participant → Prop) (ρ : String → String)
    (area : String → Prop) (userId : String) (R : Engine → Engine → Prop) : Prop where
  entries : Participant.Likeness P
  config : ∀ {e e'}, R e e' → e'.config = e.config
  whereabouts : ∀ {e e'}, R e e' → e'.whereabouts.get? userId = e.whereabouts.get? userId
  session : ∀ {e e' key}, R e e' → area key →
    (e.sessions.get? key = none ∧ e'.sessions.get? key = none) ∨
      ∃ s t, e.sessions.get? key = some s ∧ e'.sessions.get? key = some t ∧ area s.id ∧
        s.Like P ρ t
  putSession : ∀ {e e' s t}, R e e' → area s.id → s.Like P ρ t →
    R (e.putSession s) (e'.putSession t)
  log : ∀ {e e' key} fact now, R e e' → area key →
    R (e.log key fact now) (e'.log key (fact.renamed ρ) now)
  announce : ∀ {e e' key} notice exclude now, R e e' → area key →
    R (e.announce key notice exclude now) (e'.announce key (notice.renamed ρ) exclude now)
  subscribe : ∀ {e e' key}, R e e' → area key →
    R { e with gateway := e.gateway.subscribe key userId }
      { e' with gateway := e'.gateway.subscribe key userId }
  unsubscribe : ∀ {e e' key}, R e e' → area key →
    R { e with gateway := e.gateway.unsubscribe key userId }
      { e' with gateway := e'.gateway.unsubscribe key userId }
  place : ∀ {e e'} key, R e e' → R (e.place userId key) (e'.place userId key)
  displace : ∀ {e e'}, R e e' → R (e.displace userId) (e'.displace userId)
  count : ∀ {e e'}, R e e' →
    R { e with changesMade := e.changesMade + 1 } { e' with changesMade := e'.changesMade + 1 }

/-- Two operations correspond: they are refused alike, or give related answers and engines. -/
abbrev Matching {α : Type} (A : α → α → Prop) (R : Engine → Engine → Prop) :
    Except Error (α × Engine) → Except Error (α × Engine) → Prop :=
  Corresponds fun r r' => A r.1 r'.1 ∧ R r.2 r'.2

namespace Likeness

variable {P : Participant → Participant → Prop} {ρ : String → String} {area : String → Prop}
  {R : Engine → Engine → Prop} {e e' : Engine} {sessionId userId : String} {s t : Session}
  {now : Clock}

/-! ### The parts of an operation -/

theorem tell (hR : Likeness P ρ area userId R) (h : R e e') (hkey : area sessionId)
    (facts : List Fact) (notices : List (Notice × Option String)) (stamps : Stamps) :
    R (e.tell sessionId facts notices stamps)
      (e'.tell sessionId (facts.map (Fact.renamed ρ))
        (notices.map fun n => (n.1.renamed ρ, n.2)) stamps) := by
  induction facts generalizing e e' stamps with
  | cons fact facts ih =>
      exact ih (hR.log fact (stamps.recorded 0) h hkey)
        ⟨fun k => stamps.recorded (k + 1), stamps.announced⟩
  | nil =>
      induction notices generalizing e e' stamps with
      | nil => exact h
      | cons n notices ih =>
          exact ih (hR.announce n.1 n.2 (stamps.announced 0) h hkey)
            ⟨stamps.recorded, fun k => stamps.announced (k + 1)⟩

theorem enroll (hR : Likeness P ρ area userId R) (h : R e e') (hkey : area sessionId)
    (hid : area s.id) (hlike : s.Like P ρ t) :
    R (e.enroll sessionId s userId) (e'.enroll sessionId t userId) :=
  hR.subscribe (hR.putSession h hid hlike) hkey

theorem dismiss (hR : Likeness P ρ area userId R) (h : R e e') (hkey : area sessionId)
    (hid : area s.id) (hlike : s.Like P ρ t) :
    R (e.dismiss sessionId s userId) (e'.dismiss sessionId t userId) :=
  hR.unsubscribe (hR.putSession h hid hlike) hkey

theorem requireSession (hR : Likeness P ρ area userId R) (h : R e e') (hkey : area sessionId) :
    Corresponds (fun s t => area s.id ∧ s.Like P ρ t) (e.requireSession sessionId)
      (e'.requireSession sessionId) := by
  rw [Engine.requireSession, Engine.requireSession]
  rcases hR.session h hkey with ⟨hs, ht⟩ | ⟨s, t, hs, ht, hid, hlike⟩
  · rw [hs, ht]
    exact .refused _
  · rw [hs, ht]
    exact .done ⟨hid, hlike⟩

/-! ### Coming and going -/

theorem departureFacts_eq {departure departure' : Departure}
    (h : departure.Like P departure') :
    departureFacts userId departure' = (departureFacts userId departure).map (Fact.renamed ρ) := by
  rw [departureFacts, departureFacts, h.ended]
  cases departure.ended <;> rfl

theorem departureNotices_eq (hP : Participant.Likeness P) {departure departure' : Departure}
    (h : departure.Like P departure') (hlike : s.Like P ρ t) :
    departureNotices userId departure' t =
      (departureNotices userId departure s).map (Notice.renamed ρ) := by
  rw [departureNotices, departureNotices, h.ended, hP.userName h.participant,
    hlike.onlineCount hP]
  cases departure.ended <;> rfl

theorem arrivalFacts_eq (hP : Participant.Likeness P) {admission admission' : Admission}
    (h : admission.Like P admission') :
    arrivalFacts userId admission' = (arrivalFacts userId admission).map (Fact.renamed ρ) := by
  rw [arrivalFacts, arrivalFacts, h.alreadyOnline, hP.userName h.participant,
    hP.role h.participant]
  cases admission.alreadyOnline <;> rfl

theorem arrivalNotice_eq (hP : Participant.Likeness P) {admission admission' : Admission}
    (h : admission.Like P admission') (hlike : s.Like P ρ t) :
    arrivalNotice userId admission' t = (arrivalNotice userId admission s).renamed ρ := by
  rw [arrivalNotice, arrivalNotice, hP.userName h.participant, hP.role h.participant,
    hP.color h.participant, hlike.onlineCount hP, hlike.status_eq]
  rfl

theorem departFrom (hR : Likeness P ρ area userId R) (h : R e e') (hkey : area sessionId)
    (now : Clock) :
    R (e.departFrom sessionId userId now) (e'.departFrom sessionId userId now) := by
  rcases hR.session h hkey with ⟨hs, ht⟩ | ⟨s, t, hs, ht, hid, hlike⟩
  · rw [Engine.departFrom, Engine.departFrom, hs, ht]
    exact h
  · rcases (hlike.depart hR.entries userId (now.acting sessionId)).refused_or_done with
      ⟨error, hleft, hright⟩ | ⟨⟨departure, s'⟩, ⟨departure', t'⟩, hleft, hright, hended, hafter⟩
    · rw [Engine.departFrom, Engine.departFrom, hs, ht]
      simp only [hleft, hright]
      exact h
    · have hid' : area s'.id := by
        rw [(Session.sameTerms_depart hleft).id]
        exact hid
      have htold := hR.tell (hR.dismiss h hkey hid' hafter) hkey
        (departureFacts userId departure) ((departureNotices userId departure s').map (·, none))
        (now.stamps sessionId)
      rw [List.map_map] at htold
      rw [departFrom_eq hs hleft, departFrom_eq ht hright, departureFacts_eq (ρ := ρ) hended,
        departureNotices_eq hR.entries hended hafter, List.map_map]
      exact htold

theorem vacate (hR : Likeness P ρ area userId R) (h : R e e')
    (harea : ∀ key ∈ e.whereabouts.get? userId, area key) (now : Clock) :
    R (e.vacate userId now) (e'.vacate userId now) := by
  rw [Engine.vacate, Engine.vacate, hR.whereabouts h]
  cases hwhere : e.whereabouts.get? userId with
  | none => exact h
  | some previous => exact hR.departFrom (hR.displace h) (harea previous hwhere) now

theorem leaveBehind (hR : Likeness P ρ area userId R) (h : R e e') {previous : Option String}
    (harea : ∀ key ∈ previous, area key) (sessionId : String) (now : Clock) :
    R (e.leaveBehind previous sessionId userId now)
      (e'.leaveBehind previous sessionId userId now) := by
  cases previous with
  | none => exact h
  | some key =>
      by_cases hkey : key = sessionId
      · rw [Engine.leaveBehind, Engine.leaveBehind, if_pos hkey, if_pos hkey]
        exact h
      · rw [leaveBehind_of_ne hkey, leaveBehind_of_ne hkey]
        exact hR.departFrom h (harea key rfl) now

theorem welcome (hR : Likeness P ρ area userId R) (h : R e e') (hkey : area sessionId)
    (hid : area s.id) {admission admission' : Admission} (hadmission : admission.Like P admission')
    (hlike : s.Like P ρ t) (now : Clock) :
    R (e.welcome sessionId userId admission s now)
      (e'.welcome sessionId userId admission' t now) := by
  have htold := hR.tell (hR.enroll h hkey hid hlike) hkey (arrivalFacts userId admission)
    [(arrivalNotice userId admission s, none)] (now.stamps sessionId)
  rw [Engine.welcome, Engine.welcome, arrivalFacts_eq (ρ := ρ) hR.entries hadmission,
    arrivalNotice_eq hR.entries hadmission hlike]
  exact hR.place sessionId htold

/-! ### Operations -/

theorem join (hR : Likeness P ρ area userId R) (h : R e e') (hkey : area sessionId)
    (harea : ∀ key ∈ e.whereabouts.get? userId, area key) (userName : String) (role : Role)
    (now : Clock) :
    Matching (fun a b => Answer.Like P ρ (.session a) (.session b)) R
      (e.join sessionId userId userName role now) (e'.join sessionId userId userName role now) := by
  rw [join_eq, join_eq, hR.whereabouts h]
  refine .bind_same fun _ => .bind_same fun _ => ?_
  refine (hR.requireSession h hkey).bind ?_
  rintro s t ⟨hid, hlike⟩
  rcases (hlike.join hR.entries userId (Text.orElseIfBlank userName userId) role
    (now.acting sessionId)).refused_or_done with
    ⟨error, hleft, hright⟩ | ⟨⟨admission, s'⟩, ⟨admission', t'⟩, hleft, hright, hadmission, hafter⟩
  · rw [hleft, hright]
    exact .refused error
  · have hid' : area s'.id := by
      rw [(Session.sameTerms_join hleft).id]
      exact hid
    rw [hleft, hright]
    exact .done ⟨.session hafter,
      hR.leaveBehind (hR.welcome h hkey hid' hadmission hafter now) harea sessionId now⟩

theorem leave (hR : Likeness P ρ area userId R) (h : R e e')
    (harea : ∀ key ∈ e.whereabouts.get? userId, area key) (now : Clock) :
    Matching Eq R (e.leave userId now) (e'.leave userId now) := by
  rw [leave_eq, leave_eq, hR.whereabouts h]
  refine .bind_same fun _ => ?_
  exact .done ⟨rfl, hR.vacate h harea now⟩

/-- Sessions remain alike if their older changes are folded. -/
theorem limitHistory (config : Config) (hlike : s.Like P ρ t) :
    (Engine.limitHistory config s).Like P ρ (Engine.limitHistory config t) := by
  rw [Engine.limitHistory, Engine.limitHistory]
  cases config.historyLimit with
  | none => exact hlike
  | some limit => exact hlike.compact limit

/-- The next change has to get the renamed id on the other side. -/
theorem change (hR : Likeness P ρ area userId R) (h : R e e') (hkey : area sessionId)
    (hfresh : e'.freshChangeId = ρ e.freshChangeId) (op : Operation) (now : Clock) :
    Matching (fun c c' => c' = c.renamed ρ) R (e.change sessionId userId op now)
      (e'.change sessionId userId op now) := by
  rw [change_eq, change_eq, hR.whereabouts h, hR.config h, hfresh]
  refine .bind_same fun _ => .bind_same fun _ => ?_
  refine (hR.requireSession h hkey).bind ?_
  rintro s t ⟨hid, hlike⟩
  split
  · rcases (hlike.edit hR.entries e.freshChangeId userId op
      (now.acting sessionId)).refused_or_done with
      ⟨error, hleft, hright⟩ | ⟨⟨c, s'⟩, ⟨_, t'⟩, hleft, hright, rfl, hafter⟩
    · rw [hleft, hright]
      exact .refused error
    · have hlimited := limitHistory e.config hafter
      have hid' : area (Engine.limitHistory e.config s').id := by
        have hterms := (Session.sameTerms_edit hleft).trans (sameTerms_limitHistory e.config s')
        rw [hterms.id]
        exact hid
      have htold := hR.tell (hR.putSession h hid' hlimited) hkey [.changed c]
        [(.codeChange c (Engine.limitHistory e.config s').content, some userId)]
        (now.promptStamps sessionId)
      rw [hleft, hright]
      refine .done ⟨rfl, ?_⟩
      dsimp only
      rw [hlimited.content_eq]
      exact hR.count htold
  · exact .refused _

theorem cursor (hR : Likeness P ρ area userId R) (h : R e e')
    (harea : ∀ key ∈ e.whereabouts.get? userId, area key) (position : Nat) (now : Clock) :
    Matching Eq R (e.cursor userId position now) (e'.cursor userId position now) := by
  rw [cursor_eq, cursor_eq, hR.whereabouts h]
  refine .bind_same fun _ => ?_
  cases hwhere : e.whereabouts.get? userId with
  | none => exact .refused _
  | some sessionId =>
      have hkey := harea sessionId hwhere
      refine (hR.requireSession h hkey).bind ?_
      rintro s t ⟨hid, hlike⟩
      rcases (hlike.moveCursor hR.entries userId position
        (now.acting sessionId)).refused_or_done with
        ⟨error, hleft, hright⟩ | ⟨⟨entry, s'⟩, ⟨entry', t'⟩, hleft, hright, hentry, hafter⟩
      · rw [hleft, hright]
        exact .refused error
      · have hid' : area s'.id := by
          rw [(Session.sameTerms_moveCursor hleft).id]
          exact hid
        have htold := hR.tell (hR.putSession h hid' hafter) hkey []
          [(.cursorUpdate userId entry.userName position entry.color, some userId)]
          (now.stamps sessionId)
        rw [hleft, hright]
        refine .done ⟨rfl, ?_⟩
        dsimp only
        rw [hR.entries.userName hentry, hR.entries.color hentry]
        exact htold

theorem assist (hR : Likeness P ρ area userId R) (h : R e e') (hkey : area sessionId)
    (message : Option String) (now : Clock) :
    Matching Eq R (e.assist sessionId userId message now)
      (e'.assist sessionId userId message now) := by
  rw [assist_eq, assist_eq]
  refine .bind_same fun _ => .bind_same fun _ => ?_
  refine (hR.requireSession h hkey).bind ?_
  rintro s t ⟨hid, hlike⟩
  rcases (hlike.requestHelp hR.entries userId (now.acting sessionId)).refused_or_done with
    ⟨error, hleft, hright⟩ | ⟨⟨entry, s'⟩, ⟨entry', t'⟩, hleft, hright, hentry, hafter⟩
  · rw [hleft, hright]
    exact .refused error
  · have hid' : area s'.id := by
      rw [(Session.sameTerms_requestHelp hleft).id]
      exact hid
    have htold := hR.tell (hR.putSession h hid' hafter) hkey [.helpRequested userId message]
      [(.helpRequested userId entry.userName message, none)] (now.stamps sessionId)
    rw [hleft, hright]
    refine .done ⟨rfl, ?_⟩
    dsimp only
    rw [hR.entries.userName hentry]
    exact htold

/-- **Operations on engines that are alike correspond**, if they are within the area and the next
change gets the renamed id. -/
theorem execute (hR : Likeness P ρ area userId R) (h : R e e') {command : Command}
    (hcreation : isCreation command = false) (hcaller : command.caller? = some userId)
    (harea : ∀ key ∈ e.area command, area key) (hfresh : e'.freshChangeId = ρ e.freshChangeId)
    (now : Clock) :
    Matching (Answer.Like P ρ) R (e.execute now command) (e'.execute now command) := by
  have htarget : ∀ key ∈ e.target? command, area key := fun key hkey =>
    harea key (List.mem_append_left _ (Option.mem_toList.mpr hkey))
  have hwhere : ∀ key ∈ e.whereabouts.get? userId, area key := by
    intro key hkey
    refine harea key (List.mem_append_right _ (Option.mem_toList.mpr ?_))
    rw [callerSession?, hcaller]
    exact hkey
  cases command with
  | create => cases hcreation
  | join sessionId user userName role =>
      obtain rfl := Option.some.inj hcaller
      refine (hR.join h (htarget _ rfl) hwhere userName role now).map ?_
      exact fun _ _ hrelated => hrelated
  | leave user =>
      obtain rfl := Option.some.inj hcaller
      refine (hR.leave h hwhere now).map ?_
      rintro ⟨left, _⟩ ⟨_, _⟩ ⟨rfl, hafter⟩
      exact ⟨.flag left, hafter⟩
  | change sessionId authorId op =>
      obtain rfl := Option.some.inj hcaller
      refine (hR.change h (htarget _ rfl) hfresh op now).map ?_
      rintro ⟨c, _⟩ ⟨_, _⟩ ⟨rfl, hafter⟩
      exact ⟨.change c, hafter⟩
  | cursor user position =>
      obtain rfl := Option.some.inj hcaller
      refine (hR.cursor h hwhere position now).map ?_
      exact fun _ _ hrelated => ⟨.done, hrelated.2⟩
  | assist sessionId user message =>
      obtain rfl := Option.some.inj hcaller
      refine (hR.assist h (htarget _ rfl) message now).map ?_
      exact fun _ _ hrelated => ⟨.done, hrelated.2⟩
  | connect | disconnect | sweep => cases hcaller

end Likeness

/-- What corresponds as an operation does so as a step: the answers are related, and a refusal
changes nothing. -/
theorem Matching.step {A : Answer → Answer → Prop} {R : Engine → Engine → Prop} {e e' : Engine}
    {now : Clock} {command : Command}
    (h : Matching A R (e.execute now command) (e'.execute now command)) (hbefore : R e e') :
    Corresponds A (e.step now command).1 (e'.step now command).1 ∧
      R (e.step now command).2 (e'.step now command).2 := by
  rw [Engine.step, Engine.step]
  rcases h.refused_or_done with
    ⟨error, hleft, hright⟩ | ⟨⟨answer, after⟩, ⟨answer', after'⟩, hleft, hright, hanswer, hafter⟩
  · rw [hleft, hright]
    exact ⟨.refused error, hbefore⟩
  · rw [hleft, hright]
    exact ⟨.done hanswer, hafter⟩

end Engine

end CoEdit
