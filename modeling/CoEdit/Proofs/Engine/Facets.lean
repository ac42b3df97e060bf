import CoEdit.Engine.Views
import CoEdit.Proofs.Delivery.Tidings
import CoEdit.Proofs.Engine.ChangeIds
import CoEdit.Proofs.Engine.Chronicle
import CoEdit.Proofs.Engine.Likeness

/-!
# What There Is to One Session

The facet of a session is all that an engine holds about it: its state, its recording, its
subscribers, and what was sent about it. The parts of operations change one facet each. Since the
messages of all sessions are numbered together, a facet shows them without their numbers, and since
changes of all sessions get their ids from one counter, facets are compared up to the ids.

## Main definitions

* `Facet`, `Engine.facet`: all that there is to a session.
* `Session.renamed`, `Recording.renamed`, `Facet.renamed`, `Answer.renamed`: with other ids for the
  changes.

## Main results

* `facet_putSession`, `facet_log`, `facet_announce`, …: what the parts of operations do to facets.
* `StaysWithin.facet_eq`: what an operation leaves alone.
* `Reachable.facet_renamed`: ids that were not given out yet may be renamed without effect.
-/

namespace CoEdit

open CoEdit.Time (Instant)

variable {ρ : String → String}

/-! ### Renaming changes -/

theorem Change.renamed_of_fixed {c : Change} (h : ρ c.id = c.id) : c.renamed ρ = c := by
  rw [Change.renamed, h]

theorem Change.renamed_involutive (hρ : Function.Involutive ρ) :
    Function.Involutive (Change.renamed ρ) := fun c =>
  congrArg (fun id => { c with id }) (hρ c.id)

/-- A session with the ids of its changes renamed. -/
def Session.renamed (ρ : String → String) (s : Session) : Session :=
  { s with history := s.history.map (Change.renamed ρ) }

/-- Sessions that have the same entries are alike exactly if the ids of the changes are renamed. -/
theorem Session.like_eq_iff {s t : Session} : s.Like Eq ρ t ↔ t = s.renamed ρ := by
  constructor
  · rintro ⟨hroster⟩
    rw [List.forall₂_eq_eq_eq] at hroster
    subst hroster
    rfl
  · rintro rfl
    exact .intro (List.forall₂_same.mpr fun _ _ => rfl)

theorem Session.renamed_involutive (hρ : Function.Involutive ρ) :
    Function.Involutive (Session.renamed ρ) := fun s =>
  congrArg (fun history => { s with history })
    (List.map_involutive_iff.mpr (Change.renamed_involutive hρ) s.history)

theorem Session.renamed_of_fixed {s : Session} (h : ∀ c ∈ s.history, ρ c.id = c.id) :
    s.renamed ρ = s := by
  have hhistory : s.history.map (Change.renamed ρ) = s.history.map fun c => c :=
    List.map_congr_left fun c hc => Change.renamed_of_fixed (h c hc)
  rw [Session.renamed, hhistory, List.map_id']

/-- The ids of changes do not show in a snapshot. -/
theorem Session.snapshot_renamed (ρ : String → String) (s : Session) :
    (s.renamed ρ).snapshot = s.snapshot := by
  have hcount : (s.renamed ρ).changeCount = s.changeCount :=
    congrArg (s.compacted + ·) (List.length_map _)
  rw [snapshot, hcount]
  rfl

theorem Fact.renamed_involutive (hρ : Function.Involutive ρ) :
    Function.Involutive (Fact.renamed ρ) := by
  intro fact
  cases fact with
  | changed c => exact congrArg Fact.changed (Change.renamed_involutive hρ c)
  | _ => rfl

theorem Fact.renamed_of_fixed {fact : Fact} (h : ∀ c, fact.change? = some c → ρ c.id = c.id) :
    fact.renamed ρ = fact := by
  cases fact with
  | changed c => exact congrArg Fact.changed (Change.renamed_of_fixed (h c rfl))
  | _ => rfl

/-- An entry with the id of its change renamed. -/
def Entry.renamed (ρ : String → String) (x : Entry) : Entry :=
  { x with fact := x.fact.renamed ρ }

/-- A recording with the ids of its changes renamed. -/
def Recording.renamed (ρ : String → String) (r : Recording) : Recording :=
  { r with entries := r.entries.map (Entry.renamed ρ) }

theorem Recording.renamed_involutive (hρ : Function.Involutive ρ) :
    Function.Involutive (Recording.renamed ρ) := by
  have hentry : Function.Involutive (Entry.renamed ρ) := fun x =>
    congrArg (fun fact => { x with fact }) (Fact.renamed_involutive hρ x.fact)
  exact fun r => congrArg (fun entries => { r with entries })
    (List.map_involutive_iff.mpr hentry r.entries)

theorem Recording.renamed_of_fixed {r : Recording} (h : ∀ c ∈ r.changes, ρ c.id = c.id) :
    r.renamed ρ = r := by
  have hentries : r.entries.map (Entry.renamed ρ) = r.entries.map id := by
    refine List.map_congr_left fun x hx => ?_
    have hfact : x.fact.renamed ρ = x.fact := Fact.renamed_of_fixed fun c hc => h c <| by
      rw [changes_eq]
      exact List.mem_filterMap.mpr ⟨x.fact, List.mem_map_of_mem hx, hc⟩
    exact congrArg (fun fact => { x with fact }) hfact
  rw [Recording.renamed, hentries, List.map_id]

/-- Recording a fact and renaming can be done in either order. -/
theorem Recording.push_renamed (ρ : String → String) (r : Recording) (fact : Fact)
    (now : Instant) :
    ((r.renamed ρ).push (fact.renamed ρ) now).2 = (r.push fact now).2.renamed ρ := by
  have hlast : (r.renamed ρ).lastTime = r.lastTime := by
    rw [lastTime, lastTime, Recording.renamed, List.getLast?_map, Option.map_map]
    rfl
  have harrival : arrival (fact.renamed ρ) = arrival fact := by cases fact <;> rfl
  rw [push, hlast, harrival]
  simp only [push, Recording.renamed, List.length_map, List.map_append, List.map_cons,
    List.map_nil, Entry.renamed]

theorem Notice.renamed_involutive (hρ : Function.Involutive ρ) :
    Function.Involutive (Notice.renamed ρ) := by
  intro notice
  cases notice with
  | codeChange c content =>
      exact congrArg (Notice.codeChange · content) (Change.renamed_involutive hρ c)
  | _ => rfl

theorem Notice.renamed_of_fixed {notice : Notice}
    (h : ∀ c, notice.change? = some c → ρ c.id = c.id) : notice.renamed ρ = notice := by
  cases notice with
  | codeChange c content =>
      exact congrArg (Notice.codeChange · content) (Change.renamed_of_fixed (h c rfl))
  | _ => rfl

/-- A message with the id of its change renamed. -/
def Dispatch.renamed (ρ : String → String) (d : Dispatch) : Dispatch :=
  { d with message := { d.message with notice := d.message.notice.renamed ρ } }

theorem Dispatch.renamed_involutive (hρ : Function.Involutive ρ) :
    Function.Involutive (Dispatch.renamed ρ) := fun d =>
  congrArg (fun notice => { d with message := { d.message with notice } })
    (Notice.renamed_involutive hρ d.message.notice)

theorem Dispatch.renamed_of_fixed {d : Dispatch}
    (h : ∀ c, d.message.notice.change? = some c → ρ c.id = c.id) : d.renamed ρ = d :=
  congrArg (fun notice => { d with message := { d.message with notice } })
    (Notice.renamed_of_fixed h)

/-- An answer with the id of the change in it renamed. -/
def Answer.renamed (ρ : String → String) : Answer → Answer
  | .change c => .change (c.renamed ρ)
  | answer => answer

theorem Answer.renamed_involutive (hρ : Function.Involutive ρ) :
    Function.Involutive (Answer.renamed ρ) := by
  intro answer
  cases answer with
  | change c => exact congrArg Answer.change (Change.renamed_involutive hρ c)
  | _ => rfl

/-- Answers about sessions that are the same up to renaming are so, too. -/
theorem Answer.like_eq_iff {a b : Answer} (h : a.Like Eq ρ b) : b = a.renamed ρ := by
  cases h with
  | session hlike =>
      obtain rfl := Session.like_eq_iff.mp hlike
      exact congrArg Answer.session (Session.snapshot_renamed ρ _)
  | flag => rfl
  | change => rfl
  | done => rfl

/-! ### Facets -/

/-- What there is to a session: its state, its recording, its subscribers, and the messages about
it, without their numbers. -/
structure Facet where
  session : Option Session
  recording : Option Recording
  subscribers : List String
  stream : List Dispatch

/-- A facet with the ids of the changes renamed. -/
def Facet.renamed (ρ : String → String) (f : Facet) : Facet where
  session := f.session.map (Session.renamed ρ)
  recording := f.recording.map (Recording.renamed ρ)
  subscribers := f.subscribers
  stream := f.stream.map (Dispatch.renamed ρ)

theorem Facet.renamed_involutive (hρ : Function.Involutive ρ) :
    Function.Involutive (Facet.renamed ρ) := by
  intro f
  have hsession : (f.session.map (Session.renamed ρ)).map (Session.renamed ρ) = f.session := by
    rw [Option.map_map, (Session.renamed_involutive hρ).comp_self, Option.map_id]
    rfl
  have hrecording : (f.recording.map (Recording.renamed ρ)).map (Recording.renamed ρ) =
      f.recording := by
    rw [Option.map_map, (Recording.renamed_involutive hρ).comp_self, Option.map_id]
    rfl
  have hstream : (f.stream.map (Dispatch.renamed ρ)).map (Dispatch.renamed ρ) = f.stream :=
    List.map_involutive_iff.mpr (Dispatch.renamed_involutive hρ) f.stream
  rw [Facet.renamed, Facet.renamed, hsession, hrecording, hstream]

namespace Engine

variable {config : Config} {e e' : Engine} {sessionId key userId : String} {now : Instant}

/-- The messages about a session, without their numbers. -/
def stream (e : Engine) (sessionId : String) : List Dispatch :=
  (e.gateway.log.filter (·.message.sessionId = sessionId)).map Dispatch.unnumbered

/-- The facet of a session. -/
def facet (e : Engine) (sessionId : String) : Facet where
  session := e.sessions.get? sessionId
  recording := e.recording? sessionId
  subscribers := e.gateway.subscriptionsOf sessionId
  stream := e.stream sessionId

/-! ### The parts of an operation -/

theorem facet_putSession (s : Session) :
    (e.putSession s).facet key =
      if key = s.id then { e.facet key with session := some s } else e.facet key := by
  simp only [facet, putSession, Table.get?_put]
  split <;> rfl

theorem facet_log (fact : Fact) :
    (e.log sessionId fact now).facet key =
      if key = sessionId then
        { e.facet key with
          recording := some (((e.facet key).recording.getD (.empty key)).push fact now).2 }
      else e.facet key := by
  simp only [facet, log, Archive.record, recording?, Archive.get?, Table.get?_put]
  by_cases h : key = sessionId
  · simp [h]
    rfl
  · simp [h]
    rfl

theorem facet_announce (notice : Notice) (exclude : Option String) :
    (e.announce sessionId notice exclude now).facet key =
      if key = sessionId then
        { e.facet key with
          stream := (e.facet key).stream ++ [⟨⟨key, 0, now.toMillis, notice⟩,
            (e.gateway.recipients key exclude).map (·.1)⟩] }
      else e.facet key := by
  have hstream : (e.announce sessionId notice exclude now).stream key =
      e.stream key ++ (if key = sessionId then [⟨⟨key, 0, now.toMillis, notice⟩,
        (e.gateway.recipients key exclude).map (·.1)⟩] else []) := by
    refine (congrArg (List.map _) (List.filter_append _ _)).trans ?_
    rw [List.map_append]
    refine congrArg (e.stream key ++ ·) ?_
    rw [List.filter_singleton]
    by_cases h : key = sessionId
    · subst h
      simp [Dispatch.unnumbered]
    · simp [h, Ne.symm h]
  rw [facet, hstream]
  split
  · rfl
  · rw [List.append_nil]
    rfl

/-- A change of the subscriptions shows in the lists of subscribers alone. -/
theorem facet_subscriptions {g : Gateway} (h : g.log = e.gateway.log) :
    Engine.facet { e with gateway := g } key =
      { e.facet key with subscribers := g.subscriptionsOf key } := by
  have hstream : Engine.stream { e with gateway := g } key = e.stream key :=
    congrArg (fun log => (log.filter (·.message.sessionId = key)).map Dispatch.unnumbered) h
  rw [facet, hstream]
  rfl

theorem facet_subscribe (userId : String) :
    Engine.facet { e with gateway := e.gateway.subscribe sessionId userId } key =
      { e.facet key with
        subscribers := if key = sessionId ∧ userId ∉ (e.facet key).subscribers then
          (e.facet key).subscribers ++ [userId] else (e.facet key).subscribers } := by
  rw [facet_subscriptions Gateway.log_subscribe, Gateway.subscriptionsOf_subscribe]
  rfl

theorem facet_unsubscribe (userId : String) :
    Engine.facet { e with gateway := e.gateway.unsubscribe sessionId userId } key =
      { e.facet key with
        subscribers := if key = sessionId then (e.facet key).subscribers.filter (· ≠ userId)
          else (e.facet key).subscribers } := by
  rw [facet_subscriptions Gateway.log_unsubscribe, Gateway.subscriptionsOf_unsubscribe]
  rfl

/-! ### What is left alone -/

/-- **What stays within an area leaves the facets of all other sessions alone.** -/
theorem StaysWithin.facet_eq {area : List String} (h : StaysWithin area userId e e')
    (hkey : key ∉ area) : e'.facet key = e.facet key := by
  have hstream : e'.stream key = e.stream key := by
    obtain ⟨sent, hlog, hsent⟩ := h.sent
    have hnone : sent.filter (·.message.sessionId = key) = [] := by
      refine List.filter_eq_nil_iff.mpr fun d hd => ?_
      rw [decide_eq_true_eq]
      rintro rfl
      exact hkey (hsent d hd)
    rw [stream, hlog, List.filter_append, hnone, List.append_nil, stream]
  rw [facet, h.session key hkey, h.recording key hkey, h.subscriptions key hkey, hstream, facet]

/-- **Ids that were not given out yet may be renamed** without effect on any facet. -/
theorem Reachable.facet_renamed (h : e.Reachable config)
    (hρ : ∀ n < e.changesMade, ρ (changeName n) = changeName n) (key : String) :
    (e.facet key).renamed ρ = e.facet key := by
  have hfixed : ∀ c ∈ (e.dossier key).changes, ρ c.id = c.id := by
    intro c hc
    obtain ⟨n, hn, hid⟩ := h.exists_changeName hc
    rw [hid, hρ n hn]
  have hsession : (e.sessions.get? key).map (Session.renamed ρ) = e.sessions.get? key := by
    cases hs : e.sessions.get? key with
    | none => rfl
    | some s =>
        refine congrArg some (Session.renamed_of_fixed fun c hc => hfixed c ?_)
        exact Dossier.mem_changes_iff.mpr (.inl ⟨s, hs, hc⟩)
  have hrecording : (e.recording? key).map (Recording.renamed ρ) = e.recording? key := by
    cases hr : e.recording? key with
    | none => rfl
    | some r =>
        refine congrArg some (Recording.renamed_of_fixed fun c hc => hfixed c ?_)
        rw [← recording_dossier hr] at hc
        exact Dossier.mem_changes_iff.mpr (.inr (.inl hc))
  have hstream : (e.stream key).map (Dispatch.renamed ρ) = (e.stream key).map fun d => d := by
    refine List.map_congr_left fun d hd => Dispatch.renamed_of_fixed fun c hc => hfixed c ?_
    obtain ⟨sent, hsent, rfl⟩ := List.mem_map.mp hd
    exact Dossier.mem_changes_iff.mpr (.inr (.inr
      ⟨sent.message.notice, List.mem_map_of_mem hsent, hc⟩))
  rw [List.map_id'] at hstream
  rw [facet, Facet.renamed]
  dsimp only
  rw [hsession, hrecording, hstream]

end Engine

end CoEdit
