import CoEdit.Proofs.Engine.Facets
import CoEdit.Proofs.Engine.Numbers
import Mathlib.Logic.Equiv.Basic

/-!
# Independent Operations Commute

Two operations of different users concern different sessions if neither is about the session that
the other one is about or whose caller is in. They can then be given in either order: each is
answered the same, and everything is the same afterwards. Only the messages of all sessions are
numbered together and the ids of all changes come from one counter, so that if both operations are
changes, their ids are exchanged.

## Main definitions

* `Engine.Mirrors`: two engines agree in some facets up to the ids of changes.
* `Engine.Independent`: two operations are of different users and concern different sessions.
* `Engine.exchange`: the exchange of the two ids that are given out, if both are.
* `Engine.HoldsSame`: two engines hold the same, up to the ids of changes.

## Main results

* `likeness_mirrors`: the parts of operations keep facets in agreement.
* `Independent.mirrors`, `Independent.step_after`: an operation after one that is independent of it.
* `Independent.staysWithin_after`: what such an operation leaves alone.
* `independent_commute`: either order leads to the same.
-/

namespace CoEdit.Engine

open CoEdit.Time (Instant)

variable {config : Config} {e e' : Engine} {ρ : String → String} {area : List String}
  {sessionId key userId : String} {now : Clock} {a b : Command}

/-! ### Agreement in some facets -/

/-- Two engines agree in the facets of some sessions, up to the ids of changes, and in where a user
is. They have the same connections and the same configuration. -/
structure Mirrors (ρ : String → String) (area : List String) (userId : String) (e e' : Engine) :
    Prop where
  keyed : e.Keyed
  config : e'.config = e.config
  connections : e'.gateway.connections = e.gateway.connections
  whereabouts : e'.whereabouts.get? userId = e.whereabouts.get? userId
  facet : ∀ key ∈ area, e'.facet key = (e.facet key).renamed ρ

namespace Mirrors

/-- A session of one engine is one of the other, with the ids of its changes renamed. -/
theorem session (h : Mirrors ρ area userId e e') (hkey : key ∈ area) :
    e'.sessions.get? key = (e.sessions.get? key).map (Session.renamed ρ) :=
  congrArg Facet.session (h.facet key hkey)

/-- The same people get the messages. -/
theorem recipients (h : Mirrors ρ area userId e e') (hkey : key ∈ area)
    (exclude : Option String) :
    e'.gateway.recipients key exclude = e.gateway.recipients key exclude := by
  have hsubscribers : e'.gateway.subscriptionsOf key = e.gateway.subscriptionsOf key :=
    congrArg Facet.subscribers (h.facet key hkey)
  rw [Gateway.recipients, Gateway.recipients, Gateway.subscribers, Gateway.subscribers,
    hsubscribers, h.connections]

end Mirrors

/-- **The parts of operations keep facets in agreement.** -/
theorem likeness_mirrors (ρ : String → String) (area : List String) (userId : String) :
    Likeness Eq ρ (· ∈ area) userId (Mirrors ρ area userId) where
  entries := Participant.likeness_eq
  config := Mirrors.config
  whereabouts := Mirrors.whereabouts
  session {e e' key} h hkey := by
    have hsession := h.session hkey
    cases hs : e.sessions.get? key with
    | none =>
        rw [hs] at hsession
        exact .inl ⟨rfl, hsession⟩
    | some s =>
        rw [hs] at hsession
        refine .inr ⟨s, s.renamed ρ, rfl, hsession, ?_, Session.like_eq_iff.mpr rfl⟩
        rw [h.keyed hs]
        exact hkey
  putSession {e e' s t} h hid hst := by
    obtain rfl := Session.like_eq_iff.mp hst
    have hkeyed : e.Keyed := h.keyed
    refine ⟨hkeyed.putSession s, h.config, h.connections, h.whereabouts, fun key hkey => ?_⟩
    rw [facet_putSession, facet_putSession]
    change (if key = s.id then _ else _) = _
    split
    · rw [h.facet key hkey]
      rfl
    · exact h.facet key hkey
  log {e e' sessionId} fact now h _ := by
    refine ⟨h.keyed, h.config, h.connections, h.whereabouts, fun key hkey => ?_⟩
    rw [facet_log, facet_log]
    split
    · have hold : ((e.facet key).renamed ρ).recording.getD (.empty key) =
          ((e.facet key).recording.getD (.empty key)).renamed ρ := by
        rw [Facet.renamed]
        cases (e.facet key).recording <;> rfl
      rw [h.facet key hkey, hold, Recording.push_renamed]
      rfl
    · exact h.facet key hkey
  announce {e e' sessionId} notice exclude now h _ := by
    refine ⟨h.keyed, h.config, h.connections, h.whereabouts, fun key hkey => ?_⟩
    rw [facet_announce, facet_announce]
    split
    · -- The message goes to the same people, so the one stream ends in the renamed message.
      have hstream (d : Dispatch) : ((e.facet key).renamed ρ).stream ++ [d.renamed ρ] =
          ((e.facet key).stream ++ [d]).map (Dispatch.renamed ρ) := by
        rw [List.map_append]
        rfl
      rw [h.facet key hkey, h.recipients hkey]
      exact congrArg (fun stream => { (e.facet key).renamed ρ with stream })
        (hstream ⟨⟨key, 0, now.toMillis, notice⟩, (e.gateway.recipients key exclude).map (·.1)⟩)
    · exact h.facet key hkey
  subscribe {e e' sessionId} h _ := by
    refine ⟨h.keyed, h.config, ?_, h.whereabouts, fun key hkey => ?_⟩
    · exact Gateway.connections_subscribe.trans
        (h.connections.trans Gateway.connections_subscribe.symm)
    · rw [facet_subscribe, facet_subscribe, h.facet key hkey]
      rfl
  unsubscribe {e e' sessionId} h _ := by
    refine ⟨h.keyed, h.config, ?_, h.whereabouts, fun key hkey => ?_⟩
    · exact Gateway.connections_unsubscribe.trans
        (h.connections.trans Gateway.connections_unsubscribe.symm)
    · rw [facet_unsubscribe, facet_unsubscribe, h.facet key hkey]
      rfl
  place {e e'} sessionId h := by
    refine ⟨h.keyed, h.config, h.connections, ?_, h.facet⟩
    exact (Table.get?_put_self _ _ _).trans (Table.get?_put_self _ _ _).symm
  displace {e e'} h := by
    refine ⟨h.keyed, h.config, h.connections, ?_, h.facet⟩
    rw [Engine.displace, Engine.displace, Table.get?_erase, Table.get?_erase, if_pos rfl,
      if_pos rfl]
  count h := ⟨h.keyed, h.config, h.connections, h.whereabouts, h.facet⟩

/-! ### Operations of different users on different sessions -/

/-- Two operations are independent in a state: no session is created, the callers are different, and
so are the sessions that the operations are about or the callers are in. -/
structure Independent (e : Engine) (userId : String) (a : Command) (otherId : String)
    (b : Command) : Prop where
  creation : isCreation a = false
  otherCreation : isCreation b = false
  caller : a.caller? = some userId
  otherCaller : b.caller? = some otherId
  ne : userId ≠ otherId
  disjoint : (e.area a).Disjoint (e.area b)

/-- The ids that two changes get are exchanged if the changes are made in the other order. Where
there are less than two changes, no ids are exchanged. -/
def exchange (e : Engine) (now : Clock) (a b : Command) : Equiv.Perm String :=
  if tookChange (e.step now a).1 ∧ tookChange (e.step now b).1 then
    Equiv.swap (changeName e.changesMade) (changeName (e.changesMade + 1))
  else Equiv.refl String

/-- Two engines hold the same: the same of every session, up to the ids of changes, the same
whereabouts, and the same connections. -/
structure HoldsSame (ρ : String → String) (e e' : Engine) : Prop where
  config : e'.config = e.config
  connections : e'.gateway.connections = e.gateway.connections
  sessionsMade : e'.sessionsMade = e.sessionsMade
  changesMade : e'.changesMade = e.changesMade
  whereabouts : ∀ userId, e'.whereabouts.get? userId = e.whereabouts.get? userId
  facet : ∀ key, e'.facet key = (e.facet key).renamed ρ

theorem exchange_comm (e : Engine) (now : Clock) (a b : Command) :
    e.exchange now a b = e.exchange now b a := by
  rw [exchange, exchange]
  simp only [and_comm]

theorem exchange_involutive (e : Engine) (now : Clock) (a b : Command) :
    Function.Involutive (e.exchange now a b) := by
  rw [exchange]
  split
  · exact DFunLike.congr_fun (Equiv.swap_swap _ _)
  · exact fun _ => rfl

/-- The exchange of two ids leaves those alone that were given out before. -/
theorem swap_changeName {m n k : Nat} (hm : k < m) (hn : k < n) :
    Equiv.swap (changeName m) (changeName n) (changeName k) = changeName k :=
  Equiv.swap_apply_of_ne_of_ne (changeName_injective.ne hm.ne) (changeName_injective.ne hn.ne)

/-- Only ids that were not given out yet are exchanged. -/
theorem exchange_changeName (now : Clock) (a b : Command) {n : Nat} (hn : n < e.changesMade) :
    e.exchange now a b (changeName n) = changeName n := by
  rw [exchange]
  split
  · exact swap_changeName hn (Nat.lt_succ_of_lt hn)
  · rfl

/-! ### Single steps -/

/-- What an operation concerns depends on where its caller is, and on nothing else. -/
theorem area_congr (hcreation : isCreation a = false) (hcaller : a.caller? = some userId)
    (hwhere : e'.whereabouts.get? userId = e.whereabouts.get? userId) :
    e'.area a = e.area a := by
  have hcallerSession : e'.callerSession? a = e.callerSession? a := by
    rw [callerSession?, callerSession?, hcaller]
    exact hwhere
  have htarget : e'.target? a = e.target? a := by
    cases a with
    | create => cases hcreation
    | leave | cursor =>
        obtain rfl := Option.some.inj hcaller
        exact hwhere
    | _ => rfl
  rw [area, area, htarget, hcallerSession]

/-- An operation, refused or not, changes only what it concerns. -/
theorem staysWithin_area (he : e.Keyed) (hcaller : a.caller? = some userId) (now : Clock) :
    StaysWithin (e.area a) userId e (e.step now a).2 := by
  rcases e.step_cases now a with ⟨error, hstep⟩ | ⟨answer, e', hok, hstep⟩
  · rw [hstep]
    exact .refl _ userId e
  · rw [hstep]
    refine (hok.staysWithin he hcaller).mono (List.append_subset.mpr
      ⟨List.subset_append_left _ _, ?_⟩)
    split
    · exact List.subset_append_right _ _
    · exact List.nil_subset _

/-- An operation creates no session and leaves the configuration as it is. -/
theorem step_counts (hcreation : isCreation a = false) (now : Clock) :
    (e.step now a).2.config = e.config ∧ (e.step now a).2.sessionsMade = e.sessionsMade := by
  rcases e.step_cases now a with ⟨error, hstep⟩ | ⟨answer, e', hok, hstep⟩
  · rw [hstep]
    exact ⟨rfl, rfl⟩
  · obtain ⟨hconfig, hsessions, -⟩ := hok.counts
    rw [hcreation] at hsessions
    rw [hstep]
    exact ⟨hconfig, hsessions⟩

/-- No operation of a user opens or closes a connection. -/
theorem Reachable.connections_step (he : e.Reachable config) (hcaller : a.caller? = some userId)
    (now : Clock) : (e.step now a).2.gateway.connections = e.gateway.connections := by
  rcases e.step_cases now a with ⟨error, hstep⟩ | ⟨answer, e', hok, hstep⟩
  · rw [hstep]
  · have hconnect : ∀ userId line, a ≠ .connect userId line := by
      rintro _ _ rfl
      cases hcaller
    have hdisconnect : ∀ userId, a ≠ .disconnect userId := by
      rintro _ rfl
      cases hcaller
    obtain ⟨sent, hsent⟩ := hok.sending he.coherent.balanced he.distinctSubscribers
      he.coherent.fresh hconnect hdisconnect
    rw [hstep]
    exact hsent.sends.connections

/-- An outcome tells of a change whatever the id of the change. -/
theorem tookChange_map_renamed (ρ : String → String) (outcome : Except Error Answer) :
    tookChange (outcome.map (Answer.renamed ρ)) = tookChange outcome := by
  cases outcome with
  | error => rfl
  | ok answer => cases answer <;> rfl

/-- Where no change was taken, there is nothing to rename in the answer. -/
theorem map_renamed_of_tookChange {outcome : Except Error Answer}
    (h : tookChange outcome = false) (ρ : String → String) :
    outcome.map (Answer.renamed ρ) = outcome := by
  cases outcome with
  | error => rfl
  | ok answer =>
      cases answer with
      | change => cases h
      | _ => rfl

/-! ### One operation after another -/

namespace Independent

variable {otherId : String}

theorem symm (h : e.Independent userId a otherId b) : e.Independent otherId b userId a where
  creation := h.otherCreation
  otherCreation := h.creation
  caller := h.otherCaller
  otherCaller := h.caller
  ne := h.ne.symm
  disjoint := h.disjoint.symm

/-- The other operation does not change what an operation concerns. -/
theorem area_eq (h : e.Independent userId a otherId b) (he : e.Keyed) (now : Clock) :
    (e.step now b).2.area a = e.area a :=
  area_congr h.creation h.caller
    ((staysWithin_area he h.otherCaller now).whereabouts userId h.ne)

/-- **Locality.** An operation after an independent one does what it does before it, except that a
change gets the id that is next then. -/
theorem mirrors (h : e.Independent userId a otherId b) (he : e.Reachable config) (now : Clock) :
    ((e.step now b).2.step now a).1 = (e.step now a).1.map (Answer.renamed (Equiv.swap
        (changeName e.changesMade) (changeName (e.step now b).2.changesMade))) ∧
    Mirrors (Equiv.swap (changeName e.changesMade) (changeName (e.step now b).2.changesMade))
      (e.area a) userId (e.step now a).2 ((e.step now b).2.step now a).2 := by
  have hkeyed : e.Keyed := he.coherent.balanced.id_eq
  have haside := staysWithin_area hkeyed h.otherCaller now
  have hmade := changesMade_step e now b
  have hbefore : Mirrors (Equiv.swap (changeName e.changesMade)
      (changeName (e.step now b).2.changesMade)) (e.area a) userId e (e.step now b).2 := by
    refine ⟨hkeyed, (step_counts h.otherCreation now).1, he.connections_step h.otherCaller now,
      haside.whereabouts userId h.ne, fun key hkey => ?_⟩
    rw [he.facet_renamed (fun n hn => swap_changeName hn (by omega)) key]
    exact haside.facet_eq (h.disjoint hkey)
  have hmatching := (likeness_mirrors _ (e.area a) userId).execute hbefore h.creation h.caller
    (fun _ hkey => hkey) (Equiv.swap_apply_left _ _).symm now
  obtain ⟨hanswer, hafter⟩ := hmatching.step hbefore
  exact ⟨(hanswer.mono fun _ _ hlike => Answer.like_eq_iff hlike).eq_map, hafter⟩

/-- If an operation takes a change, the ids exchanged are the next one before the other operation
and the next one after it. -/
theorem exchange_eq_swap (ha : tookChange (e.step now a).1 = true) :
    e.exchange now a b =
      Equiv.swap (changeName e.changesMade) (changeName (e.step now b).2.changesMade) := by
  rw [exchange, changesMade_step]
  cases hb : tookChange (e.step now b).1 with
  | true => exact if_pos ⟨ha, rfl⟩
  | false =>
      rw [if_neg (by simp)]
      exact (Equiv.swap_self _).symm

/-- **The ids are exchanged.** An operation after an independent one does what it does before it, up
to the exchange of the ids. -/
theorem step_after (h : e.Independent userId a otherId b) (he : e.Reachable config)
    (now : Clock) :
    ((e.step now b).2.step now a).1 =
      (e.step now a).1.map (Answer.renamed (e.exchange now a b)) ∧
    Mirrors (e.exchange now a b) (e.area a) userId (e.step now a).2
      ((e.step now b).2.step now a).2 := by
  obtain ⟨hanswer, hafter⟩ := h.mirrors he now
  cases ha : tookChange (e.step now a).1 with
  | true =>
      rw [exchange_eq_swap ha]
      exact ⟨hanswer, hafter⟩
  | false =>
      -- The operation was given no id, so nothing of what it has come to is renamed.
      have hmade : (e.step now a).2.changesMade = e.changesMade := by
        rw [changesMade_step, ha]
        rfl
      have hstep := he.step now a
      rw [map_renamed_of_tookChange ha] at hanswer ⊢
      refine ⟨hanswer, { hafter with facet := fun key hkey => ?_ }⟩
      rw [hafter.facet key hkey,
        hstep.facet_renamed (fun n hn => swap_changeName (by omega) ?_) key,
        hstep.facet_renamed (fun n hn => exchange_changeName now a b (by omega)) key]
      have := changesMade_step e now b
      omega

/-- An operation leaves alone what an independent one before it concerned. -/
theorem staysWithin_after (h : e.Independent userId a otherId b) (he : e.Reachable config)
    (now : Clock) :
    StaysWithin (e.area a) userId (e.step now b).2 ((e.step now b).2.step now a).2 := by
  rw [← h.area_eq he.coherent.balanced.id_eq now]
  exact staysWithin_area (he.step now b).coherent.balanced.id_eq h.caller now

/-- The facets after both operations, in either order. -/
theorem facet_eq (h : e.Independent userId a otherId b) (he : e.Reachable config) (now : Clock)
    (key : String) :
    ((e.step now b).2.step now a).2.facet key =
      (((e.step now a).2.step now b).2.facet key).renamed (e.exchange now a b) := by
  have hkeyed : e.Keyed := he.coherent.balanced.id_eq
  by_cases ha : key ∈ e.area a
  · rw [(h.step_after he now).2.facet key ha,
      (h.symm.staysWithin_after he now).facet_eq (h.disjoint ha)]
  by_cases hb : key ∈ e.area b
  · rw [(h.staysWithin_after he now).facet_eq ha, (h.symm.step_after he now).2.facet key hb,
      exchange_comm e now b a, Facet.renamed_involutive (exchange_involutive e now a b)]
  · rw [(h.staysWithin_after he now).facet_eq ha,
      (staysWithin_area hkeyed h.otherCaller now).facet_eq hb,
      (h.symm.staysWithin_after he now).facet_eq hb,
      (staysWithin_area hkeyed h.caller now).facet_eq ha,
      he.facet_renamed (fun n hn => exchange_changeName now a b hn)]

/-- The whereabouts after both operations, in either order. -/
theorem whereabouts_eq (h : e.Independent userId a otherId b) (he : e.Reachable config)
    (now : Clock) (user : String) :
    ((e.step now b).2.step now a).2.whereabouts.get? user =
      ((e.step now a).2.step now b).2.whereabouts.get? user := by
  have hkeyed : e.Keyed := he.coherent.balanced.id_eq
  by_cases ha : user = userId
  · subst ha
    rw [(h.step_after he now).2.whereabouts,
      (h.symm.staysWithin_after he now).whereabouts user h.ne]
  by_cases hb : user = otherId
  · subst hb
    rw [(h.staysWithin_after he now).whereabouts user ha, (h.symm.step_after he now).2.whereabouts]
  · rw [(h.staysWithin_after he now).whereabouts user ha,
      (staysWithin_area hkeyed h.otherCaller now).whereabouts user hb,
      (h.symm.staysWithin_after he now).whereabouts user hb,
      (staysWithin_area hkeyed h.caller now).whereabouts user ha]

/-- As many ids of changes are given out in either order. -/
theorem changesMade_after (h : e.Independent userId a otherId b) (he : e.Reachable config)
    (now : Clock) :
    ((e.step now b).2.step now a).2.changesMade = e.changesMade +
      (tookChange (e.step now b).1).toNat + (tookChange (e.step now a).1).toNat := by
  rw [changesMade_step, (h.step_after he now).1, tookChange_map_renamed, changesMade_step]

end Independent

/-- **Independent operations commute.** In every state, two operations of different users that
concern different sessions can be carried out in either order: each is answered the same, and the
engines hold the same afterwards, with the same messages sent about every session. If both are
changes, their ids are exchanged. -/
theorem independent_commute {otherId : String} (he : e.Reachable config)
    (h : e.Independent userId a otherId b) (now : Clock) :
    ((e.step now b).2.step now a).1 =
        (e.step now a).1.map (Answer.renamed (e.exchange now a b)) ∧
      ((e.step now a).2.step now b).1 =
        (e.step now b).1.map (Answer.renamed (e.exchange now a b)) ∧
      HoldsSame (e.exchange now a b) ((e.step now a).2.step now b).2
        ((e.step now b).2.step now a).2 := by
  have hanswer := (h.symm.step_after he now).1
  rw [exchange_comm] at hanswer
  refine ⟨(h.step_after he now).1, hanswer, ?_, ?_, ?_, ?_, h.whereabouts_eq he now,
    h.facet_eq he now⟩
  · rw [(step_counts h.creation now).1, (step_counts h.otherCreation now).1,
      (step_counts h.otherCreation now).1, (step_counts h.creation now).1]
  · rw [(he.step now b).connections_step h.caller now, he.connections_step h.otherCaller now,
      (he.step now a).connections_step h.otherCaller now, he.connections_step h.caller now]
  · rw [(step_counts h.creation now).2, (step_counts h.otherCreation now).2,
      (step_counts h.otherCreation now).2, (step_counts h.creation now).2]
  · rw [h.changesMade_after he now, h.symm.changesMade_after he now]
    omega

/-- A history after which Ada and Bob are in one session, and Cy and Dan in another one. -/
def twoPairs : History :=
  .still [(⟨0, 0⟩, .create "ada" "Ada" "primes" {}), (⟨1, 0⟩, .join "$s0" "bob" "Bob" .participant),
    (⟨2, 0⟩, .create "cy" "Cy" "primes" {}), (⟨3, 0⟩, .join "$s1" "dan" "Dan" .participant)]

/-- Bob writes a letter and so does Dan. Whoever comes first gets the first id, and there is no
other difference. -/
theorem independent_commute_twoPairs :
    let e := (Engine.new .default).after twoPairs
    let a := Command.change "$s0" "bob" (.insert 0 "b")
    let b := Command.change "$s1" "dan" (.insert 0 "d")
    e.Reachable .default ∧ e.Independent "bob" a "dan" b ∧
      (e.step (.still ⟨4, 0⟩) a).1 = .ok (.change ⟨"$c0", "bob", ⟨4, 0⟩, .insert 0 "b"⟩) ∧
      ((e.step (.still ⟨4, 0⟩) b).2.step (.still ⟨4, 0⟩) a).1 =
        .ok (.change ⟨"$c1", "bob", ⟨4, 0⟩, .insert 0 "b"⟩) ∧
      HoldsSame (Equiv.swap "$c0" "$c1") ((e.step (.still ⟨4, 0⟩) a).2.step (.still ⟨4, 0⟩) b).2
        ((e.step (.still ⟨4, 0⟩) b).2.step (.still ⟨4, 0⟩) a).2 := by
  intro e a b
  have he : e.Reachable .default := Reachable.new.after twoPairs
  have harea : e.area a = ["$s0", "$s0"] ∧ e.area b = ["$s1", "$s1"] := by decide +kernel
  have hindependent : e.Independent "bob" a "dan" b := by
    refine ⟨rfl, rfl, rfl, rfl, by decide, ?_⟩
    rw [harea.1, harea.2]
    simp
  have hanswer : (e.step (.still ⟨4, 0⟩) a).1 =
      .ok (.change ⟨"$c0", "bob", ⟨4, 0⟩, .insert 0 "b"⟩) := by
    decide +kernel
  have hexchange : e.exchange (.still ⟨4, 0⟩) a b = Equiv.swap "$c0" "$c1" := by
    have hmade : e.changesMade = 0 := by decide +kernel
    rw [exchange, if_pos (by decide +kernel), hmade]
    rfl
  obtain ⟨hfirst, -, hsame⟩ := independent_commute he hindependent (.still ⟨4, 0⟩)
  rw [hexchange] at hfirst hsame
  rw [hanswer] at hfirst
  exact ⟨he, hindependent, hanswer, hfirst, hsame⟩

end CoEdit.Engine
