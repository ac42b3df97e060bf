import CoEdit.Proofs.Delivery.Ledger
import CoEdit.Proofs.Engine.Events
import CoEdit.Proofs.Engine.Mirror
import CoEdit.Proofs.Engine.Routing

/-!
# The Numbers of the Messages

The messages of an engine are numbered one after the other, whatever session they are about. Whoever
listens in a session gets the messages of this session that are not their own doing, so the numbers
that reach them have gaps although nothing is lost. A gap is as wide as there are messages in
between that were for others alone.

## Main definitions

* `Message.isFor`: whether a message of a session is for a user in it.
* `Engine.Listens`: a user is online in a session, with a connection that takes everything.
* `Engine.Hears`: what comes in over a connection is what is for its user.

## Main results

* `Reachable.numbered`: the messages are numbered from zero in every state.
* `hears_meet`, `hears_through`: a listener gets what is for them, at every event and in every run.
* `gaps_explained`: how wide the gap between two messages is that are received one after the other.
* `gaps_without_loss`: such gaps do not mean that a message was lost.
-/

namespace CoEdit

open CoEdit.Time (Instant)

/-! ### Numbers -/

namespace Gateway

variable {g g' : Gateway} {sent : List Dispatch}

/-- The numbers of what is sent between two states go on from the messages sent before. -/
theorem Numbered.sequence_sent (h : g.Numbered) (h' : g'.Numbered) (hlog : g'.log = g.log ++ sent) :
    sent.map (fun d => d.message.sequence) = List.range' g.log.length sent.length := by
  have hlength : ∀ {g : Gateway}, g.Numbered → g.nextSequence = g.log.length := fun {g} hg => by
    have hlen := congrArg List.length hg
    rw [List.length_map, List.length_range] at hlen
    exact hlen.symm
  rw [Numbered, hlength h', hlog, List.map_append, h, hlength h, List.length_append,
    List.range_add] at h'
  have hsent := List.append_cancel_left h'
  rw [hsent, List.range'_eq_map_range]

end Gateway

namespace Engine.Reachable

variable {config : Config} {e : Engine}

/-- What holds of a new engine, is kept by every part of an operation, and is a matter of the books,
holds of every engine that comes about. -/
theorem of_part {I : Engine → Prop} (h : e.Reachable config) (hnew : I (Engine.new config))
    (hpart : ∀ {e e' : Engine}, Part e e' → I e → I e')
    (hsame : ∀ {e e' : Engine}, SameBooks e e' → I e → I e') : I e :=
  h.of_outcome hnew (fun _ hok he => hok.parts.invariant hpart he) hsame

theorem distinctSubscribers (h : e.Reachable config) : e.gateway.DistinctSubscribers := by
  refine h.of_part (I := fun e => e.gateway.DistinctSubscribers) (fun _ => List.nodup_nil)
    Part.distinctSubscribers fun hsame he key => ?_
  rw [Gateway.subscriptionsOf, hsame.subscriptions]
  exact he key

/-- The messages are numbered from zero in every state. -/
theorem numbered (h : e.Reachable config) : e.gateway.Numbered := by
  refine h.of_part (I := fun e => e.gateway.Numbered) rfl Part.numbered fun hsame he => ?_
  rw [Gateway.Numbered, hsame.log, hsame.nextSequence]
  exact he

end Engine.Reachable

/-! ### Neighbours in a list -/

/-- Between two neighbours that are left of a list, there is nothing that is left of it. -/
theorem exists_infix_of_filter {α : Type} {keep : α → Bool} {l : List α} {a b : α}
    (h : [a, b] <:+: l.filter keep) :
    ∃ passed, a :: passed ++ [b] <:+: l ∧ ∀ x ∈ passed, keep x = false := by
  obtain ⟨front, back, hfilter⟩ := h
  rw [List.append_assoc, List.cons_append, List.cons_append, List.nil_append, eq_comm] at hfilter
  obtain ⟨l₁, l₂, rfl, -, hrest⟩ := List.filter_eq_append_iff.mp hfilter
  obtain ⟨l₃, l₄, rfl, -, -, hrest⟩ := List.filter_eq_cons_iff.mp hrest
  obtain ⟨passed, l₅, rfl, hpassed, -, -⟩ := List.filter_eq_cons_iff.mp hrest
  refine ⟨passed, ⟨l₁ ++ l₃, l₅, ?_⟩, fun x hx => Bool.eq_false_iff.mpr (hpassed x hx)⟩
  simp only [List.append_assoc, List.cons_append, List.nil_append]

/-- Numbers in a row lie as far apart as there are numbers in between. -/
theorem eq_of_infix_range' {first count a b : Nat} {between : List Nat}
    (h : a :: between ++ [b] <:+: List.range' first count) : b = a + between.length + 1 := by
  obtain ⟨front, back, hrange⟩ := h
  obtain ⟨upTo, -, hupTo, -⟩ := List.range'_eq_append_iff.mp hrange.symm
  obtain ⟨start, -, -, hstretch⟩ := List.range'_eq_append_iff.mp hupTo.symm
  rw [List.cons_append, eq_comm] at hstretch
  obtain ⟨rfl, -, hrest⟩ := List.range'_eq_cons_iff.mp hstretch
  obtain ⟨len, -, rfl, hlast⟩ := List.range'_eq_append_iff.mp hrest.symm
  obtain ⟨rfl, -, -⟩ := List.range'_eq_cons_iff.mp hlast.symm
  rw [List.length_range']
  omega

/-! ### Who listens -/

/-- Whether a message is for a user in a session: it is about the session, and not about the user's
own doing. -/
def Message.isFor (m : Message) (sessionId userId : String) : Bool :=
  m.sessionId = sessionId && m.notice.actor? ≠ some userId

namespace Engine

variable {config : Config} {e e' : Engine} {userId sessionId : String} {k : Nat} {xs : List Event}

/-- A user is online in a session, and connected to an open mailbox without a bound. -/
structure Listens (e : Engine) (userId sessionId : String) (k : Nat) : Prop where
  present : e.IsPresent userId sessionId
  connected : e.gateway.connections.get? userId = some k
  mailbox : ∃ m, e.gateway.mailboxes[k]? = some m ∧ m.isOpen = true ∧ m.capacity = none

instance (e : Engine) (userId sessionId : String) (k : Nat) :
    Decidable (e.Listens userId sessionId k) :=
  decidable_of_iff ((∃ s ∈ e.sessions.get? sessionId, s.isOnline userId = true) ∧
      e.gateway.connections.get? userId = some k ∧
      ∃ m ∈ e.gateway.mailboxes[k]?, m.isOpen = true ∧ m.capacity = none)
    ⟨fun h => ⟨h.1, h.2.1, h.2.2⟩, fun h => ⟨h.present, h.connected, h.mailbox⟩⟩

/-- From one state to a later one, what comes into a mailbox for a user is what is sent that is for
them. What comes in is taken out in the meantime or held in the end. -/
def Hears (userId sessionId : String) (k : Nat) (e : Engine) (out : List Delivery) (e' : Engine) :
    Prop :=
  ∃ sent got, e'.gateway.log = e.gateway.log ++ sent ∧
    out ++ e'.gateway.heldIn k = e.gateway.heldIn k ++ got ∧
    (got.filter (·.userId = userId)).map (·.message) =
      (sent.map (·.message)).filter (·.isFor sessionId userId)

/-- Where nothing is sent, nothing has to come in. -/
theorem Hears.nothing {out : List Delivery} (hlog : e'.gateway.log = e.gateway.log)
    (hheld : out ++ e'.gateway.heldIn k = e.gateway.heldIn k) :
    Hears userId sessionId k e out e' :=
  ⟨[], [], hlog.trans (List.append_nil _).symm, hheld.trans (List.append_nil _).symm, rfl⟩

/-- What is heard first and what is heard later. -/
theorem Hears.trans {e₁ e₂ e₃ : Engine} {out₁ out₂ : List Delivery}
    (h₁ : Hears userId sessionId k e₁ out₁ e₂) (h₂ : Hears userId sessionId k e₂ out₂ e₃) :
    Hears userId sessionId k e₁ (out₁ ++ out₂) e₃ := by
  obtain ⟨sent₁, got₁, hlog₁, hin₁, hheard₁⟩ := h₁
  obtain ⟨sent₂, got₂, hlog₂, hin₂, hheard₂⟩ := h₂
  refine ⟨sent₁ ++ sent₂, got₁ ++ got₂, ?_, ?_, ?_⟩
  · rw [hlog₂, hlog₁, List.append_assoc]
  · rw [List.append_assoc, hin₂, ← List.append_assoc, hin₁, List.append_assoc]
  · rw [List.filter_append, List.map_append, hheard₁, hheard₂, List.map_append, List.filter_append]

/-! ### At one event -/

/-- What comes to a user of a message: the message, if they are in its audience. -/
theorem filter_deliveries {d : Dispatch} {connections : Table Nat} (hdistinct : d.audience.Nodup)
    (hk : connections.get? userId = some k) :
    ((d.deliveries connections k).filter (·.userId = userId)).map (·.message) =
      if userId ∈ d.audience then [d.message] else [] := by
  have huser : (d.audience.filter (connections.get? · = some k)).filter (· = userId) =
      if userId ∈ d.audience then [userId] else [] := by
    rw [List.filter_comm, List.filter_eq, hdistinct.count]
    split <;> simp [hk]
  rw [Dispatch.deliveries, List.filter_map]
  change (((d.audience.filter _).filter (· = userId)).map _).map _ = _
  rw [huser]
  split <;> rfl

/-- A listener is in the audience of exactly the messages that are for them. -/
theorem Routes.mem_audience_iff {m : Moment} {sent : List Dispatch} {d : Dispatch}
    (h : e.Routes m sent e') (he' : e'.Balanced) (hlistens : e'.Listens userId sessionId k)
    (hd : d ∈ sent) : userId ∈ d.audience ↔ d.message.isFor sessionId userId = true := by
  obtain ⟨_, _, _, s', -, -, -, hs', -, haudience⟩ := h.audience d hd
  have hlocated := (he'.present_iff userId sessionId).mp hlistens.present
  have honline : s'.isOnline userId = true ↔ d.message.sessionId = sessionId := by
    rw [he'.isOnline_iff hs']
    constructor
    · exact fun hthere => Balanced.located_unique hthere hlocated
    · rintro rfl
      exact hlocated
  have hconnected : e'.gateway.isConnected userId = true := by
    rw [Gateway.isConnected, Table.contains, hlistens.connected]
    rfl
  rw [haudience, honline, Message.isFor, Bool.and_eq_true, decide_eq_true_iff, decide_eq_true_iff,
    hconnected]
  exact and_congr_right fun _ => and_iff_right rfl

/-- **At a command**, a listener gets what is for them. -/
theorem Routes.hears {m : Moment} {sent : List Dispatch} (h : e.Routes m sent e')
    (he' : e'.Balanced) (hbefore : e.Listens userId sessionId k)
    (hafter : e'.Listens userId sessionId k) : Hears userId sessionId k e [] e' := by
  obtain ⟨mailbox, hmailbox, hopen, hbound⟩ := hbefore.mailbox
  have hgained := h.noneMissed k mailbox hmailbox hopen hbound
  refine ⟨sent, sent.flatMap (·.deliveries e'.gateway.connections k), h.log, ?_, ?_⟩
  · rw [List.nil_append, Gateway.heldIn, Gateway.heldIn, hgained, hmailbox]
    rfl
  · have heach : ∀ d ∈ sent,
        ((d.deliveries e'.gateway.connections k).filter (·.userId = userId)).map (·.message) =
          [d.message].filter (·.isFor sessionId userId) := by
      intro d hd
      obtain ⟨_, _, _, _, -, -, -, -, hdistinct, -⟩ := h.audience d hd
      rw [filter_deliveries hdistinct hafter.connected, List.filter_singleton, cond_eq_ite]
      exact if_congr (h.mem_audience_iff he' hafter hd) rfl rfl
    clear h hgained
    induction sent with
    | nil => rfl
    | cons d sent ih =>
        rw [List.flatMap_cons, List.filter_append, List.map_append, heach d List.mem_cons_self,
          ih fun d' hd' => heach d' (List.mem_cons_of_mem _ hd'), ← List.filter_append]
        rfl

/-- **At every event**, a listener who stays gets what is for them. -/
theorem hears_meet (he : e.Reachable config) (x : Event) (hbefore : e.Listens userId sessionId k)
    (hafter : (e.meet x).Listens userId sessionId k) :
    Hears userId sessionId k e (taken k e x) (e.meet x) := by
  cases x with
  | give now command =>
      obtain ⟨sent, hroutes⟩ :=
        he.coherent.exists_routes he.distinctSubscribers now command
      exact hroutes.hears (he.coherent.step now command).balanced hbefore hafter
  | openLine line => exact .nothing (by cases line <;> rfl) (Gateway.heldIn_openLine line)
  | drain mailbox =>
      have hlog : (e.gateway.drain mailbox).2.log = e.gateway.log := by
        rw [Gateway.drain]
        split <;> rfl
      refine .nothing hlog ?_
      rw [taken]
      by_cases hk : mailbox = k
      · subst hk
        rw [if_pos rfl, meet]
        dsimp only
        rw [Gateway.drain_eq_receive, Gateway.receive_append]
      · rw [if_neg hk, meet]
        dsimp only
        rw [Gateway.drain_eq_receive, Gateway.heldIn_receive_of_ne (Ne.symm hk)]
        rfl
  | hangUp mailbox =>
      -- The mailbox of a listener is open, so it is another one that is closed.
      have hk : k ≠ mailbox := by
        rintro rfl
        obtain ⟨m, hm, hopen, -⟩ := hafter.mailbox
        rw [meet, Gateway.getElem?_hangUp, if_pos rfl] at hm
        obtain ⟨_, -, rfl⟩ := Option.map_eq_some_iff.mp hm
        cases hopen
      refine .nothing rfl ?_
      rw [meet, Gateway.heldIn_hangUp, if_neg hk]
      rfl
  | reorder => exact .nothing rfl rfl

/-! ### In a run -/

/-- **In every run**, a listener who stays gets what is for them. -/
theorem hears_through (he : e.Reachable config)
    (hlistens : ∀ ys, ys <+: xs → (e.through ys).Listens userId sessionId k) :
    Hears userId sessionId k e (e.received k xs) (e.through xs) := by
  induction xs using List.reverseRecOn with
  | nil => exact .nothing rfl rfl
  | append_singleton xs x ih =>
      have hprefix : xs <+: xs ++ [x] := List.prefix_append xs [x]
      have hlast := hears_meet (he.through xs) x (hlistens xs hprefix)
        (through_concat e xs x ▸ hlistens _ (List.prefix_refl _))
      rw [received_concat, through_concat]
      exact (ih fun ys hys => hlistens ys (hys.trans hprefix)).trans hlast

/-! ### Gaps -/

/-- **Gaps are the messages for others.** While a user stays online in a session, with a connection
that takes everything, they receive the messages sent about the session that are not their own
doing, all of them and in order. The numbers of two messages that they receive one after the other
are apart by the messages sent in between, none of which was for them: there is a gap exactly if
there was such a message. -/
theorem gaps_explained (he : e.Reachable config)
    (hlistens : ∀ ys, ys <+: xs → (e.through ys).Listens userId sessionId k) :
    ∃ sent got, (e.through xs).gateway.log = e.gateway.log ++ sent ∧
      e.received k xs ++ (e.through xs).gateway.heldIn k = e.gateway.heldIn k ++ got ∧
      (got.filter (·.userId = userId)).map (·.message) =
        (sent.map (·.message)).filter (·.isFor sessionId userId) ∧
      ∀ a b, [a, b] <:+: (got.filter (·.userId = userId)).map (·.message) →
        ∃ passed, a :: passed ++ [b] <:+: sent.map (·.message) ∧
          (∀ m ∈ passed, m.isFor sessionId userId = false) ∧
          b.sequence = a.sequence + passed.length + 1 := by
  obtain ⟨sent, got, hlog, hin, hheard⟩ := hears_through he hlistens
  refine ⟨sent, got, hlog, hin, hheard, fun a b hab => ?_⟩
  rw [hheard] at hab
  obtain ⟨passed, hinfix, hpassed⟩ := exists_infix_of_filter hab
  refine ⟨passed, hinfix, hpassed, ?_⟩
  have hnumbers : (sent.map (·.message)).map Message.sequence =
      List.range' e.gateway.log.length sent.length := by
    rw [List.map_map]
    exact he.numbered.sequence_sent (he.through xs).numbered hlog
  have hrow := hinfix.map Message.sequence
  rw [hnumbers, List.map_append, List.map_cons] at hrow
  rw [eq_of_infix_range' hrow, List.length_map]

/-- Bob opens a session and is connected. -/
def bobConnects : List Event :=
  [.give (.still ⟨0, 0⟩) (.create "bob" "Bob" "primes" {}),
    .give (.still ⟨1, 0⟩) (.connect "bob" .unbounded)]

/-- Bob asks for help. Cy opens another session and asks for help there, and Bob asks again. -/
def threeCalls : List Event :=
  [.give (.still ⟨2, 0⟩) (.assist "$s0" "bob" none),
    .give (.still ⟨3, 0⟩) (.create "cy" "Cy" "primes" {}),
    .give (.still ⟨4, 0⟩) (.assist "$s1" "cy" none),
    .give (.still ⟨5, 0⟩) (.assist "$s0" "bob" none)]

theorem reachable_bobConnects : ((Engine.new .default).through bobConnects).Reachable .default :=
  Reachable.new.through bobConnects

theorem listens_threeCalls (ys : List Event) (hys : ys <+: threeCalls) :
    (((Engine.new .default).through bobConnects).through ys).Listens "bob" "$s0" 0 := by
  have hall : ∀ ys ∈ threeCalls.inits,
      (((Engine.new .default).through bobConnects).through ys).Listens "bob" "$s0" 0 := by
    decide +kernel
  exact hall ys ((List.mem_inits _ _).mpr hys)

/-- What comes in for Bob: the messages 0 and 2. -/
theorem heldIn_threeCalls :
    let e := (Engine.new .default).through bobConnects
    e.gateway.heldIn 0 = [] ∧ e.received 0 threeCalls = [] ∧
      ((e.through threeCalls).gateway.heldIn 0).map (·.message) =
        [⟨"$s0", 0, 2000, .helpRequested "bob" "Bob" none⟩,
          ⟨"$s0", 2, 5000, .helpRequested "bob" "Bob" none⟩] := by
  decide +kernel

/-- Between them there is message 1, which was for Cy. -/
theorem gaps_explained_threeCalls :
    let e := (Engine.new .default).through bobConnects
    e.Reachable .default ∧ (∀ ys, ys <+: threeCalls → (e.through ys).Listens "bob" "$s0" 0) ∧
    ∃ sent got, (e.through threeCalls).gateway.log = e.gateway.log ++ sent ∧
      e.received 0 threeCalls ++ (e.through threeCalls).gateway.heldIn 0 =
        e.gateway.heldIn 0 ++ got ∧
      (got.filter (·.userId = "bob")).map (·.message) =
        (sent.map (·.message)).filter (·.isFor "$s0" "bob") ∧
      ∀ a b, [a, b] <:+: (got.filter (·.userId = "bob")).map (·.message) →
        ∃ passed, a :: passed ++ [b] <:+: sent.map (·.message) ∧
          (∀ m ∈ passed, m.isFor "$s0" "bob" = false) ∧
          b.sequence = a.sequence + passed.length + 1 :=
  ⟨reachable_bobConnects, listens_threeCalls,
    gaps_explained reachable_bobConnects listens_threeCalls⟩

/-- So a gap in the numbers that somebody receives does not mean that they lost a message. -/
theorem gaps_without_loss :
    ¬∀ (config : Config) (e : Engine) (userId sessionId : String) (k : Nat) (xs : List Event),
      e.Reachable config → (∀ ys, ys <+: xs → (e.through ys).Listens userId sessionId k) →
      ∀ got, e.received k xs ++ (e.through xs).gateway.heldIn k = e.gateway.heldIn k ++ got →
        ∀ a b, [a, b] <:+: (got.filter (·.userId = userId)).map (·.message) →
          b.sequence = a.sequence + 1 := by
  intro hconsecutive
  obtain ⟨hbefore, hreceived, hheld⟩ := heldIn_threeCalls
  have hbob : ((((Engine.new .default).through bobConnects).through threeCalls).gateway.heldIn
      0).filter (·.userId = "bob") =
      (((Engine.new .default).through bobConnects).through threeCalls).gateway.heldIn 0 := by
    decide +kernel
  have hnext := hconsecutive .default _ "bob" "$s0" 0 threeCalls reachable_bobConnects
    listens_threeCalls _ (by rw [hreceived, hbefore])
    ⟨"$s0", 0, 2000, .helpRequested "bob" "Bob" none⟩
    ⟨"$s0", 2, 5000, .helpRequested "bob" "Bob" none⟩
    (by rw [hbob, hheld])
  cases hnext

end Engine

end CoEdit
