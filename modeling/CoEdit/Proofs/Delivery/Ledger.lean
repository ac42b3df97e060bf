import CoEdit.Proofs.Delivery.Past
import Mathlib.Algebra.GroupWithZero.Nat

/-!
# The Delivery Ledger

What has become of all messages that were sent: who was to get them, which mailboxes took them,
which refused them, and what the receivers have taken out. Every entry can be told from what has
been done to the gateway before.

## Main definitions

* `Mailbox.takes`: those of some deliveries that a mailbox takes.
* `Gateway.Admits`: whether a mailbox takes the message that is offered to it for a user.
* `Gateway.reports`, `Gateway.accepted`, `Gateway.received`: what was reported of the messages
  sent, what a mailbox has taken, and what has been taken out of it.
* `Gateway.due`: what a mailbox should have taken for a user.
* `Gateway.Accounted`: the ledger is in order.

## Main results

* `filter_takes`: a mailbox takes a message for a user if there is room once the users before them
  have been served.
* `failed_deliver`: the failures are the offers that find no room.
* `balance`: what a mailbox has taken is what was taken out of it and what it holds.
* `accounted`: the ledger is in order, whatever has been done.
-/

namespace CoEdit

open CoEdit.Time (Instant)

/-! ### Mailboxes that are offered messages -/

namespace Mailbox

variable {m : Mailbox} {message : Message} {userId : String}

/-- Those of some deliveries that a mailbox takes when they are offered one after the other. -/
def takes (m : Mailbox) : List Delivery → List Delivery
  | [] => []
  | d :: rest => if m.accepts then d :: (m.take d).takes rest else m.takes rest

theorem accepts_iff : m.accepts = true ↔
    m.isOpen = true ∧ ∀ bound, m.capacity = some bound → m.held.length < bound := by
  rw [accepts, Bool.and_eq_true]
  refine and_congr_right fun _ => ?_
  cases m.capacity <;> simp

theorem take_of_accepts (h : m.accepts = true) (d : Delivery) :
    m.take d = { m with held := m.held ++ [d] } := by
  rw [take, offer?, if_pos h, Option.getD_some]

theorem take_of_refuses (h : m.accepts = false) (d : Delivery) : m.take d = m := by
  rw [take, offer?, if_neg (Bool.eq_false_iff.mp h), Option.getD_none]

/-- What a mailbox takes is put at the end of what it holds. -/
theorem takeAll_eq (m : Mailbox) (deliveries : List Delivery) :
    m.takeAll deliveries = { m with held := m.held ++ m.takes deliveries } := by
  induction deliveries generalizing m with
  | nil => rw [takes, List.append_nil, takeAll_nil]
  | cons d rest ih =>
      change (m.take d).takeAll rest = _
      cases haccepts : m.accepts with
      | true =>
          have htake := take_of_accepts haccepts d
          rw [ih, takes, if_pos haccepts, htake, List.append_assoc]
          rfl
      | false =>
          rw [take_of_refuses haccepts, ih, takes, if_neg (Bool.eq_false_iff.mp haccepts)]

/-- A closed mailbox takes nothing. -/
theorem takes_of_closed (h : m.isOpen = false) (deliveries : List Delivery) :
    m.takes deliveries = [] := by
  have haccepts : ¬m.accepts = true := by simp [accepts, h]
  induction deliveries with
  | nil => rfl
  | cons d rest ih => rw [takes, if_neg haccepts, ih]

/-- **When a mailbox takes a message for a user.** The message is offered to a mailbox for different
users, one after the other. The mailbox takes it for one of them just if there is room once it has
been offered the message for the users before. -/
theorem filter_takes (m : Mailbox) (message : Message) (userId : String) {users : List String}
    (hdistinct : users.Nodup) :
    (m.takes (users.map (⟨·, message⟩))).filter (·.userId = userId) =
      if userId ∈ users ∧
          (m.takeAll ((users.takeWhile (· ≠ userId)).map (⟨·, message⟩))).accepts = true
      then [⟨userId, message⟩] else [] := by
  induction users generalizing m with
  | nil => rfl
  | cons user rest ih =>
      obtain ⟨hnew, hrest⟩ := List.nodup_cons.mp hdistinct
      by_cases huser : user = userId
      · subst huser
        -- Whoever comes later is somebody else.
        have hlater : ∀ m : Mailbox,
            (m.takes (rest.map (⟨·, message⟩))).filter (·.userId = user) = [] := by
          intro m
          rw [ih m hrest, if_neg fun h => hnew h.1]
        have hfirst : (user :: rest).takeWhile (· ≠ user) = [] :=
          List.takeWhile_cons_of_neg (by simp)
        rw [hfirst, List.map_cons, takes, List.map_nil, takeAll_nil]
        cases haccepts : m.accepts with
        | true => simp [hlater]
        | false => simp [hlater]
      · have hfirst : (user :: rest).takeWhile (· ≠ userId) =
            user :: rest.takeWhile (· ≠ userId) :=
          List.takeWhile_cons_of_pos (by simpa using huser)
        have hstep : (m.takes ((user :: rest).map (⟨·, message⟩))).filter (·.userId = userId) =
            ((m.take ⟨user, message⟩).takes (rest.map (⟨·, message⟩))).filter
              (·.userId = userId) := by
          rw [List.map_cons, takes]
          cases haccepts : m.accepts with
          | true => rw [if_pos rfl, List.filter_cons_of_neg (by simpa using huser)]
          | false => rw [if_neg Bool.false_ne_true, take_of_refuses haccepts]
        have hmem : userId ∈ rest ↔ userId ∈ user :: rest := by
          simp [Ne.symm huser]
        rw [hstep, ih _ hrest, hfirst]
        exact if_congr (and_congr_left fun _ => hmem) rfl rfl

end Mailbox

namespace Gateway

variable {g : Gateway} {capacity k : Nat} {past : Past} {userId sessionId : String}
  {notice : Notice} {exclude : Option String} {now : Instant} {message : Message}

/-! ### Whether there is room for a message -/

/-- The message that a broadcast would send. -/
def nextMessage (g : Gateway) (sessionId : String) (notice : Notice) (now : Instant) : Message :=
  ⟨sessionId, g.nextSequence, now.toMillis, notice⟩

/-- The users in the audience of a session who are connected to a mailbox. -/
def audienceAt (g : Gateway) (sessionId : String) (exclude : Option String) (k : Nat) :
    List String :=
  (g.audience sessionId exclude).filter (g.connections.get? · = some k)

/-- The mailbox of a user as a message finds it: other users in the audience may share the mailbox,
and those who come before are served first. -/
def found (g : Gateway) (message : Message) (exclude : Option String) (userId : String) :
    Option Mailbox :=
  (g.connections.get? userId).bind fun k => g.mailboxes[k]?.map fun m =>
    m.takeAll (((g.audienceAt message.sessionId exclude k).takeWhile (· ≠ userId)).map
      (⟨·, message⟩))

/-- Whether a message finds the mailbox of a user open and, if there is a bound, with fewer messages
in it. -/
def Admits (g : Gateway) (message : Message) (exclude : Option String) (userId : String) : Prop :=
  ∃ m, g.found message exclude userId = some m ∧ m.isOpen = true ∧
    ∀ bound, m.capacity = some bound → m.held.length < bound

theorem admits_iff :
    g.Admits message exclude userId ↔
      (g.found message exclude userId).any Mailbox.accepts = true := by
  rw [Admits, Option.any_eq_true]
  simp only [Mailbox.accepts_iff]

instance (g : Gateway) (message : Message) (exclude : Option String) (userId : String) :
    Decidable (g.Admits message exclude userId) :=
  decidable_of_iff _ admits_iff.symm

/-- Where nobody shares a mailbox, a message finds it as it is. -/
theorem found_of_alone (hk : g.connections.get? userId = some k)
    (halone : ∀ other, g.connections.get? other = some k → other = userId) :
    g.found message exclude userId = g.mailboxes[k]? := by
  have hnone : (g.audienceAt message.sessionId exclude k).takeWhile (· ≠ userId) = [] := by
    cases haudience : g.audienceAt message.sessionId exclude k with
    | nil => rfl
    | cons user rest =>
        have hmem : user ∈ g.audienceAt message.sessionId exclude k := by simp [haudience]
        obtain ⟨-, hconnected⟩ := List.mem_filter.mp hmem
        have huser := halone user (by simpa using hconnected)
        exact List.takeWhile_cons_of_neg (by simp [huser])
  rw [found, hk, Option.bind_some, hnone]
  exact Option.map_id'

/-! ### What a broadcast does -/

/-- What a mailbox takes of a broadcast. -/
def gain (g : Gateway) (message : Message) (exclude : Option String) (k : Nat) : List Delivery :=
  (g.mailboxes[k]?.map fun m : Mailbox =>
    m.takes ((g.audienceAt message.sessionId exclude k).map (⟨·, message⟩))).getD []

theorem heldIn_broadcast (g : Gateway) (sessionId : String) (notice : Notice)
    (exclude : Option String) (now : Instant) (k : Nat) :
    (g.broadcast sessionId notice exclude now).2.heldIn k =
      g.heldIn k ++ g.gain (g.nextMessage sessionId notice now) exclude k := by
  have hsends := (sends_broadcast g sessionId notice exclude now).mailboxes k
  rw [List.flatMap_singleton] at hsends
  rw [heldIn, heldIn, gain, hsends]
  cases g.mailboxes[k]? with
  | none => rfl
  | some m => exact congrArg Mailbox.held (m.takeAll_eq _)

/-- **What a mailbox takes of a broadcast for one user**: the message, if the user is connected to
the mailbox and in the audience, and if there is room. -/
theorem filter_gain (hdistinct : g.DistinctSubscribers) (message : Message)
    (exclude : Option String) (k : Nat) (userId : String) :
    (g.gain message exclude k).filter (·.userId = userId) =
      if g.connections.get? userId = some k ∧ userId ∈ g.audience message.sessionId exclude ∧
        g.Admits message exclude userId then [⟨userId, message⟩] else [] := by
  have hnodup : (g.audienceAt message.sessionId exclude k).Nodup :=
    (hdistinct.nodup_audience message.sessionId exclude).filter _
  have hmem : userId ∈ g.audienceAt message.sessionId exclude k ↔
      userId ∈ g.audience message.sessionId exclude ∧ g.connections.get? userId = some k := by
    rw [audienceAt, List.mem_filter, decide_eq_true_iff]
  by_cases hk : g.connections.get? userId = some k
  · rw [gain]
    cases hm : g.mailboxes[k]? with
    | none =>
        have hrefused : ¬g.Admits message exclude userId := by
          rw [admits_iff, found, hk, Option.bind_some, hm]
          exact Bool.false_ne_true
        rw [if_neg fun h => hrefused h.2.2]
        rfl
    | some m =>
        rw [Option.map_some, Option.getD_some, Mailbox.filter_takes m message userId hnodup]
        refine if_congr ?_ rfl rfl
        rw [hmem, admits_iff, found, hk, Option.bind_some, hm]
        simp
  · have hnone : userId ∉ g.audienceAt message.sessionId exclude k := fun h => hk (hmem.mp h).2
    rw [if_neg fun h => hk h.1, gain]
    cases g.mailboxes[k]? with
    | none => rfl
    | some m =>
        rw [Option.map_some, Option.getD_some, Mailbox.filter_takes m message userId hnodup,
          if_neg fun h => hnone h.1]

/-- Every offer is either taken or refused. -/
theorem delivered_add_failed (mailboxes : List Mailbox) (message : Message)
    (recipients : List (String × Nat)) :
    (deliver mailboxes message recipients).1 + (deliver mailboxes message recipients).2.1 =
      recipients.length := by
  induction recipients generalizing mailboxes with
  | nil => rfl
  | cons r rest ih =>
      have hrest := ih (offer mailboxes r.2 ⟨r.1, message⟩).2
      rw [deliver, List.length_cons, ← hrest]
      dsimp only
      split
      · exact Nat.add_right_comm _ _ _
      · exact (Nat.add_assoc _ _ _).symm

/-- Those among some recipients who are connected to the mailbox of one of them and come before
them. -/
def before (recipients : List (String × Nat)) (r : String × Nat) : List String :=
  ((recipients.filter (·.2 = r.2)).map (·.1)).takeWhile (· ≠ r.1)

theorem before_self (r : String × Nat) (rest : List (String × Nat)) :
    before (r :: rest) r = [] := by
  rw [before, List.filter_cons_of_pos (by simp), List.map_cons,
    List.takeWhile_cons_of_neg (by simp)]

/-- Somebody who is served at the same mailbox comes before, -/
theorem before_cons_of_eq {r r' : String × Nat} (hmailbox : r'.2 = r.2) (huser : r.1 ≠ r'.1)
    (rest : List (String × Nat)) : before (r :: rest) r' = r.1 :: before rest r' := by
  rw [before, List.filter_cons_of_pos (by simpa using hmailbox.symm), List.map_cons,
    List.takeWhile_cons_of_pos (by simpa using huser), before]

/-- and who is served at another one does not. -/
theorem before_cons_of_ne {r r' : String × Nat} (hmailbox : r'.2 ≠ r.2)
    (rest : List (String × Nat)) : before (r :: rest) r' = before rest r' := by
  rw [before, List.filter_cons_of_neg (by simpa using Ne.symm hmailbox), before]

/-- The mailbox of a recipient as a message finds it: those before have been served. -/
def metBy (mailboxes : List Mailbox) (message : Message) (recipients : List (String × Nat))
    (r : String × Nat) : Option Mailbox :=
  mailboxes[r.2]?.map fun m => m.takeAll ((before recipients r).map (⟨·, message⟩))

/-- The first offer finds its mailbox as it is. -/
theorem metBy_first (mailboxes : List Mailbox) (message : Message) (r : String × Nat)
    (rest : List (String × Nat)) : metBy mailboxes message (r :: rest) r = mailboxes[r.2]? := by
  rw [metBy, before_self]
  cases mailboxes[r.2]? with
  | none => rfl
  | some m => exact congrArg some m.takeAll_nil

/-- The others find the mailboxes as they are after it. -/
theorem metBy_later (mailboxes : List Mailbox) (message : Message) {r r' : String × Nat}
    (huser : r.1 ≠ r'.1) (rest : List (String × Nat)) :
    metBy mailboxes message (r :: rest) r' =
      metBy (offer mailboxes r.2 ⟨r.1, message⟩).2 message rest r' := by
  rw [metBy, metBy, getElem?_offer]
  by_cases hmailbox : r'.2 = r.2
  · rw [if_pos hmailbox, before_cons_of_eq hmailbox huser, Option.map_map]
    rfl
  · rw [if_neg hmailbox, before_cons_of_ne hmailbox]

/-- An offer is taken where the mailbox has room. -/
theorem offer_fst (mailboxes : List Mailbox) (k : Nat) (d : Delivery) :
    (offer mailboxes k d).1 = mailboxes[k]?.any Mailbox.accepts := by
  rw [offer]
  cases mailboxes[k]? with
  | none => rfl
  | some m =>
      rw [Option.bind_some, Option.any_some, Mailbox.offer?]
      cases m.accepts <;> rfl

/-- **The failures of a broadcast** are the offers that find no room. -/
theorem failed_deliver (mailboxes : List Mailbox) (message : Message)
    {recipients : List (String × Nat)} (hdistinct : (recipients.map (·.1)).Nodup) :
    (deliver mailboxes message recipients).2.1 = recipients.countP fun r =>
      !(metBy mailboxes message recipients r).any Mailbox.accepts := by
  induction recipients generalizing mailboxes with
  | nil => rfl
  | cons r rest ih =>
      rw [List.map_cons, List.nodup_cons] at hdistinct
      obtain ⟨hnew, hrest⟩ := hdistinct
      have hcount : (rest.countP fun r' =>
            !(metBy mailboxes message (r :: rest) r').any Mailbox.accepts) =
          (deliver (offer mailboxes r.2 ⟨r.1, message⟩).2 message rest).2.1 := by
        rw [ih _ hrest]
        refine List.countP_congr fun r' hr' => ?_
        have huser : r.1 ≠ r'.1 := fun h => hnew (h ▸ List.mem_map_of_mem hr')
        rw [metBy_later mailboxes message huser]
      rw [List.countP_cons, hcount, metBy_first, deliver]
      dsimp only
      rw [offer_fst]
      cases mailboxes[r.2]?.any Mailbox.accepts <;> rfl

/-- **The report of a broadcast.** Everybody in the audience is counted once, as served or as
failed, and those fail whose mailboxes have no room. -/
theorem report_broadcast (hdistinct : g.DistinctSubscribers) (sessionId : String)
    (notice : Notice) (exclude : Option String) (now : Instant) :
    let report := (g.broadcast sessionId notice exclude now).1
    report.sequence = g.nextSequence ∧
    report.delivered + report.failed = (g.audience sessionId exclude).length ∧
    report.failed = (g.audience sessionId exclude).countP fun user =>
      ¬g.Admits (g.nextMessage sessionId notice now) exclude user := by
  have hnodup := hdistinct.nodup_audience sessionId exclude
  refine ⟨rfl, ?_, ?_⟩
  · rw [audience, List.length_map]
    exact delivered_add_failed g.mailboxes _ (g.recipients sessionId exclude)
  · change (deliver g.mailboxes (g.nextMessage sessionId notice now)
      (g.recipients sessionId exclude)).2.1 = _
    rw [failed_deliver g.mailboxes _ hnodup, audience, List.countP_map]
    refine List.countP_congr fun r hr => ?_
    obtain ⟨user, -, hmap⟩ := List.mem_filterMap.mp hr
    obtain ⟨k, hk, rfl⟩ := Option.map_eq_some_iff.mp hmap
    have hbefore : before (g.recipients sessionId exclude) (user, k) =
        (g.audienceAt sessionId exclude k).takeWhile (· ≠ user) := by
      rw [before, recipients_eq, audienceAt]
    rw [metBy, hbefore]
    simp [admits_iff, found, hk, nextMessage]

/-! ### The entries of the ledger -/

/-- What was reported of the messages sent, oldest first. -/
def reports (capacity : Nat) : Past → List Report
  | [] => []
  | .broadcast sessionId notice exclude now :: past =>
    reports capacity past ++ [((upon capacity past).broadcast sessionId notice exclude now).1]
  | _ :: past => reports capacity past

/-- What a mailbox has taken: all that has been added to it, oldest first. -/
def accepted (capacity k : Nat) : Past → List Delivery
  | [] => []
  | .broadcast sessionId notice exclude now :: past =>
    let g := upon capacity past
    accepted capacity k past ++
      ((g.broadcast sessionId notice exclude now).2.heldIn k).drop (g.heldIn k).length
  | _ :: past => accepted capacity k past

/-- What has been taken out of a mailbox, oldest first. -/
def received (capacity k : Nat) : Past → List Delivery
  | [] => []
  | .drain mailbox :: past =>
    received capacity k past ++ if mailbox = k then ((upon capacity past).drain mailbox).1 else []
  | .receive mailbox count :: past =>
    received capacity k past ++
      if mailbox = k then ((upon capacity past).receive mailbox count).1 else []
  | _ :: past => received capacity k past

/-- What a mailbox should have taken for a user: the messages, under their numbers, that were sent
to a session while the user was subscribed to it and connected to the mailbox, did not exclude the
user, and found room. -/
def due (capacity : Nat) (userId : String) (k : Nat) : Past → List Delivery
  | [] => []
  | .broadcast sessionId notice exclude now :: past =>
    let message : Message := ⟨sessionId, Past.broadcasts past, now.toMillis, notice⟩
    due capacity userId k past ++
      if Past.mailbox? userId past = some k ∧ Past.subscribes sessionId userId past = true ∧
        exclude ≠ some userId ∧ (upon capacity past).Admits message exclude userId
      then [⟨userId, message⟩] else []
  | _ :: past => due capacity userId k past

/-! ### Counting -/

/-- Acts that send no message leave the counters alone. -/
theorem counters_act {a : Act} (h : a.isBroadcast = false) :
    (g.act a).nextSequence = g.nextSequence ∧ (g.act a).messagesSent = g.messagesSent ∧
      (g.act a).deliveryFailures = g.deliveryFailures := by
  have hline : ∀ line, (g.openLine line).2.deliveryFailures = g.deliveryFailures := by
    intro line
    cases line <;> rfl
  cases a with
  | connect user line =>
      have hsame := sameSending_connect g user line
      exact ⟨hsame.nextSequence, hsame.messagesSent, hline line⟩
  | disconnect user => exact ⟨rfl, rfl, rfl⟩
  | openLine line =>
      have hsame := sameSending_openLine g line
      exact ⟨hsame.nextSequence, hsame.messagesSent, hline line⟩
  | subscribe key user =>
      rw [act, subscribe_eq]
      exact ⟨rfl, rfl, rfl⟩
  | unsubscribe key user =>
      rw [act, unsubscribe_eq]
      exact ⟨rfl, rfl, rfl⟩
  | dropSession key => exact ⟨rfl, rfl, rfl⟩
  | broadcast => cases h
  | drain mailbox =>
      rw [act, drain_eq_receive, receive_eq]
      exact ⟨rfl, rfl, rfl⟩
  | receive mailbox count =>
      rw [act, receive_eq]
      exact ⟨rfl, rfl, rfl⟩
  | hangUp mailbox => exact ⟨rfl, rfl, rfl⟩

/-- **The counters**: the messages are counted, those for the sequence and those for the statistics
alike, and the failures are added up. -/
theorem counters_upon (capacity : Nat) (past : Past) :
    (upon capacity past).nextSequence = past.broadcasts ∧
    (upon capacity past).messagesSent = past.broadcasts ∧
    (upon capacity past).deliveryFailures = ((reports capacity past).map (·.failed)).sum := by
  induction past with
  | nil => exact ⟨rfl, rfl, rfl⟩
  | cons a past ih =>
      obtain ⟨hsequence, hsent, hfailures⟩ := ih
      cases hbroadcast : a.isBroadcast with
      | false =>
          obtain ⟨hsequence', hsent', hfailures'⟩ :=
            counters_act (g := upon capacity past) hbroadcast
          have hcount : Past.broadcasts (a :: past) = Past.broadcasts past :=
            List.countP_cons_of_neg (by simp [hbroadcast])
          have hreports : reports capacity (a :: past) = reports capacity past := by
            cases a with
            | broadcast => cases hbroadcast
            | _ => rfl
          rw [hcount, hreports, upon]
          exact ⟨hsequence'.trans hsequence, hsent'.trans hsent, hfailures'.trans hfailures⟩
      | true =>
          cases a with
          | broadcast key notice exclude now =>
              have hcount : Past.broadcasts (.broadcast key notice exclude now :: past) =
                  Past.broadcasts past + 1 := List.countP_cons_of_pos rfl
              rw [hcount, reports, List.map_append, List.sum_append, ← hsequence, ← hfailures]
              refine ⟨rfl, congrArg (· + 1) (hsent.trans hsequence.symm), ?_⟩
              rw [List.map_singleton, List.sum_singleton]
              rfl
          | _ => cases hbroadcast

/-- The reports are numbered from zero, in order. -/
theorem sequence_reports (capacity : Nat) (past : Past) :
    (reports capacity past).map (·.sequence) = List.range past.broadcasts := by
  induction past with
  | nil => rfl
  | cons a past ih =>
      cases a with
      | broadcast key notice exclude now =>
          have hcount : Past.broadcasts (.broadcast key notice exclude now :: past) =
              Past.broadcasts past + 1 := List.countP_cons_of_pos rfl
          have hnumber := (counters_upon capacity past).1
          rw [reports, List.map_append, ih, hcount, List.range_succ, ← hnumber]
          rfl
      | _ => exact ih

/-! ### What mailboxes have taken -/

/-- **A mailbox has taken for a user what is due to them.** -/
theorem filter_accepted (capacity k : Nat) (past : Past) (userId : String) :
    (accepted capacity k past).filter (·.userId = userId) = due capacity userId k past := by
  induction past with
  | nil => rfl
  | cons a past ih =>
      cases a with
      | broadcast key notice exclude now =>
          have hnumber := (counters_upon capacity past).1
          have hgain := filter_gain (distinctSubscribers_upon capacity past)
            ((upon capacity past).nextMessage key notice now) exclude k userId
          rw [accepted, heldIn_broadcast, List.drop_left, List.filter_append, ih, hgain, due,
            nextMessage, hnumber]
          refine congrArg (due capacity userId k past ++ ·) (if_congr ?_ rfl rfl)
          rw [mem_audience_iff, mem_subscriptionsOf_upon, get?_connections_upon, isConnected,
            Table.contains, get?_connections_upon]
          refine and_congr_right fun hk => ?_
          rw [hk]
          simp [and_assoc]
      | _ => exact ih

/-- What is due to a user comes in the order of the numbers, and nothing twice. -/
theorem pairwise_due (capacity : Nat) (userId : String) (k : Nat) (past : Past) :
    ((due capacity userId k past).map (·.message.sequence)).Pairwise (· < ·) ∧
      ∀ d ∈ due capacity userId k past, d.message.sequence < past.broadcasts := by
  induction past with
  | nil => exact ⟨List.Pairwise.nil, nofun⟩
  | cons a past ih =>
      cases a with
      | broadcast key notice exclude now =>
          obtain ⟨hordered, hbound⟩ := ih
          have hcount : Past.broadcasts (.broadcast key notice exclude now :: past) =
              Past.broadcasts past + 1 := List.countP_cons_of_pos rfl
          rw [hcount, due]
          split
          · refine ⟨?_, fun d hd => ?_⟩
            · rw [List.map_append, List.pairwise_append]
              refine ⟨hordered, List.pairwise_singleton _ _, ?_⟩
              intro n hn last hlast
              obtain ⟨d, hd, rfl⟩ := List.mem_map.mp hn
              rw [List.mem_singleton.mp hlast]
              exact hbound d hd
            · rcases List.mem_append.mp hd with hold | hnew
              · have hlt := hbound d hold
                omega
              · rw [List.mem_singleton.mp hnew]
                exact Nat.lt_succ_self _
          · rw [List.append_nil]
            exact ⟨hordered, fun d hd => Nat.lt_succ_of_lt (hbound d hd)⟩
      | _ => exact ih

/-! ### Taken in and taken out -/

/-- Taking out messages takes them from the front of what the mailbox holds. -/
theorem receive_append (g : Gateway) (mailbox count : Nat) :
    (g.receive mailbox count).1 ++ (g.receive mailbox count).2.heldIn mailbox =
      g.heldIn mailbox := by
  rw [heldIn, getElem?_receive, if_pos rfl, receive, heldIn]
  cases g.mailboxes[mailbox]? with
  | none => rfl
  | some m => exact List.take_append_drop count m.held

/-- Taking out messages of one mailbox leaves what others hold. -/
theorem heldIn_receive_of_ne {mailbox count : Nat} (h : k ≠ mailbox) :
    (g.receive mailbox count).2.heldIn k = g.heldIn k := by
  rw [heldIn, getElem?_receive, if_neg h, heldIn]

theorem heldIn_hangUp (mailbox : Nat) :
    (g.hangUp mailbox).heldIn k = if k = mailbox then [] else g.heldIn k := by
  rw [heldIn, getElem?_hangUp]
  split
  · cases g.mailboxes[k]? <;> rfl
  · rfl

/-- A new mailbox holds nothing, like one that is not there. -/
theorem heldIn_openLine (line : Line) : (g.openLine line).2.heldIn k = g.heldIn k := by
  rw [heldIn, mailboxes_openLine, heldIn]
  rcases Nat.lt_or_ge k g.mailboxes.length with hk | hk
  · rw [List.getElem?_append_left hk]
  · rw [List.getElem?_append_right hk, List.getElem?_eq_none hk]
    cases (some line).filter Line.isOwn with
    | none => rfl
    | some line => cases k - g.mailboxes.length <;> rfl

/-- A mailbox that does not take messages gains nothing. -/
theorem gain_eq_nil (hclosed : ∀ m, g.mailboxes[k]? = some m → m.isOpen = false) :
    g.gain message exclude k = [] := by
  rw [gain]
  cases hm : g.mailboxes[k]? with
  | none => rfl
  | some m => exact Mailbox.takes_of_closed (hclosed m hm) _

/-- Nothing has happened to the messages of a mailbox that could lose them: it is open, or it is not
there yet. -/
def Intact (k : Nat) (past : Past) : Prop :=
  past.stillOpen k = true ∨ past.lines.length ≤ k

/-- A mailbox that is intact has been so before. -/
theorem Intact.of_cons {a : Act} (h : Intact k (a :: past)) : Intact k past := by
  have hlines := Past.lines_cons a past
  rcases h with hopen | hlength
  · by_cases hhang : ∃ mailbox, a = .hangUp mailbox
    · obtain ⟨mailbox, rfl⟩ := hhang
      exact .inl (Bool.and_eq_true_iff.mp hopen).2
    · rw [Past.stillOpen_cons fun mailbox h => hhang ⟨mailbox, h⟩] at hopen
      split at hopen
      · next hk => exact .inr (Nat.le_of_eq hk.symm)
      · exact .inl hopen
  · rw [hlines, List.length_append] at hlength
    exact .inr (Nat.le_trans (Nat.le_add_right _ _) hlength)

/-- A mailbox that is no longer intact gains nothing any more. -/
theorem gain_of_not_intact (capacity : Nat) (h : ¬Intact k past) (message : Message)
    (exclude : Option String) :
    (upon capacity past).gain message exclude k = [] := by
  refine gain_eq_nil fun m hm => ?_
  have hdoor := getElem?_mailboxes_upon capacity past k
  have hshut : past.stillOpen k = false := Bool.eq_false_iff.mpr fun hopen => h (.inl hopen)
  rw [hm, hshut, Option.map_some] at hdoor
  cases hline : past.lines[k]? with
  | none =>
      rw [hline] at hdoor
      cases hdoor
  | some line =>
      rw [hline, Option.map_some, if_neg Bool.false_ne_true] at hdoor
      exact congrArg Prod.fst (Option.some.inj hdoor)

/-- All that was taken in was taken out or is held, in order; only what is no longer intact may have
lost something at the end. -/
structure Balance (intact : Prop) (taken out held : List Delivery) : Prop where
  equal : intact → out ++ held = taken
  le : out ++ held <+: taken

namespace Balance

variable {intact intact' : Prop} {taken out held : List Delivery}

/-- Messages are taken out from the front. -/
theorem takeOut (h : Balance intact taken out held) (hintact : intact' → intact)
    {more rest : List Delivery} (hmore : more ++ rest = held) :
    Balance intact' taken (out ++ more) rest where
  equal hi := by rw [List.append_assoc, hmore, h.equal (hintact hi)]
  le := by
    rw [List.append_assoc, hmore]
    exact h.le

theorem weaken (h : Balance intact taken out held) (hintact : intact' → intact) :
    Balance intact' taken out held :=
  ⟨fun hi => h.equal (hintact hi), h.le⟩

/-- Messages are taken in at the end, as long as nothing was lost. -/
theorem takeIn (h : Balance intact taken out held) (hintact : intact' → intact)
    {new : List Delivery} (hnew : ¬intact → new = []) :
    Balance intact' (taken ++ new) out (held ++ new) where
  equal hi := by rw [← List.append_assoc, h.equal (hintact hi)]
  le := by
    by_cases hi : intact
    · have hequal : out ++ (held ++ new) = taken ++ new := by
        rw [← List.append_assoc, h.equal hi]
      exact hequal ▸ List.prefix_refl _
    · rw [hnew hi, List.append_nil, List.append_nil]
      exact h.le

/-- All that is held may be lost. -/
theorem lose (h : Balance intact taken out held) (hintact : intact' → intact ∧ held = []) :
    Balance intact' taken out [] where
  equal hi := by
    obtain ⟨hbefore, hnone⟩ := hintact hi
    rw [← hnone]
    exact h.equal hbefore
  le := by
    rw [List.append_nil]
    exact (List.prefix_append out held).trans h.le

end Balance

/-- A mailbox that is intact although it is given up has not been there. -/
theorem Intact.heldIn_of_hangUp (h : Intact k (.hangUp k :: past)) :
    (upon capacity past).heldIn k = [] := by
  rcases h with hopen | hlength
  · simp [Past.stillOpen] at hopen
  · have hlines : (upon capacity past).mailboxes.length ≤ k := by
      rw [Past.lines_cons, List.length_append] at hlength
      rw [length_mailboxes_upon]
      omega
    rw [heldIn, List.getElem?_eq_none hlines]
    rfl

/-- Whatever is taken out of a mailbox, the balance is kept. -/
theorem Balance.receive {taken out : List Delivery}
    (h : Balance (Intact k past) taken out ((upon capacity past).heldIn k)) (a : Act)
    (mailbox count : Nat) :
    Balance (Intact k (a :: past)) taken
      (out ++ if mailbox = k then ((upon capacity past).receive mailbox count).1 else [])
      (((upon capacity past).receive mailbox count).2.heldIn k) := by
  by_cases hk : mailbox = k
  · subst hk
    rw [if_pos rfl]
    exact h.takeOut Intact.of_cons (receive_append _ _ _)
  · rw [if_neg hk]
    exact h.takeOut Intact.of_cons (heldIn_receive_of_ne (Ne.symm hk))

/-- One act keeps the balance of a mailbox. -/
theorem balance_cons (a : Act)
    (h : Balance (Intact k past) (accepted capacity k past) (received capacity k past)
      ((upon capacity past).heldIn k)) :
    Balance (Intact k (a :: past)) (accepted capacity k (a :: past))
      (received capacity k (a :: past)) ((upon capacity (a :: past)).heldIn k) := by
  have hsame : (upon capacity (a :: past)).heldIn k = (upon capacity past).heldIn k →
      Balance (Intact k (a :: past)) (accepted capacity k past) (received capacity k past)
        ((upon capacity (a :: past)).heldIn k) := by
    intro hheld
    rw [hheld]
    exact h.weaken Intact.of_cons
  cases a with
  | connect user line => exact hsame (heldIn_openLine line)
  | disconnect user => exact hsame rfl
  | openLine line => exact hsame (heldIn_openLine line)
  | subscribe key user => exact hsame (by rw [upon, act, subscribe_eq]; rfl)
  | unsubscribe key user => exact hsame (by rw [upon, act, unsubscribe_eq]; rfl)
  | dropSession key => exact hsame rfl
  | broadcast key notice exclude now =>
      have hgain := h.takeIn (Intact.of_cons (a := .broadcast key notice exclude now)) fun hlost =>
        gain_of_not_intact capacity hlost ((upon capacity past).nextMessage key notice now) exclude
      rw [upon, act, accepted, heldIn_broadcast, List.drop_left]
      exact hgain
  | drain mailbox =>
      have hdrain := h.receive (.drain mailbox) mailbox ((upon capacity past).heldIn mailbox).length
      rw [← drain_eq_receive] at hdrain
      exact hdrain
  | receive mailbox count => exact h.receive _ mailbox count
  | hangUp mailbox =>
      by_cases hk : k = mailbox
      · subst hk
        have hlost : (upon capacity (.hangUp k :: past)).heldIn k = [] := by
          rw [upon, act, heldIn_hangUp, if_pos rfl]
        rw [hlost]
        exact h.lose fun hintact => ⟨hintact.of_cons, hintact.heldIn_of_hangUp⟩
      · exact hsame (by rw [upon, act, heldIn_hangUp, if_neg hk])

/-- **What a mailbox has taken is what was taken out of it and what it holds**, in order. If the
mailbox has been given up, what it held then is lost. -/
theorem balance (capacity k : Nat) (past : Past) :
    Balance (Intact k past) (accepted capacity k past) (received capacity k past)
      ((upon capacity past).heldIn k) := by
  induction past with
  | nil => exact ⟨fun _ => rfl, List.prefix_refl _⟩
  | cons a past ih => exact balance_cons a ih

/-! ### The ledger as a whole -/

/-- The ledger of a gateway is in order. -/
structure Accounted (capacity : Nat) (past : Past) : Prop where
  /-- The messages are numbered from zero. -/
  numbers : (reports capacity past).map (·.sequence) = List.range past.broadcasts
  /-- A mailbox has taken for a user what is due to them, -/
  accepted : ∀ userId k,
    (accepted capacity k past).filter (·.userId = userId) = due capacity userId k past
  /-- in the order of the numbers, and nothing twice. -/
  ordered : ∀ userId k, ((due capacity userId k past).map (·.message.sequence)).Pairwise (· < ·)
  /-- What a mailbox has taken comes out of it first in, first out, -/
  received : ∀ k, received capacity k past <+: Gateway.accepted capacity k past
  /-- and as long as it is open it still holds the rest. -/
  held : ∀ k, past.stillOpen k = true →
    Gateway.received capacity k past ++ (upon capacity past).heldIn k =
      Gateway.accepted capacity k past
  /-- A mailbox is open until it is given up, and is bounded as it was asked for. -/
  doors : ∀ k, (upon capacity past).mailboxes[k]?.map door = past.lines[k]?.map fun line =>
    if past.stillOpen k then (true, line.bound?) else (false, none)
  /-- A message finds the mailbox of a user as it is, if nobody else is connected to it. -/
  found : ∀ message exclude userId k, past.mailbox? userId = some k →
    (∀ other, past.mailbox? other = some k → other = userId) →
      (upon capacity past).found message exclude userId = (upon capacity past).mailboxes[k]?
  /-- A broadcast is offered once to everybody who is subscribed, connected and not excluded. Each
  offer is reported as delivered or as failed, and those fail that find no room. -/
  report : ∀ sessionId notice exclude now,
    let g := upon capacity past
    let report := (g.broadcast sessionId notice exclude now).1
    ∃ audience : List String, audience.Nodup ∧
      (∀ userId, userId ∈ audience ↔ past.subscribes sessionId userId = true ∧
        (past.mailbox? userId).isSome = true ∧ exclude ≠ some userId) ∧
      report.delivered + report.failed = audience.length ∧
      report.failed = audience.countP fun userId =>
        ¬g.Admits (g.nextMessage sessionId notice now) exclude userId
  /-- The counters count the broadcasts, -/
  sent : (upon capacity past).messagesSent = past.broadcasts
  sequence : (upon capacity past).nextSequence = past.broadcasts
  /-- and the failures are those reported. -/
  failures : (upon capacity past).deliveryFailures =
    ((reports capacity past).map (·.failed)).sum

/-- **The delivery ledger is exact.** Whatever has been done to a gateway, in whatever order, its
ledger is in order. -/
theorem accounted (capacity : Nat) (past : Past) : Accounted capacity past where
  numbers := sequence_reports capacity past
  accepted userId k := filter_accepted capacity k past userId
  ordered userId k := (pairwise_due capacity userId k past).1
  received k := (List.prefix_append _ _).trans (balance capacity k past).le
  held k hopen := (balance capacity k past).equal (.inl hopen)
  doors := getElem?_mailboxes_upon capacity past
  found message exclude userId k hk halone := by
    rw [← get?_connections_upon capacity] at hk
    refine found_of_alone hk fun other hother => halone other ?_
    rwa [get?_connections_upon] at hother
  report sessionId notice exclude now := by
    have hdistinct := distinctSubscribers_upon capacity past
    obtain ⟨-, hall, hfailed⟩ := report_broadcast hdistinct sessionId notice exclude now
    refine ⟨_, hdistinct.nodup_audience sessionId exclude, fun userId => ?_, hall, hfailed⟩
    rw [mem_audience_iff, mem_subscriptionsOf_upon, isConnected, Table.contains,
      get?_connections_upon]
  sent := (counters_upon capacity past).2.1
  sequence := (counters_upon capacity past).1
  failures := (counters_upon capacity past).2.2

/-- Two messages for Ada, who has room for one: the second one is lost. -/
example :
    let bye : Notice := .sessionEnded .idle
    let past : Past := [.broadcast "s" bye none ⟨1, 0⟩, .broadcast "s" bye none ⟨0, 0⟩,
      .subscribe "s" "ada", .connect "ada" (.bounded 1)]
    due 1 "ada" 0 past = [⟨"ada", ⟨"s", 0, 0, bye⟩⟩] ∧
      (reports 1 past).map (·.failed) = [0, 1] := by
  decide +kernel

end Gateway

end CoEdit
