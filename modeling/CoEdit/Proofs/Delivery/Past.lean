import CoEdit.Proofs.Delivery.Twins

/-!
# The Past of a Gateway

All that is done to a gateway is done by single acts, in any order: users are connected and
disconnected, sessions get and lose subscribers, notices are sent, and receivers take messages out
of their mailboxes or give them up. What matters for sending a message can be read off the acts that
have gone before, without a look at the gateway.

## Main definitions

* `Act`, `Past`: what is done to a gateway, and what has been done so far.
* `Gateway.upon`: the gateway that a past leads to.
* `Past.mailbox?`, `Past.subscribes`, `Past.lines`, `Past.stillOpen`, `Past.broadcasts`: to which
  mailbox a user is connected, whether a user is subscribed, with which lines mailboxes have been
  opened, which of them take messages, and how many messages have been sent.

## Main results

* `get?_connections_upon`, `mem_subscriptionsOf_upon`, `getElem?_mailboxes_upon`: the gateway agrees
  with its past.
-/

namespace CoEdit

open CoEdit.Time (Instant)

/-- What is done to a gateway. Receivers may take out everything, or the oldest messages only. -/
inductive Act
  | connect (userId : String) (line : Line)
  | disconnect (userId : String)
  | openLine (line : Line)
  | subscribe (sessionId userId : String)
  | unsubscribe (sessionId userId : String)
  | dropSession (sessionId : String)
  | broadcast (sessionId : String) (notice : Notice) (exclude : Option String) (now : Instant)
  | drain (mailbox : Nat)
  | receive (mailbox count : Nat)
  | hangUp (mailbox : Nat)
  deriving Repr

/-- What has been done to a gateway, the latest act first. -/
abbrev Past := List Act

/-! ### Taking out some messages -/

/-- Takes the oldest messages out. -/
def Mailbox.receive (m : Mailbox) (count : Nat) : List Delivery × Mailbox :=
  (m.held.take count, { m with held := m.held.drop count })

namespace Gateway

/-- Takes the oldest messages out of a mailbox. -/
def receive (g : Gateway) (mailbox count : Nat) : List Delivery × Gateway :=
  match g.mailboxes[mailbox]? with
  | none => ([], g)
  | some m => ((m.receive count).1,
      { g with mailboxes := g.mailboxes.set mailbox (m.receive count).2 })

/-- What a mailbox holds. -/
def heldIn (g : Gateway) (mailbox : Nat) : List Delivery :=
  (g.mailboxes[mailbox]?.map Mailbox.held).getD []

/-- To take out everything is to take out as many messages as there are. -/
theorem drain_eq_receive (g : Gateway) (mailbox : Nat) :
    g.drain mailbox = g.receive mailbox (g.heldIn mailbox).length := by
  rw [drain, receive, heldIn]
  cases g.mailboxes[mailbox]? with
  | none => rfl
  | some m => simp [Mailbox.drain, Mailbox.receive]

/-! ### Acts -/

/-- The gateway after an act. -/
def act (g : Gateway) : Act → Gateway
  | .connect userId line => (g.connect userId line).2
  | .disconnect userId => (g.disconnect userId).2
  | .openLine line => (g.openLine line).2
  | .subscribe sessionId userId => g.subscribe sessionId userId
  | .unsubscribe sessionId userId => g.unsubscribe sessionId userId
  | .dropSession sessionId => g.dropSession sessionId
  | .broadcast sessionId notice exclude now => (g.broadcast sessionId notice exclude now).2
  | .drain mailbox => (g.drain mailbox).2
  | .receive mailbox count => (g.receive mailbox count).2
  | .hangUp mailbox => g.hangUp mailbox

/-- The gateway that a past leads to. -/
def upon (capacity : Nat) : Past → Gateway
  | [] => .new capacity
  | a :: past => (upon capacity past).act a

end Gateway

/-! ### Readings of the past -/

/-- The mailbox that a line leads to, if the next one has the given number. -/
def Line.leadsTo (next : Nat) : Line → Nat
  | .shared mailbox => mailbox
  | _ => next

/-- For how many messages the mailbox of a line has room; there is no bound if it is none. -/
def Line.bound? : Line → Option Nat
  | .bounded capacity => some (max 1 capacity)
  | _ => none

/-- The line that an act opens with a mailbox of its own. -/
def Act.opens? : Act → Option Line
  | .connect _ line => some line |>.filter Line.isOwn
  | .openLine line => some line |>.filter Line.isOwn
  | _ => none

/-- Whether an act is about who is subscribed to what. -/
def Act.isSubscription : Act → Bool
  | .subscribe .. | .unsubscribe .. | .dropSession .. => true
  | _ => false

/-- Whether an act sends a message. -/
def Act.isBroadcast : Act → Bool
  | .broadcast .. => true
  | _ => false

namespace Past

/-- The lines that mailboxes have been opened with, the first mailbox first. -/
def lines (past : Past) : List Line :=
  past.reverse.filterMap Act.opens?

/-- The number of messages sent. -/
def broadcasts (past : Past) : Nat :=
  past.countP Act.isBroadcast

/-- The mailbox that a user is connected to. -/
def mailbox? (userId : String) : Past → Option Nat
  | [] => none
  | .connect user line :: past =>
    if userId = user then some (line.leadsTo (lines past).length) else mailbox? userId past
  | .disconnect user :: past => if userId = user then none else mailbox? userId past
  | _ :: past => mailbox? userId past

/-- Whether a user is subscribed to a session. -/
def subscribes (sessionId userId : String) : Past → Bool
  | [] => false
  | .subscribe key user :: past =>
    (userId = user && sessionId = key) || subscribes sessionId userId past
  | .unsubscribe key user :: past =>
    !(userId = user && sessionId = key) && subscribes sessionId userId past
  | .dropSession key :: past => sessionId ≠ key && subscribes sessionId userId past
  | _ :: past => subscribes sessionId userId past

/-- Whether a mailbox has been opened and not been given up since. -/
def stillOpen (mailbox : Nat) : Past → Bool
  | [] => false
  | .hangUp other :: past => mailbox ≠ other && stillOpen mailbox past
  | a :: past =>
    if mailbox = (lines past).length then a.opens?.any (· ≠ .closed) else stillOpen mailbox past

theorem lines_cons (a : Act) (past : Past) :
    lines (a :: past) = lines past ++ a.opens?.toList := by
  have hone : [a].filterMap Act.opens? = a.opens?.toList := by
    rw [List.filterMap_cons]
    cases a.opens? <;> rfl
  rw [lines, List.reverse_cons, List.filterMap_append, hone, lines]

theorem stillOpen_cons {a : Act} (h : ∀ mailbox, a ≠ .hangUp mailbox) (k : Nat) (past : Past) :
    stillOpen k (a :: past) =
      if k = (lines past).length then a.opens?.any (· ≠ .closed) else stillOpen k past := by
  cases a with
  | hangUp mailbox => exact absurd rfl (h mailbox)
  | _ => rfl

end Past

/-! ### The gateway agrees with its past -/

namespace Gateway

variable {g : Gateway} {capacity k : Nat} {past : Past} {userId sessionId : String}

/-- Opening a line adds its mailbox, if it has one of its own. -/
theorem mailboxes_openLine (g : Gateway) (line : Line) :
    (g.openLine line).2.mailboxes = g.mailboxes ++
      ((some line).filter Line.isOwn).toList.map fun line =>
        ⟨line.bound?, line ≠ .closed, []⟩ := by
  cases line with
  | shared => exact (List.append_nil _).symm
  | unbounded | bounded | closed => rfl

theorem openLine_fst (g : Gateway) (line : Line) :
    (g.openLine line).1 = line.leadsTo g.mailboxes.length := by
  cases line <;> rfl

/-- Taking out messages of one mailbox leaves the others alone. -/
theorem getElem?_receive (mailbox count : Nat) :
    (g.receive mailbox count).2.mailboxes[k]? =
      if k = mailbox then g.mailboxes[k]?.map fun m => (m.receive count).2
      else g.mailboxes[k]? := by
  rw [receive]
  cases hm : g.mailboxes[mailbox]? with
  | none =>
      dsimp only
      split
      · next hk => rw [hk, hm, Option.map_none]
      · rfl
  | some m =>
      obtain ⟨hlt, -⟩ := List.getElem?_eq_some_iff.mp hm
      dsimp only
      split
      · next hk => rw [hk, hm, List.getElem?_set_self hlt, Option.map_some]
      · next hk => exact List.getElem?_set_ne (Ne.symm hk)

/-- Taking out messages changes nothing but mailboxes. -/
theorem receive_eq (g : Gateway) (mailbox count : Nat) :
    (g.receive mailbox count).2 =
      { g with mailboxes := (g.receive mailbox count).2.mailboxes } := by
  rw [receive]
  split <;> rfl

/-- Whether a mailbox is open, and its bound. -/
def door (m : Mailbox) : Bool × Option Nat :=
  (m.isOpen, m.capacity)

theorem map_door_of_eq {f : Mailbox → Mailbox} (h : ∀ m, door (f m) = door m)
    (o : Option Mailbox) : (o.map f).map door = o.map door := by
  have hcomp : door ∘ f = door := funext h
  rw [Option.map_map, hcomp]

theorem doors_receive (mailbox count k : Nat) :
    (g.receive mailbox count).2.mailboxes[k]?.map door = g.mailboxes[k]?.map door := by
  rw [getElem?_receive]
  split
  · exact map_door_of_eq (f := fun m => (m.receive count).2) (fun _ => rfl) _
  · rfl

/-- Whatever is done to a gateway that opens or closes no mailbox leaves the doors of all of them as
they are. -/
theorem doors_act {a : Act} (hopens : a.opens? = none) (hhang : ∀ mailbox, a ≠ .hangUp mailbox)
    (k : Nat) : (g.act a).mailboxes[k]?.map door = g.mailboxes[k]?.map door := by
  have hsame : ∀ {g' : Gateway}, g'.mailboxes = g.mailboxes →
      g'.mailboxes[k]?.map door = g.mailboxes[k]?.map door := by
    intro g' h
    rw [h]
  have hline : ∀ {line : Line}, (some line).filter Line.isOwn = none →
      (g.openLine line).2.mailboxes = g.mailboxes := by
    intro line h
    rw [mailboxes_openLine, h]
    exact List.append_nil _
  cases a with
  | connect user line => exact hsame (hline hopens)
  | openLine line => exact hsame (hline hopens)
  | disconnect user => exact hsame rfl
  | subscribe key user => exact hsame (by rw [act, subscribe_eq])
  | unsubscribe key user => exact hsame (by rw [act, unsubscribe_eq])
  | dropSession key => exact hsame rfl
  | broadcast key notice exclude now =>
      rw [act, (sends_broadcast g key notice exclude now).mailboxes k]
      refine map_door_of_eq (fun m => ?_) _
      obtain ⟨taken, -, htaken⟩ := m.exists_takeAll _
      rw [htaken]
      rfl
  | drain mailbox =>
      rw [act, drain_eq_receive]
      exact doors_receive mailbox _ k
  | receive mailbox count => exact doors_receive mailbox count k
  | hangUp mailbox => exact absurd rfl (hhang mailbox)

/-- The door of a mailbox that is given up is shut for good. -/
theorem doors_hangUp (mailbox k : Nat) :
    (g.hangUp mailbox).mailboxes[k]?.map door =
      (g.mailboxes[k]?.map door).map fun d => if k = mailbox then (false, none) else d := by
  rw [getElem?_hangUp]
  by_cases hk : k = mailbox
  · rw [if_pos hk, Option.map_map, Option.map_map]
    simp only [hk, if_true]
    rfl
  · rw [if_neg hk]
    simp only [hk, if_false, Option.map_id']

/-- An act that opens a line adds its mailbox. -/
theorem mailboxes_act_of_opens {a : Act} {line : Line} (h : a.opens? = some line) :
    (g.act a).mailboxes = g.mailboxes ++ [⟨line.bound?, line ≠ .closed, []⟩] := by
  cases a with
  | connect user line' =>
      change (some line').filter Line.isOwn = some line at h
      change (g.openLine line').2.mailboxes = _
      rw [mailboxes_openLine, h]
      rfl
  | openLine line' =>
      change (some line').filter Line.isOwn = some line at h
      change (g.openLine line').2.mailboxes = _
      rw [mailboxes_openLine, h]
      rfl
  | _ => cases h

/-- Lists with entries at the same places have the same length. -/
theorem length_eq_of_map_getElem? {α β γ : Type} {l : List α} {l' : List β} {f : α → γ}
    {f' : Nat → β → γ} (h : ∀ k, l[k]?.map f = l'[k]?.map (f' k)) : l.length = l'.length := by
  have hle : l'.length ≤ l.length := by
    have hnone := (h l.length).symm
    rw [List.getElem?_eq_none (Nat.le_refl _), Option.map_none, Option.map_eq_none_iff] at hnone
    exact List.getElem?_eq_none_iff.mp hnone
  have hge : l.length ≤ l'.length := by
    have hnone := h l'.length
    rw [List.getElem?_eq_none (Nat.le_refl _), Option.map_none, Option.map_eq_none_iff] at hnone
    exact List.getElem?_eq_none_iff.mp hnone
  exact Nat.le_antisymm hge hle

theorem getElem?_concat {α : Type} {l : List α} {x : α} {n : Nat} (h : l.length = n) (k : Nat) :
    (l ++ [x])[k]? = if k = n then some x else l[k]? := by
  split
  · next hk => rw [hk, ← h, List.getElem?_concat_length]
  · next hk =>
    rcases Nat.lt_or_gt_of_ne hk with hlt | hgt
    · exact List.getElem?_append_left (h ▸ hlt)
    · have hlong : (l ++ [x]).length ≤ k := by
        rw [List.length_append, List.length_singleton]
        omega
      rw [List.getElem?_eq_none hlong, List.getElem?_eq_none (by omega)]

/-- **Which mailboxes there are and which of them take messages** can be read off the past. -/
theorem getElem?_mailboxes_upon (capacity : Nat) (past : Past) (k : Nat) :
    (upon capacity past).mailboxes[k]?.map door = past.lines[k]?.map fun line =>
      if past.stillOpen k then (true, line.bound?) else (false, none) := by
  induction past generalizing k with
  | nil => rfl
  | cons a past ih =>
      obtain ⟨n, hn⟩ : ∃ n, n = (Past.lines past).length := ⟨_, rfl⟩
      have hlength : (upon capacity past).mailboxes.length = n :=
        hn ▸ length_eq_of_map_getElem? ih
      have hlines := Past.lines_cons a past
      by_cases hhang : ∃ mailbox, a = .hangUp mailbox
      · obtain ⟨mailbox, rfl⟩ := hhang
        have hlines' : Past.lines (.hangUp mailbox :: past) = Past.lines past :=
          hlines.trans (List.append_nil _)
        rw [upon, act, doors_hangUp, ih, hlines', Past.stillOpen, Option.map_map]
        by_cases hk : k = mailbox <;> simp [hk, Function.comp_def]
      · have hopen : ∀ mailbox, a ≠ .hangUp mailbox := fun mailbox h => hhang ⟨mailbox, h⟩
        have hstill := Past.stillOpen_cons hopen k past
        rw [← hn] at hstill
        rw [hlines, hstill]
        cases hopens : a.opens? with
        | some line =>
            rw [upon, mailboxes_act_of_opens hopens, Option.toList_some, Option.any_some,
              getElem?_concat hlength, getElem?_concat hn.symm]
            by_cases hk : k = n
            · rw [if_pos hk, if_pos hk, if_pos hk]
              cases line <;> rfl
            · rw [if_neg hk, if_neg hk, if_neg hk]
              exact ih k
        | none =>
            rw [upon, doors_act hopens hopen, ih, Option.toList_none, List.append_nil,
              Option.any_none]
            by_cases hk : k = n
            · rw [hk, hn, List.getElem?_eq_none (Nat.le_refl _)]
              rfl
            · rw [if_neg hk]

theorem length_mailboxes_upon (capacity : Nat) (past : Past) :
    (upon capacity past).mailboxes.length = past.lines.length :=
  length_eq_of_map_getElem? (getElem?_mailboxes_upon capacity past)

/-- **To which mailbox a user is connected** can be read off the past. -/
theorem get?_connections_upon (capacity : Nat) (past : Past) (userId : String) :
    (upon capacity past).connections.get? userId = past.mailbox? userId := by
  induction past with
  | nil => rfl
  | cons a past ih =>
      have hkept : ∀ {h : Gateway}, h.connections = (upon capacity past).connections →
          h.connections.get? userId = Past.mailbox? userId past :=
        fun hsame => by rw [hsame, ih]
      cases a with
      | connect user line =>
          change ((upon capacity past).connect user line).2.connections.get? userId = _
          rw [get?_connect, ih, openLine_fst, length_mailboxes_upon, Past.mailbox?]
      | disconnect user =>
          change ((upon capacity past).disconnect user).2.connections.get? userId = _
          rw [get?_disconnect, ih, Past.mailbox?]
      | openLine line => exact hkept connections_openLine
      | subscribe key user =>
          exact hkept (h := (upon capacity past).subscribe key user) (by rw [subscribe_eq])
      | unsubscribe key user =>
          exact hkept (h := (upon capacity past).unsubscribe key user) (by rw [unsubscribe_eq])
      | dropSession key => exact hkept rfl
      | broadcast key notice exclude now => exact hkept rfl
      | drain mailbox => exact hkept connections_drain
      | receive mailbox count =>
          exact hkept (h := ((upon capacity past).receive mailbox count).2) (by rw [receive_eq])
      | hangUp mailbox => exact hkept rfl

/-- Other acts than those about subscriptions leave the subscriptions alone. -/
theorem subscriptions_act {a : Act} (h : a.isSubscription = false) :
    (g.act a).subscriptions = g.subscriptions := by
  cases a with
  | connect user line => exact (sameSending_connect g user line).subscriptions
  | disconnect user => rfl
  | openLine line => exact (sameSending_openLine g line).subscriptions
  | subscribe | unsubscribe | dropSession => cases h
  | broadcast key notice exclude now => rfl
  | drain mailbox => exact (sameSending_drain g mailbox).subscriptions
  | receive mailbox count =>
      change (g.receive mailbox count).2.subscriptions = _
      rw [receive_eq]
  | hangUp mailbox => rfl

/-- **Who is subscribed to a session** can be read off the past. -/
theorem mem_subscriptionsOf_upon (capacity : Nat) (past : Past) (sessionId userId : String) :
    userId ∈ (upon capacity past).subscriptionsOf sessionId ↔
      past.subscribes sessionId userId = true := by
  induction past with
  | nil => exact iff_of_false List.not_mem_nil Bool.false_ne_true
  | cons a past ih =>
      cases hsubscription : a.isSubscription with
      | false =>
          have hpast : Past.subscribes sessionId userId (a :: past) =
              Past.subscribes sessionId userId past := by
            cases a with
            | subscribe | unsubscribe | dropSession => cases hsubscription
            | _ => rfl
          rw [upon, subscriptionsOf, subscriptions_act hsubscription, hpast, ← ih, subscriptionsOf]
      | true =>
          cases a with
          | subscribe key user =>
              rw [upon, act, mem_subscribe_iff, ih, Past.subscribes]
              simp [or_comm]
          | unsubscribe key user =>
              rw [upon, act, mem_unsubscribe_iff, ih, Past.subscribes, Bool.and_eq_true, and_comm]
              simp only [Bool.not_eq_true', Bool.and_eq_false_iff, decide_eq_false_iff_not,
                not_and_or]
          | dropSession key =>
              rw [upon, act, mem_dropSession_iff, ih, Past.subscribes]
              simp [and_comm]
          | _ => cases hsubscription

/-- Nobody is ever subscribed to a session twice. -/
theorem distinctSubscribers_upon (capacity : Nat) (past : Past) :
    (upon capacity past).DistinctSubscribers := by
  induction past with
  | nil => exact fun _ => List.nodup_nil
  | cons a past ih =>
      cases hsubscription : a.isSubscription with
      | false =>
          intro key
          rw [upon, subscriptionsOf, subscriptions_act hsubscription]
          exact ih key
      | true =>
          cases a with
          | subscribe => exact ih.subscribe
          | unsubscribe => exact ih.unsubscribe
          | dropSession => exact ih.dropSession
          | _ => cases hsubscription

end Gateway

end CoEdit
