import CoEdit.Proofs.Engine.Numbers
import CoEdit.Proofs.Json.RoundTrip
import CoEdit.Proofs.Rpc.Transparency

/-!
# Serving Input Line by Line

A server answers its input line by line. What is written for a line is the reply to it, if it gets
one, and then a notification of each message that the request has caused to be delivered to a user
who is connected through the server. After each line the mailbox of the server is empty again, so
nothing is passed on twice, late, or not at all.

## Main definitions

* `Server.serve`: serves an input that comes in parts, until it ends.
* `Server.arrivals?`: the lines of such an input, with the times at which they are complete.
* `Exchange`, `Server.exchanges`: what each line that is not blank comes to.
* `notification`: the object that passes on a message to a user.

## Main results

* `Ready.exists_sent`: what a request sends to the users of the server is in the mailbox.
* `Ready.respond`: a line is answered by its exchange.
* `serve_exchanges`: the output is the exchanges, one after the other.
-/

namespace CoEdit

open CoEdit.Time (Instant)

/-- One delivery comes before another one in the order of the messages, or is of the same message
for another user. -/
def Delivery.Precedes (d d' : Delivery) : Prop :=
  d.message.sequence < d'.message.sequence ∨ d.message = d'.message ∧ d.userId ≠ d'.userId

namespace Rpc

variable {config : Config} {s : Server} {e : Engine} {now : Clock} {line : String}

/-! ### Exchanges -/

/-- What comes of a request for whoever reads the output: the reply, and the deliveries to the users
who are connected through the server. -/
structure Exchange where
  reply : Option Reply
  passedOn : List Delivery

/-- The object of the notification that tells a user of a message: it carries the user's id and the
message, whose own fields stand among those of its notice. Keys are in ascending order. -/
def notification (userId : String) (m : Message) : Json :=
  .object [("jsonrpc", .text "2.0"), ("method", .text "session/event"),
    ("params", .object [
      ("message", (Json.object ([("session_id", .text m.sessionId),
        ("sequence_id", .nat m.sequence), ("timestamp", .whole m.timestamp)] ++
          m.notice.toFields)).sorted),
      ("user_id", .text userId)])]

/-- The lines of an exchange: the reply, and a notification of each delivery. -/
def Exchange.lines (x : Exchange) : List String :=
  (x.reply.map (·.toJson.render)).toList ++
    x.passedOn.map fun d => (notification d.userId d.message).render

/-- A delivery is passed on by its notification. -/
theorem eventLine_eq (d : Delivery) :
    Server.eventLine d = (notification d.userId d.message).render := by
  have hparams : d.toJson.sorted =
      .object [("message", d.message.toJson.sorted), ("user_id", .text d.userId)] := by
    have hkeys : "message" < "user_id" := by decide
    rw [Delivery.toJson, Json.sorted]
    simp only [Json.sortedFields, Json.sorted, Json.sortEntries, List.foldl_cons, List.foldl_nil,
      Json.putSorted, if_pos hkeys]
  rw [Server.eventLine, Notification.toJson, hparams]
  rfl

namespace Server

/-- The messages that handling a line sends. -/
def sentBy (s : Server) (e : Engine) (now : Clock) (line : String) : List Dispatch :=
  (s.handle e now line).2.gateway.log.drop e.gateway.log.length

/-- What a request comes to: the reply to it, and what it sends to the users who are connected
through the server. -/
def exchange (s : Server) (e : Engine) (now : Clock) (line : String) : Exchange where
  reply := (s.handle e now line).1
  passedOn := (s.sentBy e now line).flatMap
    (·.deliveries (s.handle e now line).2.gateway.connections s.outbound)

/-- The engine after a request, once the deliveries have been taken out of the mailbox. -/
def afterExchange (s : Server) (e : Engine) (now : Clock) (line : String) : Engine :=
  (s.takeEvents (s.handle e now line).2).2

/-- What the lines of an input come to, each without the white space at its ends. Blank lines come
to nothing. -/
def exchanges (s : Server) : Engine → List (Clock × String) → List Exchange
  | _, [] => []
  | e, (now, line) :: rest =>
    let line := Text.trim line
    if line.isEmpty then s.exchanges e rest
    else s.exchange e now line :: s.exchanges (s.afterExchange e now line) rest

/-- The engine after the lines of an input. -/
def afterExchanges (s : Server) : Engine → List (Clock × String) → Engine
  | e, [] => e
  | e, (now, line) :: rest =>
    let line := Text.trim line
    if line.isEmpty then s.afterExchanges e rest
    else s.afterExchanges (s.afterExchange e now line) rest

theorem exchanges_append (s : Server) (e : Engine) (first second : List (Clock × String)) :
    s.exchanges e (first ++ second) =
      s.exchanges e first ++ s.exchanges (s.afterExchanges e first) second := by
  induction first generalizing e with
  | nil => rfl
  | cons x first ih =>
      rw [List.cons_append, exchanges, exchanges, afterExchanges]
      split
      · exact ih e
      · rw [ih, List.cons_append]

theorem afterExchanges_append (s : Server) (e : Engine) (first second : List (Clock × String)) :
    s.afterExchanges e (first ++ second) = s.afterExchanges (s.afterExchanges e first) second := by
  induction first generalizing e with
  | nil => rfl
  | cons x first ih =>
      rw [List.cons_append, afterExchanges, afterExchanges]
      split
      · exact ih e
      · exact ih _

/-- A line changes the engine by one command at most. -/
theorem handle_snd_cases (s : Server) (e : Engine) (now : Clock) (line : String) :
    (s.handle e now line).2 = e ∨ ∃ command, (s.handle e now line).2 = (e.step now command).2 := by
  have hask : ∀ ask : Ask, (ask.outcome e now).2 = e ∨
      ∃ command, (ask.outcome e now).2 = (e.step now command).2 := fun ask => by
    cases ask with
    | act command => exact .inr ⟨command, rfl⟩
    | look => exact .inl rfl
    | refuse => exact .inl rfl
  cases hr : Request.parse? line with
  | none =>
    rw [handle, hr]
    exact .inl rfl
  | some r =>
    by_cases hversion : r.version = "2.0"
    · rw [s.handle_of_parse? e now hr hversion, outcome]
      cases s.ask? r.method r.params with
      | none => exact .inl rfl
      | some ask => exact hask ask
    · have hvalid : r.isValid = false := decide_eq_false hversion
      rw [handle, hr]
      dsimp only
      rw [hvalid]
      exact .inl rfl

end Server

/-! ### One line -/

/-- The engine has come about, and the mailbox of the server is open and holds nothing. -/
structure Ready (config : Config) (s : Server) (e : Engine) : Prop where
  reachable : e.Reachable config
  idle : e.gateway.mailboxes[s.outbound]? = some (.fresh none)

namespace Ready

/-- **What a request sends to the users of the server is what the mailbox then holds.** -/
theorem exists_sent (h : Ready config s e) (now : Clock) (line : String) :
    let e' := (s.handle e now line).2
    e'.gateway.log = e.gateway.log ++ s.sentBy e now line ∧
      e'.gateway.mailboxes[s.outbound]? = some ⟨none, true, (s.exchange e now line).passedOn⟩ ∧
      ∀ d ∈ s.sentBy e now line, d.audience.Nodup := by
  intro e'
  have hsent : ∃ sent, e'.gateway.log = e.gateway.log ++ sent ∧
      e'.gateway.mailboxes[s.outbound]? =
        some ⟨none, true, sent.flatMap (·.deliveries e'.gateway.connections s.outbound)⟩ ∧
      ∀ d ∈ sent, d.audience.Nodup := by
    rcases s.handle_snd_cases e now line with hkeep | ⟨command, hstep⟩
    · refine ⟨[], ?_, ?_, nofun⟩
      · rw [List.append_nil]
        exact congrArg (·.gateway.log) hkeep
      · exact (congrArg (·.gateway.mailboxes[s.outbound]?) hkeep).trans h.idle
    · obtain ⟨sent, hroutes⟩ :=
        h.reachable.coherent.exists_routes h.reachable.distinctSubscribers now command
      rw [← hstep] at hroutes
      refine ⟨sent, hroutes.log, hroutes.noneMissed s.outbound _ h.idle rfl rfl, fun d hd => ?_⟩
      obtain ⟨_, _, _, _, -, -, -, -, hnodup, -⟩ := hroutes.audience d hd
      exact hnodup
  obtain ⟨sent, hlog, hmailbox, hnodup⟩ := hsent
  have heq : s.sentBy e now line = sent := by
    change e'.gateway.log.drop e.gateway.log.length = sent
    rw [hlog, List.drop_left]
  rw [Server.exchange, heq]
  exact ⟨hlog, hmailbox, hnodup⟩

/-- The mailbox is emptied after the request, for the next one. -/
theorem afterExchange (h : Ready config s e) (now : Clock) (line : String) :
    Ready config s (s.afterExchange e now line) where
  reachable := (Server.reachable_handle h.reachable s now line).drain s.outbound
  idle := by
    obtain ⟨-, hmailbox, -⟩ := h.exists_sent now line
    obtain ⟨hlt, -⟩ := List.getElem?_eq_some_iff.mp hmailbox
    change ((s.handle e now line).2.gateway.drain s.outbound).2.mailboxes[s.outbound]? = _
    rw [Gateway.drain, hmailbox]
    exact List.getElem?_set_self hlt

theorem afterExchanges (h : Ready config s e) (input : List (Clock × String)) :
    Ready config s (s.afterExchanges e input) := by
  induction input generalizing e with
  | nil => exact h
  | cons x input ih =>
      rw [Server.afterExchanges]
      split
      · exact ih h
      · exact ih (h.afterExchange x.1 (Text.trim x.2))

/-! ### The order of deliveries -/

/-- Taking deliveries out changes nothing about the messages sent. -/
theorem log_afterExchange (h : Ready config s e) (now : Clock) (line : String) :
    (s.afterExchange e now line).gateway.log = e.gateway.log ++ s.sentBy e now line := by
  rw [← (h.exists_sent now line).1]
  change ((s.handle e now line).2.gateway.drain s.outbound).2.log = _
  rw [Gateway.drain]
  split <;> rfl

/-- What a request sends is numbered on from the messages sent before. -/
theorem sequence_sentBy (h : Ready config s e) (now : Clock) (line : String) :
    (s.sentBy e now line).map (fun d => d.message.sequence) =
      List.range' e.gateway.log.length (s.sentBy e now line).length :=
  h.reachable.numbered.sequence_sent (h.afterExchange now line).reachable.numbered
    (h.log_afterExchange now line)

/-- So a delivery of the request has a number after those of the messages sent before, and before
those of the messages sent after. -/
theorem sequence_bounds (h : Ready config s e) {d : Delivery}
    (hd : d ∈ (s.exchange e now line).passedOn) :
    e.gateway.log.length ≤ d.message.sequence ∧
      d.message.sequence < (s.afterExchange e now line).gateway.log.length := by
  obtain ⟨sent, hsent, hd⟩ := List.mem_flatMap.mp hd
  obtain ⟨userId, -, rfl⟩ := List.mem_map.mp hd
  have hmem : sent.message.sequence ∈
      (s.sentBy e now line).map (fun d => d.message.sequence) := List.mem_map_of_mem hsent
  rw [h.sequence_sentBy, List.mem_range'_1] at hmem
  rw [h.log_afterExchange, List.length_append]
  exact hmem

/-- The deliveries of a request are in the order of the messages, and none is there twice. -/
theorem pairwise_passedOn (h : Ready config s e) (now : Clock) (line : String) :
    (s.exchange e now line).passedOn.Pairwise Delivery.Precedes := by
  obtain ⟨-, -, hnodup⟩ := h.exists_sent now line
  have hascending : (s.sentBy e now line).Pairwise
      fun first second => first.message.sequence < second.message.sequence := by
    rw [← List.pairwise_map, h.sequence_sentBy]
    exact List.pairwise_lt_range'
  refine List.pairwise_flatMap.mpr ⟨fun sent hsent => ?_, hascending.imp fun hlt d hd d' hd' => ?_⟩
  · refine List.pairwise_map.mpr (((hnodup sent hsent).filter _).imp fun hne => ?_)
    exact .inr ⟨rfl, hne⟩
  · obtain ⟨userId, -, rfl⟩ := List.mem_map.mp hd
    obtain ⟨userId', -, rfl⟩ := List.mem_map.mp hd'
    exact .inl hlt

/-- All deliveries are in the order of the messages, across requests, and none is there twice. -/
theorem pairwise_exchanges (h : Ready config s e) (input : List (Clock × String)) :
    ((s.exchanges e input).flatMap Exchange.passedOn).Pairwise Delivery.Precedes ∧
      ∀ d ∈ (s.exchanges e input).flatMap Exchange.passedOn,
        e.gateway.log.length ≤ d.message.sequence := by
  induction input generalizing e with
  | nil => exact ⟨.nil, nofun⟩
  | cons x input ih =>
      rw [Server.exchanges]
      split
      · exact ih h
      · obtain ⟨hlater, hbound⟩ := ih (h.afterExchange x.1 (Text.trim x.2))
        rw [List.flatMap_cons]
        refine ⟨List.pairwise_append.mpr ⟨h.pairwise_passedOn _ _, hlater, fun d hd d' hd' => ?_⟩,
          fun d hd => ?_⟩
        · exact .inl (Nat.lt_of_lt_of_le (h.sequence_bounds hd).2 (hbound d' hd'))
        · rcases List.mem_append.mp hd with hd | hd
          · exact (h.sequence_bounds hd).1
          · have hgrows := congrArg List.length (h.log_afterExchange x.1 (Text.trim x.2))
            rw [List.length_append] at hgrows
            exact Nat.le_trans (Nat.le.intro hgrows.symm) (hbound d hd)

/-! ### What is written for a line -/

/-- Where the mailbox is empty there is nothing to take out. -/
theorem takeEvents_eq (h : Ready config s e) : s.takeEvents e = ([], e) := by
  obtain ⟨hlt, hget⟩ := List.getElem?_eq_some_iff.mp h.idle
  have hset : e.gateway.mailboxes.set s.outbound (.fresh none) = e.gateway.mailboxes := by
    rw [← hget, List.set_getElem_self]
  rw [Server.takeEvents, Gateway.drain, h.idle]
  change ([], { e with gateway := { e.gateway with
    mailboxes := e.gateway.mailboxes.set s.outbound (.fresh none) } }) = _
  rw [hset]

/-- **A line is answered by its exchange**, and a blank one by nothing. -/
theorem respond (h : Ready config s e) (now : Clock) (line : String) :
    s.respond e now line =
      ((s.exchanges e [(now, line)]).flatMap Exchange.lines, s.afterExchanges e [(now, line)]) := by
  rw [Server.respond, Server.exchanges, Server.afterExchanges]
  split
  · rfl
  · obtain ⟨-, hmailbox, -⟩ := h.exists_sent now (Text.trim line)
    have hevents : (s.takeEvents (s.handle e now (Text.trim line)).2).1 =
        (s.exchange e now (Text.trim line)).passedOn.map fun d =>
          (notification d.userId d.message).render := by
      rw [Server.takeEvents, Gateway.drain, hmailbox]
      exact List.map_congr_left fun d _ => eventLine_eq d
    dsimp only
    rw [hevents, Server.exchanges, Server.afterExchanges, Server.afterExchange,
      List.flatMap_singleton, Exchange.lines, Server.exchange]

/-! ### Whole inputs -/

/-- Lines that are text are answered one after the other. -/
theorem readLines (h : Ready config s e) (hs : s.isWritable = true) (now : Clock)
    {lines : List (List UInt8)} {texts : List String}
    (htexts : lines.mapM Text.Utf8.decode = .ok texts) :
    s.readLines now lines e =
      (⟨(s.exchanges e (texts.map (now, ·))).flatMap Exchange.lines, none⟩,
        s.afterExchanges e (texts.map (now, ·))) := by
  have hwrite : ∀ written, s.write written = ⟨written, none⟩ := fun written => by
    rw [Server.write, if_pos hs]
    cases written <;> rfl
  induction lines generalizing e texts with
  | nil =>
      obtain rfl := Except.ok.inj htexts
      rfl
  | cons octets lines ih =>
      rw [List.mapM_cons] at htexts
      obtain ⟨line, hline, htexts⟩ := bind_eq_ok.mp htexts
      obtain ⟨texts, hrest, htexts⟩ := bind_eq_ok.mp htexts
      obtain rfl := Except.ok.inj htexts
      have hafter := h.afterExchanges [(now, line)]
      have hsplit : (line :: texts).map (now, ·) = [(now, line)] ++ texts.map (now, ·) := rfl
      rw [Server.readLines, hline]
      dsimp only
      rw [h.respond, hwrite]
      dsimp only
      rw [ih hafter hrest, hsplit, s.exchanges_append, s.afterExchanges_append,
        List.flatMap_append]

/-- So are those that are fed to a server whose mailbox is empty. -/
theorem feed (h : Ready config s e) (hs : s.isWritable = true) (now : Clock)
    {lines : List (List UInt8)} {texts : List String}
    (htexts : lines.mapM Text.Utf8.decode = .ok texts) :
    s.feed e now lines =
      (⟨(s.exchanges e (texts.map (now, ·))).flatMap Exchange.lines, none⟩,
        s.afterExchanges e (texts.map (now, ·))) := by
  rw [Server.feed, h.takeEvents_eq]
  dsimp only
  rw [h.readLines hs now htexts]
  rfl

end Ready

namespace Server

/-- Serves an input that comes in parts, each with the time at which it comes, and ends at the time
`now`. `pending` holds the octets of a line that is not complete. The command line serves what it
reads in this way, with sweeps in between. -/
def serve (s : Server) (now : Clock) (pending : List UInt8) :
    List (Clock × List UInt8) → Engine → Output × Engine
  | [], e => s.finish e now pending
  | (time, octets) :: rest, e =>
    let (lines, pending) := Text.Lines.split (pending ++ octets)
    let (output, e) := s.feed e time lines
    match output.ended with
    | some _ => (output, e)
    | none =>
      let (more, e) := s.serve now pending rest e
      (⟨output.lines ++ more.lines, more.ended⟩, e)

/-- The lines of an input, each with the time at which it is complete; a fault if one of them is no
text. -/
def arrivals? (now : Clock) (pending : List UInt8) :
    List (Clock × List UInt8) → Except Text.Utf8.Fault (List (Clock × String))
  | [] => do
    let texts ← (Text.Lines.splitAll pending).mapM Text.Utf8.decode
    pure (texts.map (now, ·))
  | (time, octets) :: rest => do
    let (lines, pending) := Text.Lines.split (pending ++ octets)
    let texts ← lines.mapM Text.Utf8.decode
    let more ← arrivals? now pending rest
    pure (texts.map (time, ·) ++ more)

/-- Serving an input is having the exchanges of its lines. -/
theorem serve_eq (h : Ready config s e) (hs : s.isWritable = true) (now : Clock)
    (pending : List UInt8) {parts : List (Clock × List UInt8)} {input : List (Clock × String)}
    (hinput : arrivals? now pending parts = .ok input) :
    s.serve now pending parts e =
      (⟨(s.exchanges e input).flatMap Exchange.lines, some (.ok ())⟩,
        s.afterExchanges e input) := by
  induction parts generalizing e pending input with
  | nil =>
      obtain ⟨texts, htexts, hinput⟩ := bind_eq_ok.mp hinput
      obtain rfl := Except.ok.inj hinput
      rw [serve, finish, h.feed hs now htexts]
      rfl
  | cons part parts ih =>
      rw [arrivals?] at hinput
      dsimp only at hinput
      obtain ⟨texts, htexts, hinput⟩ := bind_eq_ok.mp hinput
      obtain ⟨more, hmore, hinput⟩ := bind_eq_ok.mp hinput
      obtain rfl := Except.ok.inj hinput
      rw [serve]
      dsimp only
      rw [h.feed hs part.1 htexts]
      dsimp only
      rw [ih (h.afterExchanges _) _ hmore, s.exchanges_append, s.afterExchanges_append,
        List.flatMap_append]

end Server

/-- Every line of an exchange is an object of the right version, without a newline in it. -/
theorem Exchange.single_object {x : Exchange} (h : line ∈ x.lines) :
    '\n' ∉ line.toList ∧
      ∃ fields, line = (Json.object (("jsonrpc", .text "2.0") :: fields)).render := by
  have hobject : ∃ fields, line = (Json.object (("jsonrpc", .text "2.0") :: fields)).render := by
    rcases List.mem_append.mp h with h | h
    · obtain ⟨reply, -, rfl⟩ := Option.map_eq_some_iff.mp (Option.mem_toList.mp h)
      cases reply with
      | result => exact ⟨_, rfl⟩
      | failure => exact ⟨_, rfl⟩
    · obtain ⟨d, -, rfl⟩ := List.mem_map.mp h
      exact ⟨_, rfl⟩
  obtain ⟨fields, rfl⟩ := hobject
  exact ⟨Json.newline_notMem_render _, fields, rfl⟩

/-- **The output is the replies and their events, in order.** A server whose mailbox is empty serves
any input of text. What is written is, for each line that is not blank, the reply to it, if it gets
one, and then one notification for each message that the request has sent to each user who is
connected through the server, with the id of the user and the message. All deliveries are in the
order of the messages, none of them occurs twice, and none is left in the end. Every line that is
written is a single object. -/
theorem serve_exchanges (he : e.Reachable config) (hs : s.isWritable = true)
    (hidle : e.gateway.mailboxes[s.outbound]? = some (.fresh none)) (now : Clock)
    (parts : List (Clock × List UInt8)) (input : List (Clock × String))
    (hinput : Server.arrivals? now [] parts = .ok input) :
    let served := s.serve now [] parts e
    served.1 = ⟨(s.exchanges e input).flatMap fun x =>
        (x.reply.map (·.toJson.render)).toList ++
          x.passedOn.map fun d => (notification d.userId d.message).render,
      some (.ok ())⟩ ∧
      served.2 = s.afterExchanges e input ∧
      served.2.gateway.mailboxes[s.outbound]? = some (.fresh none) ∧
      ((s.exchanges e input).flatMap Exchange.passedOn).Pairwise Delivery.Precedes ∧
      ∀ line ∈ served.1.lines, '\n' ∉ line.toList ∧
        ∃ fields, line = (Json.object (("jsonrpc", .text "2.0") :: fields)).render := by
  have hready : Ready config s e := ⟨he, hidle⟩
  dsimp only
  rw [Server.serve_eq hready hs now [] hinput]
  refine ⟨rfl, rfl, (hready.afterExchanges input).idle, (hready.pairwise_exchanges input).1,
    fun line hline => ?_⟩
  obtain ⟨x, -, hline⟩ := List.mem_flatMap.mp hline
  exact x.single_object hline

/-- A history after which Ada is connected through the server with the mailbox 0, and has a session
of her own. -/
def adaWaits : History :=
  .still [(⟨0, 0⟩, .connect "ada" (.shared 0)), (⟨0, 0⟩, .create "ada" "Ada" "primes" {})]

/-- After a blank line, Ada asks for help, without asking for a reply. -/
def adaAsks : List String :=
  [" ", "\x7b\"jsonrpc\":\"2.0\",\"method\":\"request_assistance\"," ++
    "\"params\":\x7b\"session_id\":\"$s0\",\"user_id\":\"ada\"\x7d\x7d"]

/-- The octets of these lines, in two parts. The first part ends inside a line, which is not
finished when the input ends. -/
def adaAsksInParts : List (Clock × List UInt8) :=
  let lines := adaAsks.map fun line => line.toList.map fun c => UInt8.ofNat c.toNat
  let octets := [Text.Lines.newline].intercalate lines
  [(.still ⟨1, 0⟩, octets.take 20), (.still ⟨2, 0⟩, octets.drop 20)]

/-- The one request gets no reply, and is passed on to Ada. -/
theorem serve_exchanges_adaAsks :
    let s : Server := (Server.start {} (Engine.new .default)).1
    let e := (Server.start {} (Engine.new .default)).2.after adaWaits
    e.Reachable .default ∧ s.isWritable = true ∧
      e.gateway.mailboxes[s.outbound]? = some (.fresh none) ∧
      ∃ input, Server.arrivals? (.still ⟨2, 0⟩) [] adaAsksInParts = .ok input ∧
        input.map Prod.snd = adaAsks ∧
        (s.serve (.still ⟨2, 0⟩) [] adaAsksInParts e).1 =
          ⟨(s.exchanges e input).flatMap Exchange.lines, some (.ok ())⟩ ∧
        (s.exchanges e input).map (fun x => (x.reply.isSome, x.passedOn.map (·.userId))) =
          [(false, ["ada"])] := by
  intro s e
  have hnew : (Engine.new .default).Reachable .default := .new
  have he : e.Reachable .default := (hnew.openLine .unbounded).after adaWaits
  have hidle : e.gateway.mailboxes[s.outbound]? = some (.fresh none) := by decide +kernel
  have harrive : ((Server.arrivals? (.still ⟨2, 0⟩) [] adaAsksInParts).toOption.map fun input =>
      (input.map Prod.snd, (s.exchanges e input).map fun x =>
        (x.reply.isSome, x.passedOn.map (·.userId)))) = some (adaAsks, [(false, ["ada"])]) := by
    decide +kernel
  obtain ⟨input, hinput, heq⟩ := Option.map_eq_some_iff.mp harrive
  obtain ⟨htexts, hexchanges⟩ := Prod.mk.inj heq
  have hok := eq_ok_of_toOption hinput
  obtain ⟨houtput, -⟩ := serve_exchanges he rfl hidle (.still ⟨2, 0⟩) adaAsksInParts input hok
  exact ⟨he, rfl, hidle, input, hok, htexts, houtput, hexchanges⟩

end Rpc

end CoEdit
