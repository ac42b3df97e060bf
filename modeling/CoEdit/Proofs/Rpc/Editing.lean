import CoEdit.Proofs.Decode.Given
import CoEdit.Proofs.Engine.Authoring
import CoEdit.Proofs.Rpc.Transparency
import CoEdit.Proofs.Wire.Entry

/-!
# One Edit, Read Twice

An edit is read in two ways. A remote caller sends loose parameters, of which an edit is made by the
name of its kind; what goes out again, in the reply, in the notice and in the recording, is a choice
tagged by that name. Both readings want the same parts under the same keys, so whatever is taken as
an edit when it comes in is taken as the same edit when it goes out.

## Main definitions

* `Operation.GivenBy`: the entries that give an edit.
* `Operation.ToldBy`: a value with an edit under a chain of keys.
* `Rpc.Call.AsksFor`: a call for an edit.

## Main results

* `Operation.GivenBy.decode_eq`: the tagged choice is read from the entries that give it.
* `Rpc.applyChange_call_iff`: which objects are taken as a call for an edit.
* `Rpc.edit_readings_agree`: both readings agree, and an edit that is carried out is told as itself.
-/

namespace CoEdit

open CoEdit.Decode
open CoEdit.Json (lookup)
open CoEdit.Time (Instant)

/-! ### The parts of an edit -/

namespace Operation

variable {op : Operation} {fields : List (String × Json)}

/-- The entries give the edit: its kind, its position, and whatever else its kind has. Other entries
do not matter. -/
structure GivenBy (op : Operation) (fields : List (String × Json)) : Prop where
  kind : Gives fields "type" Decode.text op.kind
  position : Gives fields "position" count op.position
  text : ∀ s, op.text? = some s → Gives fields "text" Decode.text s
  length : ∀ n, op.length? = some n → Gives fields "length" count n

/-- **The tagged choice** is read from the entries that give the edit. Its parts are read once the
tag is taken out, and from what was set aside, neither of which makes a difference. -/
theorem GivenBy.decode_eq (h : op.GivenBy fields) (source : Source) :
    decode source (.object fields) = .ok op := by
  have hposition : (Record.required "position" count).ofFields .buffered
      (fields.filter (·.1 ≠ "type")) = .ok op.position :=
    Record.ofFields_required (h.position.filter (by decide)) .buffered
  have htext : ∀ s, op.text? = some s → (Record.required "text" Decode.text).ofFields .buffered
      (fields.filter (·.1 ≠ "type")) = .ok s := fun s hs =>
    Record.ofFields_required ((h.text s hs).filter (by decide)) .buffered
  have hlength : ∀ n, op.length? = some n → (Record.required "length" count).ofFields .buffered
      (fields.filter (·.1 ≠ "type")) = .ok n := fun n hn =>
    Record.ofFields_required ((h.length n hn).filter (by decide)) .buffered
  rw [decode, tagged, taggedFields, tagKey, h.kind.lookup_text]
  cases op with
  | insert position s =>
      exact Record.ofObject_eq_ok (Record.ofFields_seq (Record.ofFields_map hposition insert)
        (htext s rfl))
  | delete position n =>
      exact Record.ofObject_eq_ok (Record.ofFields_seq (Record.ofFields_map hposition delete)
        (hlength n rfl))
  | replace position s n =>
      exact Record.ofObject_eq_ok (Record.ofFields_seq (Record.ofFields_seq
        (Record.ofFields_map hposition replace) (htext s rfl)) (hlength n rfl))

/-! ### Encoded edits -/

/-- The entries of an encoded edit. -/
def toFields (op : Operation) : List (String × Json) :=
  [("type", .text op.kind), ("position", .nat op.position)] ++
    (op.text?.map fun s => ("text", .text s)).toList ++
    (op.length?.map fun n => ("length", .nat n)).toList

theorem toJson_eq (op : Operation) : op.toJson = .object op.toFields := by
  cases op <;> rfl

end Operation

/-- The value that a chain of keys leads to. -/
def Json.under? : List String → Json → Option Json
  | [], j => some j
  | key :: keys, .object fields => (lookup key fields).bind (under? keys)
  | _ :: _, _ => none

/-- The value that a chain of keys leads to is read as the edit. -/
def Operation.ToldBy (op : Operation) (j : Json) (keys : List String) : Prop :=
  ∃ value, j.under? keys = some value ∧ Reads Operation.decode value op

theorem Change.toldBy (c : Change) : c.operation.ToldBy c.toJson ["operation"] :=
  ⟨_, rfl, c.operation.reads⟩

theorem Message.toldBy {m : Message} {c : Change} {content : String}
    (h : m.notice = .codeChange c content) :
    c.operation.ToldBy m.toJson ["change", "operation"] := by
  refine ⟨c.operation.toJson, ?_, c.operation.reads⟩
  rw [Message.toJson, h]
  rfl

theorem Entry.toldBy {entry : Entry} {c : Change} (h : entry.fact = .changed c) :
    c.operation.ToldBy entry.toJson ["change", "operation"] := by
  refine ⟨c.operation.toJson, ?_, c.operation.reads⟩
  rw [Entry.toJson, h]
  rfl

namespace Rpc

variable {fields : List (String × Json)} {sessionId authorId : String} {op : Operation}

/-! ### Calls for an edit -/

/-- The call is for an edit of a session. -/
def Call.AsksFor (call : Call) (sessionId authorId : String) (op : Operation) : Prop :=
  ∃ kind position text length,
    call = .applyChange sessionId authorId kind position text length ∧
      Operation.ofParts kind position text length = .ok op

/-- The entries make up a call for an edit. A part that the edit does not need may be there as well,
but not as a value of the wrong kind. -/
structure CallsFor (fields : List (String × Json)) (sessionId authorId : String) (op : Operation) :
    Prop where
  sessionId : Gives fields "session_id" text sessionId
  authorId : Gives fields "author_id" text authorId
  operation : op.GivenBy fields
  text : Tolerates fields "text" text
  length : Tolerates fields "length" count

/-- The loose parameters are read one by one. -/
theorem changeRecord_eq_ok {kind : String} {position : Nat} {s : Option String} {n : Option Nat} :
    Call.changeRecord.ofFields .direct fields =
        .ok (.applyChange sessionId authorId kind position s n) ↔
      Gives fields "session_id" text sessionId ∧ Gives fields "author_id" text authorId ∧
        Gives fields "type" text kind ∧ Gives fields "position" count position ∧
        (Record.optional "text" (nullable text)).ofFields .direct fields = .ok s ∧
        (Record.optional "length" (nullable count)).ofFields .direct fields = .ok n := by
  constructor
  · intro h
    obtain ⟨make₅, _, h₅, hlength, heq⟩ := Record.ofFields_seq_eq_ok.mp h
    obtain ⟨make₄, _, h₄, htext, rfl⟩ := Record.ofFields_seq_eq_ok.mp h₅
    obtain ⟨make₃, _, h₃, hposition, rfl⟩ := Record.ofFields_seq_eq_ok.mp h₄
    obtain ⟨make₂, _, h₂, hkind, rfl⟩ := Record.ofFields_seq_eq_ok.mp h₃
    obtain ⟨make₁, _, h₁, hauthor, rfl⟩ := Record.ofFields_seq_eq_ok.mp h₂
    obtain ⟨_, hsession, rfl⟩ := Record.ofFields_map_eq_ok.mp h₁
    cases heq
    exact ⟨Record.gives_of_required sourceFree_text hsession,
      Record.gives_of_required sourceFree_text hauthor,
      Record.gives_of_required sourceFree_text hkind,
      Record.gives_of_required sourceFree_count hposition, htext, hlength⟩
  · rintro ⟨hsession, hauthor, hkind, hposition, htext, hlength⟩
    have h₁ := Record.ofFields_map (Record.ofFields_required hsession .direct) Call.applyChange
    have h₂ := Record.ofFields_seq h₁ (Record.ofFields_required hauthor .direct)
    have h₃ := Record.ofFields_seq h₂ (Record.ofFields_required hkind .direct)
    have h₄ := Record.ofFields_seq h₃ (Record.ofFields_required hposition .direct)
    exact Record.ofFields_seq (Record.ofFields_seq h₄ htext) hlength

theorem callsFor_of_call {call : Call}
    (hcall : Method.applyChange.call (some (.object fields)) = .ok call)
    (hasks : call.AsksFor sessionId authorId op) : CallsFor fields sessionId authorId op := by
  obtain ⟨kind, position, s, n, rfl, hparts⟩ := hasks
  obtain ⟨hsession, hauthor, hkind, hposition, htext, hlength⟩ :=
    changeRecord_eq_ok.mp (mapError_eq_ok.mp (mapError_eq_ok.mp hcall))
  obtain ⟨rfl, rfl, hs, hn⟩ := Operation.ofParts_eq_ok.mp hparts
  refine ⟨hsession, hauthor, ⟨hkind, hposition, fun t ht => ?_, fun m hm => ?_⟩,
    Record.exists_ofFields_optional_iff.mp ⟨s, htext⟩,
    Record.exists_ofFields_optional_iff.mp ⟨n, hlength⟩⟩
  · obtain rfl := hs t ht
    exact Record.gives_of_optional sourceFree_text htext
  · obtain rfl := hn m hm
    exact Record.gives_of_optional sourceFree_count hlength

theorem CallsFor.exists_call (h : CallsFor fields sessionId authorId op) :
    ∃ call, Method.applyChange.call (some (.object fields)) = .ok call ∧
      call.AsksFor sessionId authorId op := by
  obtain ⟨s, hs⟩ := Record.exists_ofFields_optional_iff.mpr h.text
  obtain ⟨n, hn⟩ := Record.exists_ofFields_optional_iff.mpr h.length
  -- Where the edit has the part, this is what is read; what it does not have is superfluous.
  have htext : ∀ t, op.text? = some t → s = some t := fun t ht =>
    Except.ok.inj (hs.symm.trans
      (Record.ofFields_optional_eq_some nofun (h.operation.text t ht)))
  have hlength : ∀ m, op.length? = some m → n = some m := fun m hm =>
    Except.ok.inj (hn.symm.trans
      (Record.ofFields_optional_eq_some nofun (h.operation.length m hm)))
  have hrecord : Call.changeRecord.ofFields .direct fields =
      .ok (.applyChange sessionId authorId op.kind op.position s n) :=
    changeRecord_eq_ok.mpr
      ⟨h.sessionId, h.authorId, h.operation.kind, h.operation.position, hs, hn⟩
  refine ⟨_, ?_, op.kind, op.position, s, n, rfl,
    Operation.ofParts_eq_ok.mpr ⟨rfl, rfl, htext, hlength⟩⟩
  change (Call.changeRecord.ofObject .direct fields).mapError _ = _
  rw [Record.ofObject_eq_ok hrecord]
  rfl

/-- **The loose parameters** are read from the entries that make up a call for an edit, and from no
others. -/
theorem applyChange_call_iff :
    (∃ call, Method.applyChange.call (some (.object fields)) = .ok call ∧
      call.AsksFor sessionId authorId op) ↔ CallsFor fields sessionId authorId op :=
  ⟨fun ⟨_, hcall, hasks⟩ => callsFor_of_call hcall hasks, CallsFor.exists_call⟩

/-- An encoded edit, with a session and an author added to its entries, is a call for this edit. -/
theorem callsFor_of_lookup
    (h : ∀ key, lookup key fields = lookup key
      (("session_id", .text sessionId) :: ("author_id", .text authorId) :: op.toFields)) :
    CallsFor fields sessionId authorId op := by
  have htext : lookup "text" fields = op.text?.map Json.text :=
    (h _).trans (by cases op <;> rfl)
  have hlength : lookup "length" fields = op.length?.map Json.nat :=
    (h _).trans (by cases op <;> rfl)
  constructor
  case sessionId => exact ⟨_, h _, reads_text sessionId⟩
  case authorId => exact ⟨_, h _, reads_text authorId⟩
  case operation =>
    constructor
    case kind => exact ⟨_, h _, reads_text op.kind⟩
    case position => exact ⟨_, h _, reads_unsigned op.position .count⟩
    case text =>
      intro s hs
      rw [hs] at htext
      exact ⟨_, htext, reads_text s⟩
    case length =>
      intro n hn
      rw [hn] at hlength
      exact ⟨_, hlength, reads_unsigned n .count⟩
  case text =>
    intro j hj
    rw [htext] at hj
    obtain ⟨s, -, rfl⟩ := Option.map_eq_some_iff.mp hj
    exact .inr ⟨s, rfl⟩
  case length =>
    intro j hj
    rw [hlength] at hj
    obtain ⟨n, -, rfl⟩ := Option.map_eq_some_iff.mp hj
    exact .inr ⟨n, reads_unsigned n .count .direct⟩

/-! ### Edits that are carried out -/

section CarryingOut

variable {e e' : Engine} {now : Clock} {config : Config} {s : Server} {r : Request} {call : Call}

/-- A change has been made for a remote caller, and whatever tells of it tells of the same edit: the
reply, the notice that is sent to the others, and the entry of the recording. -/
structure CarriesOut (e : Engine) (sessionId : String) (change : Change) (reply : Json)
    (e' : Engine) : Prop where
  takes : ∃ before after, e.TakesEdit sessionId change before after e'
  answer : reply = change.toJson
  replied : change.operation.ToldBy reply ["operation"]
  announced : ∃ (d : Dispatch) (content : String), e'.gateway.log = e.gateway.log ++ [d] ∧
    d.message.sessionId = sessionId ∧ d.message.notice = .codeChange change content ∧
    change.operation.ToldBy d.message.toJson ["change", "operation"]
  recorded : ∃ recording entry, e'.archive.get? sessionId = some recording ∧
    recording.entries.getLast? = some entry ∧ entry.fact = .changed change ∧
    change.operation.ToldBy entry.toJson ["change", "operation"]

theorem carriesOut {change : Change} (he : e.Reachable config)
    (hok : e.change sessionId authorId op now = .ok (change, e')) :
    CarriesOut e sessionId change change.toJson e' := by
  obtain ⟨-, htakes⟩ := he.takesEdit hok
  obtain ⟨_, _, -, -, -, rfl⟩ := Engine.change_ok hok
  refine ⟨htakes, rfl, change.toldBy, ?_, ?_⟩
  · exact ⟨_, _, rfl, rfl, rfl, Message.toldBy rfl⟩
  · exact ⟨_, _, Table.get?_put_self .., List.getLast?_concat, rfl, Entry.toldBy rfl⟩

/-- A request with a call for an edit comes to the edit. -/
theorem dispatch_eq_change (hmethod : r.method = "apply_change")
    (hcall : Method.applyChange.call r.params = .ok call)
    (hasks : call.AsksFor sessionId authorId op) :
    s.dispatch e now r = match e.change sessionId authorId op now with
      | .ok (change, e') => (.ok change.toJson, e')
      | .error error => (.error (.ofError error), e) := by
  obtain ⟨kind, position, text, length, rfl, hparts⟩ := hasks
  rw [Server.dispatch_eq_outcome, Server.outcome, Server.ask?, hmethod]
  have hnamed : Method.named? "apply_change" = some .applyChange := by decide
  rw [if_neg (by decide), if_neg (by decide), hnamed, Option.map_some, hcall]
  dsimp only
  rw [Call.ask, hparts]
  dsimp only
  rw [Ask.outcome, Engine.step, Engine.execute]
  cases e.change sessionId authorId op now with
  | error => rfl
  | ok => rfl

end CarryingOut

/-- **Both readings of an edit agree.** An encoded edit is taken as a call for this edit once a
session and an author are added to it. From all objects that are taken as a call for an edit, the
tagged choice is read as the same edit, whatever else they hold. So an edit for which there is no
reason to refuse it is the same edit in the request, in the reply, in the notice and in the
recording. -/
theorem edit_readings_agree (op : Operation) (sessionId authorId : String) :
    (∀ own fields, op.toJson = .object own →
      (∀ key, lookup key fields = lookup key
        (("session_id", .text sessionId) :: ("author_id", .text authorId) :: own)) →
      ∃ call, Method.applyChange.call (some (.object fields)) = .ok call ∧
        call.AsksFor sessionId authorId op) ∧
    ∀ fields call, Method.applyChange.call (some (.object fields)) = .ok call →
      call.AsksFor sessionId authorId op →
      (∀ source, Operation.decode source (.object fields) = .ok op) ∧
      ∀ (config : Config) (e : Engine) (s : Server) (now : Clock) (r : Request),
        e.Reachable config → r.method = "apply_change" → r.params = some (.object fields) →
        match e.editRefusal? sessionId authorId with
        | some error => s.dispatch e now r = (.error (.ofError error), e)
        | none => ∃ change reply e', s.dispatch e now r = (.ok reply, e') ∧
            change = ⟨e.freshChangeId, authorId, now.acting sessionId, op⟩ ∧
            CarriesOut e sessionId change reply e' := by
  refine ⟨fun own fields hown hlook => ?_, fun fields call hcall hasks => ⟨fun source => ?_,
    fun config e s now r he hmethod hparams => ?_⟩⟩
  · rw [op.toJson_eq] at hown
    obtain rfl := Json.object.inj hown
    exact applyChange_call_iff.mpr (callsFor_of_lookup hlook)
  · exact (applyChange_call_iff.mp ⟨call, hcall, hasks⟩).operation.decode_eq source
  · rw [dispatch_eq_change hmethod (hparams ▸ hcall) hasks]
    have hbalanced := he.coherent.balanced
    cases hrefusal : e.editRefusal? sessionId authorId with
    | some error =>
        rw [hbalanced.change_of_refusal op now hrefusal]
    | none =>
        obtain ⟨change, e', hok⟩ := hbalanced.exists_change op now hrefusal
        rw [hok]
        exact ⟨change, _, e', rfl, (he.takesEdit hok).1, carriesOut he hok⟩

/-- A request of Bob to put a word in front, with a length that is null, and with an entry that no
reader knows. -/
def bobInserts : Request :=
  ⟨"2.0", some (.nat 1), "apply_change", some (.object [("author_id", .text "bob"),
    ("length", .null), ("note", .array []), ("position", .nat 0), ("session_id", .text "$s0"),
    ("text", .text "two, "), ("type", .text "insert")])⟩

/-- An encoded insertion is a call for it. The insertion that Bob asks for is read as such from his
request, and is carried out as long as the host is there; afterwards it is refused. -/
theorem edit_readings_agree_insert :
    let op := Operation.insert 0 "two, "
    let e := (Engine.new .default).after (Engine.hostGone.take 4)
    let ended := (Engine.new .default).after Engine.hostGone
    let s : Server := ⟨{}, 0, true, fun _ => Server.parseDetails⟩
    (∃ call, Method.applyChange.call (some (.object (("session_id", .text "$s0") ::
        ("author_id", .text "bob") :: op.toFields))) = .ok call ∧ call.AsksFor "$s0" "bob" op) ∧
      bobInserts.params.map (Operation.decode .direct) = some (.ok op) ∧
      (∃ change reply e', s.dispatch e (.still ⟨5, 0⟩) bobInserts = (.ok reply, e') ∧
        CarriesOut e "$s0" change reply e') ∧
      s.dispatch ended (.still ⟨5, 0⟩) bobInserts =
        (.error (.ofError (.sessionInactive "$s0" .ended [.active])), ended) := by
  intro op e ended s
  have he : e.Reachable .default := Engine.Reachable.new.after _
  have hended : ended.Reachable .default := Engine.Reachable.new.after _
  obtain ⟨hencoded, hread⟩ := edit_readings_agree op "$s0" "bob"
  have hcall : Method.applyChange.call bobInserts.params =
      .ok (.applyChange "$s0" "bob" "insert" 0 (some "two, ") none) := by rfl
  obtain ⟨hdecode, hcarry⟩ := hread _ _ hcall ⟨_, _, _, _, rfl, by rfl⟩
  have hdone := hcarry .default e s (.still ⟨5, 0⟩) bobInserts he rfl rfl
  have hrefused := hcarry .default ended s (.still ⟨5, 0⟩) bobInserts hended rfl rfl
  have hnone : e.editRefusal? "$s0" "bob" = none := by decide +kernel
  have hsome : ended.editRefusal? "$s0" "bob" =
      some (.sessionInactive "$s0" .ended [.active]) := by decide +kernel
  rw [hnone] at hdone
  rw [hsome] at hrefused
  obtain ⟨change, reply, e', hdispatch, -, hout⟩ := hdone
  exact ⟨hencoded _ _ op.toJson_eq fun _ => rfl, congrArg some (hdecode .direct),
    ⟨change, reply, e', hdispatch, hout⟩, hrefused⟩

end Rpc

end CoEdit
