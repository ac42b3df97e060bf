import CoEdit.Proofs.Engine.Events

/-!
# Delivery Is Confined

Who is connected to an engine, and how those who receive its messages fare, makes no difference to
anything else. Of two runs with the same operations at the same times, which visit the sessions in
the same orders, the answers are the same, and so is all that the engine holds, but for the
connections themselves. And what is received on one connection does not depend on the others: if a
mailbox of the one run is treated like a mailbox of the other, the same arrives in both.

## Main definitions

* `Engine.SameButDelivery`: two engines that differ at most in connections and mailboxes.
* `Event.Spares`, `Event.Opens`, `Engine.Counterparts`: events apart from twin mailboxes, those that
  open them, and those that treat them alike.
* `Engine.Alongside`: two runs with the same operations and with twin mailboxes.

## Main results

* `Alongside.matched`: what two such runs come to.
* `delivery_confined`: delivery influences neither the engine nor other recipients.
-/

namespace CoEdit

open CoEdit.Time (Instant)

namespace Event

variable {e : Engine} {x : Event} {watched : String → Prop} {mailboxes : List Nat} {k : Nat}

/-- Whether an event is about the connections of users who are not watched, and about mailboxes
other than the given ones. -/
def Spares (watched : String → Prop) (mailboxes : List Nat) : Event → Prop
  | .give _ (.connect userId line) => ¬watched userId ∧ ∀ k ∈ mailboxes, line ≠ .shared k
  | .give _ (.disconnect userId) => ¬watched userId
  | .give _ _ => False
  | .openLine _ => True
  | .drain mailbox => mailbox ∉ mailboxes
  | .hangUp mailbox => mailbox ∉ mailboxes
  | .reorder _ => False

/-- If nobody is watched, everything but an operation is such an event. -/
theorem spares_of_not_isOperation {x : Event} (h : x.isOperation = false) :
    x.Spares (fun _ => False) [] := by
  cases x with
  | give now command =>
      cases command with
      | connect => exact ⟨not_false, nofun⟩
      | disconnect => exact not_false
      | _ => cases h
  | openLine => trivial
  | drain => exact List.not_mem_nil
  | hangUp => exact List.not_mem_nil
  | reorder => cases h

/-- Whether an event opens a line to a mailbox of its own, and if so, connects nobody to it but a
watched user. -/
def Opens (watched : String → Prop) : Event → Prop
  | .give _ (.connect userId line) => watched userId ∧ line.isOwn = true
  | .openLine line => line.isOwn = true
  | _ => False

theorem Spares.isOperation_eq (h : x.Spares watched mailboxes) : x.isOperation = false := by
  cases x with
  | give now command =>
      cases command with
      | connect | disconnect => rfl
      | _ => cases h
  | reorder => cases h
  | _ => rfl

theorem Opens.isOperation_eq (h : x.Opens watched) : x.isOperation = false := by
  cases x with
  | give now command =>
      cases command with
      | connect => rfl
      | _ => cases h
  | reorder => cases h
  | _ => rfl

/-- Nothing is taken out of a mailbox that is spared, -/
theorem Spares.taken_eq (h : x.Spares watched mailboxes) (hk : k ∈ mailboxes) :
    Engine.taken k e x = [] := by
  cases x with
  | drain mailbox =>
      refine if_neg ?_
      rintro rfl
      exact h hk
  | _ => rfl

/-- or when a line is opened. -/
theorem Opens.taken_eq (h : x.Opens watched) : Engine.taken k e x = [] := by
  cases x with
  | drain => cases h
  | _ => rfl

end Event

namespace Engine

variable {config : Config} {e e' : Engine} {x y : Event} {xs ys : List Event}
  {watched : String → Prop} {twins : List (Nat × Nat)} {t : Nat × Nat}

/-! ### At one moment -/

/-- Two engines that are the same but for connections and mailboxes: what the gateway has sent, and
to which subscribers, is the same as well. -/
structure SameButDelivery (e e' : Engine) : Prop where
  rest : e' = { e with gateway := e'.gateway }
  sending : e.gateway.SameSending e'.gateway

theorem Twinned.sameButDelivery (h : Twinned watched twins e e') : SameButDelivery e e' := by
  refine ⟨?_, h.gateway.toSameSending⟩
  cases h with
  | intro => rfl

/-- What happens to the gateway of one engine, apart from the twins, leaves them twins. -/
theorem Twinned.meet_left (h : Twinned watched twins e e')
    (hx : x.Spares watched (twins.map Prod.fst)) : Twinned watched twins (e.meet x) e' := by
  have hne : ∀ {k}, k ∉ twins.map Prod.fst → ∀ t ∈ twins, t.1 ≠ k := by
    rintro k hk t ht rfl
    exact hk (List.mem_map_of_mem ht)
  cases h with
  | @intro gateway h =>
    cases x with
    | give now command =>
        cases command with
        | connect userId line =>
            obtain ⟨huser, hline⟩ := hx
            exact .intro (h.left_connect huser fun t ht => hline t.1 (List.mem_map_of_mem ht))
        | disconnect userId => exact .intro (h.left_disconnect hx)
        | _ => cases hx
    | openLine line => exact .intro (h.left_openLine line)
    | drain mailbox => exact .intro (h.left_drain (hne hx))
    | hangUp mailbox => exact .intro (h.left_hangUp (hne hx))
    | reorder => cases hx

/-- The same at the other engine. -/
theorem Twinned.meet_right (h : Twinned watched twins e e')
    (hy : y.Spares watched (twins.map Prod.snd)) : Twinned watched twins e (e'.meet y) := by
  have hswap : (twins.map Prod.swap).map Prod.fst = twins.map Prod.snd := by
    rw [List.map_map]
    rfl
  have hback : (twins.map Prod.swap).map Prod.swap = twins := by
    rw [List.map_map, Prod.swap_swap_eq, List.map_id]
  have hleft := (h.symm.meet_left (hswap ▸ hy)).symm
  rwa [hback] at hleft

/-! ### Two runs -/

/-- Events of two runs that are counterparts: the same operation at the same time, the same order of
the sessions, or the same done to twin mailboxes by watched users and by receivers. -/
inductive Counterparts (watched : String → Prop) (twins : List (Nat × Nat)) : Event → Event → Prop
  | operation (now : Clock) {command : Command} (hoperation : command.isOperation = true) :
      Counterparts watched twins (.give now command) (.give now command)
  | reorder (rank : String → Nat) : Counterparts watched twins (.reorder rank) (.reorder rank)
  | share (now : Clock) {userId : String} {t : Nat × Nat} (huser : watched userId)
      (ht : t ∈ twins) :
      Counterparts watched twins (.give now (.connect userId (.shared t.1)))
        (.give now (.connect userId (.shared t.2)))
  | disconnect (now : Clock) (userId : String) :
      Counterparts watched twins (.give now (.disconnect userId)) (.give now (.disconnect userId))
  | drain {t : Nat × Nat} (ht : t ∈ twins) : Counterparts watched twins (.drain t.1) (.drain t.2)
  | hangUp {t : Nat × Nat} (ht : t ∈ twins) : Counterparts watched twins (.hangUp t.1) (.hangUp t.2)

/-- Two runs of an engine with the same operations at the same times, the same orders of the
sessions, and twin mailboxes. Twins are opened together and treated alike. Everything else that
concerns connections and mailboxes may happen in one of the runs alone. -/
inductive Alongside (config : Config) (watched : String → Prop) :
    List Event → List Event → List (Nat × Nat) → Prop
  | start : Alongside config watched [] [] []
  | both {xs ys : List Event} {twins : List (Nat × Nat)} {x y : Event}
      (h : Alongside config watched xs ys twins) (hxy : Counterparts watched twins x y) :
      Alongside config watched (xs ++ [x]) (ys ++ [y]) twins
  | left {xs ys : List Event} {twins : List (Nat × Nat)} {x : Event}
      (h : Alongside config watched xs ys twins) (hx : x.Spares watched (twins.map Prod.fst)) :
      Alongside config watched (xs ++ [x]) ys twins
  | right {xs ys : List Event} {twins : List (Nat × Nat)} {y : Event}
      (h : Alongside config watched xs ys twins) (hy : y.Spares watched (twins.map Prod.snd)) :
      Alongside config watched xs (ys ++ [y]) twins
  | opening {xs ys : List Event} {twins : List (Nat × Nat)} {x : Event}
      (h : Alongside config watched xs ys twins) (hx : x.Opens watched)
      (hnew : ((Engine.new config).through xs).gateway.NextIsFree)
      (hnew' : ((Engine.new config).through ys).gateway.NextIsFree) :
      Alongside config watched (xs ++ [x]) (ys ++ [x])
        (twins ++ [(((Engine.new config).through xs).gateway.nextMailbox,
          ((Engine.new config).through ys).gateway.nextMailbox)])

/-- Counterparts keep twins twins, and are answered alike. -/
theorem Twinned.meet_both (h : Twinned watched twins e e') (hxy : Counterparts watched twins x y) :
    Twinned watched twins (e.meet x) (e'.meet y) ∧ e'.answer? y = e.answer? x := by
  cases hxy with
  | operation now hoperation =>
      obtain ⟨hanswer, hstep⟩ := h.step now hoperation
      refine ⟨hstep, ?_⟩
      rw [answer?, answer?, hanswer]
  | reorder rank =>
      cases h with
      | intro h => exact ⟨.intro h, rfl⟩
  | share now huser ht =>
      cases h with
      | intro h => exact ⟨.intro (h.connect_shared huser ht), rfl⟩
  | disconnect now userId =>
      cases h with
      | intro h => exact ⟨.intro (h.disconnect userId), rfl⟩
  | drain ht =>
      cases h with
      | intro h => exact ⟨.intro (h.drain ht), rfl⟩
  | hangUp ht =>
      cases h with
      | intro h => exact ⟨.intro (h.hangUp ht), rfl⟩

/-- What is taken out of twins at counterparts is the same. -/
theorem Twinned.taken_both (h : Twinned watched twins e e')
    (hxy : Counterparts watched twins x y) (ht : t ∈ twins) :
    taken t.2 e' y = taken t.1 e x := by
  cases hxy with
  | @drain u hu =>
      rw [taken, taken, h.gateway.drain_fst ht]
      exact if_congr (h.gateway.distinct u hu t ht).symm rfl rfl
  | _ => rfl

/-- A line that is opened in both runs leads to twins. -/
theorem Twinned.meet_opening (h : Twinned watched twins e e') (hx : x.Opens watched)
    (hnew : e.gateway.NextIsFree) (hnew' : e'.gateway.NextIsFree) :
    Twinned watched (twins ++ [(e.gateway.nextMailbox, e'.gateway.nextMailbox)]) (e.meet x)
      (e'.meet x) := by
  cases h with
  | intro h =>
    cases x with
    | openLine line => exact .intro (h.openLine hx hnew hnew')
    | give now command =>
        cases command with
        | connect userId line =>
            obtain ⟨huser, hline⟩ := hx
            exact .intro (h.connect huser hline hnew hnew')
        | _ => cases hx
    | _ => cases hx

/-- What two such runs come to: engines that are the same but for delivery, the same answers, and
the same received from twins. -/
structure Matched (config : Config) (watched : String → Prop) (xs ys : List Event)
    (twins : List (Nat × Nat)) : Prop where
  engines : Twinned watched twins ((Engine.new config).through xs) ((Engine.new config).through ys)
  answers : (Engine.new config).answers ys = (Engine.new config).answers xs
  received : ∀ t ∈ twins,
    (Engine.new config).received t.2 ys = (Engine.new config).received t.1 xs

/-- **Runs alongside each other match.** -/
theorem Alongside.matched (h : Alongside config watched xs ys twins) :
    Matched config watched xs ys twins := by
  induction h with
  | start => exact ⟨.new watched config, rfl, nofun⟩
  | @both xs ys twins x y _ hxy ih =>
      obtain ⟨hengines, hanswer⟩ := ih.engines.meet_both hxy
      refine ⟨?_, ?_, fun t ht => ?_⟩
      · rw [through_concat, through_concat]
        exact hengines
      · rw [answers_concat, answers_concat, ih.answers, hanswer]
      · rw [received_concat, received_concat, ih.received t ht, ih.engines.taken_both hxy ht]
  | @left xs ys twins x _ hx ih =>
      refine ⟨?_, ?_, fun t ht => ?_⟩
      · rw [through_concat]
        exact ih.engines.meet_left hx
      · rw [answers_concat, answer?_of_not_isOperation hx.isOperation_eq, ih.answers]
        exact (List.append_nil _).symm
      · rw [received_concat, ih.received t ht, hx.taken_eq (List.mem_map_of_mem ht),
          List.append_nil]
  | @right xs ys twins y _ hy ih =>
      refine ⟨?_, ?_, fun t ht => ?_⟩
      · rw [through_concat]
        exact ih.engines.meet_right hy
      · rw [answers_concat, answer?_of_not_isOperation hy.isOperation_eq, ← ih.answers]
        exact List.append_nil _
      · rw [received_concat, ih.received t ht, hy.taken_eq (List.mem_map_of_mem ht),
          List.append_nil]
  | @opening xs ys twins x _ hx hnew hnew' ih =>
      refine ⟨?_, ?_, fun t ht => ?_⟩
      · rw [through_concat, through_concat]
        exact ih.engines.meet_opening hx hnew hnew'
      · rw [answers_concat, answers_concat, answer?_of_not_isOperation hx.isOperation_eq,
          answer?_of_not_isOperation hx.isOperation_eq, ih.answers]
      · rw [received_concat, received_concat, hx.taken_eq, hx.taken_eq, List.append_nil,
          List.append_nil]
        rcases List.mem_append.mp ht with hold | hlast
        · exact ih.received t hold
        · rw [List.mem_singleton.mp hlast, received_eq_nil (le_refl _),
            received_eq_nil (le_refl _)]

/-- Runs with the same operations go alongside each other, if nobody is watched. -/
theorem alongside_of_filter_eq
    (h : xs.filter Event.isOperation = ys.filter Event.isOperation) :
    Alongside config (fun _ => False) xs ys [] := by
  induction xs using List.reverseRecOn generalizing ys with
  | nil =>
      induction ys using List.reverseRecOn with
      | nil => exact .start
      | append_singleton ys y ih =>
          rw [List.filter_append, List.filter_nil, eq_comm, List.append_eq_nil_iff] at h
          obtain ⟨hrest, hlast⟩ := h
          have hy : y.isOperation = false := by simpa using hlast
          exact .right (ih hrest.symm) (Event.spares_of_not_isOperation hy)
  | append_singleton xs x ihx =>
      cases hx : x.isOperation with
      | false =>
          rw [List.filter_append, List.filter_singleton, hx] at h
          exact .left (ihx ((List.append_nil _).symm.trans h)) (Event.spares_of_not_isOperation hx)
      | true =>
          -- The last operation of the other run comes before some events that are no operations.
          induction ys using List.reverseRecOn with
          | nil => simp [hx] at h
          | append_singleton ys y ihy =>
              cases hy : y.isOperation with
              | false =>
                  rw [List.filter_append ys [y], List.filter_singleton, hy] at h
                  exact .right (ihy (h.trans (List.append_nil _)))
                    (Event.spares_of_not_isOperation hy)
              | true =>
                  rw [List.filter_append, List.filter_append, List.filter_singleton,
                    List.filter_singleton, hx, hy] at h
                  obtain ⟨hrest, hlast⟩ := List.append_inj' h rfl
                  obtain rfl := List.singleton_inj.mp hlast
                  cases x with
                  | give now command => exact .both (ihx hrest) (.operation now hx)
                  | reorder rank => exact .both (ihx hrest) (.reorder rank)
                  | _ => cases hx

/-- **Delivery is confined.** Take two runs with the same operations at the same times, which visit
the sessions in the same orders, whatever these are, whoever is connected in either of them, and
whatever becomes of the connections. All operations are answered alike, and afterwards, which is to
say after every operation, the sessions, the directory, the recordings, the subscriptions and the
messages sent are the same. If moreover a mailbox of the one run has a twin in the other, opened
together with it and treated alike, then the same users are connected to both, and the same is
received from both, whatever becomes of the other connections. -/
theorem delivery_confined (config : Config) :
    (∀ xs ys : List Event, xs.filter Event.isOperation = ys.filter Event.isOperation →
      (Engine.new config).answers xs = (Engine.new config).answers ys ∧
        SameButDelivery ((Engine.new config).through xs) ((Engine.new config).through ys)) ∧
    ∀ (watched : String → Prop) (xs ys : List Event) (twins : List (Nat × Nat)),
      Alongside config watched xs ys twins → ∀ t ∈ twins,
        let g := ((Engine.new config).through xs).gateway
        let g' := ((Engine.new config).through ys).gateway
        (∀ userId, g.connections.get? userId = some t.1 ↔ g'.connections.get? userId = some t.2) ∧
        (Engine.new config).received t.1 xs = (Engine.new config).received t.2 ys ∧
        (g.drain t.1).1 = (g'.drain t.2).1 := by
  refine ⟨fun xs ys hsame => ?_, fun watched xs ys twins hruns t ht => ?_⟩
  · have hruns : Alongside config (fun _ => False) xs ys [] := alongside_of_filter_eq hsame
    have hmatched := hruns.matched
    exact ⟨hmatched.answers.symm, hmatched.engines.sameButDelivery⟩
  · have hmatched := hruns.matched
    have htwinned := hmatched.engines.gateway
    exact ⟨htwinned.connections t ht, (hmatched.received t ht).symm, (htwinned.drain_fst ht).symm⟩

/-- What Ada and Bob do in a session of Ada's. -/
def smallTalk : List Event :=
  [.give (.still ⟨1, 0⟩) (.create "ada" "Ada" "primes" {}),
    .give (.still ⟨2, 0⟩) (.join "$s0" "bob" "Bob" .participant),
    .give (.still ⟨3, 0⟩) (.change "$s0" "ada" (.insert 0 "x"))]

/-- Ada connects, and reads in the end what she has received. -/
def adaListens : List Event :=
  .give (.still ⟨0, 0⟩) (.connect "ada" .unbounded) :: smallTalk ++ [.drain 0]

/-- The same, with Bob connected too, who has room for one message only and reads none. -/
def bobIgnores : List Event :=
  .give (.still ⟨0, 0⟩) (.connect "bob" (.bounded 1)) ::
    .give (.still ⟨0, 0⟩) (.connect "ada" .unbounded) :: smallTalk ++ [.drain 1]

/-- Bob's connection makes no difference to the answers, nor to what Ada receives. -/
theorem delivery_confined_bobIgnores :
    let e := Engine.new .default
    e.answers bobIgnores = e.answers adaListens ∧
      e.received 1 bobIgnores = e.received 0 adaListens := by
  intro e
  have hbob : Alongside .default (· = "ada")
      [.give (.still ⟨0, 0⟩) (.connect "bob" (.bounded 1))] [] [] :=
    .left .start ⟨by decide, nofun⟩
  have hada : Alongside .default (· = "ada")
      [.give (.still ⟨0, 0⟩) (.connect "bob" (.bounded 1)),
        .give (.still ⟨0, 0⟩) (.connect "ada" .unbounded)]
      [.give (.still ⟨0, 0⟩) (.connect "ada" .unbounded)] [(1, 0)] :=
    .opening hbob ⟨rfl, rfl⟩ (by decide +kernel) (by decide +kernel)
  have hcreated := hada.both
    (@Counterparts.operation _ _ (.still ⟨1, 0⟩) (.create "ada" "Ada" "primes" {}) rfl)
  have hjoined := hcreated.both
    (@Counterparts.operation _ _ (.still ⟨2, 0⟩) (.join "$s0" "bob" "Bob" .participant) rfl)
  have htalk := hjoined.both
    (@Counterparts.operation _ _ (.still ⟨3, 0⟩) (.change "$s0" "ada" (.insert 0 "x")) rfl)
  have hruns : Alongside .default (· = "ada") bobIgnores adaListens [(1, 0)] :=
    htalk.both (@Counterparts.drain _ _ (1, 0) (List.mem_singleton_self _))
  obtain ⟨hanswers, -⟩ := (delivery_confined .default).1 bobIgnores adaListens rfl
  obtain ⟨-, hreceived, -⟩ := (delivery_confined .default).2 _ _ _ _ hruns (1, 0)
    (List.mem_singleton_self _)
  exact ⟨hanswers, hreceived⟩

/-- Ada is told of Bob's arrival. Bob is told of it too, and so has no room for her edit. -/
example :
    ((Engine.new .default).received 1 bobIgnores).length = 1 ∧
      ((Engine.new .default).through bobIgnores).gateway.deliveryFailures = 1 := by
  cbv

end Engine

end CoEdit
