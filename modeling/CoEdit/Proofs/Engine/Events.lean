import CoEdit.Proofs.Engine.Reachable
import CoEdit.Proofs.Engine.Twins

/-!
# All That Can Happen

An engine changes by the commands that it is given and by what the receivers of its messages do. In
what order it visits its sessions, when it sweeps or lists them, is not up to it. A run is a list of
such events. What is to be seen in it are the answers to the operations, and what is taken out of
the mailboxes.

## Main definitions

* `Event`: what happens to an engine.
* `Engine.meet`, `Engine.through`: the engine after an event, and after a run.
* `Engine.answers`, `Engine.received`: the answers to the operations of a run, and what is taken out
  of a mailbox in it.

## Main results

* `meet_cases`: nothing but commands is put into the books.
* `reachable_iff`: the engines that come about are those after runs.
* `received_eq_nil`: nothing is received from a mailbox before it is there.
-/

namespace CoEdit

open CoEdit.Time (Instant)

/-- What happens to an engine: commands, with what the clock shows meanwhile, and what receivers do
to their mailboxes. From time to time the order in which the sessions are visited is another one. -/
inductive Event
  | give (now : Clock) (command : Command)
  | openLine (line : Line)
  | drain (mailbox : Nat)
  | hangUp (mailbox : Nat)
  | reorder (rank : String → Nat)

/-- Whether an event is about the sessions: an operation on them, or another order of them. -/
def Event.isOperation : Event → Bool
  | .give _ command => command.isOperation
  | .reorder _ => true
  | _ => false

namespace Engine

variable {config : Config} {e : Engine} {x : Event} {xs : List Event}

/-! ### Runs -/

/-- The engine after an event. -/
def meet (e : Engine) : Event → Engine
  | .give now command => (e.step now command).2
  | .openLine line => { e with gateway := (e.gateway.openLine line).2 }
  | .drain mailbox => { e with gateway := (e.gateway.drain mailbox).2 }
  | .hangUp mailbox => { e with gateway := e.gateway.hangUp mailbox }
  | .reorder rank => e.reordered rank

/-- The engine after some events, the first one first. -/
def through (e : Engine) (xs : List Event) : Engine :=
  xs.foldl meet e

/-- What there is to be seen at each of some events, one after the other. -/
def collect {α : Type} (see : Engine → Event → List α) (e : Engine) : List Event → List α
  | [] => []
  | x :: rest => see e x ++ collect see (e.meet x) rest

/-- The answer to an operation. -/
def answer? (e : Engine) : Event → Option (Except Error Answer)
  | .give now command => if command.isOperation then some (e.step now command).1 else none
  | _ => none

/-- What is taken out of a mailbox at an event. -/
def taken (k : Nat) (e : Engine) : Event → List Delivery
  | .drain mailbox => if mailbox = k then (e.gateway.drain k).1 else []
  | _ => []

/-- The answers to the operations among some events. -/
def answers (e : Engine) (xs : List Event) : List (Except Error Answer) :=
  collect (fun e x => (e.answer? x).toList) e xs

/-- What is taken out of a mailbox in the course of some events. -/
def received (e : Engine) (k : Nat) (xs : List Event) : List Delivery :=
  collect (taken k) e xs

theorem through_concat (e : Engine) (xs : List Event) (x : Event) :
    e.through (xs ++ [x]) = (e.through xs).meet x :=
  List.foldl_concat _ _ _ _

theorem collect_concat {α : Type} (see : Engine → Event → List α) (e : Engine) (xs : List Event)
    (x : Event) : collect see e (xs ++ [x]) = collect see e xs ++ see (e.through xs) x := by
  induction xs generalizing e with
  | nil => exact List.append_nil _
  | cons y rest ih =>
      rw [List.cons_append, collect, ih, collect, List.append_assoc]
      rfl

theorem answers_concat (e : Engine) (xs : List Event) (x : Event) :
    e.answers (xs ++ [x]) = e.answers xs ++ ((e.through xs).answer? x).toList :=
  collect_concat _ e xs x

theorem received_concat (e : Engine) (k : Nat) (xs : List Event) (x : Event) :
    e.received k (xs ++ [x]) = e.received k xs ++ taken k (e.through xs) x :=
  collect_concat _ e xs x

theorem answer?_of_not_isOperation (h : x.isOperation = false) : e.answer? x = none := by
  cases x with
  | give now command => exact if_neg (Bool.eq_false_iff.mp h)
  | _ => rfl

/-- An event is a command, or the books stay the same. -/
theorem meet_cases (e : Engine) (x : Event) :
    (∃ now command, x = .give now command) ∨ SameBooks e (e.meet x) := by
  cases x with
  | give now command => exact .inl ⟨now, command, rfl⟩
  | openLine line => exact .inr (.openLine e line)
  | drain mailbox => exact .inr (.drain e mailbox)
  | hangUp mailbox => exact .inr (.hangUp e mailbox)
  | reorder rank => exact .inr (.reordered e rank)

/-- Whatever happens to an engine that comes about leads to another one. -/
theorem Reachable.meet (h : e.Reachable config) (x : Event) : (e.meet x).Reachable config := by
  cases x with
  | give now command => exact h.step now command
  | openLine line => exact h.openLine line
  | drain mailbox => exact h.drain mailbox
  | hangUp mailbox => exact h.hangUp mailbox
  | reorder rank => exact h.reorder rank

theorem Reachable.through (h : e.Reachable config) (xs : List Event) :
    (e.through xs).Reachable config := by
  induction xs generalizing e with
  | nil => exact h
  | cons x rest ih => exact ih (h.meet x)

/-- **The engines that come about are those after runs.** -/
theorem reachable_iff : e.Reachable config ↔ ∃ xs, e = (Engine.new config).through xs := by
  constructor
  · intro h
    induction h with
    | new => exact ⟨[], rfl⟩
    | step _ now command ih =>
        obtain ⟨xs, rfl⟩ := ih
        exact ⟨_, (through_concat _ xs (.give now command)).symm⟩
    | openLine _ line ih =>
        obtain ⟨xs, rfl⟩ := ih
        exact ⟨_, (through_concat _ xs (.openLine line)).symm⟩
    | drain _ mailbox ih =>
        obtain ⟨xs, rfl⟩ := ih
        exact ⟨_, (through_concat _ xs (.drain mailbox)).symm⟩
    | hangUp _ mailbox ih =>
        obtain ⟨xs, rfl⟩ := ih
        exact ⟨_, (through_concat _ xs (.hangUp mailbox)).symm⟩
    | reorder _ rank ih =>
        obtain ⟨xs, rfl⟩ := ih
        exact ⟨_, (through_concat _ xs (.reorder rank)).symm⟩
  · rintro ⟨xs, rfl⟩
    exact Reachable.new.through xs

/-- No event takes a mailbox away. -/
theorem nextMailbox_le_meet (e : Engine) (x : Event) :
    e.gateway.nextMailbox ≤ (e.meet x).gateway.nextMailbox := by
  cases x with
  | give now command =>
      cases hoperation : command.isOperation with
      | true =>
          -- A mailbox that is there is its own twin, and stays so.
          refine le_of_forall_lt fun k hk => ?_
          have hself : Twinned (fun _ => True) [(k, k)] e e := .intro (.self hk)
          obtain ⟨-, hstep⟩ := hself.step now hoperation
          exact (hstep.gateway.lt_length (List.mem_singleton_self _)).1
      | false =>
          cases command with
          | connect => exact Gateway.nextMailbox_le_openLine
          | disconnect => exact le_refl _
          | _ => cases hoperation
  | openLine line => exact Gateway.nextMailbox_le_openLine
  | drain mailbox =>
      rw [meet, Gateway.drain]
      split
      · exact le_refl _
      · exact Nat.le_of_eq List.length_set.symm
  | hangUp mailbox => exact Nat.le_of_eq (List.length_modify _ _ _).symm
  | reorder => exact le_refl _

/-- Nothing is taken out of a mailbox before it is there. -/
theorem received_eq_nil {k : Nat} (h : (e.through xs).gateway.nextMailbox ≤ k) :
    e.received k xs = [] := by
  induction xs using List.reverseRecOn with
  | nil => rfl
  | append_singleton xs x ih =>
      rw [through_concat] at h
      have hbefore := le_trans (nextMailbox_le_meet _ x) h
      rw [received_concat, ih hbefore, List.nil_append]
      cases x with
      | drain mailbox =>
          rw [taken]
          split
          · rw [Gateway.drain_fst, List.getElem?_eq_none hbefore]
            rfl
          · rfl
      | _ => rfl

end Engine

end CoEdit
