import CoEdit.Proofs.Engine.Life
import CoEdit.Proofs.Table

/-!
# The States an Engine Can Be In

An engine changes by commands. Besides, its mailboxes are opened, read and closed by those who
receive the messages. And nothing is promised about the order in which the sessions are visited, so
that it may change at any time. None of this brings the tables of the engine into disagreement.

## Main definitions

* `Engine.visiting`: an engine with its sessions in another order.
* `Engine.SameBooks`: two engines that differ at most in mailboxes and in the order of the sessions.
* `Engine.Reachable`: the engines that come about from a new one.

## Main results

* `exists_reordered`: the sessions may be visited in any order.
* `Reachable.invariant`, `Reachable.of_outcome`: what holds of every engine that comes about.
* `Reachable.coherent`: every engine that comes about is coherent.
-/

namespace CoEdit.Engine

open CoEdit.Time (Instant)

variable {config : Config} {e e' : Engine} {order : Table Session}

/-! ### Another order -/

/-- The engine with its sessions in another order, in which they are visited. -/
def visiting (e : Engine) (order : Table Session) : Engine :=
  { e with sessions := order }

/-- The engine with its sessions in the order of ranks that are given to their ids. -/
def reordered (e : Engine) (rank : String → Nat) : Engine :=
  e.visiting (e.sessions.ranked rank)

/-- There is no order in which the sessions cannot be visited. -/
theorem exists_reordered (horder : order.entries.Perm e.sessions.entries) :
    ∃ rank, e.reordered rank = e.visiting order :=
  (Table.exists_ranked horder).imp fun _ hrank => congrArg e.visiting hrank

/-! ### The same books -/

/-- Two engines hold the same, but for what is in the mailboxes and for the order in which the
sessions are visited. -/
structure SameBooks (e e' : Engine) : Prop where
  config : e'.config = e.config
  session : ∀ key, e'.sessions.get? key = e.sessions.get? key
  whereabouts : e'.whereabouts = e.whereabouts
  archive : e'.archive = e.archive
  subscriptions : e'.gateway.subscriptions = e.gateway.subscriptions
  log : e'.gateway.log = e.gateway.log
  nextSequence : e'.gateway.nextSequence = e.gateway.nextSequence
  sessionsMade : e'.sessionsMade = e.sessionsMade
  changesMade : e'.changesMade = e.changesMade

namespace SameBooks

theorem setMailboxes (e : Engine) (mailboxes : List Mailbox) :
    SameBooks e { e with gateway := { e.gateway with mailboxes } } :=
  ⟨rfl, fun _ => rfl, rfl, rfl, rfl, rfl, rfl, rfl, rfl⟩

theorem openLine (e : Engine) (line : Line) :
    SameBooks e { e with gateway := (e.gateway.openLine line).2 } := by
  cases line with
  | shared => exact setMailboxes e e.gateway.mailboxes
  | unbounded | bounded | closed => exact setMailboxes e _

theorem drain (e : Engine) (mailbox : Nat) :
    SameBooks e { e with gateway := (e.gateway.drain mailbox).2 } := by
  rw [Gateway.drain]
  split
  · exact setMailboxes e e.gateway.mailboxes
  · exact setMailboxes e _

theorem hangUp (e : Engine) (mailbox : Nat) :
    SameBooks e { e with gateway := e.gateway.hangUp mailbox } :=
  setMailboxes e _

theorem visiting (hsame : ∀ key, order.get? key = e.sessions.get? key) :
    SameBooks e (e.visiting order) :=
  ⟨rfl, hsame, rfl, rfl, rfl, rfl, rfl, rfl, rfl⟩

theorem reordered (e : Engine) (rank : String → Nat) : SameBooks e (e.reordered rank) :=
  visiting (e.sessions.get?_ranked rank)

theorem dossier (h : SameBooks e e') (key : String) : e'.dossier key = e.dossier key := by
  rw [Engine.dossier, Engine.dossier, h.session, h.archive, h.log]

theorem located_iff (h : SameBooks e e') {user key : String} :
    e'.Located user key ↔ e.Located user key := by
  rw [Located, Located, h.whereabouts]

end SameBooks

/-- Whether the tables of an engine agree is a matter of its books. -/
theorem Coherent.congr (h : e.Coherent) (hsame : SameBooks e e') : e'.Coherent where
  balanced :=
    { id_eq := fun {key s} hs => h.balanced.id_eq ((hsame.session key).symm.trans hs)
      present_iff := fun user key => by
        rw [IsPresent, hsame.session, hsame.located_iff]
        exact h.balanced.present_iff user key
      subscribed_iff := fun user key => by
        rw [Gateway.subscriptionsOf, hsame.subscriptions, hsame.located_iff]
        exact h.balanced.subscribed_iff user key
      noneEmpty := by
        rw [Gateway.NoneEmpty, hsame.subscriptions]
        exact h.balanced.noneEmpty }
  unseen n hn := (hsame.dossier _).trans (h.unseen n (hsame.sessionsMade ▸ hn))

/-! ### All that come about -/

/-- The engines that come about from a new one: by commands, refused ones included, by what
receivers do to their mailboxes, and by a change of the order in which the sessions are visited. -/
inductive Reachable (config : Config) : Engine → Prop
  | new : Reachable config (Engine.new config)
  | step {e : Engine} (h : Reachable config e) (now : Clock) (command : Command) :
      Reachable config (e.step now command).2
  | openLine {e : Engine} (h : Reachable config e) (line : Line) :
      Reachable config { e with gateway := (e.gateway.openLine line).2 }
  | drain {e : Engine} (h : Reachable config e) (mailbox : Nat) :
      Reachable config { e with gateway := (e.gateway.drain mailbox).2 }
  | hangUp {e : Engine} (h : Reachable config e) (mailbox : Nat) :
      Reachable config { e with gateway := e.gateway.hangUp mailbox }
  | reorder {e : Engine} (h : Reachable config e) (rank : String → Nat) :
      Reachable config (e.reordered rank)

namespace Reachable

/-- **What holds of every engine that comes about**: what holds of a new one, is kept by commands,
and is a matter of the books. -/
theorem invariant {I : Engine → Prop} (h : e.Reachable config) (hnew : I (Engine.new config))
    (hstep : ∀ {e : Engine}, e.Reachable config → ∀ now command, I e → I (e.step now command).2)
    (hsame : ∀ {e e' : Engine}, SameBooks e e' → I e → I e') : I e := by
  induction h with
  | new => exact hnew
  | step h now command ih => exact hstep h now command ih
  | openLine _ line ih => exact hsame (.openLine _ line) ih
  | drain _ mailbox ih => exact hsame (.drain _ mailbox) ih
  | hangUp _ mailbox ih => exact hsame (.hangUp _ mailbox) ih
  | reorder _ rank ih => exact hsame (.reordered _ rank) ih

/-- Commands that are refused change nothing, so that it is enough to look at the others. -/
theorem of_outcome {I : Engine → Prop} (h : e.Reachable config) (hnew : I (Engine.new config))
    (hok : ∀ {e e' : Engine} {now command answer}, e.Reachable config →
      Outcome e now command answer e' → I e → I e')
    (hsame : ∀ {e e' : Engine}, SameBooks e e' → I e → I e') : I e := by
  refine h.invariant hnew (fun {e} he now command hI => ?_) hsame
  rcases e.step_cases now command with ⟨error, hstep⟩ | ⟨answer, e', houtcome, hstep⟩
  · rw [hstep]
    exact hI
  · rw [hstep]
    exact hok he houtcome hI

/-- The tables of every engine that comes about agree. -/
theorem coherent (h : e.Reachable config) : e.Coherent :=
  h.invariant (coherent_new config) (fun _ now command he => he.step now command)
    fun hsame he => he.congr hsame

/-- Every history leads to an engine that comes about. -/
theorem after (h : e.Reachable config) (history : History) :
    (e.after history).Reachable config := by
  induction history generalizing e with
  | nil => exact h
  | cons x rest ih => exact ih (h.step x.1 x.2)

end Reachable

end CoEdit.Engine
