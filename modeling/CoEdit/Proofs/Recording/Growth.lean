import CoEdit.Proofs.Time.Order
import CoEdit.Recording.Replay
import Mathlib.Data.List.Basic
import Mathlib.Data.List.TakeWhile
import Mathlib.Tactic.Common

/-!
# How a Recording Grows

A recording is only ever extended at its end. Seen as a list of facts it grows by exactly the facts
pushed, and the times of its entries stay between the times at which they were pushed.

## Main results

* `facts_extend`, `changes_extend`: what an extension adds.
* `exists_entries_extend`: the old entries are a prefix, and the new ones are no earlier than the
  times of the extension.
* `NotAfter.extend`: no entry is later than all the times at which facts were pushed.
* `contentAt?_eq`: a replay up to a time that falls between two entries.
* `attendees_extend_of_arrival_eq_none`: only arrivals change the list of attendees.
-/

namespace CoEdit

open CoEdit.Time (Instant)

/-- The change that a fact tells of, if it tells of one. -/
def Fact.change? : Fact → Option Change
  | .changed change => some change
  | _ => none

/-- The seed that a fact tells of, if it tells of a creation. -/
def Fact.seed? : Fact → Option String
  | .created _ _ _ _ seed => some seed
  | _ => none

theorem Entry.change?_eq (e : Entry) : e.change? = e.fact.change? := by
  rw [Entry.change?]
  cases e.fact <;> rfl

theorem Entry.seed?_eq (e : Entry) : e.seed? = e.fact.seed? := by
  rw [Entry.seed?]
  cases e.fact <;> rfl

/-! ### The time of an entry -/

/-- An entry is no earlier than the time at which it is pushed. -/
theorem le_atOrAfter (bound : Option Instant) (t : Instant) : t ≤ atOrAfter bound t := by
  cases bound with
  | none => exact le_rfl
  | some b =>
      simp only [atOrAfter, Option.elim_some]
      split
      · next h => exact le_of_lt h
      · exact le_rfl

/-- What bounds the last entry and the time of the push bounds the new entry. -/
theorem atOrAfter_le {bound : Option Instant} {t u : Instant}
    (hb : ∀ b, bound = some b → b ≤ u) (ht : t ≤ u) : atOrAfter bound t ≤ u := by
  cases bound with
  | none => exact ht
  | some b =>
      simp only [atOrAfter, Option.elim_some]
      split
      · exact hb b rfl
      · exact ht

/-- A push at or after the last entry keeps its own time. -/
theorem atOrAfter_eq {bound : Option Instant} {t : Instant}
    (hb : ∀ b, bound = some b → b ≤ t) : atOrAfter bound t = t := by
  cases bound with
  | none => rfl
  | some b =>
      have hnot : ¬t < b := not_lt.mpr (hb b rfl)
      simp only [atOrAfter, Option.elim_some, if_neg hnot]

/-- A push before the last entry takes the time of this entry. -/
theorem atOrAfter_some (bound t : Instant) : atOrAfter (some bound) t = max bound t := by
  rw [atOrAfter, Option.elim_some]
  split
  · next h => exact (max_eq_left (le_of_lt h)).symm
  · next h => exact (max_eq_right (not_lt.mp h)).symm

namespace Recording

variable {r : Recording} {fact : Fact} {added : List Fact} {time : Instant} {times : Nat → Instant}

/-- Appends facts, each at its time, the first one first. -/
def extend (r : Recording) : List Fact → (Nat → Instant) → Recording
  | [], _ => r
  | fact :: added, times => (r.push fact (times 0)).2.extend added fun k => times (k + 1)

@[simp] theorem extend_nil : r.extend [] times = r := rfl

@[simp] theorem extend_cons : r.extend (fact :: added) times =
    (r.push fact (times 0)).2.extend added fun k => times (k + 1) := rfl

/-- What is told, without numbers and times. -/
def facts (r : Recording) : List Fact :=
  r.entries.map (·.fact)

theorem facts_push : (r.push fact time).2.facts = r.facts ++ [fact] := by
  simp [facts, push]

/-- An extension tells what was told before and then the new facts. -/
theorem facts_extend : (r.extend added times).facts = r.facts ++ added := by
  induction added generalizing r times with
  | nil => simp
  | cons fact added ih => rw [extend_cons, ih, facts_push, List.append_assoc, List.singleton_append]

theorem changes_eq : r.changes = r.facts.filterMap Fact.change? := by
  rw [changes, facts, List.filterMap_map]
  exact congrArg (fun f => r.entries.filterMap f) (funext fun e => e.change?_eq)

/-- The changes of an extension are those before and then those among the new facts. -/
theorem changes_extend :
    (r.extend added times).changes = r.changes ++ added.filterMap Fact.change? := by
  rw [changes_eq, changes_eq, facts_extend, List.filterMap_append]

theorem seed?_eq : r.seed? = r.facts.findSome? Fact.seed? := by
  rw [seed?, facts, List.findSome?_map]
  exact congrArg (fun f => r.entries.findSome? f) (funext fun e => e.seed?_eq)

/-- A full replay applies all the recorded changes to the seed. -/
theorem replay?_eq : r.replay? = r.seed?.map (foldChanges · r.changes) := by
  have hall : r.entries.takeWhile (fun _ => true) = r.entries :=
    List.takeWhile_eq_self_iff.mpr fun _ _ => rfl
  rw [replay?, replayWhile, hall]
  rfl

/-- A seed once told stays the seed. -/
theorem seed?_extend {seed : String} (h : r.seed? = some seed) :
    (r.extend added times).seed? = some seed := by
  rw [seed?_eq] at h ⊢
  rw [facts_extend, List.findSome?_append, h, Option.some_or]

/-! ### Entries and their times -/

/-- The entries before an extension are a prefix of those after it; the new ones tell the new facts
and are no earlier than the times of the extension. -/
theorem exists_entries_extend (r : Recording) (added : List Fact) (times : Nat → Instant) :
    ∃ new, (r.extend added times).entries = r.entries ++ new ∧ new.map (·.fact) = added ∧
      ∀ time, (∀ k, time ≤ times k) → ∀ e ∈ new, time ≤ e.timestamp := by
  induction added generalizing r times with
  | nil => exact ⟨[], by simp⟩
  | cons fact added ih =>
      obtain ⟨new, hentries, hfacts, htimes⟩ :=
        ih (r.push fact (times 0)).2 fun k => times (k + 1)
      refine ⟨(r.push fact (times 0)).1 :: new, ?_, ?_, ?_⟩
      · rw [extend_cons, hentries]
        simp [push]
      · rw [List.map_cons, hfacts]
        rfl
      · intro time htime e he
        rcases List.mem_cons.mp he with rfl | hnew
        · exact (htime 0).trans (le_atOrAfter _ _)
        · exact htimes time (fun k => htime (k + 1)) e hnew

/-- No entry is later than a given time. -/
def NotAfter (r : Recording) (bound : Instant) : Prop :=
  ∀ e ∈ r.entries, e.timestamp ≤ bound

/-- The last entry is no later than a bound on all entries. -/
theorem NotAfter.lastTime_le {bound last : Instant} (h : r.NotAfter bound)
    (hlast : r.lastTime = some last) : last ≤ bound := by
  rw [lastTime] at hlast
  obtain ⟨e, he, rfl⟩ := Option.map_eq_some_iff.mp hlast
  exact h e (List.mem_of_getLast? he)

theorem NotAfter.push {bound : Instant} (h : r.NotAfter bound) (ht : time ≤ bound) :
    (r.push fact time).2.NotAfter bound := by
  intro e he
  rcases List.mem_append.mp he with hold | hnew
  · exact h e hold
  · rw [List.mem_singleton.mp hnew]
    exact atOrAfter_le (fun _ hlast => h.lastTime_le hlast) ht

/-- A bound on the entries and on the times of an extension bounds what comes out. -/
theorem NotAfter.extend {bound : Instant} (h : r.NotAfter bound) (ht : ∀ k, times k ≤ bound) :
    (r.extend added times).NotAfter bound := by
  induction added generalizing r times with
  | nil => exact h
  | cons fact added ih => exact ih (h.push (ht 0)) fun k => ht (k + 1)

/-- The times of the entries do not go back. -/
def Ascending (r : Recording) : Prop :=
  r.entries.Pairwise fun a b => a.timestamp ≤ b.timestamp

/-- Then no entry is later than the last one. -/
theorem Ascending.notAfter_lastTime (h : r.Ascending) {last : Instant}
    (hlast : r.lastTime = some last) : r.NotAfter last := by
  rw [lastTime] at hlast
  obtain ⟨e, he, rfl⟩ := Option.map_eq_some_iff.mp hlast
  obtain ⟨init, hinit⟩ := List.getLast?_eq_some_iff.mp he
  rw [Ascending, hinit, List.pairwise_append] at h
  intro x hx
  rw [hinit] at hx
  rcases List.mem_append.mp hx with hold | hnew
  · exact h.2.2 x hold e (List.mem_singleton_self e)
  · rw [List.mem_singleton.mp hnew]

theorem Ascending.push (h : r.Ascending) : (r.push fact time).2.Ascending := by
  refine List.pairwise_append.mpr ⟨h, List.pairwise_singleton _ _, fun e he new hnew => ?_⟩
  rw [List.mem_singleton.mp hnew]
  change e.timestamp ≤ atOrAfter r.lastTime time
  cases hlast : r.lastTime with
  | none =>
      rw [lastTime, Option.map_eq_none_iff, List.getLast?_eq_none_iff] at hlast
      rw [hlast] at he
      cases he
  | some last =>
      rw [atOrAfter_some]
      exact (h.notAfter_lastTime hlast e he).trans (le_max_left _ _)

/-- An extension does not go back either. -/
theorem Ascending.extend (h : r.Ascending) : (r.extend added times).Ascending := by
  induction added generalizing r times with
  | nil => exact h
  | cons fact added ih => exact ih h.push

/-- Where times do not go back, the leading entries up to a time are all entries up to it. -/
theorem takeWhile_eq_filter {entries : List Entry}
    (h : entries.Pairwise fun a b => a.timestamp ≤ b.timestamp) (t : Instant) :
    entries.takeWhile (·.timestamp ≤ t) = entries.filter (·.timestamp ≤ t) := by
  induction entries with
  | nil => rfl
  | cons e rest ih =>
      rw [List.pairwise_cons] at h
      by_cases he : e.timestamp ≤ t
      · rw [List.takeWhile_cons_of_pos (by simpa using he),
          List.filter_cons_of_pos (by simpa using he), ih h.2]
      · -- What comes after an entry that is later is later as well.
        have hlater : rest.filter (·.timestamp ≤ t) = [] := by
          rw [List.filter_eq_nil_iff]
          intro x hx hle
          exact he (le_trans (h.1 x hx) (of_decide_eq_true hle))
        rw [List.takeWhile_cons_of_neg (by simpa using he),
          List.filter_cons_of_neg (by simpa using he), hlater]

/-- No change is on record later than a given time. -/
def ChangedBy (r : Recording) (bound : Instant) : Prop :=
  ∀ e ∈ r.entries, e.change? ≠ none → e.timestamp ≤ bound

theorem NotAfter.changedBy {bound : Instant} (h : r.NotAfter bound) : r.ChangedBy bound :=
  fun e he _ => h e he

/-- Facts that tell of no change can be recorded at any time. -/
theorem ChangedBy.extend {bound : Instant} (h : r.ChangedBy bound)
    (hnone : added.filterMap Fact.change? = []) : (r.extend added times).ChangedBy bound := by
  obtain ⟨new, hentries, hfacts, -⟩ := r.exists_entries_extend added times
  intro e he hchange
  rw [hentries] at he
  rcases List.mem_append.mp he with hold | hnew
  · exact h e hold hchange
  · rw [Entry.change?_eq] at hchange
    rw [← hfacts, List.filterMap_eq_nil_iff] at hnone
    exact absurd (hnone e.fact (List.mem_map_of_mem hnew)) hchange

/-- If some entries tell of no change after a time, and all others come after them and are later,
then the document at this time is what the former lead to. -/
theorem contentAt?_eq {past : Recording} {new : List Entry} {t : Instant} (h : r.Ascending)
    (hentries : r.entries = past.entries ++ new) (hpast : past.ChangedBy t)
    (hnew : ∀ e ∈ new, t < e.timestamp) :
    r.contentAt? t = r.seed?.map (foldChanges · past.changes) := by
  have hlate : new.filter (·.timestamp ≤ t) = [] := by
    rw [List.filter_eq_nil_iff]
    exact fun e he hle => absurd (of_decide_eq_true hle) (not_le.mpr (hnew e he))
  have hkept : (past.entries.filter (·.timestamp ≤ t)).filterMap Entry.change? = past.changes := by
    rw [List.filterMap_filter, changes]
    refine List.filterMap_congr fun e he => ?_
    split
    · rfl
    · next hle =>
      by_contra hchange
      exact hle (decide_eq_true (hpast e he (Ne.symm hchange)))
  rw [contentAt?, replayWhile, takeWhile_eq_filter h, hentries, List.filter_append, hlate,
    List.append_nil, hkept]

/-! ### Attendees -/

theorem attendees_push_of_arrival_eq_none (h : arrival fact = none) :
    (r.push fact time).2.attendees = r.attendees := by
  simp only [push, h]

/-- Facts that bring nobody in leave the list of attendees as it is. -/
theorem attendees_extend_of_arrival_eq_none (h : ∀ fact ∈ added, arrival fact = none) :
    (r.extend added times).attendees = r.attendees := by
  induction added generalizing r times with
  | nil => rfl
  | cons fact added ih =>
      rw [extend_cons, ih fun f hf => h f (List.mem_cons_of_mem _ hf),
        attendees_push_of_arrival_eq_none (h fact List.mem_cons_self)]

end Recording

end CoEdit
