import CoEdit.Proofs.Recording.Logging

/-!
# A Recording Cut at a Time

The document at a time is replayed from the leading entries of a recording, up to the first one
that is later. Nothing that was on record by then is missed: whatever the clock did, no entry is
earlier than the one before it, so the entries up to a time all stand at the front.

## Main definitions

* `Recording.changesBy`: the changes that were on record by a time.
* `Recording.Cuts`: what the recording of some submissions gives for the document at every time.

## Main results

* `Keeps.prefix_changesBy`: what was on record by a time comes first in what was on record later.
* `Archive.cuts_ofSubmissions`: recordings are cut right, whatever the clock says.
-/

namespace CoEdit

open CoEdit.Time (Instant)

/-- Whether a fact is the creation of a session. -/
def Fact.IsCreation (fact : Fact) : Prop :=
  ∃ hostId hostName title language seed, fact = .created hostId hostName title language seed

/-- Only creations tell of a seed. -/
theorem Fact.seed?_eq_none_iff {fact : Fact} : fact.seed? = none ↔ ¬fact.IsCreation := by
  cases fact <;> simp [seed?, IsCreation]

/-- The seed of the first creation among some submissions. -/
def firstSeed? (own : List Submission) : Option String :=
  own.findSome? (·.fact.seed?)

theorem firstSeed?_eq_none_iff {own : List Submission} :
    firstSeed? own = none ↔ ∀ c ∈ own, ¬c.fact.IsCreation := by
  simp only [firstSeed?, List.findSome?_eq_none_iff, Fact.seed?_eq_none_iff]

namespace Recording

variable {r : Recording} {sessionId : String} {own : List Submission} {t t₁ t₂ : Instant}

/-- The changes whose entries are no later than a time, wherever in the recording they stand. -/
def changesBy (r : Recording) (t : Instant) : List Change :=
  (r.entries.filter (·.timestamp ≤ t)).filterMap Entry.change?

/-! ### Entries whose times do not go back -/

section Ascending

variable {entries : List Entry}

/-- The entries up to a time are the first ones of those up to a later time. -/
theorem prefix_filter (h : entries.Pairwise fun a b => a.timestamp ≤ b.timestamp)
    (hle : t₁ ≤ t₂) :
    entries.filter (·.timestamp ≤ t₁) <+: entries.filter (·.timestamp ≤ t₂) := by
  have htwice : (entries.filter (·.timestamp ≤ t₂)).filter (·.timestamp ≤ t₁) =
      entries.filter (·.timestamp ≤ t₁) := by
    rw [List.filter_filter]
    refine List.filter_congr fun e _ => ?_
    rw [Bool.eq_iff_iff, Bool.and_eq_true, decide_eq_true_iff, decide_eq_true_iff]
    exact ⟨And.left, fun he => ⟨he, le_trans he hle⟩⟩
  rw [← htwice, ← takeWhile_eq_filter (h.filter _)]
  exact List.takeWhile_prefix _

end Ascending

/-! ### The document at a time -/

/-- The seed of a recording is that of the first creation that was submitted for it. -/
theorem Keeps.seed?_eq (h : r.Keeps sessionId own) : r.seed? = firstSeed? own := by
  rw [Recording.seed?_eq, Recording.facts, h.facts, List.findSome?_map]
  rfl

/-- The document at a time is what all changes that were on record by then make of the seed. -/
theorem Keeps.contentAt?_eq (h : r.Keeps sessionId own) (t : Instant) :
    r.contentAt? t = (firstSeed? own).map (foldChanges · (r.changesBy t)) := by
  rw [contentAt?, replayWhile, takeWhile_eq_filter h.pairwise_timestamp, h.seed?_eq]
  rfl

theorem Keeps.replay?_eq (h : r.Keeps sessionId own) :
    r.replay? = (firstSeed? own).map (foldChanges · r.changes) := by
  rw [Recording.replay?_eq, h.seed?_eq]

/-- What was on record by a time comes first in what was on record later. -/
theorem Keeps.prefix_changesBy (h : r.Keeps sessionId own) (hle : t₁ ≤ t₂) :
    r.changesBy t₁ <+: r.changesBy t₂ :=
  (prefix_filter h.pairwise_timestamp hle).filterMap _

/-- By the time of the last entry everything is on record. -/
theorem changesBy_of_notAfter (h : r.NotAfter t) : r.changesBy t = r.changes := by
  have hall : r.entries.filter (·.timestamp ≤ t) = r.entries := by
    rw [List.filter_eq_self]
    intro e he
    exact decide_eq_true (h e he)
  rw [changesBy, hall, changes]

/-- Before the first entry nothing is. -/
theorem Keeps.changesBy_of_lt (h : r.Keeps sessionId own) {first : Entry}
    (hfirst : r.entries.head? = some first) (ht : t < first.timestamp) : r.changesBy t = [] := by
  have hnone : r.entries.filter (·.timestamp ≤ t) = [] := by
    obtain ⟨rest, hrest⟩ := List.head?_eq_some_iff.mp hfirst
    rw [← takeWhile_eq_filter h.pairwise_timestamp, hrest,
      List.takeWhile_cons_of_neg (by simpa using ht)]
  rw [changesBy, hnone, List.filterMap_nil]

/-- What the recording of some submissions gives for the document at every time. -/
structure Cuts (r : Recording) (own : List Submission) : Prop where
  /-- Without a creation there is no document, at no time. -/
  absent : ∀ t, r.contentAt? t = none ↔ ∀ c ∈ own, ¬c.fact.IsCreation
  absentInReplay : r.replay? = none ↔ ∀ c ∈ own, ¬c.fact.IsCreation
  /-- Otherwise the first creation gives the seed. At each time all changes that are on record by
  then have been applied to it, also those that come before the creation. -/
  document : ∀ seed, firstSeed? own = some seed →
    ∀ t, r.contentAt? t = some (foldChanges seed (r.changesBy t))
  replay : ∀ seed, firstSeed? own = some seed → r.replay? = some (foldChanges seed r.changes)
  /-- As time goes by, changes are added at the end. -/
  grows : ∀ t₁ t₂, t₁ ≤ t₂ → r.changesBy t₁ <+: r.changesBy t₂
  /-- From the time of the last entry on, the document is that of the replay. -/
  complete : ∀ last t, r.lastTime = some last → last ≤ t → r.contentAt? t = r.replay?
  /-- Before the first entry it is the seed. -/
  untouched : ∀ first seed t, r.entries.head? = some first → t < first.timestamp →
    firstSeed? own = some seed → r.contentAt? t = some seed

/-- **A recording of submissions is cut right at every time.** -/
theorem Keeps.cuts (h : r.Keeps sessionId own) : r.Cuts own where
  absent t := by rw [h.contentAt?_eq, Option.map_eq_none_iff, firstSeed?_eq_none_iff]
  absentInReplay := by rw [h.replay?_eq, Option.map_eq_none_iff, firstSeed?_eq_none_iff]
  document seed hseed t := by rw [h.contentAt?_eq, hseed, Option.map_some]
  replay seed hseed := by rw [h.replay?_eq, hseed, Option.map_some]
  grows _ _ hle := h.prefix_changesBy hle
  complete last t hlast hle := by
    have hascending : r.Ascending := h.pairwise_timestamp
    have hall : r.NotAfter t := fun e he => le_trans (hascending.notAfter_lastTime hlast e he) hle
    rw [h.contentAt?_eq, h.replay?_eq, changesBy_of_notAfter hall]
  untouched first seed t hfirst ht hseed := by
    rw [h.contentAt?_eq, hseed, h.changesBy_of_lt hfirst ht, Option.map_some, foldChanges_nil]

end Recording

/-- **Going back in time is exact for every recording**, whatever the clock said and whatever was
submitted, in whatever order. -/
theorem Archive.cuts_ofSubmissions (submissions : List Submission) (sessionId : String) :
    match (ofSubmissions submissions).get? sessionId with
    | none => submissions.filter (·.sessionId = sessionId) = []
    | some r => submissions.filter (·.sessionId = sessionId) ≠ [] ∧
        r.Cuts (submissions.filter (·.sessionId = sessionId)) := by
  have hkeeps := keeps_ofSubmissions submissions sessionId
  cases hget : (ofSubmissions submissions).get? sessionId with
  | none =>
      rw [hget] at hkeeps
      exact hkeeps
  | some r =>
      rw [hget] at hkeeps
      exact ⟨hkeeps.1, hkeeps.2.cuts⟩

/-- A change that is submitted before the creation, and another one for which the clock has been put
back. Both have been applied by the time of the creation, and a second creation changes nothing. -/
example :
    let a := Archive.ofSubmissions [⟨"s", .changed ⟨"c0", "a", ⟨7, 0⟩, .insert 0 "x"⟩, ⟨7, 0⟩⟩,
      ⟨"s", .created "a" "Ann" "t" "python" "ab", ⟨9, 0⟩⟩,
      ⟨"s", .changed ⟨"c1", "a", ⟨2, 0⟩, .delete 1 1⟩, ⟨2, 0⟩⟩,
      ⟨"s", .created "b" "Bob" "u" "python" "cd", ⟨9, 1⟩⟩]
    (a.get? "s").map (fun r => [⟨6, 0⟩, ⟨7, 0⟩, ⟨9, 0⟩].map r.contentAt?) =
      some [some "ab", some "xab", some "xb"] := by
  decide +kernel

end CoEdit
