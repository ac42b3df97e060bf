import CoEdit.Proofs.Recording.Outline
import Mathlib.Data.List.Chain
import Mathlib.Data.List.Induction

/-!
# Well-Formed Recordings

What a tool that reads a recording may rely on: the session is created once and first of all, people
come before they go, only those who are there change the document, and after the end of the session
people only leave it. All of this is said of lists of facts alone. Each fact is judged by the facts
before it.

## Main definitions

* `movements`, `isThere`: the comings and goings of a user, and where they leave the user.
* `Fact.AdmissibleAfter`: whether a fact may come after some facts.
* `WellFormed`: the facts begin with a creation, and each may come after those before it.

## Main results

* `WellFormed.concat`: one more admissible fact.
* `WellFormed.alternate`: nobody comes twice without going in between, or goes without having come.
* `WellFormed.left_of_mem_after_end`: after the end, people only leave.
* `Told.isThere_eq`: where facts tell of a session, those are there who are online in it.
-/

namespace CoEdit

variable {facts before added : List Fact} {fact : Fact} {userId hostId : String}

/-! ### Who is there -/

/-- Whether a fact brings a user in, or takes them out; none if it does neither. The creation of a
session brings in the host. -/
def Fact.presence? (userId : String) : Fact → Option Bool
  | .created hostId _ _ _ _ => if hostId = userId then some true else none
  | .joined joiner _ _ => if joiner = userId then some true else none
  | .left leaver => if leaver = userId then some false else none
  | _ => none

/-- The comings (`true`) and goings (`false`) of a user, in order. -/
def movements (userId : String) (facts : List Fact) : List Bool :=
  facts.filterMap (Fact.presence? userId)

/-- Whether a user is there after some facts: they have come, and not gone since. -/
def isThere (userId : String) (facts : List Fact) : Bool :=
  (movements userId facts).getLast?.getD false

theorem movements_concat (userId : String) (facts : List Fact) (fact : Fact) :
    movements userId (facts ++ [fact]) =
      movements userId facts ++ (fact.presence? userId).toList := by
  rw [movements, List.filterMap_append]
  cases h : fact.presence? userId <;> simp [h, movements]

/-- The last fact about a user decides whether they are there. -/
theorem isThere_concat (userId : String) (facts : List Fact) (fact : Fact) :
    isThere userId (facts ++ [fact]) = (fact.presence? userId).getD (isThere userId facts) := by
  rw [isThere, movements_concat]
  cases fact.presence? userId with
  | none => simp [isThere]
  | some here => simp

/-- Whoever has just left is not there. -/
theorem isThere_of_getLast?_eq_left (h : facts.getLast? = some (.left userId)) :
    isThere userId facts = false := by
  obtain ⟨earlier, rfl⟩ := List.getLast?_eq_some_iff.mp h
  simp [isThere_concat, Fact.presence?]

/-- Whoever has ever come has some movement that is a coming, and more facts do not change this. -/
theorem mem_movements_append (h : true ∈ movements userId facts) :
    true ∈ movements userId (facts ++ added) := by
  rw [movements, List.filterMap_append]
  exact List.mem_append_left _ h

/-! ### Well-formed facts -/

/-- The host named by the creation. -/
def hostOf? (facts : List Fact) : Option String :=
  (facts.findSome? Fact.terms?).map (·.1)

/-- Why a session ends after some facts: because the host has just left, or else because it was
idle. -/
def reasonAfter (facts : List Fact) : EndReason :=
  if ∃ hostId ∈ hostOf? facts, facts.getLast? = some (.left hostId) then .hostLeft else .idle

/-- Whether a fact may come after some facts. People join and leave by turns. Only those who are
there change the document, and not before the first has joined; only those who have been there call
for help. A session that nobody left ends as idle, and only if nobody ever joined it. After the end
people may leave, and that is all. -/
def Fact.AdmissibleAfter (before : List Fact) : Fact → Prop
  | .created .. => before = []
  | .joined userId _ _ => before.any Fact.isEnd = false ∧ isThere userId before = false
  | .left userId => isThere userId before = true
  | .changed change =>
    before.any Fact.isEnd = false ∧ isThere change.authorId before = true ∧
      before.any Fact.isJoin = true
  | .helpRequested userId _ => before.any Fact.isEnd = false ∧ true ∈ movements userId before
  | .ended reason =>
    before.any Fact.isEnd = false ∧ reason = reasonAfter before ∧
      (reason = .idle → before.any Fact.isJoin = false)

/-- Facts that make a session's history: the creation comes first, and each fact may come after
those before it. -/
structure WellFormed (facts : List Fact) : Prop where
  begins : ∃ hostId hostName title language seed rest,
    facts = .created hostId hostName title language seed :: rest
  admissible : ∀ before fact after, facts = before ++ fact :: after → fact.AdmissibleAfter before

/-- The creation alone is well-formed. -/
theorem wellFormed_created {hostName title language seed : String} :
    WellFormed [.created hostId hostName title language seed] where
  begins := ⟨_, _, _, _, _, [], rfl⟩
  admissible before fact after h := by
    obtain ⟨rfl, h⟩ | ⟨rest, rfl, h⟩ := List.cons_eq_append_iff.mp h
    · obtain ⟨rfl, -⟩ := List.cons.inj h
      rfl
    · simp at h

namespace WellFormed

/-- One more fact that may come after those before it. -/
theorem concat (h : WellFormed facts) (hfact : fact.AdmissibleAfter facts) :
    WellFormed (facts ++ [fact]) where
  begins := by
    obtain ⟨hostId, hostName, title, language, seed, rest, rfl⟩ := h.begins
    exact ⟨_, _, _, _, _, rest ++ [fact], rfl⟩
  admissible before other after heq := by
    rcases List.eq_nil_or_concat after with rfl | ⟨init, last, rfl⟩
    · obtain ⟨rfl, rfl⟩ := List.append_singleton_inj.mp heq
      exact hfact
    · rw [List.concat_eq_append, ← List.cons_append, ← List.append_assoc] at heq
      exact h.admissible before other init (List.append_singleton_inj.mp heq).1

/-- Only the first fact is a creation. -/
theorem not_created_of_mem_tail (h : WellFormed (fact :: added)) {hostName title language seed}
    (hmem : Fact.created hostId hostName title language seed ∈ added) : False := by
  obtain ⟨early, late, rfl⟩ := List.append_of_mem hmem
  cases h.admissible (fact :: early) _ late rfl

/-- After the end of a session, people only leave. -/
theorem left_of_mem_after_end {after : List Fact} {reason : EndReason} (h : WellFormed facts)
    (heq : facts = before ++ .ended reason :: after) (hmem : fact ∈ after) :
    ∃ userId, fact = .left userId := by
  obtain ⟨early, late, rfl⟩ := List.append_of_mem hmem
  have hfact : fact.AdmissibleAfter (before ++ .ended reason :: early) :=
    h.admissible _ fact late (by simp [heq])
  have hend : (before ++ .ended reason :: early).any Fact.isEnd = true := by simp [Fact.isEnd]
  cases fact with
  | left userId => exact ⟨userId, rfl⟩
  | created => simp [Fact.AdmissibleAfter] at hfact
  | joined => rw [hfact.1] at hend; cases hend
  | changed => rw [hfact.1] at hend; cases hend
  | helpRequested => rw [hfact.1] at hend; cases hend
  | ended => rw [hfact.1] at hend; cases hend

end WellFormed

/-! ### Coming and going by turns -/

/-- A fact that may come now moves a user only from where they are to where they are not. -/
theorem Fact.AdmissibleAfter.isThere_eq {here : Bool} (h : fact.AdmissibleAfter before)
    (hmove : fact.presence? userId = some here) : isThere userId before = !here := by
  cases fact with
  | created =>
      simp only [Fact.presence?, Option.ite_none_right_eq_some, Option.some.injEq] at hmove
      obtain ⟨rfl, rfl⟩ := hmove
      obtain rfl : before = [] := h
      rfl
  | joined =>
      simp only [Fact.presence?, Option.ite_none_right_eq_some, Option.some.injEq] at hmove
      obtain ⟨rfl, rfl⟩ := hmove
      exact h.2
  | left =>
      simp only [Fact.presence?, Option.ite_none_right_eq_some, Option.some.injEq] at hmove
      obtain ⟨rfl, rfl⟩ := hmove
      exact h
  | changed => cases hmove
  | helpRequested => cases hmove
  | ended => cases hmove

/-- **Comings and goings alternate.** At first a user is not there; the host comes with the
creation, everybody else by joining. -/
theorem WellFormed.alternate (h : WellFormed facts) (userId : String) :
    (false :: movements userId facts).IsChain (· ≠ ·) := by
  have hall := h.admissible
  clear h
  induction facts using List.reverseRecOn with
  | nil => exact List.isChain_singleton _
  | append_singleton init last ih =>
      have hinit := ih fun before fact after heq =>
        hall before fact (after ++ [last]) (by simp [heq])
      have hlast : last.AdmissibleAfter init := hall init last [] rfl
      rw [movements_concat]
      cases hmove : last.presence? userId with
      | none => simpa using hinit
      | some here =>
          have hwhere := hlast.isThere_eq hmove
          rw [← List.cons_append]
          refine List.isChain_append.mpr ⟨hinit, List.isChain_singleton _, fun x hx y hy => ?_⟩
          rw [List.getLast?_cons] at hx
          obtain rfl : isThere userId init = x := Option.some.inj hx
          obtain rfl : here = y := Option.some.inj hy
          rw [hwhere]
          exact Bool.not_ne_self here

/-! ### Facts that tell of a session -/

/-- Who is online after a fact that is no creation. -/
theorem Fact.mem_attend_iff {online : Finset String}
    (h : ∀ hostId hostName title language seed,
      fact ≠ .created hostId hostName title language seed) :
    userId ∈ fact.attend online ↔
      (fact.presence? userId).getD (decide (userId ∈ online)) = true := by
  cases fact with
  | created => exact absurd rfl (h _ _ _ _ _)
  | joined joiner =>
      by_cases hjoiner : joiner = userId
      · simp [Fact.attend, Fact.presence?, hjoiner]
      · simp [Fact.attend, Fact.presence?, hjoiner, Ne.symm hjoiner]
  | left leaver =>
      by_cases hleaver : leaver = userId
      · simp [Fact.attend, Fact.presence?, hleaver]
      · simp [Fact.attend, Fact.presence?, hleaver, Ne.symm hleaver]
  | changed => simp [Fact.attend, Fact.presence?]
  | helpRequested => simp [Fact.attend, Fact.presence?]
  | ended => simp [Fact.attend, Fact.presence?]

/-- Going through well-formed facts from the host on, those are online in the end who are there. -/
theorem WellFormed.mem_foldl_attend_iff (h : WellFormed facts)
    (hhost : hostOf? facts = some hostId) :
    userId ∈ facts.foldl Fact.attend {hostId} ↔ isThere userId facts = true := by
  obtain ⟨host, hostName, title, language, seed, rest, rfl⟩ := h.begins
  obtain rfl : host = hostId := Option.some.inj hhost
  have hother : ∀ fact ∈ rest, ∀ hostId hostName title language seed,
      fact ≠ .created hostId hostName title language seed := by
    rintro fact hmem _ _ _ _ _ rfl
    exact h.not_created_of_mem_tail hmem
  clear h hhost
  induction rest using List.reverseRecOn with
  | nil =>
      by_cases huser : host = userId
      · simp [Fact.attend, isThere, movements, Fact.presence?, huser]
      · simp [Fact.attend, isThere, movements, Fact.presence?, huser, Ne.symm huser]
  | append_singleton init last ih =>
      have hinit := ih fun fact hmem => hother fact (List.mem_append_left _ hmem)
      rw [← List.cons_append, List.foldl_append, isThere_concat]
      simp only [List.foldl_cons, List.foldl_nil] at hinit ⊢
      rw [Fact.mem_attend_iff (hother last (by simp))]
      have hwhere : decide (userId ∈ init.foldl Fact.attend (Fact.attend {host}
          (.created host hostName title language seed))) =
          isThere userId (.created host hostName title language seed :: init) := by
        rw [Bool.eq_iff_iff, decide_eq_true_iff]
        exact hinit
      rw [hwhere]

namespace Told

variable {assistance : Bool} {s : Session}

theorem hostOf?_eq (h : Told assistance facts s) : hostOf? facts = some s.hostId := by
  rw [hostOf?, h.terms]
  rfl

/-- Those are there who are online. -/
theorem isThere_eq (h : Told assistance facts s) (hwell : WellFormed facts) (userId : String) :
    isThere userId facts = s.isOnline userId := by
  rw [Bool.eq_iff_iff, ← h.online, hwell.mem_foldl_attend_iff h.hostOf?_eq]

/-- As long as the session has not ended, no end is among the facts. -/
theorem any_isEnd_eq_false (h : Told assistance facts s) (hopen : s.status ≠ .ended) :
    facts.any Fact.isEnd = false := by
  by_contra hend
  rw [Bool.not_eq_false] at hend
  refine hopen ?_
  rw [← h.status, statusOf, if_pos hend]

/-- As long as the session waits, nobody has joined it. -/
theorem any_isJoin_eq_false (h : Told assistance facts s) (hwaiting : s.status = .waiting) :
    facts.any Fact.isJoin = false := by
  have hstatus := h.status.trans hwaiting
  rw [statusOf] at hstatus
  split at hstatus
  · cases hstatus
  · split at hstatus
    · cases hstatus
    · next hnone => exact Bool.not_eq_true _ ▸ hnone

/-- Somebody has joined an active session. -/
theorem any_isJoin_eq_true (h : Told assistance facts s) (hactive : s.status = .active) :
    facts.any Fact.isJoin = true := by
  have hstatus := h.status.trans hactive
  rw [statusOf] at hstatus
  split at hstatus
  · cases hstatus
  · split at hstatus
    · next hjoin => exact hjoin
    · cases hstatus

end Told

end CoEdit
