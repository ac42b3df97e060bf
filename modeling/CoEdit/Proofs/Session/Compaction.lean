import CoEdit.Proofs.Session.Course
import Mathlib.Data.List.DropRight

/-!
# Compaction

A session keeps its latest changes one by one, and the document before them as its base text. Older
changes may be folded into the base at any moment, and any number of them. The two layers together
always account for all changes that the session has taken, and the document is their fold.

## Main definitions

* `Session.Layered`: the layers of a session that has taken some changes.
* `Session.folded`: the session with all its changes folded into the base text.

## Main results

* `Layered.push`, `Layered.compact`: edits and compactions keep the layers in order.
* `Acted.layered`: so does every action.
* `compact_compact`: a compaction leaves nothing to fold for another one that keeps as much.
* `layers_exact`: whole courses.
* `join_folded`, `depart_folded`, `edit_folded`, …: actions take no notice of what is folded.
-/

namespace CoEdit.Session

open CoEdit.Time (Instant)

variable {seed : String} {changes : List Change} {s s' : Session} {now : Instant} {action : Action}
  {result : Result}

/-! ### Layers -/

/-- The layers of a session whose document started with a seed and has taken some changes: the first
ones are folded into the base text, and the others are the history. -/
structure Layered (seed : String) (changes : List Change) (s : Session) : Prop where
  compacted_le : s.compacted ≤ changes.length
  history : s.history = changes.drop s.compacted
  base : s.base = foldChanges seed (changes.take s.compacted)
  content : s.content = foldChanges s.base s.history

/-- A new session has taken no changes. -/
theorem layered_start (id hostId hostName assignmentId : String) (settings : SessionSettings)
    (now : Instant) :
    Layered (seedContent settings.title assignmentId) []
      (start id hostId hostName assignmentId settings now) :=
  ⟨Nat.le_refl 0, rfl, rfl, rfl⟩

theorem SameDocument.layered (hsame : SameDocument s s') (h : Layered seed changes s) :
    Layered seed changes s' where
  compacted_le := by
    rw [hsame.compacted]
    exact h.compacted_le
  history := by rw [hsame.history, hsame.compacted, h.history]
  base := by rw [hsame.base, hsame.compacted, h.base]
  content := by rw [hsame.content, hsame.base, hsame.history, h.content]

/-- What an edit does to the layers: the change comes at the end of the history. -/
theorem Layered.push (h : Layered seed changes s) (change : Change)
    (hcontent : s'.content = change.operation.apply s.content)
    (hhistory : s'.history = s.history ++ [change]) (hbase : s'.base = s.base)
    (hcompacted : s'.compacted = s.compacted) : Layered seed (changes ++ [change]) s' where
  compacted_le := by
    have hle := h.compacted_le
    rw [hcompacted, List.length_append]
    omega
  history := by
    rw [hhistory, hcompacted, h.history, List.drop_append_of_le_length h.compacted_le]
  base := by
    rw [hbase, hcompacted, h.base, List.take_append_of_le_length h.compacted_le]
  content := by
    rw [hcontent, h.content, hbase, hhistory, foldChanges_append]
    rfl

/-- What a compaction does to the layers: the first changes of the history move into the base. -/
theorem Layered.compact (h : Layered seed changes s) (keepLast : Nat) :
    Layered seed changes (s.compact keepLast).2 := by
  obtain ⟨cut, hcut⟩ : ∃ cut, cut = s.history.length - keepLast := ⟨_, rfl⟩
  have hlength : s.history.length = changes.length - s.compacted := by
    rw [h.history, List.length_drop]
  have hle := h.compacted_le
  have hmoved : s.history.take cut = (changes.drop s.compacted).take cut := by rw [h.history]
  rw [Session.compact, ← hcut]
  refine ⟨?_, ?_, ?_, ?_⟩
  · change s.compacted + cut ≤ changes.length
    omega
  · change s.history.drop cut = changes.drop (s.compacted + cut)
    rw [h.history, List.drop_drop]
  · change foldChanges s.base (s.history.take cut) = _
    rw [h.base, hmoved, ← foldChanges_append, ← List.take_add]
  · change s.content = foldChanges (foldChanges s.base (s.history.take cut)) (s.history.drop cut)
    rw [← foldChanges_append, List.take_append_drop, h.content]

/-- **Every action keeps the layers in order**, whether it edits, compacts, or does neither. -/
theorem Acted.layered (h : Acted s now action result s') (hs : Layered seed changes s) :
    Layered seed (changes ++ result.change?.toList) s' := by
  have hsame : ∀ {t}, SameDocument s t → Layered seed (changes ++ []) t := by
    intro t ht
    rw [List.append_nil]
    exact ht.layered hs
  cases h with
  | edit hok =>
      obtain ⟨-, -, hchange, hs'⟩ := edit_ok hok
      rw [hs', hchange]
      exact hs.push _ rfl rfl rfl rfl
  | compact keepLast =>
      have hcompact := hs.compact keepLast
      rw [← List.append_nil changes] at hcompact
      exact hcompact
  | join hok => exact hsame (sameDocument_join hok)
  | depart hok => exact hsame (sameDocument_depart hok)
  | close => exact hsame sameDocument_close
  | moveCursor hok => exact hsame (sameDocument_moveCursor hok)
  | requestHelp hok => exact hsame (sameDocument_requestHelp hok)

/-- The document of a session in layers is the fold of all changes, and these are counted. -/
theorem Layered.content_eq (h : Layered seed changes s) : s.content = foldChanges seed changes := by
  rw [h.content, h.base, h.history, ← foldChanges_append, List.take_append_drop]

theorem Layered.changeCount_eq (h : Layered seed changes s) : s.changeCount = changes.length := by
  have hle := h.compacted_le
  rw [changeCount, h.history, List.length_drop]
  omega

/-- The history is made of the last changes, as many as are not folded away. -/
theorem Layered.history_eq_rtake (h : Layered seed changes s) :
    s.history = changes.rtake (s.changeCount - s.compacted) := by
  have hle := h.compacted_le
  have hcut : changes.length - (changes.length - s.compacted) = s.compacted := by omega
  rw [List.rtake, h.changeCount_eq, hcut, h.history]

/-! ### Compacting again -/

/-- **A compaction leaves nothing to do** for another one that keeps as many changes or more. -/
theorem compact_compact (s : Session) (keepLast more : Nat) :
    (s.compact keepLast).2.compact (keepLast + more) = (0, (s.compact keepLast).2) := by
  have hkept : (s.compact keepLast).2.history.length - (keepLast + more) = 0 := by
    change (s.history.drop (s.history.length - keepLast)).length - (keepLast + more) = 0
    rw [List.length_drop]
    omega
  rw [Session.compact, hkept]
  rfl

/-- **Compaction at any moment keeps the document.** Let a session go through any course, with
compactions anywhere in it, and let `changes` be all the changes that it has taken. The history is
made of the last of them, as many as are not counted as folded away; the base text is the fold of
those folded away over the seed; and the document is both the fold of the history over the base, and
that of all changes over the seed. A compaction then leaves the document and the number of changes
alone and tells how many changes it has moved, which are all but those to be kept; and one more
compaction that keeps as many or more does nothing. -/
theorem layers_exact (id hostId hostName assignmentId : String) (settings : SessionSettings)
    (created : Instant) (course : Course) :
    let s₀ := start id hostId hostName assignmentId settings created
    let s := s₀.after course
    let changes := s₀.changesIn course
    let seed := seedContent settings.title assignmentId
    s.changeCount = changes.length ∧
    s.history = changes.rtake (s.changeCount - s.compacted) ∧
    s.base = foldChanges seed (changes.take s.compacted) ∧
    s.content = foldChanges s.base s.history ∧
    s.content = foldChanges seed changes ∧
    ∀ keepLast, let moved := (s.compact keepLast).1
      let t := (s.compact keepLast).2
      t.content = s.content ∧ t.changeCount = s.changeCount ∧
      moved = s.history.length - keepLast ∧ t.compacted = s.compacted + moved ∧
      s.history = s.history.take moved ++ t.history ∧
      ∀ more, t.compact (keepLast + more) = (0, t) := by
  intro s₀ s changes seed
  have hlayered : Layered seed changes s :=
    after_invariant (I := Layered seed)
      (layered_start id hostId hostName assignmentId settings created) Acted.layered course
  refine ⟨hlayered.changeCount_eq, hlayered.history_eq_rtake, hlayered.base, hlayered.content,
    hlayered.content_eq, fun keepLast => ?_⟩
  refine ⟨rfl, changeCount_compact s keepLast, rfl, rfl, ?_, compact_compact s keepLast⟩
  exact (List.take_append_drop _ _).symm

/-! ### Folding everything -/

/-- The session with all its changes folded into the base text. -/
def folded (s : Session) : Session :=
  { s with base := s.content, history := [], compacted := s.changeCount }

/-- What comes of an action, with all changes of the session folded. -/
def thenFolded {α : Type} (r : α × Session) : α × Session :=
  (r.1, r.2.folded)

@[simp] theorem folded_folded (s : Session) : s.folded.folded = s.folded := rfl

/-- Nobody sees whether changes are folded, -/
theorem snapshot_folded (s : Session) : s.folded.snapshot = s.snapshot := rfl

/-- and with everything folded nobody knows of an earlier compaction. -/
theorem folded_compact (s : Session) (keepLast : Nat) :
    (s.compact keepLast).2.folded = s.folded := by
  rw [folded, changeCount_compact]
  rfl

theorem seat_folded (s : Session) (userId userName : String) (role : Role) (now : Instant) :
    s.folded.seat userId userName role now = (s.seat userId userName role now).folded := by
  cases h : s.participant? userId with
  | none =>
      rw [seat_of_none h, seat_of_none (s := s.folded) h]
      rfl
  | some entry =>
      rw [seat_of_some h, seat_of_some (s := s.folded) h]
      rfl

theorem activate_folded (s : Session) : s.folded.activate = s.activate.folded := by
  by_cases h : s.status = .waiting ∧ 1 < s.onlineCount
  · rw [activate, activate, if_pos h]
    exact if_pos h
  · rw [activate, activate, if_neg h]
    exact if_neg h

theorem close_folded (s : Session) (now : Instant) :
    s.folded.close now = thenFolded (s.close now) := by
  by_cases h : s.status = .ended
  · rw [close_of_ended h, close_of_ended (s := s.folded) h]
    rfl
  · rw [close_of_open h, close_of_open (s := s.folded) h]
    rfl

/-! Every action comes to the same whether all changes have been folded before it or are folded
after it. -/

theorem join_folded (s : Session) (userId userName : String) (role : Role) (now : Instant) :
    s.folded.join userId userName role now = thenFolded <$> s.join userId userName role now := by
  rw [join, join, map_bind]
  refine bind_congr fun _ => ?_
  rw [seat_folded]
  dsimp only
  rw [activate_folded]
  by_cases hfull : (!s.isOnline userId && decide (s.maxParticipants ≤ s.onlineCount) &&
      !((s.participant? userId).elim role (·.role)).bypassesCapacity) = true
  · rw [if_pos hfull]
    exact if_pos hfull
  · rw [if_neg hfull, map_bind]
    exact if_neg hfull

theorem depart_folded (s : Session) (userId : String) (now : Instant) :
    s.folded.depart userId now = thenFolded <$> s.depart userId now := by
  have hoff : s.folded.offline userId now = (s.offline userId now).folded := rfl
  have hreason : (s.offline userId now).folded.reasonToEnd userId =
      (s.offline userId now).reasonToEnd userId := rfl
  rw [depart_eq, depart_eq, map_bind]
  refine bind_congr fun entry => ?_
  rw [hoff, hreason, close_folded]
  dsimp only
  cases (s.offline userId now).reasonToEnd userId with
  | none => rfl
  | some reason => rfl

/-- An edit makes the history longer by one change, which has to be folded once more. -/
theorem edit_folded (s : Session) (changeId authorId : String) (op : Operation) (now : Instant) :
    thenFolded <$> s.folded.edit changeId authorId op now =
      thenFolded <$> s.edit changeId authorId op now := by
  rw [edit, edit, map_bind, map_bind]
  refine bind_congr fun _ => ?_
  dsimp only
  by_cases habsent : (!s.isOnline authorId) = true
  · rw [if_pos habsent]
    exact congrArg _ (if_pos habsent)
  · rw [if_neg habsent]
    refine (congrArg _ (if_neg habsent)).trans ?_
    change Except.ok (_, folded _) = Except.ok (_, folded _)
    simp only [folded, changeCount, touch, updateEntry, List.length_append, List.length_singleton,
      List.nil_append, Nat.add_assoc]

theorem moveCursor_folded (s : Session) (userId : String) (position : Nat) (now : Instant) :
    s.folded.moveCursor userId position now =
      thenFolded <$> s.moveCursor userId position now := by
  have hfind : s.folded.participant? userId = s.participant? userId := rfl
  rw [moveCursor, moveCursor, hfind]
  cases (s.participant? userId).filter (·.isOnline) with
  | none => rfl
  | some entry => rfl

theorem requestHelp_folded (s : Session) (userId : String) (now : Instant) :
    s.folded.requestHelp userId now = thenFolded <$> s.requestHelp userId now := by
  rw [requestHelp, requestHelp, map_bind]
  refine bind_congr fun _ => ?_
  rw [map_bind]
  rfl

end CoEdit.Session
