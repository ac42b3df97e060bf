import CoEdit.Proofs.Session.Outcome

/-!
# Sessions that Are Alike

What a session does depends on its roster entries through their names, roles, colours and presence,
and on its history through the edits in it. Two sessions that agree in this much answer every action
alike and lead to sessions that agree again, whatever cursors and marks of activity their entries
carry, and whatever ids their changes have.

## Main definitions

* `Corresponds`: two computations are refused alike, or give results that are related.
* `Participant.Likeness`: a relation between roster entries that actions take no notice of.
* `Session.Like`: two sessions with related entries and the same changes under other ids.

## Main results

* `Like.join`, `Like.depart`, `Like.edit`, `Like.moveCursor`, `Like.requestHelp`: actions on such
  sessions correspond.
-/

namespace CoEdit

open CoEdit.Time (Instant)

/-! ### Corresponding outcomes -/

/-- Two computations are refused for the same reason, or give results that are related. -/
inductive Corresponds {α β : Type} (R : α → β → Prop) : Except Error α → Except Error β → Prop
  | refused (error : Error) : Corresponds R (.error error) (.error error)
  | done {a : α} {b : β} (h : R a b) : Corresponds R (.ok a) (.ok b)

namespace Corresponds

variable {α β γ δ : Type} {R : α → β → Prop} {Q : γ → δ → Prop} {x : Except Error α}
  {y : Except Error β}

/-- A computation corresponds to itself. -/
theorem same (x : Except Error α) : Corresponds Eq x x := by
  cases x with
  | error error => exact .refused error
  | ok a => exact .done rfl

/-- Either both computations are refused, or both give results. -/
theorem refused_or_done (h : Corresponds R x y) :
    (∃ error, x = .error error ∧ y = .error error) ∨
      ∃ a b, x = .ok a ∧ y = .ok b ∧ R a b := by
  cases h with
  | refused error => exact .inl ⟨error, rfl, rfl⟩
  | done hab => exact .inr ⟨_, _, rfl, rfl, hab⟩

/-- Computations correspond if their first parts do, and what is left of them after related
results. -/
theorem bind {f : α → Except Error γ} {g : β → Except Error δ} (h : Corresponds R x y)
    (hrest : ∀ a b, R a b → Corresponds Q (f a) (g b)) : Corresponds Q (x >>= f) (y >>= g) := by
  cases h with
  | refused error => exact .refused error
  | done hab => exact hrest _ _ hab

/-- Computations that begin alike correspond if what is left of them does. -/
theorem bind_same {f : α → Except Error γ} {g : α → Except Error δ}
    (hrest : ∀ a, Corresponds Q (f a) (g a)) : Corresponds Q (x >>= f) (x >>= g) := by
  refine (same x).bind ?_
  rintro a _ rfl
  exact hrest a

theorem mono {S : α → β → Prop} (h : Corresponds R x y) (hsub : ∀ a b, R a b → S a b) :
    Corresponds S x y := by
  cases h with
  | refused error => exact .refused error
  | done hab => exact .done (hsub _ _ hab)

/-- Results may be put in another form on both sides. -/
theorem map {f : α → γ} {g : β → δ} (h : Corresponds R x y)
    (hform : ∀ a b, R a b → Q (f a) (g b)) : Corresponds Q (x.map f) (y.map g) := by
  cases h with
  | refused error => exact .refused error
  | done hab => exact .done (hform _ _ hab)

/-- What is the same in a result and in the one related to it is the same in the outcomes. -/
theorem map_eq {f : α → γ} {g : β → γ} (h : Corresponds (fun a b => g b = f a) x y) :
    y.map g = x.map f := by
  cases h with
  | refused error => rfl
  | done hab => exact congrArg Except.ok hab

/-- If the results on one side are those on the other in another form, so are the outcomes. -/
theorem eq_map {f : α → β} (h : Corresponds (fun a b => b = f a) x y) : y = x.map f := by
  cases h with
  | refused error => rfl
  | done hab => exact congrArg Except.ok hab

end Corresponds

/-! ### Entries and changes -/

/-- A relation between roster entries that agree in all but what no action asks for. What actions do
to entries keeps them related. -/
structure Participant.Likeness (P : Participant → Participant → Prop) : Prop where
  refl : ∀ p, P p p
  userId : ∀ {p q}, P p q → q.userId = p.userId
  userName : ∀ {p q}, P p q → q.userName = p.userName
  role : ∀ {p q}, P p q → q.role = p.role
  color : ∀ {p q}, P p q → q.color = p.color
  isOnline : ∀ {p q}, P p q → q.isOnline = p.isOnline
  touch : ∀ {p q} now, P p q → P (p.touch now) (q.touch now)
  setOnline : ∀ {p q} isOnline, P p q → P { p with isOnline } { q with isOnline }
  point : ∀ {p q} cursor, P p q → P { p with cursor } { q with cursor }

/-- Being the same is such a relation. -/
theorem Participant.likeness_eq : Participant.Likeness Eq where
  refl _ := rfl
  userId h := congrArg Participant.userId h.symm
  userName h := congrArg Participant.userName h.symm
  role h := congrArg Participant.role h.symm
  color h := congrArg Participant.color h.symm
  isOnline h := congrArg Participant.isOnline h.symm
  touch now h := congrArg (Participant.touch · now) h
  setOnline isOnline h := congrArg (fun p : Participant => { p with isOnline }) h
  point cursor h := congrArg (fun p : Participant => { p with cursor }) h

/-- The change under another id. -/
def Change.renamed (ρ : String → String) (c : Change) : Change :=
  { c with id := ρ c.id }

/-- The document does not depend on the ids of its changes. -/
theorem foldChanges_renamed (ρ : String → String) (seed : String) (changes : List Change) :
    foldChanges seed (changes.map (Change.renamed ρ)) = foldChanges seed changes := by
  rw [foldChanges, List.map_map]
  rfl

/-- What comes of letting someone in, twice: the entries are related, and all else is the same. -/
structure Admission.Like (P : Participant → Participant → Prop) (a b : Admission) : Prop where
  participant : P a.participant b.participant
  activated : b.activated = a.activated
  rejoined : b.rejoined = a.rejoined
  alreadyOnline : b.alreadyOnline = a.alreadyOnline

/-- What comes of someone's leaving, twice: the entries are related, and all else is the same. -/
structure Departure.Like (P : Participant → Participant → Prop) (a b : Departure) : Prop where
  participant : P a.participant b.participant
  ended : b.ended = a.ended

namespace Session

variable {P : Participant → Participant → Prop} {ρ : String → String} {s t : Session}
  {userId userName : String} {role : Role} {now : Instant}

/-- Two states of a session agree in everything but their entries, which are related, and the ids of
their changes, which are renamed. -/
inductive Like (P : Participant → Participant → Prop) (ρ : String → String) (s : Session) :
    Session → Prop
  | intro {roster : List Participant} (h : List.Forall₂ P s.roster roster) :
      Like P ρ s { s with roster, history := s.history.map (Change.renamed ρ) }

namespace Like

/-! ### What is asked of a session -/

theorem id_eq (h : s.Like P ρ t) : t.id = s.id := by
  cases h with
  | intro => rfl

theorem status_eq (h : s.Like P ρ t) : t.status = s.status := by
  cases h with
  | intro => rfl

theorem content_eq (h : s.Like P ρ t) : t.content = s.content := by
  cases h with
  | intro => rfl

theorem roster (h : s.Like P ρ t) : List.Forall₂ P s.roster t.roster := by
  cases h with
  | intro h => exact h

/-- A user has an entry on both rosters or on neither, and the two entries are related. -/
theorem participant?_cases (hP : Participant.Likeness P) (h : s.Like P ρ t) (userId : String) :
    (s.participant? userId = none ∧ t.participant? userId = none) ∨
      ∃ p q, s.participant? userId = some p ∧ t.participant? userId = some q ∧ P p q := by
  rw [participant?, participant?]
  have hroster := h.roster
  generalize s.roster = entries at hroster
  generalize t.roster = entries' at hroster
  induction hroster with
  | nil => exact .inl ⟨rfl, rfl⟩
  | @cons p q _ _ hpq _ ih =>
      by_cases hid : p.userId = userId
      · rw [List.find?_cons_of_pos (by simpa using hid),
          List.find?_cons_of_pos (by simpa [hP.userId hpq] using hid)]
        exact .inr ⟨p, q, rfl, rfl, hpq⟩
      · rw [List.find?_cons_of_neg (by simpa using hid),
          List.find?_cons_of_neg (by simpa [hP.userId hpq] using hid)]
        exact ih

theorem isOnline (hP : Participant.Likeness P) (h : s.Like P ρ t) (userId : String) :
    t.isOnline userId = s.isOnline userId := by
  rw [Session.isOnline, Session.isOnline]
  rcases h.participant?_cases hP userId with ⟨hs, ht⟩ | ⟨p, q, hs, ht, hpq⟩
  · rw [hs, ht]
  · rw [hs, ht]
    exact hP.isOnline hpq

theorem onlineCount (hP : Participant.Likeness P) (h : s.Like P ρ t) :
    t.onlineCount = s.onlineCount := by
  rw [Session.onlineCount, Session.onlineCount]
  have hroster := h.roster
  generalize s.roster = entries at hroster
  generalize t.roster = entries' at hroster
  induction hroster with
  | nil => rfl
  | cons hpq _ ih => rw [List.countP_cons, List.countP_cons, ih, hP.isOnline hpq]

theorem requireStatus (h : s.Like P ρ t) (needed : List Status) :
    t.requireStatus needed = s.requireStatus needed := by
  rw [Session.requireStatus, Session.requireStatus, h.status_eq, h.id_eq]

theorem requireEntry (hP : Participant.Likeness P) (h : s.Like P ρ t) (userId : String) :
    Corresponds P (s.requireEntry userId) (t.requireEntry userId) := by
  rw [Session.requireEntry, Session.requireEntry, h.id_eq]
  rcases h.participant?_cases hP userId with ⟨hs, ht⟩ | ⟨p, q, hs, ht, hpq⟩
  · rw [hs, ht]
    exact .refused _
  · rw [hs, ht]
    exact .done hpq

/-! ### The parts of an action -/

theorem touch (h : s.Like P ρ t) (now : Instant) : (s.touch now).Like P ρ (t.touch now) := by
  cases h with
  | intro h => exact .intro h

theorem updateEntry (hP : Participant.Likeness P) (h : s.Like P ρ t) (userId : String)
    {f : Participant → Participant} (hf : ∀ {p q}, P p q → P (f p) (f q)) :
    (s.updateEntry userId f).Like P ρ (t.updateEntry userId f) := by
  cases h with
  | intro h =>
      refine .intro ?_
      refine List.forall₂_map_left_iff.mpr (List.forall₂_map_right_iff.mpr (h.imp ?_))
      intro p q hpq
      rw [hP.userId hpq]
      split
      · exact hf hpq
      · exact hpq

theorem offline (hP : Participant.Likeness P) (h : s.Like P ρ t) (userId : String)
    (now : Instant) : (s.offline userId now).Like P ρ (t.offline userId now) :=
  h.updateEntry hP userId fun hpq => hP.touch now (hP.setOnline false hpq)

theorem seat (hP : Participant.Likeness P) (h : s.Like P ρ t) (userId userName : String)
    (role : Role) (now : Instant) :
    (s.seat userId userName role now).Like P ρ (t.seat userId userName role now) := by
  rcases h.participant?_cases hP userId with ⟨hs, ht⟩ | ⟨p, q, hs, ht, -⟩
  · rw [seat_of_none hs, seat_of_none ht]
    cases h with
    | intro h =>
        refine .intro ?_
        dsimp only
        rw [← h.length_eq]
        exact List.rel_append h (.cons (hP.refl _) .nil)
  · rw [seat_of_some hs, seat_of_some ht]
    exact h.updateEntry hP userId fun hpq => hP.setOnline true (hP.touch now hpq)

theorem activate (hP : Participant.Likeness P) (h : s.Like P ρ t) :
    s.activate.Like P ρ t.activate := by
  rw [Session.activate, Session.activate, h.status_eq, h.onlineCount hP]
  split
  · cases h with
    | intro h => exact .intro h
  · exact h

theorem close (h : s.Like P ρ t) (now : Instant) :
    (t.close now).1 = (s.close now).1 ∧ (s.close now).2.Like P ρ (t.close now).2 := by
  rw [Session.close, Session.close, h.status_eq]
  split
  · exact ⟨rfl, h⟩
  · refine ⟨rfl, ?_⟩
    cases h with
    | intro h => exact .intro h

theorem reasonToEnd (hP : Participant.Likeness P) (h : s.Like P ρ t) (userId : String) :
    t.reasonToEnd userId = s.reasonToEnd userId := by
  rw [Session.reasonToEnd, Session.reasonToEnd, h.onlineCount hP]
  cases h with
  | intro => rfl

theorem compact (h : s.Like P ρ t) (keepLast : Nat) :
    (s.compact keepLast).2.Like P ρ (t.compact keepLast).2 := by
  cases h with
  | intro h =>
      have hlike := Like.intro (ρ := ρ) (s := (s.compact keepLast).2) h
      rw [Session.compact, Session.compact]
      dsimp only
      rw [List.length_map, ← List.map_take, foldChanges_renamed, ← List.map_drop]
      exact hlike

/-! ### Actions -/

theorem join (hP : Participant.Likeness P) (h : s.Like P ρ t) (userId userName : String)
    (role : Role) (now : Instant) :
    Corresponds (fun r r' => r.1.Like P r'.1 ∧ r.2.Like P ρ r'.2)
      (s.join userId userName role now) (t.join userId userName role now) := by
  have hknown : (t.participant? userId).elim role (·.role) =
      (s.participant? userId).elim role (·.role) ∧
      (t.participant? userId).isSome = (s.participant? userId).isSome := by
    rcases h.participant?_cases hP userId with ⟨hs, ht⟩ | ⟨p, q, hs, ht, hpq⟩
    · rw [hs, ht]
      exact ⟨rfl, rfl⟩
    · rw [hs, ht]
      exact ⟨hP.role hpq, rfl⟩
  have hseat := h.seat hP userId userName role now
  have hafter := (hseat.activate hP).touch now
  have hmax : t.maxParticipants = s.maxParticipants := by
    cases h with
    | intro => rfl
  rw [Session.join, Session.join, h.requireStatus]
  refine .bind_same fun _ => ?_
  dsimp only
  rw [hknown.1, hknown.2, h.isOnline hP, h.onlineCount hP, hmax, h.id_eq, hseat.status_eq,
    hafter.status_eq]
  split
  · exact .refused _
  · refine (hafter.requireEntry hP userId).bind fun p q hpq => ?_
    exact .done ⟨⟨hpq, rfl, rfl, rfl⟩, hafter⟩

theorem depart (hP : Participant.Likeness P) (h : s.Like P ρ t) (userId : String)
    (now : Instant) :
    Corresponds (fun r r' => r.1.Like P r'.1 ∧ r.2.Like P ρ r'.2)
      (s.depart userId now) (t.depart userId now) := by
  have hoffline := h.offline hP userId now
  obtain ⟨hended, hclosed⟩ := hoffline.close now
  rw [depart_eq, depart_eq, hoffline.reasonToEnd hP, hended]
  refine (h.requireEntry hP userId).bind fun p q hpq => ?_
  have hentry := hP.touch now (hP.setOnline false hpq)
  dsimp only
  cases (s.offline userId now).reasonToEnd userId with
  | none => exact .done ⟨⟨hentry, rfl⟩, hoffline.touch now⟩
  | some reason => exact .done ⟨⟨hentry, rfl⟩, hclosed.touch now⟩

/-- The ids of the changes are renamed like those that are there already. -/
theorem edit (hP : Participant.Likeness P) (h : s.Like P ρ t) (changeId authorId : String)
    (op : Operation) (now : Instant) :
    Corresponds (fun r r' => r'.1 = r.1.renamed ρ ∧ r.2.Like P ρ r'.2)
      (s.edit changeId authorId op now) (t.edit (ρ changeId) authorId op now) := by
  rw [Session.edit, Session.edit, h.requireStatus, h.isOnline hP]
  refine .bind_same fun _ => ?_
  dsimp only
  split
  · exact .refused _
  · refine .done ⟨rfl, ?_⟩
    refine Like.touch (Like.updateEntry hP ?_ authorId (hP.touch now)) now
    cases h with
    | @intro roster h =>
        have hlike := Like.intro (ρ := ρ) (s := { s with
          content := op.apply s.content
          history := s.history ++ [⟨changeId, authorId, now, op⟩] }) h
        rw [List.map_append] at hlike
        exact hlike

theorem moveCursor (hP : Participant.Likeness P) (h : s.Like P ρ t) (userId : String)
    (position : Nat) (now : Instant) :
    Corresponds (fun r r' => P r.1 r'.1 ∧ r.2.Like P ρ r'.2)
      (s.moveCursor userId position now) (t.moveCursor userId position now) := by
  have hmove : ∀ {p q}, P p q → P ({ p with cursor := position }.touch now)
      ({ q with cursor := position }.touch now) := fun hpq => hP.touch now (hP.point position hpq)
  rw [Session.moveCursor, Session.moveCursor]
  rcases h.participant?_cases hP userId with ⟨hs, ht⟩ | ⟨p, q, hs, ht, hpq⟩
  · rw [hs, ht]
    exact .refused _
  · rw [hs, ht, Option.filter_some, Option.filter_some, hP.isOnline hpq]
    cases p.isOnline with
    | false => exact .refused _
    | true => exact .done ⟨hmove hpq, h.updateEntry hP userId hmove⟩

theorem requestHelp (hP : Participant.Likeness P) (h : s.Like P ρ t) (userId : String)
    (now : Instant) :
    Corresponds (fun r r' => P r.1 r'.1 ∧ r.2.Like P ρ r'.2)
      (s.requestHelp userId now) (t.requestHelp userId now) := by
  have hnoted := h.updateEntry hP userId (hP.touch now)
  rw [Session.requestHelp, Session.requestHelp, h.requireStatus]
  refine .bind_same fun _ => (h.requireEntry hP userId).bind fun p q hpq => ?_
  refine .done ⟨hP.touch now hpq, Like.touch ?_ now⟩
  generalize s.updateEntry userId (·.touch now) = noted at hnoted ⊢
  generalize t.updateEntry userId (·.touch now) = noted' at hnoted ⊢
  cases hnoted with
  | intro hnoted => exact .intro hnoted

end Like

end Session

end CoEdit
