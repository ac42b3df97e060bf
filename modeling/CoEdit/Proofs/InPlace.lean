import CoEdit.Error

/-!
# Changing a State in Place

The operations of this library give the next state only if they succeed, so that a refusal cannot
leave anything behind. A program that changes its state in place has no such help: what it did
before it breaks off stays done. This module is about such programs, and about what makes one as
good as an operation that is all or nothing: whatever can be refused is refused before the first
change.

## Main definitions

* `InPlace`: programs that change a state in place and may break off.
* `InPlace.on`: the answer of a program, and the state it leaves behind even if it breaks off.
* `InPlace.keep`: what comes of an operation that is all or nothing.

## Main results

* `on_check_bind`: a check in front keeps a program all or nothing.
* `on_bind_keep`: so does what is done after a part that is all or nothing, if it cannot fail.
-/

namespace CoEdit

/-- Programs that change a state in place and may break off with an error. Breaking off undoes
nothing. -/
abbrev InPlace (ε σ : Type) := ExceptT ε (StateM σ)

namespace InPlace

variable {ε ε' σ α β : Type} {s t : σ}

/-- Runs a program: its answer or the error it breaks off with, and the state it leaves behind. -/
def on (p : InPlace ε σ α) (s : σ) : Except ε α × σ :=
  StateT.run (ExceptT.run p) s

/-- Looks at the state, and breaks off if it is not as it should be. -/
def check (c : σ → Except ε α) : InPlace ε σ α := do
  MonadExcept.ofExcept (c (← get))

/-- Goes on whether or not a part breaks off. What the part has done by then stays done. -/
def observe (p : InPlace ε σ α) : InPlace ε σ (Except ε α) :=
  ExceptT.lift (ExceptT.run p)

/-- Words the error that a program breaks off with differently. -/
def rewordError (f : ε → ε') (p : InPlace ε σ α) : InPlace ε' σ α :=
  ExceptT.adapt f p

/-- What comes of an operation that gives the next state only if it succeeds. -/
def keep (s : σ) : Except ε (α × σ) → Except ε α × σ
  | .ok (a, t) => (.ok a, t)
  | .error error => (.error error, s)

/-! ### Running a program -/

@[simp] theorem on_pure (a : α) : (pure a : InPlace ε σ α).on s = (.ok a, s) := rfl

@[simp] theorem on_throw (error : ε) :
    (throw error : InPlace ε σ α).on s = (.error error, s) := rfl

@[simp] theorem on_get : (get : InPlace ε σ σ).on s = (.ok s, s) := rfl

@[simp] theorem on_modify (f : σ → σ) : (modify f : InPlace ε σ PUnit).on s = (.ok ⟨⟩, f s) := rfl

@[simp] theorem on_modifyGet (f : σ → α × σ) :
    (modifyGet f : InPlace ε σ α).on s = (.ok (f s).1, (f s).2) := rfl

/-- The rest of a program runs in the state that the first part leaves behind, unless this breaks
off. -/
theorem on_bind (p : InPlace ε σ α) (q : α → InPlace ε σ β) :
    (p >>= q).on s = match p.on s with
      | (.ok a, t) => (q a).on t
      | (.error error, t) => (.error error, t) := by
  rw [on, ExceptT.run_bind, StateT.run_bind, on]
  rcases StateT.run p.run s with ⟨error | a, t⟩
  · rfl
  · rfl

@[simp] theorem on_bind_get (q : σ → InPlace ε σ β) : (get >>= q).on s = (q s).on s := by
  rw [on_bind, on_get]

@[simp] theorem on_bind_modify (f : σ → σ) (q : PUnit → InPlace ε σ β) :
    (modify f >>= q).on s = (q ⟨⟩).on (f s) := by
  rw [on_bind, on_modify]

/-- A check changes nothing. -/
@[simp] theorem on_check (c : σ → Except ε α) : (check c).on s = (c s, s) := by
  rw [check, on_bind_get]
  cases c s with
  | error => rfl
  | ok => rfl

/-- Whatever a part comes to, the program goes on in the state that it leaves behind. -/
@[simp] theorem on_observe (p : InPlace ε σ α) :
    (observe p).on s = (.ok (p.on s).1, (p.on s).2) := rfl

@[simp] theorem on_rewordError (f : ε → ε') (p : InPlace ε σ α) :
    (rewordError f p).on s = ((p.on s).1.mapError f, (p.on s).2) := rfl

/-! ### All or nothing -/

/-- A check in front keeps a program all or nothing. -/
theorem on_check_bind {c : σ → Except ε α} {q : α → InPlace ε σ β}
    {f : α → Except ε (β × σ)} (h : ∀ a, c s = .ok a → (q a).on s = keep s (f a)) :
    (check c >>= q).on s = keep s (c s >>= f) := by
  rw [on_bind, on_check]
  cases hc : c s with
  | error => rfl
  | ok a => exact h a hc

/-- A part that is all or nothing comes first: what is left is to be so for the state from before
that part. -/
theorem on_bind_keep {p : InPlace ε σ α} {q : α → InPlace ε σ β} {r : Except ε (α × σ)}
    {f : α × σ → Except ε (β × σ)} (hp : p.on s = keep s r)
    (h : ∀ a t, r = .ok (a, t) → (q a).on t = keep s (f (a, t))) :
    (p >>= q).on s = keep s (r >>= f) := by
  rw [on_bind, hp]
  rcases r with error | ⟨a, t⟩
  · rfl
  · exact h a t rfl

/-- So it is for a program that only words the answer differently. -/
theorem on_map_keep {p : InPlace ε σ α} {r : Except ε (α × σ)} (f : α → β)
    (hp : p.on s = keep s r) : (f <$> p).on s = keep s (r.map fun x => (f x.1, x.2)) := by
  rw [map_eq_pure_bind, on_bind, hp]
  rcases r with error | ⟨a, t⟩
  · rfl
  · rfl

/-- Breaking off leaves the state as it was. -/
theorem eq_of_keep_error {r : Except ε (α × σ)} {error : ε} (h : keep s r = (.error error, t)) :
    t = s := by
  rcases r with _ | ⟨a, u⟩
  · exact (Prod.mk.inj h).2.symm
  · cases h

end InPlace

end CoEdit
