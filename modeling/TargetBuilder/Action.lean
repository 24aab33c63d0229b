import TargetBuilder.Fault

/-!
# Actions

An action changes a state and ends in one of four ways: with a value, with a fault, by unwinding, or
because the fuel that bounds its recursion ran out. Whatever the end, the state is handed back, so that
what an action leaves behind can be stated for every end at once.

Faults and unwinding travel outwards until something catches them: a fault is caught by a statement
that swallows it, unwinding by a statement that stops it, and running out of fuel by nothing.
-/

namespace TargetBuilder

/-- The ways to end without a value. -/
inductive Stop where
  /-- An operation failed. -/
  | fault (f : Fault)
  /-- The computation is being abandoned, up to the next place that stops the unwinding. -/
  | unwound
  /-- The bound on the depth of the recursion was reached. -/
  | outOfFuel
  deriving DecidableEq, Repr

/-- A computation over a state `σ` that may end without a value. -/
def Action (σ α : Type) : Type := σ → Except Stop α × σ

namespace Action

variable {σ α β : Type}

/-- Runs the action on a state. -/
def run (x : Action σ α) (s : σ) : Except Stop α × σ := x s

instance : Monad (Action σ) where
  pure a := fun s => (.ok a, s)
  bind x f := fun s =>
    match x s with
    | (.ok a, s') => f a s'
    | (.error e, s') => (.error e, s')

/-- Answers the state. -/
def read : Action σ σ := fun s => (.ok s, s)

/-- Answers what `f` sees in the state. -/
def reads (f : σ → α) : Action σ α := fun s => (.ok (f s), s)

/-- Changes the state. -/
def modify (f : σ → σ) : Action σ Unit := fun s => (.ok (), f s)

/-- Ends without a value. -/
def stop (e : Stop) : Action σ α := fun s => (.error e, s)

/-- Fails. -/
def fail (f : Fault) : Action σ α := stop (.fault f)

/-- Goes on with a result that is there already. -/
def ofResult : Except Stop α → Action σ α
  | .ok a => pure a
  | .error e => stop e

/-- Runs the action and answers how it ended, without ending in that way. -/
def capture (x : Action σ α) : Action σ (Except Stop α) := fun s =>
  match x s with
  | (r, s') => (.ok r, s')

/-- Runs the action and answers its value or its fault; the other ways to end stay. -/
def attempt (x : Action σ α) : Action σ (Except Fault α) := fun s =>
  match x s with
  | (.ok a, s') => (.ok (.ok a), s')
  | (.error (.fault f), s') => (.ok (.error f), s')
  | (.error e, s') => (.error e, s')

/-- Goes on with the state that something was added to. -/
def adding (f : σ → α × σ) : Action σ α := fun s =>
  match f s with
  | (a, s') => (.ok a, s')

/-- Runs `x` and then, however it ended, changes the state by `cleanUp`. -/
def ensuring (x : Action σ α) (cleanUp : Except Stop α → σ → σ) : Action σ α := fun s =>
  match x s with
  | (r, s') => (r, cleanUp r s')

/-- Runs the actions for the elements of a list, one after the other. -/
def each (xs : List β) (f : β → Action σ Unit) : Action σ Unit :=
  match xs with
  | [] => pure ()
  | x :: rest => do
    f x
    each rest f

/-! ## Runs of the combinators -/

@[simp] theorem run_pure (a : α) (s : σ) : (pure a : Action σ α).run s = (.ok a, s) := rfl

theorem run_bind (x : Action σ α) (f : α → Action σ β) (s : σ) :
    (x >>= f).run s =
      match x.run s with
      | (.ok a, s') => (f a).run s'
      | (.error e, s') => (.error e, s') := rfl

@[simp] theorem run_read (s : σ) : (read : Action σ σ).run s = (.ok s, s) := rfl

@[simp] theorem run_reads (f : σ → α) (s : σ) : (reads f).run s = (.ok (f s), s) := rfl

@[simp] theorem run_modify (f : σ → σ) (s : σ) : (modify f).run s = (.ok (), f s) := rfl

@[simp] theorem run_stop (e : Stop) (s : σ) : (stop e : Action σ α).run s = (.error e, s) := rfl

@[simp] theorem run_fail (f : Fault) (s : σ) :
    (fail f : Action σ α).run s = (.error (.fault f), s) := rfl

@[simp] theorem run_ofResult (r : Except Stop α) (s : σ) :
    (ofResult r : Action σ α).run s = (r, s) := by
  cases r <;> rfl

@[simp] theorem run_capture (x : Action σ α) (s : σ) :
    x.capture.run s = (.ok (x.run s).1, (x.run s).2) := rfl

@[simp] theorem run_attempt (x : Action σ α) (s : σ) :
    x.attempt.run s =
      match x.run s with
      | (.ok a, s') => (.ok (.ok a), s')
      | (.error (.fault f), s') => (.ok (.error f), s')
      | (.error e, s') => (.error e, s') := rfl

@[simp] theorem run_adding (f : σ → α × σ) (s : σ) :
    (adding f).run s = (.ok (f s).1, (f s).2) := rfl

theorem run_each_nil (f : β → Action σ Unit) (s : σ) : (each [] f).run s = (.ok (), s) := rfl

theorem run_each_cons (x : β) (rest : List β) (f : β → Action σ Unit) (s : σ) :
    (each (x :: rest) f).run s = (f x >>= fun _ => each rest f).run s := rfl

@[simp] theorem run_ensuring (x : Action σ α) (cleanUp : Except Stop α → σ → σ) (s : σ) :
    (x.ensuring cleanUp).run s = ((x.run s).1, cleanUp (x.run s).1 (x.run s).2) := rfl

/-- An action that answers `a` leaves the state that it leaves. -/
theorem run_eq_of_toOption {x : Action σ α} {s : σ} {a : α}
    (h : (x.run s).1.toOption = some a) : x.run s = (.ok a, (x.run s).2) := by
  cases hr : x.run s with
  | mk r s' =>
    rw [hr] at h
    cases r with
    | ok b =>
      rw [Option.some.inj h]
    | error e => cases h

/-! ## The monad laws -/

theorem ext_run {x y : Action σ α} (h : ∀ s, x.run s = y.run s) : x = y := funext h

theorem id_map_run (x : Action σ α) : id <$> x = x := by
  apply ext_run
  intro s
  change (x >>= pure).run s = x.run s
  rw [run_bind]
  split <;> simp_all

theorem bind_assoc_run {γ : Type} (x : Action σ α) (f : α → Action σ β) (g : β → Action σ γ) :
    x >>= f >>= g = x >>= fun a => f a >>= g := by
  apply ext_run
  intro s
  simp only [run_bind]
  cases hx : x.run s with
  | mk r s' => cases r <;> rfl

instance : LawfulMonad (Action σ) :=
  LawfulMonad.mk' (Action σ) id_map_run (fun _ _ => rfl) bind_assoc_run

end Action

end TargetBuilder
