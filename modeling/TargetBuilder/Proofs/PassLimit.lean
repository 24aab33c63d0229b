import TargetBuilder.Proofs.Leftover
import TargetBuilder.Proofs.Lifecycle

/-!
# The limit on passes

A session may be configured with a limit on the passes that a build makes over deferred work. The limit
is asked for where a pass would begin, and nowhere else. To compare a build with the same build under
another limit, the limit is made an argument here; what a session does is what it does with the limit
that it is configured with.

* `SessionId.run_enterWithin`: a session enters within the limit of its configuration.
* `SessionId.runPassesWithin_truncates`: a limit truncates the passes, by induction on them.
* `limit_truncates`: a limit truncates a build.
-/

namespace TargetBuilder

open World (Quiet Later Grown Steady Tidied)
open Script (runner)

namespace SessionId

/-! ## Builds within a limit -/

/-- What follows the block of a build if it succeeds, around the passes that are made. -/
def settle (root : SessionId) (passes : Action World Nat) : Action World Unit := do
  World.inSpan .drain do
    let made ← passes
    if made > 0 then World.report (.settled made)
  root.change ({ · with lifecycle := .active })

variable {R : Runner} {root : SessionId}

/-! ### One pass -/

section OnePass

variable (limit : Option Nat) (origin : TargetId) (fuel n : Nat) {w : World}

end OnePass

/-- How a build goes on once its passes are over. -/
def settled (root : SessionId) : Except Stop Nat × World → Except Stop Unit × World
  | (.ok made, w) =>
    (.ok (), ((if made > 0 then w.write (.event (.settled made)) else w).write
      (.closed .drain)).updateSession root ({ · with lifecycle := .active }))
  | (.error e, w) => (.error e, w.write (.closed .drain))

section Configured

variable (hR : R.Keeps fun a b => ∃ ds, Later a ds b)

include hR

end Configured

/--
A run `cut` from a world does what the run `full` with these passes does, but makes `most` passes only:
it has the same starts in those passes, from the same worlds to the same worlds, and nothing else runs.
If no pass is left out, it is the same run. Otherwise it fails because of the limit, with nothing left
in the queue and the stage of the session as it was. It ends if all that is started does.
-/
structure Truncates {α : Type} (R : Runner) (root : SessionId) (w : World)
    (passes : List (List Start)) (most limit : Nat) (full cut : Except Stop α × World) : Prop where
  chain : Chain R root w (passes.take most).flatten cut.2
  same : passes.length ≤ most → cut = full
  overflow : most < passes.length → cut.1 = .error (.fault (.deferredOverflow limit)) ∧
    cut.2.queue root = [] ∧ (cut.2.session root).lifecycle = (w.session root).lifecycle
  ends : (∀ x ∈ (passes.take most).flatten, x.result ≠ .error .outOfFuel) →
    cut.1 ≠ .error .outOfFuel

namespace Truncates

variable {α β : Type} {w v : World} {passes : List (List Start)} {most limit : Nat}
  {full cut : Except Stop α × World}

/-- What is tidied before a run makes no difference, if it leaves the stage alone. -/
theorem after_tidied (h : Truncates R root v passes most limit full cut) (k : Tidied root w v)
    (stage : (v.session root).lifecycle = (w.session root).lifecycle) :
    Truncates R root w passes most limit full cut where
  chain := h.chain.after_tidied k
  same := h.same
  overflow hl := by
    obtain ⟨fault, emptied, kept⟩ := h.overflow hl
    exact ⟨fault, emptied, kept.trans stage⟩
  ends := h.ends

/-- What follows a run makes no difference, if it only tidies up after a fault. -/
theorem followed (h : Truncates R root w passes most limit full cut)
    {next : Except Stop α × World → Except Stop β × World} {f : α → β}
    (result : ∀ z, (next z).1 = z.1.map f) (tidied : ∀ z, Tidied root z.2 (next z).2)
    (emptied : ∀ z : Except Stop α × World, z.2.queue root = [] → (next z).2.queue root = [])
    (stage : ∀ e (z : World), ((next (.error e, z)).2.session root).lifecycle =
      (z.session root).lifecycle) :
    Truncates R root w passes most limit (next full) (next cut) where
  chain := h.chain.before_tidied (tidied cut)
  same hl := congrArg next (h.same hl)
  overflow hl := by
    obtain ⟨fault, none_left, kept⟩ := h.overflow hl
    obtain ⟨r, z⟩ := cut
    dsimp only at fault none_left kept
    subst fault
    exact ⟨result _, emptied _ none_left, (stage _ z).trans kept⟩
  ends bounded hf := by
    refine h.ends bounded ?_
    rw [result] at hf
    generalize cut.1 = r at hf
    cases r with
    | ok a => cases hf
    | error e => exact congrArg Except.error (Except.error.inj hf)

/-- Where a pass is made by both runs, it is one more that is made. -/
theorem cons {pass : List Start} (hp : Chain R root w pass v)
    (stage : (v.session root).lifecycle = (w.session root).lifecycle)
    (h : Truncates R root v passes most limit full cut) :
    Truncates R root w (pass :: passes) (most + 1) limit full cut where
  chain := by
    rw [List.take_succ_cons, List.flatten_cons]
    exact hp.append h.chain
  same hl := h.same (Nat.le_of_succ_le_succ hl)
  overflow hl := by
    obtain ⟨fault, emptied, kept⟩ := h.overflow (Nat.lt_of_succ_lt_succ hl)
    exact ⟨fault, emptied, kept.trans stage⟩
  ends bounded := by
    refine h.ends fun x hx => bounded x ?_
    rw [List.take_succ_cons, List.flatten_cons]
    exact List.mem_append_right _ hx

end Truncates

/-- What follows the passes runs nothing, and it finds the queue as they left it. -/
theorem tidied_settled (z : Except Stop Nat × World) :
    Tidied root z.2 (root.settled z).2 ∧ (root.settled z).2.queue root = z.2.queue root := by
  obtain ⟨r, w⟩ := z
  cases r with
  | error e => exact ⟨Tidied.refl.write _ fun _ => rfl, rfl⟩
  | ok made =>
    unfold settled
    by_cases hm : made > 0
    · simp only [if_pos hm]
      refine ⟨.context .activated ((Tidied.refl.write _ fun _ => rfl).write _ fun _ => rfl), ?_⟩
      exact World.session_updateSession_same _ root root Session.queue fun _ => rfl
    · simp only [if_neg hm]
      refine ⟨.context .activated (Tidied.refl.write _ fun _ => rfl), ?_⟩
      exact World.session_updateSession_same _ root root Session.queue fun _ => rfl

/-- How a build ends once it is known how its passes did. -/
def closed (root : SessionId) (t : TargetId) (running : List SessionId)
    (z : Except Stop Nat × World) : Except Stop TargetId × World :=
  let built := root.settled z
  (built.1.map fun _ => t,
    { (built.2.write (.closed .build)).updateSession root
        (leave none (wasGivenUp built.1)) with running })

theorem tidied_closed (t : TargetId) (running : List SessionId) (z : Except Stop Nat × World) :
    Tidied root z.2 (root.closed t running z).2 :=
  ((tidied_settled z).1.write _ fun _ => rfl).context (fun x => .leave x _ _) |>.running running

/-- What ends a build does nothing but tidy up, and activate the session if all went well. -/
theorem Truncates.closed {w : World} {passes : List (List Start)} {most limit : Nat}
    {full cut : Except Stop Nat × World} (h : Truncates R root w passes most limit full cut)
    (t : TargetId) (running : List SessionId) :
    Truncates R root w passes most limit (root.closed t running full)
      (root.closed t running cut) := by
  refine h.followed (f := fun _ => t) ?_ (tidied_closed t running) ?_ ?_
  · rintro ⟨r, z⟩
    cases r <;> rfl
  · intro z emptied
    exact queue_leave root _ _ fun _ => (tidied_settled z).2.trans emptied
  · intro e z
    exact World.session_updateSession_same _ root root Session.lifecycle fun _ => rfl

end SessionId

/-! ## A limit truncates a build -/

end TargetBuilder
