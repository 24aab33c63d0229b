import TargetBuilder.Proofs.Bracket
import TargetBuilder.Proofs.Script

/-!
# Stack discipline

The contexts of a root session nest like calls, but no stack is kept: each context remembers the frame
and the mark that it replaced, and puts them back when it ends. What was current before is therefore
current again, whether the context ends with success, with a fault or by unwinding, and whatever
happened in it.

* `World.StackKept.discipline`: entering is a bracket around the frame and around the mark.
* `stack_discipline`: every context that is entered, in any way, leaves every stack as it was; where no
  context of a root session is open, nothing is current and the mark is unset.
-/

namespace TargetBuilder

open World (Quiet)
open Script (runner)

/-- What is being configured, with whether a context is open and is the outermost one. -/
def Session.stack (x : Session) : Frame × Option Bool := (x.frame, x.topLevel)

namespace World

/-- What stands for the stack of contexts on a session. -/
def stack (w : World) (s : SessionId) : Frame × Option Bool := (w.session s).stack

/-- The stacks of all sessions are as they were. -/
structure StackKept (a b : World) : Prop where
  size_le : a.sessions.size ≤ b.sessions.size
  stack : ∀ s, b.stack s = a.stack s

namespace StackKept

theorem guarantee : Guarantee StackKept where
  refl _ := ⟨Nat.le_refl _, fun _ => rfl⟩
  trans h k := ⟨Nat.le_trans h.size_le k.size_le, fun s => (k.stack s).trans (h.stack s)⟩
  quiet h := ⟨h.size_le, fun s => Prod.ext (h.frame s) (h.topLevel s)⟩

/-- A change that shows on no stack. -/
theorem of_update (w : World) (r : SessionId) {f : Session → Session}
    (hf : ∀ x, (f x).stack = x.stack) : StackKept w (w.updateSession r f) where
  size_le := Nat.le_of_eq (size_updateSession w r f).symm
  stack _ := session_updateSession_same w r _ Session.stack hf

/-- A change that is undone after something ran. -/
theorem bracket {w w' : World} {r : SessionId} {f g : Session → Session}
    (inside : StackKept (w.updateSession r f) w')
    (back : ∀ y : Session, y.stack = (f (w.session r)).stack →
      (g y).stack = (w.session r).stack)
    (still : ∀ y : Session, y.stack = (w.session r).stack → (g y).stack = (w.session r).stack) :
    StackKept w (w'.updateSession r g) := by
  have size : w.sessions.size ≤ w'.sessions.size := by
    rw [← size_updateSession w r f]
    exact inside.size_le
  refine ⟨by rw [size_updateSession]; exact size, ?_⟩
  intro s
  exact changed_back Session.stack size (inside.stack s) back still

theorem withFrame {α : Type} (root : SessionId) (frame : Frame) {x : Action World α}
    (hx : x.Keeps StackKept) : (root.withFrame frame x).Keeps StackKept := by
  intro w
  rw [SessionId.run_withFrame]
  have inside := hx (w.updateSession root ({ · with frame }))
  have put : ∀ y : Session, y.topLevel = (w.session root).topLevel →
      Session.stack { y with frame := (w.session root).frame } = (w.session root).stack :=
    fun y hy => Prod.ext rfl hy
  exact bracket inside (fun y hy => put y (congrArg Prod.snd hy))
    fun y hy => put y (congrArg Prod.snd hy)

theorem inContext {α : Type} (root : SessionId) {x : Bool → Action World α}
    (hx : ∀ b, (x b).Keeps StackKept) : (root.inContext x).Keeps StackKept := by
  intro w
  rw [SessionId.run_inContext]
  have inside := hx (w.session root).topLevel.isNone
    (w.updateSession root ({ · with topLevel := some (w.session root).topLevel.isNone }))
  have put : ∀ (y : Session) (givenUp : Bool), y.frame = (w.session root).frame →
      (SessionId.leave (w.session root).topLevel givenUp y).stack = (w.session root).stack :=
    fun y _ hy => Prod.ext hy rfl
  exact bracket inside (fun y hy => put y _ (congrArg Prod.fst hy))
    fun y hy => put y _ (congrArg Prod.fst hy)

theorem brackets (root : SessionId) : Brackets StackKept root where
  withFrame frame _ hx := withFrame root frame hx
  inContext hx := inContext root hx
  taken w := of_update w root fun _ => rfl
  activated w := of_update w root fun _ => rfl

/-- **Contexts are brackets around the stacks of all sessions.** -/
theorem discipline : Discipline StackKept where
  toGuarantee := guarantee
  defer w r d := by
    have written : StackKept w (w.write (.event (.scheduled r d.target))) :=
      ⟨Nat.le_refl _, fun _ => rfl⟩
    exact guarantee.trans written (of_update _ r fun _ => rfl)
  enterTarget _ root t _ hR hb :=
    (brackets root).keeps_enterTarget (.of_calm guarantee.calm (.of_quiet guarantee hR) root) t (hb root)

end StackKept

/--
A world in which no context of a root session is open, somewhere in a run that began without sessions:
programs have run to their ends, among them all those that entered a context of this session, and other
sessions may be anywhere in contexts of their own.
-/
inductive Outside (fuel : Nat) (root : SessionId) : World → Prop
  | start (types : OrderedMap String TargetClass) : Outside fuel root (.empty types)
  | program {w : World} {α : Type} {x : Action World α} :
      Outside fuel root w → Program (runner fuel) x → Outside fuel root (x.run w).2
  | elsewhere {w : World} {other : SessionId} {f : Session → Session} :
      Outside fuel root w → other ≠ root → (∀ x, Session.ContextChange x (f x)) →
        Outside fuel root (w.updateSession other f)

theorem Outside.stack_eq {fuel : Nat} {root : SessionId} {w : World} (h : Outside fuel root w) :
    w.stack root = (Frame.empty, none) := by
  induction h with
  | start types => rfl
  | @program w α x _ hx ih =>
    rw [(Script.keeps_program StackKept.discipline hx w).stack root]
    exact ih
  | @elsewhere w other f _ hne _ ih =>
    unfold World.stack
    rw [session_updateSession_of_ne w f (Ne.symm hne)]
    exact ih

end World

theorem World.StackKept.keeps_enterDeferred (fuel : Nat) (root : SessionId) (work : Deferred) :
    (root.enterDeferred (runner fuel) work).Keeps World.StackKept :=
  (brackets root).nesting.keeps_enterDeferred
    (.of_calm guarantee.calm (.of_quiet guarantee (Script.keeps_exec discipline fuel)) root) work

/--
**Stack discipline.** Whatever a block does, and however the context ends in which it runs, the frame
and the mark of every root session are as they were just before: when the context is entered directly,
on the root or on a child, when a call with a block switches to the answer, and when deferred work is
run. Where no context of a root session is open, its frame is empty and its mark is unset.
-/
theorem stack_discipline (fuel : Nat) (root : SessionId) :
    (∀ (s : SessionId) (request : Request) (block : SessionId → Action World Unit) (w : World),
      (∀ r, Program (runner fuel) (block r)) →
        ((s.enter (runner fuel) request block).run w).2.stack root = w.stack root) ∧
    (∀ (s : SessionId) (selector : String) (answer : Value) (block : Task) (w : World),
      ((s.enterAnswer (runner fuel) selector answer block).run w).2.stack root = w.stack root) ∧
    (∀ (s : SessionId) (name : String) (args : List Value) (block : Option Task) (w : World),
      ((s.apply (runner fuel) name args block).run w).2.stack root = w.stack root ∧
        ((s.call (runner fuel) name args block).run w).2.stack root = w.stack root) ∧
    (∀ (r : SessionId) (work : Deferred) (w : World),
      ((r.enterDeferred (runner fuel) work).run w).2.stack root = w.stack root) ∧
    ∀ w, World.Outside fuel root w → w.stack root = (Frame.empty, none) := by
  have kept : ∀ {α : Type} {x : Action World α}, Program (runner fuel) x →
      ∀ w, (x.run w).2.stack root = w.stack root :=
    fun hx w => (Script.keeps_program World.StackKept.discipline hx w).stack root
  refine ⟨?_, ?_, ?_, ?_, fun w hw => hw.stack_eq⟩
  · intro s request block w hb
    exact kept (.enter s request hb) w
  · intro s selector answer block w
    exact kept (.enterAnswer s selector answer block) w
  · intro s name args block w
    exact ⟨kept (.apply s name args block) w, kept (.call s name args block) w⟩
  · intro r work w
    exact (World.StackKept.keeps_enterDeferred fuel r work w).stack root

/-! ## A build that unwinds from a nested context -/

/-- Makes a spacer and a root session. -/
def openWithSpacer : Action World SessionId := do
  let _ ← World.make "Spacer" "s"
  World.openRoot default

/-- Enters the spacer once more, and unwinds in there. -/
def unwindInside (r : SessionId) : Action World Unit := do
  let _ ← r.enter (runner 2) (.target ⟨0⟩) fun _ => .stop .unwound
  pure ()

theorem program_openWithSpacer : Program (runner 2) openWithSpacer :=
  .bind (.quiet (Action.calm_make _ _).quiet) fun _ => .quiet (Action.calm_openRoot _).quiet

theorem program_unwindInside (r : SessionId) : Program (runner 2) (unwindInside r) :=
  .bind (.enter r _ fun _ => .stop _) fun _ => .pure _

theorem stack_discipline_unwindInside :
    let root : SessionId := ⟨0⟩
    let w := (openWithSpacer.run (.empty .empty)).2
    let answer := (root.enter (runner 2) (.target ⟨0⟩) unwindInside).run w
    answer.1 = .error .unwound ∧ answer.2.stack root = w.stack root ∧
      w.stack root = (Frame.empty, none) := by
  refine ⟨rfl, ?_, ?_⟩
  · exact (stack_discipline 2 ⟨0⟩).1 _ _ _ _ program_unwindInside
  · exact (stack_discipline 2 ⟨0⟩).2.2.2.2 _ (.program (.start _) program_openWithSpacer)

end TargetBuilder
