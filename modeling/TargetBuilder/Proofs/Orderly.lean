import TargetBuilder.Proofs.Bracket

/-!
# Orderly code

Programs may do anything that is quiet, and so may reach into targets and registries. *Orderly* code
uses them through the operations of sessions only: it marks names by guarded calls, and it has providers
made by asking for them.

A *regime* is a guarantee about what is kept on targets and in registries, or about what is running. It
need not hold of every quiet change, but the operations of sessions keep it.

* `Orderly.keeps`: orderly code keeps every regime that the runner's tasks keep.
* `Orderly.program`: orderly code is a program.
-/

namespace TargetBuilder

open World (Quiet Calm Idle)

namespace World

/-- Runs `x` with a name marked as in flight on a target, or `y` if the name is so already. -/
def marking {α : Type} (t : TargetId) (name : String) (x y : Action World α) : Action World α := do
  if ← launch t name then x.ensuring fun _ w => w.land t name else y

/-- A name that is not in flight is marked, and whatever `x` does, the mark is taken off after it. -/
theorem run_marking_fresh {α : Type} {t : TargetId} {name : String} {w : World} {m : Metadata}
    (h : (w.target t).metadata.launch? name = some m) (x y : Action World α) :
    (marking t name x y).run w =
      match x.run (w.updateMetadata t fun _ => m) with
      | (r, w') => (r, w'.land t name) := by
  unfold marking launch
  simp only [Action.run_bind, Action.run_read, h, Action.run_modify, Action.run_pure]
  rfl

/-- Where a name is in flight already, it stays so. -/
theorem run_marking_again {α : Type} {t : TargetId} {name : String} {w : World}
    (h : (w.target t).metadata.launch? name = none) (x y : Action World α) :
    (marking t name x y).run w = y.run (w.write (.event (.alreadyInFlight name))) := by
  unfold marking launch
  simp only [Action.run_bind, Action.run_read, h]
  rfl

end World

theorem SessionId.guardedApply_eq (R : Runner) (s : SessionId) (name : String) (args : List Value)
    (block : Option Task) :
    s.guardedApply R name args block = (do
      let t ← s.receiver name
      World.marking t name (s.apply R name args block) do
        World.report (.bypassing name)
        s.resolveDirect R (fun translated => s.apply R translated args block) t name args block) :=
  rfl

theorem Script.hold_eq (t : TargetId) (name : String) (block : Action World Value) :
    Script.hold t name block =
      World.marking t name (World.emit (.held true) >>= fun _ => block)
        (World.emit (.held false) >>= fun _ => block) :=
  rfl

/-- Finding the target that a call is meant for may make the root target, and is calm. -/
theorem Action.calm_receiver (s : SessionId) (name : String) : Keeps Calm (s.receiver name) := by
  have hG := Calm.guarantee
  unfold SessionId.receiver
  refine .bind hG (.read hG) fun w => ?_
  split
  · exact .fail hG _
  · refine .bind hG (calm_enclosing _) fun t => ?_
    split
    · exact .pure hG _
    · exact .fail hG _

/-- A computation that uses sessions, targets and registries through their operations only. -/
inductive Orderly (R : Runner) : ∀ {α : Type}, Action World α → Prop
  | calm {α : Type} {x : Action World α} : x.Keeps Calm → Orderly R x
  | bind {α β : Type} {x : Action World α} {f : α → Action World β} :
      Orderly R x → (∀ a, Orderly R (f a)) → Orderly R (x >>= f)
  | capture {α : Type} {x : Action World α} : Orderly R x → Orderly R x.capture
  | attempt {α : Type} {x : Action World α} : Orderly R x → Orderly R x.attempt
  | holding {α : Type} {x : Action World α} (s : SessionId) :
      Orderly R x → Orderly R (World.holding s x)
  /-- Running a task, as operations of providers do. -/
  | exec (task : Task) (s : SessionId) : Orderly R (R.exec task s)
  | provide (root : SessionId) (t : TargetId) : Orderly R (root.provide R t)
  | schedule (s : SessionId) (request : Option Request) (task : Option Task) :
      Orderly R (s.schedule request task)
  | enter (s : SessionId) (request : Request) {block : SessionId → Action World Unit} :
      (∀ root, Orderly R (block root)) → Orderly R (s.enter R request block)
  /-- A guarded call, or whatever else marks a name. -/
  | marking {α : Type} {x y : Action World α} (t : TargetId) (name : String) :
      Orderly R x → Orderly R y → Orderly R (World.marking t name x y)

/-- What does not care about marks is kept by marking a name if it is kept by what runs. -/
theorem Action.Keeps.marking {G : World → World → Prop} (hG : Guarantee G Idle)
    (hlaunch : ∀ (w : World) t name m, (w.target t).metadata.launch? name = some m →
      G w (w.updateMetadata t fun _ => m))
    (hland : ∀ (w : World) t name, G w (w.land t name)) {α : Type} (t : TargetId) (name : String)
    {x y : Action World α} (hx : x.Keeps G) (hy : y.Keeps G) :
    (World.marking t name x y).Keeps G := by
  intro w
  cases hm : (w.target t).metadata.launch? name with
  | some m =>
    rw [World.run_marking_fresh hm]
    exact hG.trans (hlaunch w t name m hm) (hG.trans (hx _) (hland _ t name))
  | none =>
    rw [World.run_marking_again hm]
    exact hG.trans (hG.quiet (Idle.event w fun _ _ h => by cases h)) (hy _)

/-- A guarantee that the operations of sessions keep, although not every quiet change does. -/
structure Regime (G : World → World → Prop) : Prop extends Guarantee G Calm where
  holding : ∀ {α : Type} (s : SessionId) {x : Action World α}, x.Keeps G →
    (World.holding s x).Keeps G
  defer : ∀ w r d, G w (w.defer r d)
  context : ∀ w r f, (∀ x, Session.ContextChange x (f x)) → G w (w.updateSession r f)
  provide : ∀ (R : Runner) (root : SessionId) (t : TargetId),
    (∀ task s, (R.exec task s).Keeps G) → (root.provide R t).Keeps G
  marking : ∀ {α : Type} (t : TargetId) (name : String) {x y : Action World α}, x.Keeps G →
    y.Keeps G → (World.marking t name x y).Keeps G

namespace Regime

variable {G : World → World → Prop} {R : Runner}

theorem keeps_runner (hG : Regime G) (hR : ∀ task s, (R.exec task s).Keeps G) : R.Keeps G where
  exec := hR
  provide root t := hG.provide R root t hR

theorem brackets (hG : Regime G) (root : SessionId) : Brackets G root :=
  .of_tolerates hG.toGuarantee fun w f hf => hG.context w root f hf

end Regime

namespace Orderly

variable {R : Runner} {G : World → World → Prop} {α : Type} {x : Action World α}

/-- **Orderly code keeps every regime that the tasks it leads to keep.** -/
theorem keeps (hG : Regime G) (hR : ∀ task s, (R.exec task s).Keeps G) (hx : Orderly R x) :
    x.Keeps G := by
  have hG' := hG.toGuarantee
  induction hx with
  | calm h => exact .of_quiet hG' h
  | bind _ _ ihx ihf => exact .bind hG' ihx ihf
  | capture _ ih => exact .capture ih
  | attempt _ ih => exact .attempt ih
  | holding s _ ih => exact hG.holding s ih
  | exec task s => exact hR task s
  | provide root t => exact hG.provide R root t hR
  | schedule s request task =>
    exact .schedule hG'.still.idle (fun root => .of_quiet hG' (Action.calm_deferralTarget root request))
      hG.defer s task
  | enter s request _ ih =>
    exact .enter hG'.still.idle (fun root => .of_quiet hG' (Action.calm_resolveRequest root request))
      (fun root _ hx => hG.holding root hx) s fun root t =>
      (hG.brackets root).keeps_enterTarget (.of_calm hG' (hG.keeps_runner hR) root) t (ih root)
  | marking t name _ _ ihx ihy => exact hG.marking t name ihx ihy

/-- Orderly code is a program. -/
theorem program (hx : Orderly R x) : Program R x := by
  have hG := Quiet.guarantee
  induction hx with
  | calm h => exact .quiet h.quiet
  | bind _ _ ihx ihf => exact .bind ihx ihf
  | capture _ ih => exact .capture ih
  | attempt _ ih => exact .attempt ih
  | holding s _ ih => exact .holding s ih
  | exec task s => exact .exec task s
  | provide root t => exact .bind (.quiet (.reads hG _)) fun _ => .provide _ root t
  | schedule s request task => exact .schedule s request task
  | enter s request _ ih => exact .enter s request ih
  | marking t name _ _ ihx ihy =>
    refine .bind (.quiet ?_) fun fresh => ?_
    · unfold World.launch
      refine .bind hG (.read hG) fun w => ?_
      split
      · exact .bind hG (.modify fun w => Quiet.updateTarget w t _) fun _ => .pure hG _
      · exact .bind hG (Action.calm_report fun _ _ h => by cases h).quiet fun _ => .pure hG _
    · split
      · exact .ensuring ihx fun _ w => Quiet.land w t name
      · exact ihy

/-! ## Steps of orderly code -/

theorem pure (a : α) : Orderly R (Pure.pure a : Action World α) := .calm (.pure Calm.guarantee a)

theorem stop (e : Stop) : Orderly R (Action.stop e : Action World α) :=
  .calm (.stop Calm.guarantee e)

theorem fail (f : Fault) : Orderly R (Action.fail f : Action World α) := stop (.fault f)

theorem read : Orderly R Action.read := .calm (.read Calm.guarantee)

theorem reads (f : World → α) : Orderly R (Action.reads f) := .calm (.reads Calm.guarantee f)

theorem modify {f : World → World} (h : ∀ w, Calm w (f w)) : Orderly R (Action.modify f) :=
  .calm h

theorem adding {f : World → α × World} (h : ∀ w, Calm w (f w).2) : Orderly R (Action.adding f) :=
  .calm h

/-- Writes a line that does not say that work was deferred. -/
theorem emit {e : Entry} (h : ∀ r, e.deferral? r = none) : Orderly R (World.emit e) :=
  .calm fun w => Calm.write w h

theorem report {e : Event} (h : ∀ s t, e ≠ .scheduled s t) : Orderly R (World.report e) :=
  .calm (Action.calm_report h)

/-! ## Operations of providers -/

theorem invoke (p : ProviderId) (name : String) (args : List Value) (block : Option Task) :
    Orderly R (Capability.invoke R p name args block) := by
  unfold Capability.invoke
  refine .bind read fun w => ?_
  dsimp only
  split
  · exact fail _
  · refine .bind (report fun _ _ h => by cases h) fun _ => .bind (emit fun _ => rfl) fun _ => ?_
    refine .bind (adding fun w => ?_) fun _ => .exec _ _
    exact Calm.of_stores_eq rfl rfl rfl rfl rfl

end Orderly

end TargetBuilder
