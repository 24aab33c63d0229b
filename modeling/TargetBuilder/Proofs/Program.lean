import TargetBuilder.Proofs.Still

/-!
# Programs

A program is whatever a block can do: quiet things of any kind, entering contexts with blocks that are
programs themselves, deferring work, asking for providers, running their operations, all of it in any
order, with faults and unwinding caught or let through. Which step comes next may depend on everything
that the program has seen.

A *discipline* is a guarantee that deferring work keeps, and that entering a target keeps as long as
the block and the tasks that it may lead to keep it.

* `Program.keeps`: programs keep every discipline that the runner's tasks keep.
* `Script.keeps_exec`: the tasks of scripts keep every discipline, at any depth of nesting.
* `Script.program_runTask`: what a script does is a program.
-/

namespace TargetBuilder

open World (Quiet Calm Idle)

/-- The world after work was deferred on a root session. -/
def World.defer (w : World) (r : SessionId) (d : Deferred) : World :=
  (w.write (.event (.scheduled r d.target))).updateSession r
    fun s => { s with queue := s.queue ++ [d] }

/-- A computation that is made of the operations that a block can use. -/
inductive Program (R : Runner) : ∀ {α : Type}, Action World α → Prop
  | quiet {α : Type} {x : Action World α} : x.Keeps Quiet → Program R x
  | bind {α β : Type} {x : Action World α} {f : α → Action World β} :
      Program R x → (∀ a, Program R (f a)) → Program R (x >>= f)
  | capture {α : Type} {x : Action World α} : Program R x → Program R x.capture
  | attempt {α : Type} {x : Action World α} : Program R x → Program R x.attempt
  | ensuring {α : Type} {x : Action World α} {cleanUp : Except Stop α → World → World} :
      Program R x → (∀ r w, Quiet w (cleanUp r w)) → Program R (x.ensuring cleanUp)
  /-- Running a task, as operations of providers do. -/
  | exec (task : Task) (s : SessionId) : Program R (R.exec task s)
  | provide (registry : RegistryId) (root : SessionId) (t : TargetId) :
      Program R (Capability.provide R registry root t)
  | schedule (s : SessionId) (request : Option Request) (task : Option Task) :
      Program R (s.schedule request task)
  | enter (s : SessionId) (request : Request) {block : SessionId → Action World Unit} :
      (∀ root, Program R (block root)) → Program R (s.enter R request block)

/-- A guarantee that sessions keep if the tasks that they run keep it. -/
structure Discipline (G : World → World → Prop) : Prop extends Guarantee G where
  defer : ∀ w r d, G w (w.defer r d)
  enterTarget : ∀ (R : Runner) (root : SessionId) (t : TargetId)
    (block : SessionId → Action World Unit), (∀ task s, (R.exec task s).Keeps G) →
      (∀ r, (block r).Keeps G) → (root.enterTarget R t block).Keeps G

/-- What a runner leads to keeps a guarantee: the tasks that it runs, and asking for providers. -/
structure Runner.Keeps (G : World → World → Prop) (R : Runner) : Prop where
  exec : ∀ task s, (R.exec task s).Keeps G
  provide : ∀ root t, (SessionId.provide R root t).Keeps G

namespace Action.Keeps

variable {G Q : World → World → Prop} {R : Runner}

/-! ## What sessions do, for a runner whose tasks keep the guarantee -/

theorem holding (hG : Guarantee G Q) (moved : ∀ (w : World) running, G w { w with running })
    {α : Type} {x : Action World α} (s : SessionId) (hx : x.Keeps G) :
    Keeps G (World.holding s x) := by
  unfold World.holding
  refine .bind hG (.read hG) fun w => .bind hG (.modify fun w => moved w _) fun _ => ?_
  exact .ensuring hG hx fun _ w => moved w _

theorem perform (hG : Guarantee G Q) (hR : ∀ task s, (R.exec task s).Keeps G) (task : Task)
    (s : SessionId) : Keeps G (R.perform task s) :=
  .bind hG (hR task s) fun _ => .pure hG _

theorem inSpan (hG : Guarantee G Idle) {α : Type} (span : Span) {x : Action World α}
    (hx : x.Keeps G) : Keeps G (World.inSpan span x) := by
  refine .bind hG (.of_quiet hG fun w => Idle.write w (fun _ => rfl) rfl) fun _ => ?_
  exact .ensuring hG hx fun _ w => hG.quiet (Idle.write w (fun _ => rfl) rfl)

theorem runFactory (hG : Guarantee G Idle) (hadd : ∀ (w : World) p, G w (w.addProvider p).2)
    (hR : ∀ task s, (R.exec task s).Keeps G) (factory : ProviderFactory) (child : SessionId) :
    Keeps G (Capability.runFactory R factory child) := by
  refine .bind hG (.reads hG _) fun _ => ?_
  refine .bind hG (.of_quiet hG fun w => Idle.write w (fun _ => rfl) rfl) fun _ => ?_
  exact .bind hG (.attempt (perform hG hR _ child)) fun _ => .adding fun w => hadd w _

/-- Making a provider keeps what opening a session for it, adding it, recording it and binding it keep. -/
theorem make (hG : Guarantee G Idle) {root : SessionId} {t : TargetId}
    (hopen : (World.openChild root).Keeps G) (hadd : ∀ (w : World) p, G w (w.addProvider p).2)
    (hbind : ∀ key, (Capability.bind root t key).Keeps G)
    (hrecord : ∀ (w : World) r entry, G w (w.updateRegistry r (·.record entry)))
    (hR : ∀ task s, (R.exec task s).Keeps G) (registry : RegistryId) (type : String)
    (factory : ProviderFactory) : Keeps G (Capability.make R registry root t type factory) := by
  unfold Capability.make
  refine .bind hG hopen fun child => .bind hG (runFactory hG hadd hR factory child) fun p => ?_
  refine .bind hG (.read hG) fun w => ?_
  refine .bind hG (.modify fun w => hrecord w _ _) fun _ => .bind hG (hbind _) fun _ => ?_
  exact .bind hG (.of_quiet hG (idle_report fun _ _ h => by cases h)) fun _ => .pure hG _

/-- Asking for a provider keeps what making one keeps. -/
theorem provide_of_make (hG : Guarantee G Idle) {registry : RegistryId} {root : SessionId}
    {t : TargetId} (hbind : ∀ key, (Capability.bind root t key).Keeps G)
    (hmake : ∀ type factory, (Capability.make R registry root t type factory).Keeps G) :
    Keeps G (Capability.provide R registry root t) := by
  unfold Capability.provide
  refine .bind hG (.read hG) fun w => ?_
  dsimp only
  split
  · exact .pure hG _
  · split
    · exact .bind hG (hbind _) fun _ => .pure hG _
    · split
      · exact .bind hG (.of_quiet hG (idle_report fun _ _ h => by cases h)) fun _ => .pure hG _
      · exact .bind hG (hmake _ _) fun _ => .pure hG _

section Recording

variable (hG : Guarantee G Calm) (hbind : ∀ root t key, (Capability.bind root t key).Keeps G)
  (hrecord : ∀ (w : World) r entry, G w (w.updateRegistry r (·.record entry)))
  (hR : ∀ task s, (R.exec task s).Keeps G)

include hG hbind hrecord hR

theorem provide (registry : RegistryId) (root : SessionId) (t : TargetId) :
    Keeps G (Capability.provide R registry root t) :=
  provide_of_make hG.still.idle (hbind root t) (make hG.still.idle (.of_quiet hG (calm_openChild root))
    (fun _ _ => hG.quiet (Calm.of_stores_eq rfl rfl rfl rfl rfl)) (hbind root t) hrecord hR registry)

theorem sessionProvide_of_recording (root : SessionId) (t : TargetId) : Keeps G (root.provide R t) :=
  .bind hG (.reads hG _) fun _ => provide hG hbind hrecord hR _ root t

end Recording

theorem sessionProvide (hG : Guarantee G) (hR : ∀ task s, (R.exec task s).Keeps G)
    (root : SessionId) (t : TargetId) : Keeps G (root.provide R t) :=
  sessionProvide_of_recording hG.calm (fun _ _ _ w => hG.quiet (Quiet.updateTarget w _ _))
    (fun w _ _ => hG.quiet (Quiet.updateRegistry w _ _)) hR root t

/-- Putting work off keeps what finding its target and appending it to the queue keep. -/
theorem schedule (hG : Guarantee G Idle) {request : Option Request}
    (htarget : ∀ root : SessionId, (root.deferralTarget request).Keeps G)
    (hdefer : ∀ w r d, G w (World.defer w r d)) (s : SessionId) (task : Option Task) :
    Keeps G (s.schedule request task) := by
  cases task with
  | none => exact .fail hG _
  | some task =>
    refine .bind hG (.of_quiet hG (idle_root s)) fun root => .bind hG (htarget root) fun target => ?_
    exact fun w => hdefer w root ⟨target, task⟩

/-- Entering keeps what resolving the request, holding the root and entering the target keep. -/
theorem enter (hG : Guarantee G Idle) {request : Request}
    (hresolve : ∀ root : SessionId, (root.resolveRequest request).Keeps G)
    (hhold : ∀ (root : SessionId) {x : Action World TargetId}, x.Keeps G →
      (World.holding root x).Keeps G)
    (s : SessionId) {block : SessionId → Action World Unit}
    (henter : ∀ root t, (SessionId.enterTarget R root t block).Keeps G) :
    Keeps G (s.enter R request block) := by
  refine .bind hG (.of_quiet hG (idle_root s)) fun root => hhold root ?_
  refine .bind hG (hresolve root) fun t => ?_
  exact .bind hG (henter root t) fun _ => .pure hG _

end Action.Keeps

/-- What is guaranteed less strictly is kept, too. -/
theorem Runner.Keeps.mono {G H : World → World → Prop} {R : Runner} (hR : R.Keeps G)
    (h : ∀ {a b}, G a b → H a b) : R.Keeps H where
  exec task s w := h (hR.exec task s w)
  provide root t w := h (hR.provide root t w)

theorem Runner.Keeps.of_quiet {G : World → World → Prop} {R : Runner} (hG : Guarantee G)
    (hR : ∀ task s, (R.exec task s).Keeps G) : R.Keeps G where
  exec := hR
  provide := .sessionProvide hG hR

namespace Program

variable {R : Runner} {G : World → World → Prop} {α : Type} {x : Action World α}

/-- **A program keeps every discipline that the tasks it leads to keep.** -/
theorem keeps (hG : Discipline G) (hR : ∀ task s, (R.exec task s).Keeps G) (hx : Program R x) :
    x.Keeps G := by
  have hG' := hG.toGuarantee
  induction hx with
  | quiet h => exact .of_quiet hG' h
  | bind _ _ ihx ihf => exact .bind hG' ihx ihf
  | capture _ ih => exact .capture ih
  | attempt _ ih => exact .attempt ih
  | ensuring _ hc ih => exact .ensuring hG' ih fun r w => hG'.quiet (hc r w)
  | exec task s => exact hR task s
  | provide registry root t =>
    exact .provide hG'.calm (fun _ _ _ w => hG'.quiet (Quiet.updateTarget w _ _))
      (fun w _ _ => hG'.quiet (Quiet.updateRegistry w _ _)) hR registry root t
  | schedule s request task =>
    exact .schedule hG'.calm.still.idle
      (fun root => .of_quiet hG'.calm (Action.calm_deferralTarget root request)) hG.defer s task
  | enter s request _ ih =>
    have held : ∀ (root : SessionId) {x : Action World TargetId}, x.Keeps G →
        (World.holding root x).Keeps G :=
      fun root _ hx =>
        .holding hG' (fun _ _ => hG'.quiet (Quiet.of_sessions_eq rfl fun _ => rfl)) root hx
    exact .enter hG'.calm.still.idle
      (fun root => .of_quiet hG'.calm (Action.calm_resolveRequest root request)) held s
      fun root t => hG.enterTarget R root t _ hR ih

/-! ## Steps of programs -/

theorem pure (a : α) : Program R (Pure.pure a : Action World α) := .quiet (.pure Quiet.guarantee a)

theorem stop (e : Stop) : Program R (Action.stop e : Action World α) :=
  .quiet (.stop Quiet.guarantee e)

theorem holding (s : SessionId) (hx : Program R x) : Program R (World.holding s x) := by
  have moved : ∀ (w : World) (running : List SessionId), Quiet w { w with running } :=
    fun w running => Quiet.of_sessions_eq rfl fun _ => rfl
  unfold World.holding
  exact .bind (.quiet (.read Quiet.guarantee)) fun w => .bind (.quiet fun w => moved w _) fun _ =>
    .ensuring hx fun _ w => moved w _

end Program

end TargetBuilder
