import TargetBuilder.Proofs.Build
import TargetBuilder.Proofs.Moment

/-!
# Stages of life

A root session becomes active when a build of it has succeeded, block and drain, and stays so. The stage
is written at one place only, which is the very end of a build, so whoever asks for it while a context
is open learns how far the session had come when the build began.

* `World.Steady.discipline`: while a context is open, no program changes the stage.
* `World.Told.discipline`: whatever programs do, it can be told by the builds of a root session.
* `World.Lived.lifecycle_eq`: the stage follows from how the builds ended.
* `lifecycle_of_builds`: which stage a session is at, at every moment of its life.
-/

namespace TargetBuilder

open World (Quiet Later Grown MarkKept Reaches Begins)
open Script (runner)

/-- The stage after a build that ended in some way. -/
def Lifecycle.afterBuild (before : Lifecycle) : Except Stop Unit → Lifecycle
  | .ok () => .active
  | .error _ => before

theorem Lifecycle.foldl_afterBuild_eq_active (before : Lifecycle) (results : List (Except Stop Unit)) :
    results.foldl afterBuild before = .active ↔ before = .active ∨ .ok () ∈ results := by
  induction results generalizing before with
  | nil => simp
  | cons r rest ih =>
    rw [List.foldl_cons, ih]
    cases r with
    | ok u => simp [afterBuild]
    | error e => simp [afterBuild]

namespace World

/-! ## The stage while a context is open -/

/-- The mark of a root session is as it was, and if it says that a context is open, so is the stage. -/
structure Steady (root : SessionId) (a b : World) : Prop extends MarkKept root a b where
  lifecycle : (a.session root).topLevel.isSome →
    (b.session root).lifecycle = (a.session root).lifecycle

namespace Steady

variable {root : SessionId} {R : Runner} {a b c : World}

theorem trans (h : Steady root a b) (k : Steady root b c) : Steady root a c where
  toMarkKept := (MarkKept.guarantee root).trans h.toMarkKept k.toMarkKept
  lifecycle hopen := (k.lifecycle (by rw [h.topLevel]; exact hopen)).trans (h.lifecycle hopen)

theorem guarantee (root : SessionId) : Guarantee (Steady root) where
  refl w := ⟨(MarkKept.guarantee root).refl w, fun _ => rfl⟩
  trans := trans
  quiet h := ⟨(MarkKept.guarantee root).quiet h, fun _ => h.lifecycle root⟩

theorem defer (w : World) (r : SessionId) (d : Deferred) : Steady root w (w.defer r d) where
  toMarkKept := (Grown.defer w r d).markKept
  lifecycle _ := session_updateSession_same _ r root Session.lifecycle fun _ => rfl

theorem of_update (w : World) {f : Session → Session} (hf : ∀ x, Session.ContextChange x (f x))
    (ht : ∀ x, (f x).topLevel = x.topLevel) (hl : ∀ x, (f x).lifecycle = x.lifecycle) :
    Steady root w (w.updateSession root f) where
  toMarkKept := .of_update w hf ht
  lifecycle _ := session_updateSession_same w root root Session.lifecycle hl

theorem of_update_other (w : World) {r : SessionId} (hr : root ≠ r) {f : Session → Session}
    (hf : ∀ x, Session.ContextChange x (f x)) : Steady root w (w.updateSession r f) where
  toMarkKept := (Grown.of_update_other w hr hf).markKept
  lifecycle _ := congrArg Session.lifecycle (session_updateSession_of_ne w f hr)

theorem taken (w : World) : Steady root w (w.updateSession root ({ · with queue := [] })) :=
  of_update w .taken (fun _ => rfl) fun _ => rfl

theorem withFrame {α : Type} (frame : Frame) {x : Action World α} (hx : x.Keeps (Steady root)) :
    (root.withFrame frame x).Keeps (Steady root) := by
  have kept := (MarkKept.brackets root).withFrame frame fun w => (hx w).toMarkKept
  refine fun w => ⟨kept w, fun hopen => ?_⟩
  have framed : Steady root w (w.updateSession root ({ · with frame })) :=
    of_update w (fun x => .frame x frame) (fun _ => rfl) fun _ => rfl
  rw [SessionId.run_withFrame]
  refine Eq.trans ?_ ((framed.trans (hx _)).lifecycle hopen)
  exact session_updateSession_same _ root root Session.lifecycle fun _ => rfl

theorem inContext {α : Type} {x : Bool → Action World α} (hx : ∀ b, (x b).Keeps (Steady root)) :
    (root.inContext x).Keeps (Steady root) := by
  have kept := (MarkKept.brackets root).inContext fun b w => (hx b w).toMarkKept
  refine fun w => ⟨kept w, fun hopen => ?_⟩
  rw [SessionId.run_inContext]
  generalize (w.session root).topLevel.isNone = outermost
  -- inside, a context is open all the more
  have inside := (hx outermost (w.updateSession root ({ · with topLevel := some outermost }))).lifecycle
  rw [session_updateSession_self w _ (lt_size_of_open hopen)] at inside
  refine Eq.trans ?_ (inside rfl)
  exact session_updateSession_same _ root root Session.lifecycle fun _ => rfl

theorem nesting (root : SessionId) : Nesting (Steady root) root := ⟨withFrame, inContext⟩

/-- **While a context is open, no program changes the stage.** -/
theorem discipline (root : SessionId) : Discipline (Steady root) := by
  refine .of_root (guarantee root) defer (nesting root) ?_ fun w _ _ hr hf => of_update_other w hr hf
  intro R t provider block hR hblock w hout
  refine ⟨MarkKept.of_build toMarkKept hR t provider hblock w, fun hopen => ?_⟩
  rw [hout] at hopen
  cases hopen

end Steady

/-! ## The stage after a build -/

section Build

variable {root : SessionId} {R : Runner} {w : World}

/-- What follows the block of a build writes the stage if it succeeds, and then only. -/
theorem lifecycle_complete (hR : R.Keeps (Steady root)) (t : TargetId) (result : Except Stop Unit)
    (hopen : (w.session root).topLevel.isSome) :
    (((root.complete R t result).run w).2.session root).lifecycle =
      (w.session root).lifecycle.afterBuild ((root.complete R t result).run w).1 := by
  have hG := (Steady.guarantee root).calm
  unfold SessionId.complete
  split
  · have drained := Nesting.keeps_drain Steady.taken (.of_calm hG hR root) (Steady.nesting root) t w
    rw [Action.run_bind]
    cases hr : (root.drain R t).run w with
    | mk r w' =>
    rw [hr] at drained
    cases r with
    | error e => exact drained.lifecycle hopen
    | ok u =>
      have still : (w'.session root).topLevel.isSome := by
        rw [drained.topLevel]
        exact hopen
      show ((w'.updateSession root ({ · with lifecycle := .active })).session root).lifecycle = _
      rw [session_updateSession_self w' _ (lt_size_of_open still)]
      rfl
  · next f =>
    have dropped : ((w.updateSession root ({ · with queue := [] })).session root).lifecycle = _ :=
      (Steady.taken w).lifecycle hopen
    show (((if (w.queue root).length > 0 then _ else _ : Action World Unit).run
        (w.updateSession root ({ · with queue := [] }))).2.session root).lifecycle =
      (w.session root).lifecycle.afterBuild ((if (w.queue root).length > 0 then _ else _ :
        Action World Unit).run (w.updateSession root ({ · with queue := [] }))).1
    split
    · exact dropped
    · exact dropped
  · rfl

theorem lifecycle_build (hR : R.Keeps (Steady root)) (t : TargetId) (provider : Option ProviderId)
    {block : SessionId → Action World Unit} (hblock : ∀ r, (block r).Keeps (Steady root))
    (hopen : (w.session root).topLevel.isSome) :
    (((root.build R t provider block).run w).2.session root).lifecycle =
      (w.session root).lifecycle.afterBuild ((root.build R t provider block).run w).1 := by
  have visited := (Steady.nesting root).keeps_visit (Steady.guarantee root).calm.still.idle
    (.of_quiet (Steady.guarantee root) (Action.quiet_enclosing root)) true t provider (hblock root)
    (w.write (.opened .build))
  unfold SessionId.build
  rw [run_inSpan, Action.run_bind, Action.run_capture]
  cases hv : (root.visit true t provider block).run (w.write (.opened .build)) with
  | mk result v =>
  rw [hv] at visited
  have still : (v.session root).topLevel.isSome := by
    rw [visited.topLevel]
    exact hopen
  have completed := lifecycle_complete hR t result still
  rw [visited.lifecycle hopen] at completed
  exact completed

/-- **A build that succeeds makes the session active**, and any other leaves its stage alone. -/
theorem lifecycle_outermost (hR : R.Keeps (Steady root)) (t : TargetId)
    (provider : Option ProviderId) {block : SessionId → Action World Unit}
    (hblock : ∀ r, (block r).Keeps (Steady root)) (there : root.index < w.sessions.size) :
    (((root.inContext fun _ => root.build R t provider block).run w).2.session root).lifecycle =
      (w.session root).lifecycle.afterBuild
        ((root.inContext fun _ => root.build R t provider block).run w).1 := by
  rw [SessionId.run_inContext]
  generalize (w.session root).topLevel = before
  let marked := w.updateSession root ({ · with topLevel := some before.isNone })
  have current : marked.session root = { w.session root with topLevel := some before.isNone } :=
    session_updateSession_self w _ there
  have built := lifecycle_build hR t provider hblock (w := marked) (by rw [current]; rfl)
  rw [current] at built
  refine Eq.trans ?_ built
  exact session_updateSession_same _ root root Session.lifecycle fun _ => rfl

end Build

/-! ## A life as the builds in it -/

/--
What happened to a root session between two worlds, with the results of the builds that have ended:
quiet changes, work that was deferred, contexts of any session that were opened or left without building
this one, and whole builds of it, each from outside any context.
-/
inductive Lived (root : SessionId) (a : World) : List (Except Stop Unit) → World → Prop
  | refl : Lived root a [] a
  | quiet {rs : List (Except Stop Unit)} {b c : World} :
      Lived root a rs b → Quiet b c → Lived root a rs c
  | defer {rs : List (Except Stop Unit)} {b : World} (r : SessionId) (d : Deferred) :
      Lived root a rs b → Lived root a rs (b.defer r d)
  | context {rs : List (Except Stop Unit)} {b : World} (r : SessionId) {f : Session → Session} :
      Lived root a rs b → (∀ x, Session.ContextChange x (f x)) →
      (root = r → ∀ x, (f x).lifecycle = x.lifecycle) → Lived root a rs (b.updateSession r f)
  | built {rs : List (Except Stop Unit)} {b c : World} {R : Runner} {t : TargetId}
      {provider : Option ProviderId} {block : SessionId → Action World Unit}
      {result : Except Stop Unit} :
      Lived root a rs b → (b.session root).topLevel = none → R.Keeps (Steady root) →
      (∀ r, (block r).Keeps (Steady root)) →
      (root.inContext fun _ => root.build R t provider block).run b = (result, c) →
      Lived root a (rs ++ [result]) c

namespace Lived

variable {root : SessionId} {a b c : World} {rs qs : List (Except Stop Unit)}

theorem trans (h : Lived root a rs b) (k : Lived root b qs c) : Lived root a (rs ++ qs) c := by
  induction k with
  | refl =>
    rw [List.append_nil]
    exact h
  | quiet _ hq ih => exact ih.quiet hq
  | defer r d _ ih => exact ih.defer r d
  | context r _ hf hl ih => exact ih.context r hf hl
  | built _ hout hR hblock hrun ih =>
    rw [← List.append_assoc]
    exact ih.built hout hR hblock hrun

/-- **The stage follows from how the builds ended.** -/
theorem lifecycle_eq (h : Lived root a rs b) (there : root.index < a.sessions.size) :
    root.index < b.sessions.size ∧
      (b.session root).lifecycle = rs.foldl Lifecycle.afterBuild (a.session root).lifecycle := by
  induction h with
  | refl => exact ⟨there, rfl⟩
  | quiet _ hq ih => exact ⟨Nat.lt_of_lt_of_le ih.1 hq.size_le, (hq.lifecycle root).trans ih.2⟩
  | defer r d _ ih =>
    refine ⟨?_, Eq.trans ?_ ih.2⟩
    · exact Nat.lt_of_lt_of_le ih.1 (Later.refl.defer r d).size_le
    · exact session_updateSession_same _ r root Session.lifecycle fun _ => rfl
  | @context rs b r f _ hf hl ih =>
    refine ⟨by rw [size_updateSession]; exact ih.1, Eq.trans ?_ ih.2⟩
    by_cases hr : root = r
    · subst hr
      exact session_updateSession_same b root root Session.lifecycle (hl rfl)
    · exact congrArg Session.lifecycle (session_updateSession_of_ne b f hr)
  | @built rs b c R t provider block result _ hout hR hblock hrun ih =>
    have stage := lifecycle_outermost hR t provider hblock ih.1
    have kept := MarkKept.of_build Steady.toMarkKept hR t provider hblock b
    rw [hrun] at stage kept
    obtain ⟨ds, hlater⟩ := kept.later
    refine ⟨Nat.lt_of_lt_of_le ih.1 hlater.size_le, ?_⟩
    rw [List.foldl_append, ← ih.2]
    exact stage

end Lived

/-- What programs do: the mark is kept, and the stage while a context is open, and it can be told. -/
structure Told (root : SessionId) (a b : World) : Prop extends Steady root a b where
  lived : root.index < a.sessions.size → ∃ rs, Lived root a rs b

namespace Told

variable {root : SessionId} {a b c : World}

theorem size_le (h : Told root a b) : a.sessions.size ≤ b.sessions.size := by
  obtain ⟨ds, hlater⟩ := h.later
  exact hlater.size_le

theorem guarantee (root : SessionId) : Guarantee (Told root) where
  refl w := ⟨(Steady.guarantee root).refl w, fun _ => ⟨[], .refl⟩⟩
  trans h k := by
    refine ⟨h.toSteady.trans k.toSteady, fun there => ?_⟩
    obtain ⟨rs, hr⟩ := h.lived there
    obtain ⟨qs, hq⟩ := k.lived (Nat.lt_of_lt_of_le there h.size_le)
    exact ⟨rs ++ qs, hr.trans hq⟩
  quiet h := ⟨(Steady.guarantee root).quiet h, fun _ => ⟨[], .quiet .refl h⟩⟩

theorem defer (w : World) (r : SessionId) (d : Deferred) : Told root w (w.defer r d) :=
  ⟨.defer w r d, fun _ => ⟨[], .defer r d .refl⟩⟩

theorem of_update_other (w : World) {r : SessionId} (hr : root ≠ r) {f : Session → Session}
    (hf : ∀ x, Session.ContextChange x (f x)) : Told root w (w.updateSession r f) :=
  ⟨.of_update_other w hr hf, fun _ => ⟨[], .context r .refl hf fun h => absurd h hr⟩⟩

theorem taken (w : World) (r : SessionId) :
    Told root w (w.updateSession r ({ · with queue := [] })) := by
  by_cases hr : root = r
  · subst hr
    exact ⟨.taken w, fun _ => ⟨[], .context root .refl .taken fun _ _ => rfl⟩⟩
  · exact of_update_other w hr .taken

/-- What is told between a change of the context and the change back. -/
theorem lived_between {w w' : World} {f g : Session → Session}
    (inside : Told root (w.updateSession root f) w') (there : root.index < w.sessions.size)
    (hf : ∀ x, Session.ContextChange x (f x)) (hlf : ∀ x, (f x).lifecycle = x.lifecycle)
    (hg : ∀ x, Session.ContextChange x (g x)) (hlg : ∀ x, (g x).lifecycle = x.lifecycle) :
    ∃ rs, Lived root w rs (w'.updateSession root g) := by
  obtain ⟨rs, hr⟩ := inside.lived (by rw [size_updateSession]; exact there)
  have changed : Lived root w [] (w.updateSession root f) := .context root .refl hf fun _ => hlf
  exact ⟨_, .context root (changed.trans hr) hg fun _ => hlg⟩

theorem nesting (root r : SessionId) : Nesting (Told root) r := by
  by_cases hr : root = r
  · subst hr
    refine ⟨fun {α} frame {x} hx w => ?_, fun {α} {x} hx w => ?_⟩
    · have steady := Steady.withFrame frame (fun w => (hx w).toSteady) w
      refine ⟨steady, fun there => ?_⟩
      exact (hx _).lived_between there (fun x => .frame x frame) (fun _ => rfl)
        (fun x => .frame x _) fun _ => rfl
    · have steady := Steady.inContext (fun b w => (hx b w).toSteady) w
      refine ⟨steady, fun there => ?_⟩
      exact (hx _ _).lived_between there (fun x => .mark x _) (fun _ => rfl)
        (fun x => .leave x _ _) fun _ => rfl
  · exact (Brackets.of_tolerates (guarantee root) fun w f hf => of_update_other w hr hf).nesting

/-- **Whatever programs do, it can be told by the builds of a root session.** -/
theorem discipline (root : SessionId) : Discipline (Told root) := by
  refine .of_root (guarantee root) defer (nesting root root) ?_ fun w _ _ hr hf =>
    of_update_other w hr hf
  intro R t provider block hR hblock w hout
  have kept := MarkKept.of_build (fun h => h.toMarkKept) hR t provider hblock w
  refine ⟨⟨kept, fun hopen => ?_⟩, fun _ => ⟨_, .built .refl hout (hR.mono toSteady)
    (fun r w => (hblock r w).toSteady) rfl⟩⟩
  rw [hout] at hopen
  cases hopen

end Told

/-! ## A life as it is reached -/

/-- A later world of a root session: a context that was open is open still, at the same stage. -/
structure Aged (root : SessionId) (a b : World) : Prop where
  size_le : a.sessions.size ≤ b.sessions.size
  inside : (a.session root).topLevel.isSome → (b.session root).topLevel.isSome ∧
    (b.session root).lifecycle = (a.session root).lifecycle
  lived : root.index < a.sessions.size → ∃ rs, Lived root a rs b

namespace Aged

variable {root : SessionId} {a b c : World}

theorem refl (w : World) : Aged root w w := ⟨Nat.le_refl _, fun h => ⟨h, rfl⟩, fun _ => ⟨[], .refl⟩⟩

theorem trans (h : Aged root a b) (k : Aged root b c) : Aged root a c where
  size_le := Nat.le_trans h.size_le k.size_le
  inside hopen := by
    obtain ⟨still, same⟩ := h.inside hopen
    exact ⟨(k.inside still).1, (k.inside still).2.trans same⟩
  lived there := by
    obtain ⟨rs, hr⟩ := h.lived there
    obtain ⟨qs, hq⟩ := k.lived (Nat.lt_of_lt_of_le there h.size_le)
    exact ⟨rs ++ qs, hr.trans hq⟩

theorem of_told (h : Told root a b) : Aged root a b where
  size_le := h.size_le
  inside hopen := ⟨by rw [h.topLevel]; exact hopen, h.lifecycle hopen⟩
  lived := h.lived

theorem of_begins (h : Begins a b) : Aged root a b := by
  cases h with
  | holding s => exact of_told ((Told.guarantee root).quiet (Quiet.of_sessions_eq rfl fun _ => rfl))
  | launched _ => exact of_told ((Told.guarantee root).quiet (Quiet.updateTarget a _ _))
  | frame r frame =>
    by_cases hr : root = r
    · subst hr
      refine ⟨Nat.le_of_eq (size_updateSession a root _).symm, fun hopen => ?_, fun _ =>
        ⟨[], .context root .refl (fun x => .frame x frame) fun _ _ => rfl⟩⟩
      refine ⟨by rw [topLevel_reframed]; exact hopen, ?_⟩
      exact session_updateSession_same a root root Session.lifecycle fun _ => rfl
    · exact of_told (.of_update_other a hr fun x => .frame x frame)
  | mark r =>
    by_cases hr : root = r
    · subst hr
      refine ⟨Nat.le_of_eq (size_updateSession a root _).symm, fun hopen => ?_, fun _ =>
        ⟨[], .context root .refl (fun x => .mark x _) fun _ _ => rfl⟩⟩
      rw [session_updateSession_self a _ (lt_size_of_open hopen)]
      exact ⟨rfl, rfl⟩
    · exact of_told (.of_update_other a hr fun x => .mark x _)

theorem of_reaches (root : SessionId) (h : Reaches a b) : Aged root a b := by
  refine h.keeps refl trans (fun hx w => ?_) of_begins
  exact of_told ((Told.discipline root).keeps_piece (Told.nesting root) Told.taken hx w)

end Aged

end World

open World (Steady Lived Aged)

/-! ## Asking for the stage -/

namespace Script

/-- Taking a block changes nothing but which blocks are kept. -/
theorem takeBlock_eq (env : Env) (block : Block) (w : World) :
    ∃ task blocks, (takeBlock env block).run w = (.ok task, { w with blocks }) := by
  cases block with
  | absent => exact ⟨_, w.blocks, rfl⟩
  | given body => exact ⟨_, w.blocks, rfl⟩
  | received =>
    unfold takeBlock takeReceived
    cases env.block with
    | none => exact ⟨_, w.blocks, rfl⟩
    | some b => exact ⟨_, _, rfl⟩

/-- A block that waits for a stage runs like any other at this stage, and is dropped at the other. -/
theorem run_gate (R : Runner) (env : Env) {s root : SessionId} {w : World}
    (hroot : w.rootOf? s = some root) (stage : Lifecycle) (block : Block) :
    (gate R env s stage block).run w =
      if (w.session root).lifecycle = stage then (perform R env s (.always block)).run w
      else (takeBlock env block >>= fun _ => pure .nil).run w := by
  obtain ⟨task, blocks, htake⟩ := takeBlock_eq env block w
  have stage_eq : s.lifecycle.run { w with blocks } =
      (.ok (w.session root).lifecycle, { w with blocks }) := by
    unfold SessionId.lifecycle SessionId.rootState
    simp only [Action.run_bind, Action.run_read, Action.run_pure]
    have same : World.rootOf? { w with blocks } s = some root := hroot
    rw [same]
    rfl
  unfold gate perform
  simp only [Action.run_bind, htake, stage_eq]
  split
  · rfl
  · rfl

end Script

/-! ## Inside a build -/

/-- What is reached goes on to be reached while deferred work runs. -/
theorem World.Reaches.persists (a : World) (fuel : Nat) (root : SessionId) :
    SessionId.Persists (runner fuel) root (Reaches a) where
  write he h := h.write he
  taken h := h.ran (.takeQueue (R := runner 0) root)
  deferred work h := h.ran (.runDeferred root work)

namespace SessionId.Opens

variable {fuel : Nat} {s root : SessionId} {request : Request} {w w₀ w₁ : World} {t : TargetId}
  {block : SessionId → Action World Unit}

/-- The block of a build is reached from where the build was asked for. -/
theorem reaches (h : s.Opens (runner fuel) request w root t w₀) : Reaches w w₀ := by
  obtain @⟨resolved, provided, asked, provider, parent, hroot, there, hres, hprov, hout, hask⟩ := h
  have held : Reaches w { w with running := root :: w.running } := .begins .refl (.holding w root)
  have ready : Reaches w provided :=
    (held.runs (n := 0) (.calm (Action.calm_resolveRequest root request)) hres).runs
      (.provide root t) hprov
  have opened := ready.begins (.mark provided root)
  rw [hout] at opened
  have begun := (opened.write (e := .opened .build) fun _ => rfl).write
    (e := .event (.entering root t true)) fun _ => rfl
  exact (begun.runs (n := 0) (.calm (Action.calm_enclosing root)) hask).begins (.frame _ _ _)

theorem isOpen (h : s.Opens (runner fuel) request w root t w₀) :
    (w₀.session root).topLevel.isSome := by
  obtain ⟨-, marked, -⟩ := h.begins (Script.keeps_exec (Grown.discipline root) fuel)
  rw [marked]
  rfl

/-- **All the deferred work of a build is started inside it.** -/
theorem starts_reached (h : s.Opens (runner fuel) request w root t w₀)
    (orderly : ∀ r, Orderly (runner fuel) (block r)) (succeeds : (block root).run w₀ = (.ok (), w₁)) :
    ∃ passes, Chain (runner fuel) root w₁ passes.flatten
        ((s.enter (runner fuel) request block).run w).2 ∧
      BreadthFirst root (w₁.queue root) passes ∧ ∀ x ∈ passes.flatten, Reaches w₀ x.before := by
  have ran : Reaches w₀ w₁ := Reaches.refl.runs (orderly root) succeeds
  have still := ((Aged.of_reaches root ran).inside h.isOpen).1
  obtain ⟨passes, hd, started⟩ := h.isDrain_persists
    (Script.keeps_exec (Grown.discipline root) fuel) (Reaches.persists w₀ fuel root) succeeds still
    fun frame => ran.begins (.frame w₁ root frame)
  exact ⟨passes, hd.chain, hd.breadthFirst, started⟩

/-- When a build has ended, its session is active if the build succeeded, or was so before. -/
theorem lifecycle_eq (h : s.Opens (runner fuel) request w root t w₀)
    (orderly : ∀ r, Orderly (runner fuel) (block r)) :
    let answer := (s.enter (runner fuel) request block).run w
    (answer.2.session root).lifecycle =
      (w₀.session root).lifecycle.afterBuild (answer.1.map fun _ => ()) := by
  have hS := Steady.discipline root
  have hR : (runner fuel).Keeps (Steady root) :=
    .of_quiet hS.toGuarantee (Script.keeps_exec hS fuel)
  have ran := Script.keeps_program hS (orderly root).program w₀
  obtain ⟨frame, hrun⟩ := h.run_enter
  have still : ((((block root).run w₀).2.updateSession root ({ · with frame })).session
      root).topLevel.isSome := by
    rw [World.topLevel_reframed, ran.topLevel]
    exact h.isOpen
  have completed := World.lifecycle_complete hR t ((block root).run w₀).1 still
  have stage : ((((block root).run w₀).2.updateSession root ({ · with frame })).session
      root).lifecycle = (w₀.session root).lifecycle := by
    refine Eq.trans ?_ (ran.lifecycle h.isOpen)
    exact World.session_updateSession_same _ root root Session.lifecycle fun _ => rfl
  rw [stage] at completed
  intro answer
  have ended : answer = _ := hrun block
  rw [ended]
  generalize (root.complete (runner fuel) t ((block root).run w₀).1).run _ = built at completed ⊢
  refine Eq.trans ?_ (completed.trans ?_)
  · exact World.session_updateSession_same _ root root Session.lifecycle fun _ => rfl
  · cases built with
    | mk r w' => cases r <;> rfl

end SessionId.Opens

/-! ## The stage follows from the builds -/

/--
**The stage of a session follows from its builds.** A root session is there in `a`, at its first stage,
and `w` is reached from there. What happened to the session meanwhile can be told by the builds that have
ended, and however it is told, the session is active if and only if one of them succeeded. An active
session stays active. While a context of the session is open, its stage stays, so that of the blocks that
wait for a stage, the same ones run everywhere, on the root and on its children. A build makes the
session active if it succeeds, and all that runs in it, the block as well as the deferred work of all
generations, is reached from where its context was opened.
-/
theorem lifecycle_of_builds {a w : World} {root : SessionId}
    (there : root.index < a.sessions.size) (first : (a.session root).lifecycle = .initial)
    (h : Reaches a w) :
    (∃ results, Lived root a results w) ∧
    (∀ results, Lived root a results w →
      ((w.session root).lifecycle = .active ↔ .ok () ∈ results)) ∧
    (∀ v, Reaches w v → (w.session root).lifecycle = .active →
      (v.session root).lifecycle = .active) ∧
    ((w.session root).topLevel.isSome → ∀ v, Reaches w v →
      (v.session root).topLevel.isSome ∧ (v.session root).lifecycle = (w.session root).lifecycle ∧
        ∀ s, v.rootOf? s = some root → ∀ R env stage block,
          (Script.gate R env s stage block).run v =
            if (w.session root).lifecycle = stage then (Script.perform R env s (.always block)).run v
            else (Script.takeBlock env block >>= fun _ => pure .nil).run v) ∧
    ∀ {fuel : Nat} {s : SessionId} {request : Request} {t : TargetId} {w₀ : World}
      {block : SessionId → Action World Unit}, s.Opens (runner fuel) request w root t w₀ →
      (∀ r, Orderly (runner fuel) (block r)) →
        let answer := (s.enter (runner fuel) request block).run w
        (answer.2.session root).lifecycle =
            (w₀.session root).lifecycle.afterBuild (answer.1.map fun _ => ()) ∧
          Reaches w w₀ ∧ (w₀.session root).topLevel.isSome ∧
            ∀ w₁, (block root).run w₀ = (.ok (), w₁) → ∃ passes,
              Chain (runner fuel) root w₁ passes.flatten answer.2 ∧
                BreadthFirst root (w₁.queue root) passes ∧
                  ∀ x ∈ passes.flatten, Reaches w₀ x.before := by
  have aged := Aged.of_reaches root h
  refine ⟨aged.lived there, fun results lived => ?_, fun v hv active => ?_, fun hopen v hv => ?_, ?_⟩
  · rw [(lived.lifecycle_eq there).2, first, Lifecycle.foldl_afterBuild_eq_active]
    simp
  · have there' : root.index < w.sessions.size := Nat.lt_of_lt_of_le there aged.size_le
    obtain ⟨since, lived⟩ := (Aged.of_reaches root hv).lived there'
    rw [(lived.lifecycle_eq there').2, active, Lifecycle.foldl_afterBuild_eq_active]
    exact Or.inl rfl
  · obtain ⟨still, same⟩ := (Aged.of_reaches root hv).inside hopen
    refine ⟨still, same, fun s hroot R env stage block => ?_⟩
    rw [Script.run_gate R env hroot, same]
  · intro fuel s request t w₀ block opens orderly
    exact ⟨opens.lifecycle_eq orderly, opens.reaches, opens.isOpen,
      fun w₁ succeeds => opens.starts_reached orderly succeeds⟩

theorem lifecycle_of_builds_deferTwice :
    let root : SessionId := ⟨0⟩
    let a := (openWithSpacer.run (.empty .empty)).2
    let w := ((root.enter (runner 3) (.target ⟨0⟩) deferTwice).run a).2
    (a.session root).lifecycle = .initial ∧ Reaches a w ∧ (w.session root).lifecycle = .active ∧
      ∃ results, Lived root a results w ∧ .ok () ∈ results := by
  intro root a w
  have first : (a.session root).lifecycle = .initial := rfl
  have active : (w.session root).lifecycle = .active := by decide +kernel
  have reached : Reaches a w := Reaches.refl.ran (.code (.enter root _ fun r => .schedule r none _))
  obtain ⟨⟨results, lived⟩, told, -⟩ := lifecycle_of_builds (by decide) first reached
  exact ⟨first, reached, active, results, lived, (told results lived).mp active⟩

end TargetBuilder
