import TargetBuilder.Proofs.Moment
import TargetBuilder.Proofs.Stack

/-!
# The explicit stack of contexts

A session keeps one frame and one mark, which each context replaces and puts back. What they stand for
is a stack: the visits of all the blocks that are running on a root session, the innermost first. The
current target is that of the innermost visit; its parent is the target of the next one, or the root
target if there is no other; and the mark tells the own block of a build from all the others.

Between the block of a build and its end the stack is empty, although the mark is set.

* `World.Moment.stack_eq`: at every moment, the frame and the mark are those of the explicit stack.
* `context_stack_refined`: what a root session and its children answer is read off the explicit stack.
-/

namespace TargetBuilder

open World (Quiet Calm StackKept Moment)
open Script (runner)

/-! ## The stack -/

/-- The visit whose block runs on a root session. -/
def Activity.visit? (root : SessionId) : Activity → Option Visit
  | block r visit => if r = root then some visit else none
  | _ => none

/-- Whether an activity is an open context of a root session. -/
def Activity.opens (root : SessionId) : Activity → Bool
  | context r _ _ => r == root
  | _ => false

/-- The visits whose blocks are running on a root session, the innermost first. -/
def explicitStack (root : SessionId) (l : List Activity) : List Visit :=
  l.filterMap (Activity.visit? root)

/-- How many contexts are open on a root session. -/
def openContexts (root : SessionId) (l : List Activity) : Nat := l.countP (Activity.opens root)

/-- What was current before a visit began: the target of the next visit, or else the root target. -/
def Visit.parent (visit : Visit) : List Visit → Option TargetId
  | [] => visit.rootTarget
  | outer :: _ => some outer.target

/-- The frame that stands for a stack. -/
def frameOf : List Visit → Frame
  | [] => .empty
  | visit :: outer => ⟨some visit.target, visit.parent outer, visit.provider⟩

/-- The mark that stands for a number of open contexts: whether there is one, and whether only one. -/
def markOf : Nat → Option Bool
  | 0 => none
  | n + 1 => some (n == 0)

theorem explicitStack_block (root : SessionId) (visit : Visit) (l : List Activity) :
    explicitStack root (.block root visit :: l) = visit :: explicitStack root l := by
  simp [explicitStack, Activity.visit?]

theorem explicitStack_block_of_ne {root r : SessionId} (h : root ≠ r) (visit : Visit)
    (l : List Activity) : explicitStack root (.block r visit :: l) = explicitStack root l := by
  simp [explicitStack, Activity.visit?, Ne.symm h]

theorem openContexts_context (root : SessionId) (t : TargetId) (provider : Option ProviderId)
    (l : List Activity) :
    openContexts root (.context root t provider :: l) = openContexts root l + 1 := by
  simp [openContexts, Activity.opens]

theorem openContexts_context_of_ne {root r : SessionId} (h : root ≠ r) (t : TargetId)
    (provider : Option ProviderId) (l : List Activity) :
    openContexts root (.context r t provider :: l) = openContexts root l := by
  simp [openContexts, Activity.opens, Ne.symm h]

theorem markOf_succ (n : Nat) : markOf (n + 1) = some (markOf n).isNone := by
  cases n with
  | zero => rfl
  | succ n => rfl

namespace World

theorem stack_updateSession_self (w : World) {s : SessionId} (f : Session → Session)
    (h : s.index < w.sessions.size) : (w.updateSession s f).stack s = (f (w.session s)).stack := by
  unfold stack
  rw [session_updateSession_self w f h]

theorem stack_updateSession_of_ne (w : World) {s other : SessionId} (f : Session → Session)
    (h : other ≠ s) : (w.updateSession s f).stack other = w.stack other := by
  unfold stack
  rw [session_updateSession_of_ne w f h]

/-- What encloses a block when it begins is the target of the visit around it, or the root target. -/
theorem visit_parent_eq {w w' : World} {root : SessionId} {parent rootTarget : Option TargetId}
    {outer : List Visit} (t : TargetId) (provider : Option ProviderId)
    (hframe : (w.session root).frame = frameOf outer)
    (hroot : (root.ownRootTarget.run w).1 = .ok rootTarget)
    (henc : root.enclosing.run w = (.ok parent, w')) :
    parent = Visit.parent ⟨t, provider, rootTarget⟩ outer := by
  rw [SessionId.run_enclosing, hframe] at henc
  cases outer with
  | nil =>
    have resolved : root.ownRootTarget.run w = (.ok parent, w') := henc
    rw [resolved] at hroot
    exact Except.ok.inj hroot
  | cons visit rest =>
    cases henc
    rfl

theorem StackKept.keeps_piece {fuel : Nat} {α : Type} {x : Action World α}
    (hx : Piece (runner fuel) x) : x.Keeps StackKept :=
  discipline.keeps_piece (fun root => (brackets root).nesting) (fun w root => (brackets root).taken w) hx

namespace Moment

variable {l : List Activity} {w : World}

/-- **At every moment, the frame and the mark of a root session are those of the explicit stack.** -/
theorem stack_eq (h : Moment l w) (root : SessionId) :
    w.stack root = (frameOf (explicitStack root l), markOf (openContexts root l)) := by
  induction h with
  | start types => rfl
  | @ran l w fuel α x _ hx ih =>
    rw [(StackKept.keeps_piece hx w).stack root]
    exact ih
  | holding s _ ih => exact ih
  | @context l w w' fuel r t provider _ _ there hp ih =>
    have kept := (Action.Keeps.sessionProvide (R := runner fuel) StackKept.guarantee
      (Script.keeps_exec StackKept.discipline fuel) r t).of_run hp
    have before : w'.stack root = _ := (kept.stack root).trans ih
    by_cases hr : root = r
    · subst hr
      have frame : (w'.session root).frame = _ := congrArg Prod.fst before
      have mark : (w'.session root).topLevel = _ := congrArg Prod.snd before
      rw [stack_updateSession_self w' _ (Nat.lt_of_lt_of_le there kept.size_le),
        openContexts_context, markOf_succ, mark]
      exact Prod.ext frame rfl
    · rw [stack_updateSession_of_ne w' _ hr, openContexts_context_of_ne hr]
      exact before
  | @block l w w' r t provider rootTarget parent _ hroot henc ih =>
    have kept := (Action.quiet_enclosing r).of_run henc
    have before : w'.stack root = _ := ((StackKept.guarantee.quiet kept).stack root).trans ih
    by_cases hr : root = r
    · subst hr
      rw [openContexts_context] at ih
      have mark : (w.session root).topLevel = _ := congrArg Prod.snd ih
      have marked : (w.session root).topLevel.isSome := by rw [mark]; rfl
      rw [stack_updateSession_self w' _ (Nat.lt_of_lt_of_le (lt_size_of_open marked) kept.size_le),
        explicitStack_block, frameOf, ← visit_parent_eq t provider (congrArg Prod.fst ih) hroot henc]
      have still : (w'.session root).topLevel = _ := congrArg Prod.snd before
      exact Prod.ext rfl still
    · rw [stack_updateSession_of_ne w' _ hr, explicitStack_block_of_ne hr]
      exact before
  | @guarded l w w' s t name m _ hrec _ _ ih =>
    have kept := (Action.calm_receiver s name).of_run hrec
    exact ((StackKept.guarantee.quiet kept.toQuiet).stack root).trans ih
  | marked _ _ _ ih => exact ih

end Moment

end World

/-! ## What sessions answer -/

/-- The answer for the current target, if there is one. -/
def currentTarget : Option TargetId → Except Fault TargetId
  | some t => .ok t
  | none => .error .noContext

namespace SessionId

/-- The current target as a session answers it: what its root configures, if there is anything. -/
theorem run_attempt_target {s root : SessionId} {w w' : World} {enclosed : Option TargetId}
    (hroot : w.rootOf? s = some root) (henc : root.enclosing.run w = (.ok enclosed, w')) :
    s.target.attempt.run w = (.ok (currentTarget enclosed), w') := by
  unfold target
  rw [Action.run_attempt, Action.run_bind, run_root hroot]
  dsimp only
  rw [Action.run_bind, henc]
  cases enclosed <;> rfl

/-- Where the root is gone, there is no current target. -/
theorem run_attempt_target_of_gone {s : SessionId} {w : World} (hroot : w.rootOf? s = none) :
    s.target.attempt.run w = (.ok (currentTarget none), w) := by
  unfold target root
  rw [Action.run_attempt, Action.run_bind, Action.run_bind, Action.run_read]
  dsimp only
  rw [hroot]
  rfl

/-- Everything else that a session shows, its root shows. -/
theorem run_report {s : SessionId} {w w' : World} {target : Except Fault TargetId}
    (htarget : s.target.attempt.run w = (.ok target, w')) :
    ∃ report, s.report.run w = (.ok report, w') ∧ report.target = target ∧
      report.parent = ((w'.rootOf? s).map w'.session).bind (·.frame.parent) ∧
      report.provider =
        (((w'.rootOf? s).map w'.session).bind (·.frame.provider)).map (·.number) ∧
      report.inContext = ((w'.rootOf? s).map w'.session).any (·.topLevel.isSome) := by
  unfold report
  rw [Action.run_bind, htarget]
  dsimp only
  unfold lifecycle rootState
  simp only [Action.run_bind, Action.run_read, Action.run_pure]
  cases hroot : w'.rootOf? s with
  | none => exact ⟨_, rfl, rfl, rfl, rfl, rfl⟩
  | some root => exact ⟨_, rfl, rfl, rfl, rfl, rfl⟩

end SessionId

/-- The root that a session belongs to, whether it is there or not. -/
def World.rootNamed (w : World) (s : SessionId) : SessionId := (w.session s).root.getD s

theorem World.rootOf?_of_running {w : World} {s root : SessionId} (hs : w.rootNamed s = root)
    (h : root ∈ w.running) : w.rootOf? s = some root := by
  unfold rootNamed at hs
  unfold rootOf?
  cases hr : (w.session s).root with
  | none =>
    rw [hr] at hs
    exact congrArg some hs
  | some r =>
    rw [hr] at hs
    cases hs
    have alive : w.isAlive r = true := by
      have held : w.running.contains r = true := List.contains_iff_mem.mpr h
      unfold isAlive
      rw [held]
      rfl
    exact if_pos alive

theorem World.rootNamed_of_rootOf? {w : World} {s root : SessionId} (h : w.rootOf? s = some root) :
    w.rootNamed s = root := by
  unfold rootOf? at h
  unfold rootNamed
  cases hr : (w.session s).root with
  | none =>
    rw [hr] at h
    exact Option.some.inj h
  | some r =>
    rw [hr] at h
    dsimp only at h
    split at h
    · exact Option.some.inj h
    · cases h

theorem SessionId.run_rootTarget {s root : SessionId} {w : World} (hroot : w.rootOf? s = some root) :
    s.rootTarget.run w = root.ownRootTarget.run w := by
  unfold rootTarget
  rw [Action.run_bind, Action.run_read]
  dsimp only
  rw [hroot]

namespace World.Moment

variable {l : List Activity} {w : World} {root : SessionId}

/-- Where a block of a root session runs, the session is held and a context is open on it. -/
theorem open_of_visit (h : Moment l w) {visit : Visit} (hv : visit ∈ explicitStack root l) :
    root ∈ w.running ∧ 0 < openContexts root l := by
  obtain ⟨a, ha, hvisit⟩ := List.mem_filterMap.mp hv
  cases a with
  | block r v =>
    have given : (if r = root then some v else none) = some visit := hvisit
    split at given
    · next hr =>
      cases given
      subst hr
      have hc := h.context_of_block ha
      exact ⟨h.running_of_context hc, List.countP_pos_iff.mpr ⟨_, hc, beq_self_eq_true _⟩⟩
    · cases given
  | _ => cases hvisit

/-- Where blocks of a root session run, what its sessions answer is read off the innermost visit. -/
theorem report_of_visit (h : Moment l w) {s : SessionId} (hs : w.rootNamed s = root) {visit : Visit}
    {outer : List Visit} (hl : explicitStack root l = visit :: outer) :
    ∃ report, s.report.run w = (.ok report, w) ∧ report.target = .ok visit.target ∧
      report.parent = visit.parent outer ∧ report.provider = visit.provider.map (·.number) ∧
        report.inContext = true ∧ (w.session root).topLevel = some (openContexts root l == 1) := by
  have stack := h.stack_eq root
  have frame : (w.session root).frame = frameOf (explicitStack root l) := congrArg Prod.fst stack
  have mark : (w.session root).topLevel = markOf (openContexts root l) := congrArg Prod.snd stack
  rw [hl] at frame
  obtain ⟨held, opened⟩ := h.open_of_visit (hl ▸ List.mem_cons_self : visit ∈ explicitStack root l)
  obtain ⟨n, hn⟩ := Nat.exists_eq_succ_of_ne_zero (Nat.ne_of_gt opened)
  rw [hn] at mark
  have hroot := rootOf?_of_running hs held
  have enclosed : root.enclosing.run w = (.ok (some visit.target), w) := by
    rw [SessionId.run_enclosing, frame]
    rfl
  obtain ⟨report, hrun, htarget, hparent, hprovider, hopen⟩ :=
    SessionId.run_report (SessionId.run_attempt_target hroot enclosed)
  rw [hroot] at hparent hprovider hopen
  refine ⟨report, hrun, htarget, ?_, ?_, ?_, ?_⟩
  · rw [hparent]
    exact congrArg Frame.parent frame
  · rw [hprovider]
    exact congrArg (fun f : Frame => f.provider.map (·.number)) frame
  · rw [hopen]
    show (w.session root).topLevel.isSome = true
    rw [mark]
    rfl
  · rw [mark, hn]
    cases n <;> rfl

/-- Where no block of a root session runs, only the root target is left to be answered. -/
theorem report_of_no_visit (h : Moment l w) {s : SessionId} (hs : w.rootNamed s = root)
    (hl : explicitStack root l = []) :
    ∃ report w', s.report.run w = (.ok report, w') ∧ report.parent = none ∧ report.provider = none ∧
      ∃ t, (s.rootTarget.run w).1 = .ok t ∧ report.target = currentTarget t := by
  have frame : (w.session root).frame = frameOf (explicitStack root l) :=
    congrArg Prod.fst (h.stack_eq root)
  rw [hl] at frame
  cases hroot : w.rootOf? s with
  | none =>
    obtain ⟨report, hrun, htarget, hparent, hprovider, -⟩ :=
      SessionId.run_report (SessionId.run_attempt_target_of_gone hroot)
    rw [hroot] at hparent hprovider
    refine ⟨report, w, hrun, hparent, hprovider, none, ?_, htarget⟩
    unfold SessionId.rootTarget
    rw [Action.run_bind, Action.run_read]
    dsimp only
    rw [hroot]
    rfl
  | some r =>
    obtain rfl : r = root := (rootNamed_of_rootOf? hroot).symm.trans hs
    obtain ⟨t, w', resolved⟩ := r.ownRootTarget_ok w
    have enclosed : r.enclosing.run w = (.ok t, w') := by
      rw [SessionId.run_enclosing, frame]
      exact resolved
    have still := r.rootOf?_ownRootTarget w s
    have same := (Action.calm_ownRootTarget r w).frame r
    rw [resolved] at still same
    have empty : (w'.session r).frame = .empty := same.trans frame
    obtain ⟨report, hrun, htarget, hparent, hprovider, -⟩ :=
      SessionId.run_report (SessionId.run_attempt_target hroot enclosed)
    rw [still.trans hroot] at hparent hprovider
    refine ⟨report, w', hrun, ?_, ?_, t, ?_, htarget⟩
    · rw [hparent]
      exact congrArg Frame.parent empty
    · rw [hprovider]
      exact congrArg (fun f : Frame => f.provider.map (·.number)) empty
    · rw [SessionId.run_rootTarget hroot, resolved]

/-- The mark of a root session is set while a context is open on it. -/
theorem isOpen_of_context (h : Moment l w) {t : TargetId} {provider : Option ProviderId}
    (hc : .context root t provider ∈ l) : (w.session root).topLevel.isSome := by
  have mark : (w.session root).topLevel = markOf (openContexts root l) :=
    congrArg Prod.snd (h.stack_eq root)
  have opened : 0 < openContexts root l := List.countP_pos_iff.mpr ⟨_, hc, beq_self_eq_true _⟩
  rw [mark]
  cases hn : openContexts root l with
  | zero => omega
  | succ n => rfl

/-- While a context is open, the task of deferred work runs at a moment, or it is not come to. -/
theorem deferred_runsBlockAt (h : Moment l w) {t : TargetId} {provider : Option ProviderId}
    (hc : .context root t provider ∈ l) (fuel : Nat) (target : TargetId) :
    let entering := fun task => root.enterDeferred (runner fuel) ⟨target, task⟩
    RunsNoBlock entering w ∨
      ∃ (visit : Visit) (m : World), visit.target = target ∧
        Moment (.block root visit :: .context root target visit.provider :: l) m ∧
          RunsBlockAt entering w (fun task => (runner fuel).perform task root) m :=
  h.enterDeferred_runsBlockAt (h.running_of_context hc) (lt_size_of_open (h.isOpen_of_context hc)) fuel
    target

end World.Moment

/--
**The context stack refines an explicit stack.** At every moment of every run, whatever programs have
run before and whatever contexts, calls and deferred work are under way, and from the root session as
well as from any child of it: where the explicit stack has an innermost visit, its target is the current
one, the parent is the target of the visit around it, or the root target as it was when the block began
if there is none, the provider is the one that was found for the visit, a context is open, and the mark
says whether it is the only one, that is, the own context of a build and none that is nested in it or
run after it. Where the stack is empty there is neither a parent nor a provider, and the root target is
the current one, if there is any.

The moments are those at which the engine runs blocks. Where a context is entered, its block is run at a
moment with a visit of the requested target on top of what is under way, and nowhere else, or it is not
come to. Where the block of a build has succeeded, the deferred work is started at moments with the context
of the build, but no block of it, on top of what was under way, and its task is run in a visit of its own
on top of that.
-/
theorem context_stack_refined :
    (∀ {l : List Activity} {w : World}, Moment l w → ∀ {root s : SessionId}, w.rootNamed s = root →
      ∃ report w', s.report.run w = (.ok report, w') ∧
        match explicitStack root l with
        | visit :: outer =>
          report.target = .ok visit.target ∧ report.parent = visit.parent outer ∧
            report.provider = visit.provider.map (·.number) ∧ report.inContext = true ∧
              (w.session root).topLevel = some (openContexts root l == 1)
        | [] =>
          report.parent = none ∧ report.provider = none ∧
            ∃ t, (s.rootTarget.run w).1 = .ok t ∧ report.target = currentTarget t) ∧
    (∀ {l : List Activity} {w : World}, Moment l w → ∀ {root s : SessionId}, w.rootOf? s = some root →
      root.index < w.sessions.size → ∀ (fuel : Nat) (request : Request),
        RunsNoBlock (s.enter (runner fuel) request) w ∨
          ∃ (visit : Visit) (m : World),
            ((root.resolveRequest request).run { w with running := root :: w.running }).1 =
              .ok visit.target ∧
            Moment (.block root visit :: .context root visit.target visit.provider ::
              .holding root :: l) m ∧
              RunsBlockAt (s.enter (runner fuel) request) w (· root) m) ∧
    ∀ {l : List Activity} {w : World}, Moment l w →
      ∀ {fuel : Nat} {s root : SessionId} {request : Request} {t : TargetId} {w₀ w₁ : World}
        {block : SessionId → Action World Unit}, s.Opens (runner fuel) request w root t w₀ →
        (∀ r, Orderly (runner fuel) (block r)) → (block root).run w₀ = (.ok (), w₁) →
          ∃ (provider : Option ProviderId) (passes : List (List Start)),
            let answer := (s.enter (runner fuel) request block).run w
            let build : List Activity := .context root t provider :: .holding root :: l
            Chain (runner fuel) root w₁ passes.flatten answer.2 ∧
            BreadthFirst root (w₁.queue root) passes ∧
            (∀ a, answer.1 = .ok a → AllSucceeded root (w₁.queue root) passes) ∧
            ∀ x ∈ passes.flatten, Moment build x.before ∧
              let entering := fun task => root.enterDeferred (runner fuel) ⟨x.work.target, task⟩
              RunsNoBlock entering x.before ∨
                ∃ (visit : Visit) (m : World), visit.target = x.work.target ∧
                  Moment (.block root visit :: .context root x.work.target visit.provider :: build) m ∧
                    RunsBlockAt entering x.before (fun task => (runner fuel).perform task root) m := by
  refine ⟨fun {l w} h {root s} hs => ?_, fun {l w} h {root s} hroot there fuel request => ?_,
    fun {l w} h {fuel s root request t w₀ w₁ block} opens orderly succeeds => ?_⟩
  · cases hl : explicitStack root l with
    | cons visit outer =>
      obtain ⟨report, hrun, answers⟩ := h.report_of_visit hs hl
      exact ⟨report, w, hrun, answers⟩
    | nil => exact h.report_of_no_visit hs hl
  · exact h.enter_runsBlockAt hroot there fuel request
  · obtain ⟨provider, passes, chain, breadthFirst, all, started⟩ := h.startsAt opens orderly succeeds
    refine ⟨provider, passes, chain, breadthFirst, all, fun x hx => ⟨started x hx, ?_⟩⟩
    exact (started x hx).deferred_runsBlockAt List.mem_cons_self fuel x.work.target

/--
In a block of the spacer inside another one, the outer visit is the parent and the mark is unset; entering
the spacer in the outer block runs the block in such a visit. The work that a block of the spacer defers is
started after the block, in the context of the build.
-/
theorem context_stack_refined_twice :
    let root : SessionId := ⟨0⟩
    Moment (spacerActivities none ++ spacerActivities none) inSpacerTwice ∧
      inSpacerTwice.rootNamed root = root ∧
        explicitStack root (spacerActivities none ++ spacerActivities none) =
          [⟨⟨0⟩, none, none⟩, ⟨⟨0⟩, none, none⟩] ∧
          (∃ report w', root.report.run inSpacerTwice = (.ok report, w') ∧
            report.target = .ok ⟨0⟩ ∧ report.parent = some ⟨0⟩ ∧ report.inContext = true ∧
              (inSpacerTwice.session root).topLevel = some false) ∧
          (∃ visit m, visit.target = ⟨0⟩ ∧
            Moment (.block root visit :: .context root ⟨0⟩ visit.provider :: .holding root ::
              spacerActivities none) m ∧
            RunsBlockAt (root.enter (runner 1) (.target ⟨0⟩)) inSpacer (· root) m) ∧
          ∃ (x : Start) (provider : Option ProviderId), x.IsRun (runner 3) root ∧
            Moment [.context root ⟨0⟩ provider, .holding root] x.before := by
  intro root
  obtain ⟨answers, entered, deferred⟩ := context_stack_refined
  refine ⟨moment_inSpacerTwice, rfl, rfl, ?_, ?_, ?_⟩
  · obtain ⟨report, w', hrun, target, parent, -, hopen, mark⟩ :=
      answers moment_inSpacerTwice (rfl : inSpacerTwice.rootNamed ⟨0⟩ = ⟨0⟩)
    exact ⟨report, w', hrun, target, parent, hopen, mark⟩
  · rcases entered moment_inSpacer (rfl : inSpacer.rootOf? ⟨0⟩ = some ⟨0⟩) (by decide) 1 (.target ⟨0⟩) with
      blockless | ⟨visit, m, requested, hmoment, runs⟩
    · -- a block that unwinds makes a difference
      have same := congrArg Prod.fst (blockless (fun _ => pure ()) fun _ => .stop .unwound)
      cases same
    · have target : visit.target = ⟨0⟩ := (Except.ok.inj requested).symm
      rw [target] at hmoment
      exact ⟨visit, m, target, hmoment, runs⟩
  · obtain ⟨w₀, w₁, opens, succeeds, ⟨work, queued⟩, succeeded⟩ := opens_deferTwice
    have orderly : ∀ r, Orderly (runner 3) (deferTwice r) := fun r => .schedule r none _
    obtain ⟨provider, passes, chain, -, all, started⟩ :=
      deferred moment_openWithSpacer opens orderly succeeds
    obtain ⟨x, hx, -⟩ := (all _ succeeded).exists_start (queued ▸ List.mem_singleton_self work)
    exact ⟨x, provider, chain.isRun_of_mem hx, (started x hx).1⟩

end TargetBuilder
