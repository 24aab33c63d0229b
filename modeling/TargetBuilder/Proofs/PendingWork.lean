import TargetBuilder.Proofs.ContextStack
import TargetBuilder.Proofs.FaultPath
import TargetBuilder.Proofs.Leftover

/-!
# How much work is pending

A session answers how much deferred work is pending on its root, which is how much is in the queue. While
the block of a build runs, that is all the work that waits. While a piece of deferred work runs, it is not:
a pass takes all its work out of the queue before it runs any of it, and the rest of the pass, which waits
still, is not counted.

* `World.Inside.adds`: inside a context, work is only added to the queue.
* `pending_counts_queue`: what a session answers inside a build, in its block and in its deferred work, and
  after it.
* `pending_omits_rest`: work that waits and is not counted.
-/

namespace TargetBuilder

open World (Quiet Later Grown Begins)
open Script (runner after)

/-! ## Inside a context -/

/-- Code that runs no deferred work of a root session, though it may nest contexts on it. -/
inductive Aside (R : Runner) (root : SessionId) : ∀ {α : Type}, Action World α → Prop
  | code {α : Type} {x : Action World α} : Orderly R x → Aside R root x
  | visit (r : SessionId) (outermost : Bool) (t : TargetId) (provider : Option ProviderId)
      {block : SessionId → Action World Unit} :
      (∀ s, Orderly R (block s)) → Aside R root (r.visit outermost t provider block)
  | takeQueue {r : SessionId} : root ≠ r → Aside R root r.takeQueue
  | runDeferred {r : SessionId} (work : Deferred) : root ≠ r → Aside R root (r.runDeferred R work)

/-- Where a context is open on the root session, such code only adds to its queue. -/
theorem Aside.keeps_grown {fuel : Nat} {root : SessionId} {α : Type} {x : Action World α}
    (hx : Aside (runner fuel) root x) : x.Keeps (Grown root) := by
  have hG := Grown.guarantee root
  have hR : Runner.Keeps (Grown root) (runner fuel) :=
    .of_quiet hG (Script.keeps_exec (Grown.discipline root) fuel)
  have other : ∀ {r : SessionId}, root ≠ r → Brackets (Grown root) r := fun hr =>
    .of_tolerates hG fun w _ hf => Grown.of_update_other w hr hf
  have code : ∀ {β : Type} {y : Action World β}, Orderly (runner fuel) y → y.Keeps (Grown root) :=
    fun hy => Script.keeps_program (Grown.discipline root) hy.program
  cases hx with
  | code h => exact code h
  | visit r outermost t provider hblock =>
    have nesting : Nesting (Grown root) r := by
      by_cases hr : root = r
      · subst hr
        exact Grown.nesting root
      · exact (other hr).nesting
    exact nesting.keeps_visit hG.calm.still.idle (.of_quiet hG (Action.quiet_enclosing r)) outermost t
      provider (code (hblock r))
  | takeQueue hr => exact Nesting.keeps_takeQueue (other hr).taken hG
  | @runDeferred r work hr =>
    exact Nesting.keeps_runDeferred (other hr).taken (.of_calm hG.calm hR r) (other hr).nesting work

namespace World

/-- A world in which code finds itself while all that is under way in `a` is still under way. -/
inductive Inside (root : SessionId) (a : World) : World → Prop
  | refl : Inside root a a
  | ran {b : World} {fuel : Nat} {α : Type} {x : Action World α} :
      Inside root a b → Aside (runner fuel) root x → Inside root a (x.run b).2
  | begins {b c : World} : Inside root a b → Begins b c → Inside root a c

variable {a b c : World} {root : SessionId}

/-- What begins leaves every queue as it is, and contexts that are open stay so. -/
theorem Begins.kept (h : Begins b c) (root : SessionId) :
    Later b [] c ∧ c.queue root = b.queue root ∧
      ((b.session root).topLevel.isSome → (c.session root).topLevel.isSome) := by
  cases h with
  | holding s => exact ⟨Later.refl.quiet (Quiet.of_sessions_eq rfl fun _ => rfl), rfl, id⟩
  | mark r =>
    refine ⟨.changed b r fun x => .mark x _, ?_, fun hopen => ?_⟩
    · exact session_updateSession_same b r root Session.queue fun _ => rfl
    · rw [session_updateSession]
      split
      · rfl
      · exact hopen
  | frame r frame =>
    refine ⟨.changed b r fun x => .frame x frame, ?_, fun hopen => ?_⟩
    · exact session_updateSession_same b r root Session.queue fun _ => rfl
    · have same := session_updateSession_same b r root (f := ({ · with frame })) Session.topLevel
        fun _ => rfl
      rw [same]
      exact hopen
  | launched _ => exact ⟨Later.refl.quiet (Quiet.updateTarget b _ _), rfl, id⟩

/-- **Inside a context, work is only added to the queue**, by induction on how the world was come to. -/
theorem Inside.adds (h : Inside root a b) (hopen : (a.session root).topLevel.isSome) :
    (b.session root).topLevel.isSome ∧
      ∃ ds, Later a ds b ∧ b.queue root = a.queue root ++ workOn root ds := by
  induction h with
  | refl => exact ⟨hopen, [], .refl, by simp⟩
  | @ran b fuel α x _ hx ih =>
    obtain ⟨still, ds, later, queue⟩ := ih
    have grown := hx.keeps_grown b
    obtain ⟨es, later', queue'⟩ := grown.later
    refine ⟨by rw [grown.topLevel]; exact still, ds ++ es, later.trans later', ?_⟩
    rw [queue' still, queue, workOn_append, List.append_assoc]
  | @begins b c _ hb ih =>
    obtain ⟨still, ds, later, queue⟩ := ih
    obtain ⟨later', queue', stays⟩ := hb.kept root
    refine ⟨stays still, ds, ?_, queue'.trans queue⟩
    have both := later.trans later'
    rwa [List.append_nil] at both

/-! ## What a session answers -/

/-- The amount of work that a session of the hierarchy answers to be pending on the root. -/
def Pending (w : World) (root : SessionId) (n : Nat) : Prop :=
  ∀ s, w.rootOf? s = some root →
    ∃ report w', s.report.run w = (.ok report, w') ∧ report.pending = n

/-- A session answers how much is in the queue. -/
theorem pending_queue (w : World) (root : SessionId) : w.Pending root (w.queue root).length := by
  intro s hroot
  obtain ⟨enclosed, w', henc⟩ := root.enclosing_ok w
  have quiet := Action.quiet_enclosing root w
  have kept := root.rootOf?_enclosing w s
  rw [henc] at quiet kept
  have still : w'.rootOf? s = some root := kept.trans hroot
  rw [← quiet.queue root]
  unfold SessionId.report
  rw [Action.run_bind, SessionId.run_attempt_target hroot henc]
  dsimp only
  unfold SessionId.lifecycle SessionId.rootState
  simp only [Action.run_bind, Action.run_read, Action.run_pure, still]
  exact ⟨_, _, rfl, rfl⟩

/-- Inside a context, what is pending is what was in the queue before, and what was deferred since. -/
theorem Inside.pending (h : Inside root a b) (hopen : (a.session root).topLevel.isSome) :
    ∃ ds, Later a ds b ∧ b.Pending root ((a.queue root).length + (workOn root ds).length) := by
  obtain ⟨_, ds, later, queue⟩ := h.adds hopen
  refine ⟨ds, later, ?_⟩
  rw [← List.length_append, ← queue]
  exact b.pending_queue root

end World

/-! ## Turns -/

namespace SessionId

variable {R : Runner} {root : SessionId} (hR : ∀ task s, (R.exec task s).Keeps (Grown root))

include hR

/-- While the work of a pass succeeds, what it defers is added to the queue. -/
theorem each_grown :
    ∀ {front : List Deferred} {w m : World},
      (Action.each front (root.runDeferred R)).run w = (.ok (), m) → Grown root w m
  | [], w, _, ran => by
    cases ran
    exact (Grown.guarantee root).refl w
  | work :: front, w, m, ran => by
    have hG := Grown.guarantee root
    have entered := (Grown.nesting root).keeps_enterDeferred (.of_calm hG.calm (.of_quiet hG hR) root) work w
    rw [Action.run_each_cons, Action.run_bind] at ran
    cases hr : (root.enterDeferred R work).run w with
    | mk r v =>
    rw [hr] at entered
    cases r with
    | ok u =>
      rw [run_runDeferred_ok hr] at ran
      exact entered.trans (each_grown ran)
    | error e =>
      rw [run_runDeferred_error hr] at ran
      cases ran

/-- When the turn of a piece of work comes, what was deferred since its pass began is in the queue. -/
theorem Starts.before {origin : TargetId} {fuel passes : Nat} {w : World} {turn : Turn}
    (h : root.Starts R origin fuel passes w turn) (hopen : (w.session root).topLevel.isSome) :
    (turn.before.session root).topLevel.isSome ∧
      ∃ ds, Later turn.begun ds turn.before ∧ turn.before.queue root = workOn root ds := by
  have began : ∀ (origin : TargetId) (passes : Nat) (w : World), (w.session root).topLevel.isSome →
      ((root.passBegins origin passes w).session root).topLevel.isSome := by
    intro origin passes w hopen
    have same := w.session_updateSession_same root root (f := ({ · with queue := [] }))
      Session.topLevel fun _ => rfl
    show ((w.updateSession root ({ · with queue := [] })).session root).topLevel.isSome
    rw [same]
    exact hopen
  induction h with
  | @inPass fuel passes w m front rest work _ _ ran =>
    have grown := each_grown hR ran
    have start := began origin passes w hopen
    obtain ⟨ds, later, queue⟩ := grown.later
    refine ⟨by rw [grown.topLevel]; exact start, ds, later, ?_⟩
    have emptied : (root.passBegins origin passes w).queue root = [] := queue_taken root w
    rw [queue start, emptied, List.nil_append]
  | @later fuel passes w v turn _ _ ran _ ih =>
    have grown := each_grown hR ran
    exact ih (by rw [grown.topLevel]; exact began origin passes w hopen)

/-- During the turn of a piece of work, what is pending is what was deferred since its pass began. -/
theorem Starts.pending {origin : TargetId} {fuel passes : Nat} {w v : World} {turn : Turn}
    (h : root.Starts R origin fuel passes w turn) (hopen : (w.session root).topLevel.isSome)
    (inside : World.Inside root turn.before v) :
    ∃ ds, Later turn.begun ds v ∧ v.Pending root (workOn root ds).length := by
  obtain ⟨current, since, begun, waiting⟩ := h.before hR hopen
  obtain ⟨ds, later, pending⟩ := inside.pending current
  refine ⟨since ++ ds, begun.trans later, ?_⟩
  rwa [waiting, ← List.length_append, ← workOn_append] at pending

end SessionId

/-! ## Between builds -/

/-- A world that comes later while nothing happens on a root session but that work is deferred. -/
inductive World.Idles (root : SessionId) (a : World) : List (SessionId × Deferred) → World → Prop
  | refl : Idles root a [] a
  | quiet {ds : List (SessionId × Deferred)} {b c : World} :
      Idles root a ds b → Quiet b c → Idles root a ds c
  | defer {ds : List (SessionId × Deferred)} {b : World} (r : SessionId) (d : Deferred) :
      Idles root a ds b → Idles root a (ds ++ [(r, d)]) (b.defer r d)
  | context {ds : List (SessionId × Deferred)} {b : World} {r : SessionId} {f : Session → Session} :
      Idles root a ds b → root ≠ r → (∀ x, Session.ContextChange x (f x)) →
        Idles root a ds (b.updateSession r f)

namespace World.Idles

variable {root : SessionId} {a b : World} {ds : List (SessionId × Deferred)}

theorem later (h : Idles root a ds b) : Later a ds b := by
  induction h with
  | refl => exact .refl
  | quiet _ hq ih => exact ih.quiet hq
  | defer r d _ ih => exact ih.defer r d
  | context _ _ hf ih => exact ih.context _ hf

/-- **Between builds, work is only added to the queue.** -/
theorem queue (h : Idles root a ds b) (there : root.index < a.sessions.size) :
    b.queue root = a.queue root ++ workOn root ds := by
  induction h with
  | refl => simp
  | quiet _ hq ih => rw [hq.queue, ih]
  | @defer ds b r d hb ih =>
    have there' := Nat.lt_of_lt_of_le there hb.later.size_le
    rw [queue_defer, workOn_append, workOn_singleton]
    -- work that is deferred on another session waits in the queue of that one
    by_cases hr : root = r
    · subst hr
      rw [if_pos ⟨rfl, there'⟩, if_pos rfl, ih, List.append_assoc]
    · rw [if_neg fun hc => hr hc.1, if_neg (Ne.symm hr), ih, List.append_nil]
  | @context ds b r f _ hr _ ih =>
    refine Eq.trans ?_ ih
    exact congrArg Session.queue (session_updateSession_of_ne b f hr)

end World.Idles

/-! ## What is pending -/

theorem SessionId.Opens.there {R : Runner} {s root : SessionId} {request : Request} {w w₀ : World}
    {t : TargetId} (h : s.Opens R request w root t w₀) : root.index < w.sessions.size := by
  obtain @⟨_, _, _, _, _, _, there, _, _, _, _⟩ := h
  exact there

/--
**What a session answers to be pending is what is in the queue.** In the block of a build that is what
waited when the block began and what was deferred since. When a piece of deferred work has its turn, it is
what was deferred since its pass began: `turn.rest`, which is neither run nor dropped yet, is not counted.
After the build it is what was deferred since.
-/
theorem pending_counts_queue {fuel : Nat} {s root : SessionId} {request : Request} {w w₀ : World}
    {t : TargetId} {block : SessionId → Action World Unit}
    (opens : s.Opens (runner fuel) request w root t w₀)
    (program : ∀ r, Program (runner fuel) (block r)) :
    let ended := ((s.enter (runner fuel) request block).run w).2
    (∀ v, World.Inside root w₀ v → ∃ ds, Later w₀ ds v ∧
      v.Pending root ((w₀.queue root).length + (workOn root ds).length)) ∧
    (∀ w₁, (block root).run w₀ = (.ok (), w₁) → ∃ frame, ∀ turn,
      root.Starts (runner fuel) t fuel 0
          ((w₁.updateSession root ({ · with frame })).write (.opened .drain)) turn →
        Leads (s.enter (runner fuel) request block) w
          (root.enterDeferred (runner fuel) turn.work) turn.before ∧
        ∀ v, World.Inside root turn.before v → ∃ ds, Later turn.begun ds v ∧
          v.Pending root (workOn root ds).length) ∧
    ∀ ds v, World.Idles root ended ds v → v.Pending root (workOn root ds).length := by
  intro ended
  have hR := Script.keeps_exec (Grown.discipline root) fuel
  obtain ⟨_, marked, opening, opened⟩ := opens.begins hR
  have hopen : (w₀.session root).topLevel.isSome := by
    rw [marked]
    rfl
  refine ⟨fun v inside => inside.pending hopen, fun w₁ succeeds => ?_, fun ds v idle => ?_⟩
  · obtain ⟨frame, comes⟩ := Leads.enterDrain opens succeeds
    refine ⟨frame, fun turn starts => ⟨comes turn starts, fun v inside => ?_⟩⟩
    -- the block ran inside the context, so the context is open when the passes begin
    have grown := Script.keeps_program (Grown.discipline root) (program root) w₀
    rw [succeeds] at grown
    have still : (((w₁.updateSession root ({ · with frame })).write (.opened .drain)).session
        root).topLevel.isSome := by
      rw [World.session_write, World.topLevel_reframed, grown.topLevel]
      exact hopen
    exact starts.pending hR still inside
  · obtain ⟨_, finished⟩ := Script.keeps_program Later.discipline (.enter s request program) w
    have there : root.index < ended.sessions.size := Nat.lt_of_lt_of_le opens.there finished.size_le
    have emptied : ended.queue root = [] := opens.queue_nil block
    have queue := idle.queue there
    rw [emptied, List.nil_append] at queue
    rw [← queue]
    exact v.pending_queue root

/-- Defers two pieces of work. -/
def deferBoth (r : SessionId) : Action World Unit := do
  r.schedule none (some .idle)
  r.schedule none (some .idle)

theorem pending_counts_queue_deferBoth :
    let root : SessionId := ⟨0⟩
    let w := (openWithSpacer.run (.empty .empty)).2
    ∃ turn : Turn, Leads (root.enter (runner 3) (.target ⟨0⟩) deferBoth) w
        (root.enterDeferred (runner 3) turn.work) turn.before ∧
      turn.rest.length = 1 ∧ turn.before.Pending root 0 := by
  intro root w
  have opens : root.Opens (runner 3) (.target ⟨0⟩) w root ⟨0⟩ _ :=
    .begin rfl (by decide) (Prod.ext rfl rfl) (Prod.ext rfl rfl) rfl (Prod.ext rfl rfl)
  have program : ∀ r, Program (runner 3) (deferBoth r) := fun r =>
    .bind (.schedule r none _) fun _ => .schedule r none _
  obtain ⟨_, turns, _⟩ := pending_counts_queue opens program
  obtain ⟨frame, turns⟩ := turns _ (Prod.ext rfl rfl)
  let work : Deferred := ⟨⟨0⟩, .idle⟩
  obtain ⟨leads, pending⟩ := turns ⟨_, work, [work], _⟩
    (@SessionId.Starts.inPass (runner 3) root ⟨0⟩ 2 0 _ _ [] [work] work rfl rfl rfl)
  obtain ⟨ds, later, shown⟩ := pending _ .refl
  -- the turn is the first of its pass, so nothing was deferred since the pass began
  have nothing := List.self_eq_append_right.mp (later.deferrals_eq root)
  rw [List.map_eq_nil_iff.mp nothing] at shown
  exact ⟨_, leads, rfl, shown⟩

/-! ## Work that is not counted -/

/-- What a line of the log says about deferred work, or notes. -/
inductive Mention where
  | deferred
  /-- A context is entered inside a build. -/
  | entered
  /-- So much work is pending. -/
  | pending (n : Nat)
  | text (s : String)
  deriving DecidableEq, Repr

def Entry.mention? : Entry → Option Mention
  | .event (.scheduled _ _) => some .deferred
  | .event (.entering _ _ false) => some .entered
  | .reported report => some (.pending report.pending)
  | .text s => some (.text s)
  | _ => none

/-- Defers a look at the session, and a note. -/
def lookThenNote : List Statement :=
  [.mk (.defer none (.given [.mk .state none false])) none false, noting "second" true]

/--
Two pieces of work are deferred. When the first has been started and looks, nothing is pending, although
the second waits: it is started afterwards.
-/
theorem pending_omits_rest :
    (after spacerWorld .empty
        [.mk (.enter (.targetNamed "s") (.given lookThenNote)) none false]).log.toList.filterMap
      Entry.mention? = [.deferred, .deferred, .entered, .pending 0, .entered, .text "second"] := by
  decide +kernel

end TargetBuilder
