import TargetBuilder.Proofs.Growth

/-!
# Passes over deferred work

What deferred work there is, is not known before it runs: work may defer more work. The generations are
therefore told after the fact. The first generation is what waits when the passes begin, and the next one
is what was deferred while a generation ran. Deferred work is run breadth-first when pass by pass the
work of one generation is started, in order.

A start is one run of deferred work, with the worlds before and after it. The starts of a drain make a
chain: between one start and the next nothing happens but tidying, which runs nothing.

* `Start.IsRun`: what one start does, on whatever target and with whatever it defers.
* `SessionId.each_runDeferred`: a pass starts the work of its batch in order, until something fails.
* `SessionId.runPasses_breadthFirst`: passes are breadth-first, and they succeed if all is started and
  nothing fails.
-/

namespace TargetBuilder

open World (Quiet Later Grown)

/-! ## Tidying -/

/-- Nothing ran between two worlds: lines were written, and the context of the root session changed. -/
inductive World.Tidied (root : SessionId) (a : World) : World → Prop
  | refl : Tidied root a a
  | write {b : World} (e : Entry) : (∀ r, e.deferral? r = none) → Tidied root a b →
      Tidied root a (b.write e)
  | context {b : World} {f : Session → Session} : (∀ x, Session.ContextChange x (f x)) →
      Tidied root a b → Tidied root a (b.updateSession root f)
  | running {b : World} (sessions : List SessionId) : Tidied root a b →
      Tidied root a { b with running := sessions }

open World (Tidied)

namespace World.Tidied

variable {root : SessionId} {a b c : World}

theorem trans (h : Tidied root a b) (k : Tidied root b c) : Tidied root a c := by
  induction k with
  | refl => exact h
  | write e he _ ih => exact ih.write e he
  | context hf _ ih => exact ih.context hf
  | running sessions _ ih => exact ih.running sessions

end World.Tidied

/-! ## Starts -/

/-- A run of deferred work, from the world before it to the world after it. -/
structure Start where
  work : Deferred
  before : World
  result : Except Stop Unit
  after : World
  /-- What was deferred meanwhile, on any session. -/
  deferred : List (SessionId × Deferred)

namespace Start

/-- What was deferred meanwhile on a root session. -/
def adds (root : SessionId) (x : Start) : List Deferred := workOn root x.deferred

/--
The task ran with the target of the work as the current one, in a nested context, and with nothing run
after it; or it was not reached, in which case it does not matter what the task was.
-/
def RanOnTarget (R : Runner) (root : SessionId) (x : Start) : Prop :=
  (∃ begun r ended, (∃ ds, Later x.before ds begun) ∧
    (begun.session root).frame.target = some x.work.target ∧
    (begun.session root).topLevel = some false ∧
    (R.exec x.work.task root).run begun = (r, ended) ∧ Tidied root ended x.after ∧
    x.result = r.map fun _ => ()) ∨
  ∃ e, ∀ task, (root.enterDeferred R ⟨x.work.target, task⟩).run x.before = (.error e, x.after)

/--
The start is a run of its work inside a build of the root session: on the target of the work, and with
nothing happening to the queue but that the work that is deferred meanwhile is added to it.
-/
structure IsRun (R : Runner) (root : SessionId) (x : Start) : Prop where
  run : (root.enterDeferred R x.work).run x.before = (x.result, x.after)
  inBuild : (x.before.session root).topLevel.isSome
  onTarget : x.RanOnTarget R root
  later : Later x.before x.deferred x.after
  queue : x.after.queue root = x.before.queue root ++ x.adds root
  topLevel : (x.after.session root).topLevel = (x.before.session root).topLevel

end Start

theorem Runner.run_perform (R : Runner) (task : Task) (s : SessionId) (w : World) :
    (R.perform task s).run w =
      (((R.exec task s).run w).1.map fun _ => (), ((R.exec task s).run w).2) := by
  unfold Runner.perform
  rw [Action.run_bind]
  cases hr : (R.exec task s).run w with
  | mk r w' => cases r <;> rfl

namespace SessionId

variable {R : Runner} {root : SessionId}

theorem run_enterDeferred_ok (work : Deferred) {w w' : World} {provider : Option ProviderId}
    (h : (root.provide R work.target).run w = (.ok provider, w'))
    (hopen : (w'.session root).topLevel.isSome) :
    (root.enterDeferred R work).run w =
      let visited := (root.visit false work.target provider (R.perform work.task)).run
        (w'.updateSession root ({ · with topLevel := some false }))
      (visited.1, visited.2.updateSession root
        (leave (w'.session root).topLevel (wasGivenUp visited.1))) := by
  have nested : (w'.session root).topLevel.isNone = false := by simpa using hopen
  unfold enterDeferred
  rw [Action.run_bind, h]
  dsimp only
  rw [run_inContext, nested]

/-- Where a context is open, deferred work runs on its target, if it gets as far as running. -/
theorem enterDeferred_ranOnTarget (hR : ∀ task s, (R.exec task s).Keeps (Grown root))
    {x : Start} (hrun : (root.enterDeferred R x.work).run x.before = (x.result, x.after))
    (hopen : (x.before.session root).topLevel.isSome) : x.RanOnTarget R root := by
  have provided := Action.Keeps.sessionProvide (Grown.guarantee root) hR root x.work.target x.before
  cases hp : (root.provide R x.work.target).run x.before with
  | mk p w₁ =>
  rw [hp] at provided
  cases p with
  | error e =>
    -- the provider could not be made, which has nothing to do with the task
    have given : ∀ task, (root.enterDeferred R ⟨x.work.target, task⟩).run x.before =
        (.error e, w₁) := by
      intro task
      unfold enterDeferred
      rw [Action.run_bind, hp]
    have after : x.after = w₁ := (Prod.mk.inj (hrun.symm.trans (given x.work.task))).2
    exact Or.inr ⟨e, fun task => by rw [given task, after]⟩
  | ok provider =>
  have still : (w₁.session root).topLevel.isSome := by
    rw [provided.topLevel]
    exact hopen
  have run_of := fun task => run_enterDeferred_ok ⟨x.work.target, task⟩ hp still
  let opened := (w₁.updateSession root ({ · with topLevel := some false })).write
    (.event (.entering root x.work.target false))
  have asking := Action.quiet_enclosing root opened
  obtain ⟨parent, w₂, ha⟩ := root.enclosing_ok opened
  rw [ha] at asking
  obtain ⟨ds, before⟩ := provided.markKept.later
  have marked : Later x.before ds opened :=
    (before.context root fun x => .mark x _).quiet (Quiet.write _ fun _ => rfl)
  have there := World.lt_size_of_open still
  have there₂ : root.index < w₂.sessions.size := by
    refine Nat.lt_of_lt_of_le ?_ asking.size_le
    show root.index < (w₁.updateSession root _).sessions.size
    rw [World.size_updateSession]
    exact there
  let begun := w₂.updateSession root ({ · with frame := ⟨some x.work.target, parent, provider⟩ })
  have current : begun.session root = _ := World.session_updateSession_self w₂ _ there₂
  have ended := hrun.symm.trans (run_of x.work.task)
  rw [run_visit_ok ha, R.run_perform x.work.task root begun] at ended
  obtain ⟨result, after⟩ := Prod.mk.inj ended
  refine Or.inl ⟨begun, _, _, ⟨ds, (marked.quiet asking).context root fun x => .frame x _⟩,
    by rw [current], ?_, rfl, ?_, result⟩
  · rw [current]
    refine (asking.topLevel root).trans ?_
    rw [World.session_write, World.session_updateSession_self w₁ _ there]
  · rw [after]
    exact .context (fun x => .leave x _ _) (.context (fun x => .frame x _) .refl)

/-- Deferred work that is entered inside a build makes a start. -/
theorem exists_start (hR : ∀ task s, (R.exec task s).Keeps (Grown root)) (work : Deferred)
    (w : World) (hopen : (w.session root).topLevel.isSome) :
    ∃ x : Start, x.work = work ∧ x.before = w ∧ x.IsRun R root := by
  have hG := Grown.guarantee root
  have grown := (Grown.nesting root).keeps_enterDeferred (.of_calm hG.calm (.of_quiet hG hR) root) work w
  cases hrun : (root.enterDeferred R work).run w with
  | mk r w' =>
  rw [hrun] at grown
  obtain ⟨ds, hlater, hqueue⟩ := grown.later
  refine ⟨⟨work, w, r, w', ds⟩, rfl, rfl, hrun, hopen, ?_, hlater, hqueue hopen, grown.topLevel⟩
  exact enterDeferred_ranOnTarget hR hrun hopen

end SessionId

/-! ## Chains of starts -/

/-- Runs of deferred work that follow each other, with nothing in between that runs anything. -/
inductive Chain (R : Runner) (root : SessionId) : World → List Start → World → Prop
  | done {a b : World} : Tidied root a b → Chain R root a [] b
  | start {a b : World} {x : Start} {rest : List Start} : Tidied root a x.before → x.IsRun R root →
      Chain R root x.after rest b → Chain R root a (x :: rest) b

namespace Chain

variable {R : Runner} {root : SessionId} {a b c : World} {xs ys : List Start}

theorem after_tidied (h : Tidied root a b) (k : Chain R root b xs c) : Chain R root a xs c := by
  cases k with
  | done ht => exact .done (h.trans ht)
  | start ht hx hrest => exact .start (h.trans ht) hx hrest

theorem append (h : Chain R root a xs b) (k : Chain R root b ys c) :
    Chain R root a (xs ++ ys) c := by
  induction h with
  | done ht => exact k.after_tidied ht
  | start ht hx _ ih => exact .start ht hx (ih k)

theorem before_tidied (h : Chain R root a xs b) (k : Tidied root b c) : Chain R root a xs c := by
  rw [← List.append_nil xs]
  exact h.append (.done k)

theorem isRun_of_mem (h : Chain R root a xs b) {x : Start} (hx : x ∈ xs) : x.IsRun R root := by
  induction h with
  | done => cases hx
  | start _ isRun _ ih =>
    cases hx with
    | head => exact isRun
    | tail _ later => exact ih later

end Chain

/-! ## Generations -/

/-- The work that was started, in the order in which it was. -/
def executed (passes : List (List Start)) : List Deferred := passes.flatten.map (·.work)

/-- The first generation and, for every pass, the generation that was deferred in it. -/
def generations (root : SessionId) (first : List Deferred) :
    List (List Start) → List (List Deferred)
  | [] => [first]
  | pass :: rest => first :: generations root (pass.flatMap (·.adds root)) rest

/--
Every pass starts the work of its generation in order, and all of it unless no pass follows. The next
generation is what the pass deferred.
-/
def BreadthFirst (root : SessionId) : List Deferred → List (List Start) → Prop
  | _, [] => True
  | generation, pass :: rest =>
    pass.map (·.work) <+: generation ∧ (rest ≠ [] → pass.map (·.work) = generation) ∧
      BreadthFirst root (pass.flatMap (·.adds root)) rest

/-- All the work of all generations was started, and nothing failed. -/
def AllSucceeded (root : SessionId) (first : List Deferred) (passes : List (List Start)) : Prop :=
  executed passes = (generations root first passes).flatten ∧
    ∀ x ∈ passes.flatten, x.result = .ok ()

/-- **Breadth-first passes start a prefix of the generations**, taken one after the other. -/
theorem BreadthFirst.executed_prefix {root : SessionId} :
    ∀ {first : List Deferred} {passes : List (List Start)}, BreadthFirst root first passes →
      executed passes <+: (generations root first passes).flatten
  | _, [], _ => List.nil_prefix
  | first, pass :: rest, ⟨taken, whole, next⟩ => by
    have started : executed (pass :: rest) = pass.map (·.work) ++ executed rest := by
      simp [executed]
    rw [started, generations, List.flatten_cons]
    cases rest with
    | nil =>
      have ended : executed [] = [] := rfl
      rw [ended, List.append_nil]
      exact taken.trans (List.prefix_append _ _)
    | cons pass' rest =>
      rw [whole (List.cons_ne_nil _ _)]
      exact (List.prefix_append_right_inj _).mpr next.executed_prefix

theorem generations_flatten (root : SessionId) :
    ∀ (first : List Deferred) (passes : List (List Start)),
      (generations root first passes).flatten = first ++ passes.flatten.flatMap (·.adds root)
  | first, [] => by simp [generations]
  | first, pass :: rest => by
    rw [generations, List.flatten_cons, generations_flatten root _ rest, List.flatten_cons,
      List.flatMap_append]

/-- When all has succeeded, every work of the first generation has been started. -/
theorem AllSucceeded.exists_start {root : SessionId} {first : List Deferred}
    {passes : List (List Start)} (h : AllSucceeded root first passes) {work : Deferred}
    (hwork : work ∈ first) : ∃ x ∈ passes.flatten, x.work = work := by
  have all := h.1
  rw [generations_flatten] at all
  have started : work ∈ executed passes := by
    rw [all]
    exact List.mem_append_left _ hwork
  exact List.mem_map.mp started

theorem allSucceeded_nil {root : SessionId} {first : List Deferred} :
    AllSucceeded root first [] ↔ first = [] := by
  simp [AllSucceeded, executed, generations]

/-- To succeed with all is to succeed with a whole generation first, and then with all that follows. -/
theorem allSucceeded_cons {root : SessionId} {first : List Deferred} {pass : List Start}
    {rest : List (List Start)} (h : BreadthFirst root first (pass :: rest)) :
    AllSucceeded root first (pass :: rest) ↔
      (pass.map (·.work) = first ∧ ∀ x ∈ pass, x.result = .ok ()) ∧
        AllSucceeded root (pass.flatMap (·.adds root)) rest := by
  have started : executed (pass :: rest) = pass.map (·.work) ++ executed rest := by
    simp [executed]
  have results : (∀ x ∈ (pass :: rest).flatten, x.result = .ok ()) ↔
      (∀ x ∈ pass, x.result = .ok ()) ∧ ∀ x ∈ rest.flatten, x.result = .ok () := by
    simp only [List.flatten_cons, List.mem_append, or_imp, forall_and]
  unfold AllSucceeded
  rw [results, started, generations, List.flatten_cons]
  constructor
  · rintro ⟨all, first_ok, rest_ok⟩
    -- if no pass follows, nothing but this one can have started the whole generation
    have whole : pass.map (·.work) = first := by
      by_cases hrest : rest = []
      · have ended : executed rest = [] := by rw [hrest]; rfl
        rw [ended, List.append_nil] at all
        refine h.1.eq_of_length_le ?_
        rw [all, List.length_append]
        exact Nat.le_add_right _ _
      · exact h.2.1 hrest
    rw [whole] at all
    exact ⟨⟨whole, first_ok⟩, List.append_cancel_left all, rest_ok⟩
  · rintro ⟨⟨whole, first_ok⟩, all, rest_ok⟩
    exact ⟨by rw [whole, all], first_ok, rest_ok⟩

namespace SessionId

variable {R : Runner} {root : SessionId}

/-! ## Passes -/

/-- What a pass over a batch of work is, from the world before it to how it ends. -/
structure IsPass (R : Runner) (root : SessionId) (batch : List Deferred) (w : World)
    (pass : List Start) (r : Except Stop Unit) (w' : World) : Prop where
  chain : Chain R root w pass w'
  taken : pass.map (·.work) <+: batch
  ok_iff : r = .ok () ↔ pass.map (·.work) = batch ∧ ∀ x ∈ pass, x.result = .ok ()
  queue : r = .ok () → w'.queue root = w.queue root ++ pass.flatMap (·.adds root)
  topLevel : (w'.session root).topLevel = (w.session root).topLevel

theorem run_runDeferred_ok {work : Deferred} {w w' : World} {u : Unit}
    (h : (root.enterDeferred R work).run w = (.ok u, w')) :
    (root.runDeferred R work).run w = (.ok (), w') := by
  unfold runDeferred
  rw [Action.run_bind, Action.run_capture, h]
  rfl

/-- Work that fails takes all the work that still waits with it. -/
theorem run_runDeferred_error {work : Deferred} {w w' : World} {e : Stop}
    (h : (root.enterDeferred R work).run w = (.error e, w')) :
    (root.runDeferred R work).run w =
      (.error e, w'.updateSession root ({ · with queue := [] })) := by
  unfold runDeferred
  rw [Action.run_bind, Action.run_capture, h]
  rfl

/-- What goes on to hold while the deferred work of a root session runs, in its drain. -/
structure Persists (R : Runner) (root : SessionId) (P : World → Prop) : Prop where
  write : ∀ {w : World} {e : Entry}, (∀ r, e.deferral? r = none) → P w → P (w.write e)
  taken : ∀ {w : World}, P w → P (w.updateSession root ({ · with queue := [] }))
  deferred : ∀ {w : World} (work : Deferred), P w → P ((root.runDeferred R work).run w).2

theorem Persists.trivial (R : Runner) (root : SessionId) : Persists R root fun _ => True :=
  ⟨fun _ h => h, fun h => h, fun _ h => h⟩

theorem Persists.each {P : World → Prop} (hP : Persists R root P) :
    ∀ (batch : List Deferred) {w : World}, P w →
      P ((Action.each batch (root.runDeferred R)).run w).2
  | [], _, h => h
  | work :: rest, w, h => by
    have first := hP.deferred work h
    rw [Action.run_each_cons, Action.run_bind]
    cases hr : (root.runDeferred R work).run w with
    | mk r w' =>
    rw [hr] at first
    cases r with
    | ok u => exact hP.each rest first
    | error e => exact first

/--
**A pass starts the work of its batch in order**, up to the first that does not succeed, which is how
the pass ends then. What goes on to hold is there whenever work is started.
-/
theorem each_runDeferred (hR : ∀ task s, (R.exec task s).Keeps (Grown root)) {P : World → Prop}
    (hP : Persists R root P) :
    ∀ (batch : List Deferred) (w : World), (w.session root).topLevel.isSome → P w →
      ∃ pass, IsPass R root batch w pass ((Action.each batch (root.runDeferred R)).run w).1
          ((Action.each batch (root.runDeferred R)).run w).2 ∧
        (∀ e, ((Action.each batch (root.runDeferred R)).run w).1 = .error e →
          ∃ x ∈ pass, x.result = .error e) ∧
        ∀ x ∈ pass, P x.before
  | [], w, _, _ => ⟨[], ⟨.done .refl, List.nil_prefix, by simp [Action.run_each_nil],
      fun _ => (List.append_nil _).symm, rfl⟩, fun _ h => (by cases h), List.forall_mem_nil _⟩
  | work :: rest, w, hopen, hw => by
    obtain ⟨x, rfl, rfl, hx⟩ := exists_start hR work w hopen
    have persists := hP.deferred x.work hw
    rw [Action.run_each_cons, Action.run_bind]
    cases hr : x.result with
    | ok u =>
      have ran := run_runDeferred_ok (hx.run.trans (by rw [hr]))
      rw [ran] at persists ⊢
      have still : (x.after.session root).topLevel.isSome := by
        rw [hx.topLevel]
        exact hopen
      obtain ⟨pass, hp, failed, held⟩ := each_runDeferred hR hP rest x.after still persists
      refine ⟨x :: pass, ⟨.start .refl hx hp.chain, ?_, ?_, ?_, hp.topLevel.trans hx.topLevel⟩,
        ?_, ?_⟩
      · exact List.cons_prefix_cons.mpr ⟨rfl, hp.taken⟩
      · rw [hp.ok_iff]
        simp [hr]
      · intro hok
        rw [hp.queue hok, hx.queue, List.flatMap_cons, List.append_assoc]
      · intro e he
        obtain ⟨y, hy, hye⟩ := failed e he
        exact ⟨y, List.mem_cons_of_mem _ hy, hye⟩
      · exact List.forall_mem_cons.mpr ⟨hw, held⟩
    | error e =>
      rw [run_runDeferred_error (hx.run.trans (by rw [hr]))]
      refine ⟨[x], ⟨.start .refl hx (.done (.context .taken .refl)), ?_, ?_, ?_, ?_⟩, ?_, ?_⟩
      · exact List.cons_prefix_cons.mpr ⟨rfl, List.nil_prefix⟩
      · simp [hr]
      · exact fun h => by cases h
      · refine Eq.trans ?_ hx.topLevel
        exact World.session_updateSession_same x.after root root Session.topLevel fun _ => rfl
      · intro e' he
        cases he
        exact ⟨x, List.mem_cons_self, hr⟩
      · exact List.forall_mem_singleton.mpr hw

/-- Passes over deferred work, said of the work that waits when they begin, and how they end. -/
structure IsDrain {α : Type} (R : Runner) (root : SessionId) (first : List Deferred) (w : World)
    (passes : List (List Start)) (r : Except Stop α) (w' : World) : Prop where
  chain : Chain R root w passes.flatten w'
  breadthFirst : BreadthFirst root first passes
  allSucceeded : ∀ a, r = .ok a → AllSucceeded root first passes
  ok_of_allSucceeded : AllSucceeded root first passes → r ≠ .error .outOfFuel → ∃ a, r = .ok a

/-- One pass: what waits is taken out, and run if there is any and the limit allows the pass. -/
theorem run_runPasses_succ (origin : TargetId) (fuel n : Nat) (w : World) :
    (root.runPasses R origin (fuel + 1) n).run w =
      (if (w.queue root).isEmpty then pure n
        else if allowsPass ((w.updateSession root ({ · with queue := [] })).session
            root).config.maxPasses n then do
          World.report (.draining (n + 1) (w.queue root).length origin)
          Action.each (w.queue root) (root.runDeferred R)
          root.runPasses R origin fuel (n + 1)
        else do
          let dropped ← root.dropQueue
          World.report (.unsettled n ((w.queue root).length + dropped))
          .fail (.deferredOverflow n) : Action World Nat).run
        (w.updateSession root ({ · with queue := [] })) := by
  rw [runPasses, Action.run_bind]
  show (if (w.queue root).isEmpty then pure n else _ : Action World Nat).run _ = _
  split
  · rfl
  · rfl

/-- **Deferred work runs breadth-first**, by induction on the number of passes that are allowed. -/
theorem runPasses_breadthFirst (hR : ∀ task s, (R.exec task s).Keeps (Grown root))
    {P : World → Prop} (hP : Persists R root P) (origin : TargetId) :
    ∀ (fuel n : Nat) (w : World), (w.session root).topLevel.isSome → P w →
      ∃ passes, IsDrain R root (w.queue root) w passes
          ((root.runPasses R origin fuel n).run w).1 ((root.runPasses R origin fuel n).run w).2 ∧
        ∀ x ∈ passes.flatten, P x.before
  | 0, n, w, _, _ =>
    ⟨[], ⟨.done .refl, trivial, fun _ h => (by cases h), fun _ h => absurd rfl h⟩, List.forall_mem_nil _⟩
  | fuel + 1, n, w, hopen, hw => by
    rw [run_runPasses_succ]
    generalize hbatch : w.queue root = batch
    generalize htaken : w.updateSession root ({ · with queue := [] }) = taken
    have begun : Tidied root w taken := htaken ▸ .context .taken .refl
    have hw : P taken := htaken ▸ hP.taken hw
    have emptied : taken.session root = { w.session root with queue := [] } := by
      rw [← htaken, World.session_updateSession_self w _ (World.lt_size_of_open hopen)]
    by_cases hnone : batch.isEmpty
    · rw [if_pos hnone]
      have none_left : batch = [] := List.isEmpty_iff.mp hnone
      refine ⟨[], ⟨.done begun, trivial, fun _ _ => allSucceeded_nil.mpr none_left, ?_⟩,
        List.forall_mem_nil _⟩
      exact fun _ _ => ⟨n, rfl⟩
    · rw [if_neg hnone]
      have some_left : batch ≠ [] := fun h => hnone (List.isEmpty_iff.mpr h)
      by_cases hallowed : allowsPass (taken.session root).config.maxPasses n
      · rw [if_pos hallowed]
        let reported := taken.write (.event (.draining (n + 1) batch.length origin))
        have begun' : Tidied root w reported := begun.write _ fun _ => rfl
        have hw' : P reported := hP.write (fun _ => rfl) hw
        have still : (reported.session root).topLevel.isSome := by
          show (taken.session root).topLevel.isSome
          rw [emptied]
          exact hopen
        obtain ⟨pass, hp, -, started⟩ := each_runDeferred hR hP batch reported still hw'
        have hw'' := hP.each batch hw'
        show ∃ passes, IsDrain R root batch w passes
            ((Action.each batch (root.runDeferred R) >>= fun _ =>
              root.runPasses R origin fuel (n + 1)).run reported).1
            ((Action.each batch (root.runDeferred R) >>= fun _ =>
              root.runPasses R origin fuel (n + 1)).run reported).2 ∧
          ∀ x ∈ passes.flatten, P x.before
        rw [Action.run_bind]
        cases hr : (Action.each batch (root.runDeferred R)).run reported with
        | mk r w' =>
        rw [hr] at hp hw''
        cases r with
        | error e =>
          have bf : BreadthFirst root batch [pass] := ⟨hp.taken, fun h => absurd rfl h, trivial⟩
          refine ⟨[pass], ⟨?_, bf, fun _ h => (by cases h), ?_⟩, ?_⟩
          · rw [List.flatten_singleton]
            exact hp.chain.after_tidied begun'
          · intro all
            cases hp.ok_iff.mpr ((allSucceeded_cons bf).mp all).1
          · rw [List.flatten_singleton]
            exact started
        | ok u =>
          have open' : (w'.session root).topLevel.isSome := by
            rw [hp.topLevel]
            exact still
          -- the batch was taken out first, so what waits now is the next generation
          have next : w'.queue root = pass.flatMap (·.adds root) := by
            have none_waiting : reported.queue root = [] := congrArg Session.queue emptied
            rw [hp.queue rfl, none_waiting, List.nil_append]
          obtain ⟨passes, hd, later⟩ := runPasses_breadthFirst hR hP origin fuel (n + 1) w' open' hw''
          rw [next] at hd
          have whole := hp.ok_iff.mp rfl
          have bf : BreadthFirst root batch (pass :: passes) :=
            ⟨hp.taken, fun _ => whole.1, hd.breadthFirst⟩
          refine ⟨pass :: passes, ⟨?_, bf, ?_, ?_⟩, ?_⟩
          · rw [List.flatten_cons]
            exact (hp.chain.append hd.chain).after_tidied begun'
          · exact fun m h => (allSucceeded_cons bf).mpr ⟨whole, hd.allSucceeded m h⟩
          · exact fun all => hd.ok_of_allSucceeded ((allSucceeded_cons bf).mp all).2
          · rw [List.flatten_cons]
            exact fun x hx => (List.mem_append.mp hx).elim (started x) (later x)
      · rw [if_neg hallowed]
        -- the limit stops the passes with a generation left, none of which was started
        refine ⟨[], ⟨.done ?_, trivial, fun _ h => (by cases h), ?_⟩, List.forall_mem_nil _⟩
        · exact (begun.trans (.context .taken .refl)).write _ fun _ => rfl
        · exact fun all => absurd (allSucceeded_nil.mp all) some_left

end SessionId

/-! ## Turns -/

/-- The turn of a piece of deferred work in a pass. -/
structure Turn where
  /-- The world in which the pass began, with its work taken out of the queue. -/
  begun : World
  work : Deferred
  /-- The work of the same pass whose turn comes later. -/
  rest : List Deferred
  /-- The world in which the work is run. -/
  before : World

namespace SessionId

/-- The world in which a pass begins to run its work, which was taken out of the queue. -/
def passBegins (root : SessionId) (origin : TargetId) (passes : Nat) (w : World) : World :=
  (w.updateSession root ({ · with queue := [] })).write
    (.event (.draining (passes + 1) (w.queue root).length origin))

/-- Passes that begin in a world come to a turn: all the work before it was run with success. -/
inductive Starts (R : Runner) (root : SessionId) (origin : TargetId) : Nat → Nat → World → Turn → Prop
  | inPass {fuel passes : Nat} {w m : World} {front rest : List Deferred} {work : Deferred} :
      w.queue root = front ++ work :: rest →
      allowsPass (w.session root).config.maxPasses passes = true →
      (Action.each front (root.runDeferred R)).run (root.passBegins origin passes w) = (.ok (), m) →
      Starts R root origin (fuel + 1) passes w ⟨root.passBegins origin passes w, work, rest, m⟩
  | later {fuel passes : Nat} {w v : World} {turn : Turn} :
      w.queue root ≠ [] →
      allowsPass (w.session root).config.maxPasses passes = true →
      (Action.each (w.queue root) (root.runDeferred R)).run (root.passBegins origin passes w) =
        (.ok (), v) →
      Starts R root origin fuel (passes + 1) v turn → Starts R root origin (fuel + 1) passes w turn

/-- A pass that has work and is allowed runs it, and the next pass follows. -/
theorem run_runPasses_allowed {R : Runner} {root : SessionId} {origin : TargetId} {fuel passes : Nat}
    {w : World} (waiting : w.queue root ≠ [])
    (allowed : allowsPass (w.session root).config.maxPasses passes = true) :
    (root.runPasses R origin (fuel + 1) passes).run w =
      (Action.each (w.queue root) (root.runDeferred R) >>= fun _ =>
        root.runPasses R origin fuel (passes + 1)).run (root.passBegins origin passes w) := by
  have config : ((w.updateSession root ({ · with queue := [] })).session root).config =
      (w.session root).config :=
    w.session_updateSession_same root root Session.config fun _ => rfl
  rw [run_runPasses_succ, if_neg (by rw [List.isEmpty_iff]; exact waiting), config, if_pos allowed]
  rfl

end SessionId

end TargetBuilder
