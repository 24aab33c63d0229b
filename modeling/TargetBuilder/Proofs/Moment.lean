import TargetBuilder.Proofs.Build

/-!
# Moments of runs

Code runs in the middle of other code: the block of a context while the context is open, an operation of
a provider inside a call, deferred work inside a build. A *moment* is a world in which code can find
itself, with the stack of activities that have begun and not ended. An activity begins by what the
engine does before the code inside gets to run; and while it lasts, any number of things run to their
ends, which may be whole activities themselves.

No moment is needed for the end of an activity. When it has ended, the code that began it goes on in a
moment of its own, in which all of the activity is one of the things that have run.

* `Moment.enterTarget_runsBlockAt`: entering runs the block at a moment, or does not get to it.
* `Moment.enterDeferred_runsBlockAt`: so does running deferred work.
* `Moment.startsAt`: the deferred work of a build is started at moments inside the build.
* `Moment.reaches`: a moment is reached from the start of its run.
* `Moment.running_eq`: what is running is what is held.
-/

namespace TargetBuilder

open World (Calm Grown)
open Script (runner)

/-! ## Activities -/

/-- What is configured while a block runs. -/
structure Visit where
  target : TargetId
  /-- The provider that serves the target. -/
  provider : Option ProviderId
  /-- The root target at the time when the block began. -/
  rootTarget : Option TargetId
  deriving DecidableEq

/-- Something that has begun and has not ended. -/
inductive Activity where
  /-- A session is held while something runs on it. -/
  | holding (s : SessionId)
  /-- A context is open on a root session, for a target with its provider. -/
  | context (root : SessionId) (t : TargetId) (provider : Option ProviderId)
  /-- The block of a context runs. -/
  | block (root : SessionId) (visit : Visit)
  /-- A guarded call that has marked its name. -/
  | guarded (s : SessionId) (t : TargetId) (name : String)
  /-- Something other than a call that has marked a name. -/
  | marked (t : TargetId) (name : String)
  deriving DecidableEq

/-- The session that an activity holds. -/
def Activity.held? : Activity → Option SessionId
  | holding s => some s
  | _ => none

/--
What can run to its end between two moments: orderly code, or a part of a build, which is the visit of
the outermost block or a step of the work that follows it.
-/
inductive Piece (R : Runner) : ∀ {α : Type}, Action World α → Prop
  | code {α : Type} {x : Action World α} : Orderly R x → Piece R x
  | visit (root : SessionId) (outermost : Bool) (t : TargetId) (provider : Option ProviderId)
      {block : SessionId → Action World Unit} :
      (∀ r, Orderly R (block r)) → Piece R (root.visit outermost t provider block)
  | takeQueue (root : SessionId) : Piece R root.takeQueue
  | runDeferred (root : SessionId) (work : Deferred) : Piece R (root.runDeferred R work)

/-- What nesting contexts and taking out work keep, and all orderly code, is kept between moments. -/
theorem Piece.keeps {G : World → World → Prop} {R : Runner} {α : Type} {x : Action World α}
    (hG : Guarantee G Calm) (hn : ∀ root, Nesting G root)
    (taken : ∀ w (root : SessionId), G w (w.updateSession root ({ · with queue := [] })))
    (hR : R.Keeps G)
    (hcode : ∀ {β : Type} {y : Action World β}, Orderly R y → y.Keeps G) (hx : Piece R x) :
    x.Keeps G := by
  cases hx with
  | code h => exact hcode h
  | visit root outermost t provider hblock =>
    exact (hn root).keeps_visit hG.still.idle (.of_quiet hG (Action.calm_enclosing root)) outermost t provider
      (hcode (hblock root))
  | takeQueue root => exact Nesting.keeps_takeQueue (fun w => taken w root) hG
  | runDeferred root work => exact Nesting.keeps_runDeferred (fun w => taken w root) (.of_calm hG hR root) (hn root) work

theorem Regime.keeps_piece {G : World → World → Prop} (hG : Regime G) {fuel : Nat} {α : Type}
    {x : Action World α} (hx : Piece (runner fuel) x) : x.Keeps G :=
  hx.keeps hG.toGuarantee (fun root => (hG.brackets root).nesting)
    (fun w root => (hG.brackets root).taken w) (hG.keeps_runner (Script.regime_exec hG fuel))
    (Script.keeps_orderly hG)

theorem Discipline.keeps_piece {G : World → World → Prop} (hG : Discipline G)
    (hn : ∀ root, Nesting G root)
    (taken : ∀ w (root : SessionId), G w (w.updateSession root ({ · with queue := [] })))
    {fuel : Nat} {α : Type} {x : Action World α} (hx : Piece (runner fuel) x) : x.Keeps G :=
  hx.keeps hG.toGuarantee.calm hn taken (.of_quiet hG.toGuarantee (Script.keeps_exec hG fuel))
    fun hy => Script.keeps_program hG hy.program

/-- Looking up a provider runs a factory at most, whose tasks keep every regime. -/
theorem Regime.keeps_provide {G : World → World → Prop} (hG : Regime G) (fuel : Nat)
    (root : SessionId) (t : TargetId) : (root.provide (runner fuel) t).Keeps G :=
  hG.provide (runner fuel) root t (Script.regime_exec hG fuel)

/-! ## Moments -/

/-- A world in the middle of a run, with what has begun and has not ended, the innermost first. -/
inductive World.Moment : List Activity → World → Prop
  | start (types : OrderedMap String TargetClass) : Moment [] (.empty types)
  | ran {l : List Activity} {w : World} {fuel : Nat} {α : Type} {x : Action World α} :
      Moment l w → Piece (runner fuel) x → Moment l (x.run w).2
  | holding {l : List Activity} {w : World} (s : SessionId) :
      Moment l w → Moment (.holding s :: l) { w with running := s :: w.running }
  /-- A context is opened on a session that is held: the provider was looked for, and the mark is set. -/
  | context {l : List Activity} {w w' : World} {fuel : Nat} {root : SessionId} {t : TargetId}
      {provider : Option ProviderId} :
      Moment l w → root ∈ w.running → root.index < w.sessions.size →
      (root.provide (runner fuel) t).run w = (.ok provider, w') →
      Moment (.context root t provider :: l)
        (w'.updateSession root ({ · with topLevel := some (w'.session root).topLevel.isNone }))
  /-- The block of a context begins: it is known what encloses it, and the frame is set. -/
  | block {l : List Activity} {w w' : World} {root : SessionId} {t : TargetId}
      {provider : Option ProviderId} {rootTarget parent : Option TargetId} :
      Moment (.context root t provider :: l) w →
      (root.ownRootTarget.run w).1 = .ok rootTarget →
      root.enclosing.run w = (.ok parent, w') →
      Moment (.block root ⟨t, provider, rootTarget⟩ :: .context root t provider :: l)
        (w'.updateSession root ({ · with frame := ⟨some t, parent, provider⟩ }))
  /-- A guarded call has found a target that is there, and its name was not in flight. -/
  | guarded {l : List Activity} {w w' : World} {s : SessionId} {t : TargetId} {name : String}
      {m : Metadata} :
      Moment l w → (s.receiver name).run w = (.ok t, w') → t.index < w'.targets.size →
      (w'.target t).metadata.launch? name = some m →
      Moment (.guarded s t name :: l) (w'.updateMetadata t fun _ => m)
  | marked {l : List Activity} {w : World} {t : TargetId} {name : String} {m : Metadata} :
      Moment l w → t.index < w.targets.size → (w.target t).metadata.launch? name = some m →
      Moment (.marked t name :: l) (w.updateMetadata t fun _ => m)

/-! ## Blocks run at moments -/

/--
When `x` is run from `w` with one of several blocks, the block is run from `m` and not otherwise: if two
of them do the same there, `x` does the same with either.
-/
def RunsBlockAt {ι α : Type} (x : ι → Action World α) (w : World) (block : ι → Action World Unit)
    (m : World) : Prop :=
  ∀ i j, (block i).run m = (block j).run m → (x i).run w = (x j).run w

/-- When `x` is run from `w` with one of several blocks, the block is not run. -/
def RunsNoBlock {ι α : Type} (x : ι → Action World α) (w : World) : Prop :=
  ∀ i j, (x i).run w = (x j).run w

namespace World.Moment

variable {l : List Activity} {w : World} {root : SessionId}

/-- A line that does not say that work was deferred makes no difference to where code is. -/
theorem write (h : Moment l w) {e : Entry} (he : ∀ r, e.deferral? r = none) : Moment l (w.write e) :=
  h.ran (.code (R := runner 0) (.emit he))

/-- Code that has run to its end leaves the activities as they were. -/
theorem runs (h : Moment l w) {n : Nat} {α : Type} {x : Action World α} {r : Except Stop α} {w' : World}
    (hx : Piece (runner n) x) (hr : x.run w = (r, w')) : Moment l w' := by
  have reached := h.ran hx
  rw [hr] at reached
  exact reached

/-- Opening a context, up to the line that says that its block is entered, leads to the block. -/
theorem visit (h : Moment l w) {t : TargetId} {provider : Option ProviderId}
    (hl : ∃ rest, l = .context root t provider :: rest) (outermost : Bool) :
    ∃ (rootTarget : Option TargetId) (m : World),
      Moment (.block root ⟨t, provider, rootTarget⟩ :: l) m ∧
        RunsBlockAt (root.visit outermost t provider) w (· root) m := by
  obtain ⟨rest, rfl⟩ := hl
  have told := h.write (e := .event (.entering root t outermost)) fun _ => rfl
  obtain ⟨rootTarget, w₁, resolved⟩ :=
    root.ownRootTarget_ok (w.write (.event (.entering root t outermost)))
  obtain ⟨parent, w₂, enclosed⟩ := root.enclosing_ok (w.write (.event (.entering root t outermost)))
  refine ⟨rootTarget, _, .block told (by rw [resolved]) enclosed, fun b₁ b₂ same => ?_⟩
  rw [SessionId.run_visit_ok enclosed, SessionId.run_visit_ok enclosed, same]

/-- **Entering a target runs the block at a moment**, or does not get to the block. -/
theorem enterTarget_runsBlockAt (h : Moment l w) (held : root ∈ w.running)
    (there : root.index < w.sessions.size) (fuel : Nat) (t : TargetId) :
    RunsNoBlock (root.enterTarget (runner fuel) t) w ∨
      ∃ (visit : Visit) (m : World), visit.target = t ∧
        Moment (.block root visit :: .context root t visit.provider :: l) m ∧
          RunsBlockAt (root.enterTarget (runner fuel) t) w (· root) m := by
  cases hp : (root.provide (runner fuel) t).run w with
  | mk r w₁ =>
  cases r with
  | error e =>
    refine Or.inl fun b₁ b₂ => ?_
    simp only [SessionId.enterTarget, Action.run_bind, hp]
  | ok provider =>
  have opened := Moment.context h held there hp
  cases hm : (w₁.session root).topLevel.isNone with
  | true =>
    rw [hm] at opened
    have begun := opened.write (e := .opened .build) fun _ => rfl
    obtain ⟨rootTarget, m, hmoment, hblock⟩ := begun.visit ⟨_, rfl⟩ true
    refine Or.inr ⟨⟨t, provider, rootTarget⟩, m, rfl, hmoment, fun b₁ b₂ same => ?_⟩
    simp only [SessionId.enterTarget, Action.run_bind, hp, SessionId.run_inContext, hm, if_true,
      SessionId.build, World.run_inSpan, Action.run_capture, hblock b₁ b₂ same]
  | false =>
    rw [hm] at opened
    obtain ⟨rootTarget, m, hmoment, hblock⟩ := opened.visit ⟨_, rfl⟩ false
    refine Or.inr ⟨⟨t, provider, rootTarget⟩, m, rfl, hmoment, fun b₁ b₂ same => ?_⟩
    simp only [SessionId.enterTarget, Action.run_bind, hp, SessionId.run_inContext, hm,
      Bool.false_eq_true, if_false, hblock b₁ b₂ same]

/--
**Entering a context runs the block at a moment**, with the requested target as the one that is visited, or
does not get to the block.
-/
theorem enter_runsBlockAt (h : Moment l w) {s : SessionId} (hroot : w.rootOf? s = some root)
    (there : root.index < w.sessions.size) (fuel : Nat) (request : Request) :
    RunsNoBlock (s.enter (runner fuel) request) w ∨
      ∃ (visit : Visit) (m : World),
        ((root.resolveRequest request).run { w with running := root :: w.running }).1 =
          .ok visit.target ∧
        Moment (.block root visit :: .context root visit.target visit.provider ::
          .holding root :: l) m ∧
          RunsBlockAt (s.enter (runner fuel) request) w (· root) m := by
  have held := h.holding root
  have run_of : ∀ block, (s.enter (runner fuel) request block).run w =
      (World.holding root (root.resolveRequest request >>= fun t =>
        root.enterTarget (runner fuel) t block >>= fun _ => pure t)).run w := by
    intro block
    unfold SessionId.enter
    rw [Action.run_bind, SessionId.run_root hroot]
  have resolving := Action.calm_resolveRequest root request { w with running := root :: w.running }
  have reached := held.ran (.code (R := runner 0) (.calm (Action.calm_resolveRequest root request)))
  cases hres : (root.resolveRequest request).run { w with running := root :: w.running } with
  | mk r resolved =>
  rw [hres] at resolving reached
  cases r with
  | error e =>
    refine Or.inl fun b₁ b₂ => ?_
    simp only [run_of, World.run_holding, Action.run_bind, hres]
  | ok t =>
  have still : root ∈ resolved.running := by
    rw [resolving.running]
    exact List.mem_cons_self
  rcases reached.enterTarget_runsBlockAt still (Nat.lt_of_lt_of_le there resolving.size_le) fuel t with
    blockless | ⟨visit, m, rfl, hmoment, hblock⟩
  · refine Or.inl fun b₁ b₂ => ?_
    simp only [run_of, World.run_holding, Action.run_bind, hres, blockless b₁ b₂]
  · refine Or.inr ⟨visit, m, rfl, hmoment, fun b₁ b₂ same => ?_⟩
    simp only [run_of, World.run_holding, Action.run_bind, hres, hblock b₁ b₂ same]

/-- **Running deferred work runs its task at a moment**, or does not get to the task. -/
theorem enterDeferred_runsBlockAt (h : Moment l w) (held : root ∈ w.running)
    (there : root.index < w.sessions.size) (fuel : Nat) (t : TargetId) :
    let entering := fun task => root.enterDeferred (runner fuel) ⟨t, task⟩
    RunsNoBlock entering w ∨
      ∃ (visit : Visit) (m : World), visit.target = t ∧
        Moment (.block root visit :: .context root t visit.provider :: l) m ∧
          RunsBlockAt entering w (fun task => (runner fuel).perform task root) m := by
  intro entering
  cases hp : (root.provide (runner fuel) t).run w with
  | mk r w₁ =>
  cases r with
  | error e =>
    refine Or.inl fun task₁ task₂ => ?_
    simp only [entering, SessionId.enterDeferred, Action.run_bind, hp]
  | ok provider =>
  have opened := Moment.context h held there hp
  obtain ⟨rootTarget, m, hmoment, hblock⟩ :=
    opened.visit ⟨_, rfl⟩ (w₁.session root).topLevel.isNone
  refine Or.inr ⟨⟨t, provider, rootTarget⟩, m, rfl, hmoment, fun task₁ task₂ same => ?_⟩
  simp only [entering, SessionId.enterDeferred, Action.run_bind, hp, SessionId.run_inContext,
    hblock ((runner fuel).perform task₁) ((runner fuel).perform task₂) same]

/-- What is under way goes on to be so while deferred work runs. -/
theorem persists (l : List Activity) (fuel : Nat) (root : SessionId) :
    SessionId.Persists (runner fuel) root (Moment l) where
  write he h := h.write he
  taken h := h.ran (.takeQueue (R := runner 0) root)
  deferred work h := h.ran (.runDeferred root work)

/--
**The deferred work of a build is started at moments** at which the context of the build is open, and no
block of it runs any more.
-/
theorem startsAt (h : Moment l w) {fuel : Nat} {s : SessionId} {request : Request} {t : TargetId}
    {w₀ w₁ : World} {block : SessionId → Action World Unit}
    (opens : s.Opens (runner fuel) request w root t w₀) (orderly : ∀ r, Orderly (runner fuel) (block r))
    (succeeds : (block root).run w₀ = (.ok (), w₁)) :
    ∃ (provider : Option ProviderId) (passes : List (List Start)),
      let answer := (s.enter (runner fuel) request block).run w
      Chain (runner fuel) root w₁ passes.flatten answer.2 ∧
        BreadthFirst root (w₁.queue root) passes ∧
          (∀ a, answer.1 = .ok a → AllSucceeded root (w₁.queue root) passes) ∧
            ∀ x ∈ passes.flatten, Moment (.context root t provider :: .holding root :: l) x.before := by
  have hR := Script.keeps_exec (Grown.discipline root) fuel
  obtain ⟨-, marked, -⟩ := opens.begins hR
  have ran := Script.keeps_program (Grown.discipline root) (orderly root).program w₀
  rw [succeeds] at ran
  have hopen : (w₁.session root).topLevel.isSome := by
    rw [ran.topLevel, marked]
    rfl
  obtain @⟨resolved, provided, asked, provider, parent, hroot, there, hres, hprov, hout, hask⟩ := opens
  have resolving := (Action.calm_resolveRequest root request).of_run hres
  have held : root ∈ resolved.running := by
    rw [resolving.running]
    exact List.mem_cons_self
  have reached : Moment (.holding root :: l) resolved :=
    (h.holding root).runs (n := 0) (.code (.calm (Action.calm_resolveRequest root request))) hres
  have opened := reached.context held (Nat.lt_of_lt_of_le there resolving.size_le) hprov
  rw [hout] at opened
  -- the visit of the block is one piece that has run to its end
  have visited := (opened.write (e := .opened .build) fun _ => rfl).ran
    (.visit (R := runner fuel) root true t provider orderly)
  rw [Option.isNone_none, SessionId.run_visit_ok hask, succeeds] at visited
  obtain ⟨passes, hd, started⟩ :=
    SessionId.isDrain_of_visited hR (persists _ fuel root) (w := w) (t := t) hopen visited
  refine ⟨provider, passes, ?_⟩
  rw [← SessionId.enterVia_complete, SessionId.run_enterVia_visiting hroot hres hprov hout hask, succeeds]
  exact ⟨hd.chain, hd.breadthFirst, hd.allSucceeded, started⟩

end World.Moment

/-! ## Worlds that are reached -/

namespace World

/-- Something begins that will end: a session is held, a context is opened, or a name is marked. -/
inductive Begins : World → World → Prop
  | holding (w : World) (s : SessionId) : Begins w { w with running := s :: w.running }
  | mark (w : World) (root : SessionId) :
      Begins w (w.updateSession root ({ · with topLevel := some (w.session root).topLevel.isNone }))
  | frame (w : World) (root : SessionId) (frame : Frame) :
      Begins w (w.updateSession root ({ · with frame }))
  | launched {w : World} {t : TargetId} {name : String} {m : Metadata} :
      (w.target t).metadata.launch? name = some m → Begins w (w.updateMetadata t fun _ => m)

/--
A world in which code can find itself later, while what is under way in the first world is still under
way: whatever else began before or begins now, only what begins after the first world may have ended.
-/
inductive Reaches (a : World) : World → Prop
  | refl : Reaches a a
  | ran {b : World} {fuel : Nat} {α : Type} {x : Action World α} :
      Reaches a b → Piece (runner fuel) x → Reaches a (x.run b).2
  | begins {b c : World} : Reaches a b → Begins b c → Reaches a c

namespace Reaches

variable {a b c : World}

/-- Code that has run to its end, from the world before it to how it ended. -/
theorem runs (h : Reaches a b) {n : Nat} {α : Type} {x : Action World α} {r : Except Stop α}
    (hx : Orderly (runner n) x) (hr : x.run b = (r, c)) : Reaches a c := by
  have reached := h.ran (.code hx)
  rw [hr] at reached
  exact reached

theorem write (h : Reaches a b) {e : Entry} (he : ∀ r, e.deferral? r = none) :
    Reaches a (b.write e) :=
  h.ran (.code (R := runner 0) (.emit he))

/-- What pieces of runs and beginnings keep holds between a world and all that it reaches. -/
theorem keeps {G : World → World → Prop} (refl : ∀ w, G w w)
    (trans : ∀ {a b c}, G a b → G b c → G a c)
    (piece : ∀ {fuel : Nat} {α : Type} {x : Action World α}, Piece (runner fuel) x → x.Keeps G)
    (begins : ∀ {b c}, Begins b c → G b c) (h : Reaches a b) : G a b := by
  induction h with
  | refl => exact refl a
  | ran _ hx ih => exact trans ih (piece hx _)
  | begins _ hb ih => exact trans ih (begins hb)

end Reaches

/-- Every moment of a run is reached from the world without anything. -/
theorem Moment.reaches {l : List Activity} {w : World} (h : Moment l w) :
    ∃ types, Reaches (.empty types) w := by
  induction h with
  | start types => exact ⟨types, .refl⟩
  | ran _ hx ih => exact ih.imp fun _ h => h.ran hx
  | holding s _ ih => exact ih.imp fun _ h => h.begins (.holding _ s)
  | context _ _ _ hp ih =>
    exact ih.imp fun _ h => (h.runs (.provide _ _) hp).begins (.mark _ _)
  | block _ _ henc ih =>
    exact ih.imp fun _ h =>
      (h.runs (n := 0) (.calm (Action.calm_enclosing _)) henc).begins (.frame _ _ _)
  | guarded _ hrec _ hm ih =>
    exact ih.imp fun _ h =>
      (h.runs (n := 0) (.calm (Action.calm_receiver _ _)) hrec).begins (.launched hm)
  | marked _ _ hm ih => exact ih.imp fun _ h => h.begins (.launched hm)

end World

/-- What a regime keeps when something begins is kept in all that is reached. -/
theorem Regime.keeps_reaches {G : World → World → Prop} (hG : Regime G) {a b : World}
    (begins : ∀ {b c}, World.Begins b c → G b c) (h : World.Reaches a b) : G a b :=
  h.keeps hG.refl hG.trans hG.keeps_piece begins

/-! ## What is held -/

/-- The same sessions are held. -/
def World.RunningKept (a b : World) : Prop := b.running = a.running

namespace World.RunningKept

theorem guarantee : Guarantee RunningKept Calm where
  refl _ := rfl
  trans h k := k.trans h
  quiet h := h.running

theorem regime : Regime RunningKept where
  toGuarantee := guarantee
  holding s x _ w := by
    rw [run_holding]
    rfl
  defer _ _ _ := rfl
  context _ _ _ _ := rfl
  provide R root t hR :=
    .sessionProvide_of_recording guarantee (fun _ _ _ _ => rfl) (fun _ _ _ => rfl) hR root t
  marking t name _ _ hx hy :=
    .marking guarantee.still.idle (fun _ _ _ _ _ => rfl) (fun _ _ _ => rfl) t name hx hy

end World.RunningKept

namespace World.Moment

variable {l : List Activity} {w : World}

/-- **The sessions that something is running on are those that are held.** -/
theorem running_eq (h : Moment l w) : w.running = l.filterMap Activity.held? := by
  induction h with
  | start types => rfl
  | @ran l w fuel α x _ hx ih => exact (RunningKept.regime.keeps_piece hx w).trans ih
  | @holding l w s _ ih => exact congrArg (s :: ·) ih
  | @context l w w' fuel root t provider _ _ _ hp ih =>
    exact ((RunningKept.regime.keeps_provide fuel root t).of_run hp).trans ih
  | @block l w w' root t provider rootTarget parent _ _ henc ih =>
    exact ((Action.calm_enclosing root).of_run henc).running.trans ih
  | @guarded l w w' s t name m _ hrec _ _ ih =>
    exact ((Action.calm_receiver s name).of_run hrec).running.trans ih
  | marked _ _ _ ih => exact ih

theorem held_iff (h : Moment l w) (s : SessionId) : s ∈ w.running ↔ .holding s ∈ l := by
  rw [h.running_eq, List.mem_filterMap]
  constructor
  · rintro ⟨a, ha, hs⟩
    cases a <;> cases hs
    exact ha
  · exact fun hs => ⟨_, hs, rfl⟩

/-- The block of a context runs while the context is open. -/
theorem context_of_block (h : Moment l w) {root : SessionId} {visit : Visit}
    (hb : .block root visit ∈ l) : .context root visit.target visit.provider ∈ l := by
  induction h with
  | start types => cases hb
  | ran _ _ ih => exact ih hb
  | holding s _ ih | context _ _ _ _ ih | guarded _ _ _ _ ih | marked _ _ _ ih =>
    rcases List.mem_cons.mp hb with new | old
    · cases new
    · exact List.mem_cons_of_mem _ (ih old)
  | block _ _ _ ih =>
    rcases List.mem_cons.mp hb with new | old
    · cases new
      exact List.mem_cons_of_mem _ List.mem_cons_self
    · exact List.mem_cons_of_mem _ (ih old)

/-- A root session is held while a context is open on it. -/
theorem running_of_context (h : Moment l w) {root : SessionId} {t : TargetId}
    {provider : Option ProviderId} (hc : .context root t provider ∈ l) : root ∈ w.running := by
  rw [h.held_iff]
  induction h with
  | start types => cases hc
  | ran _ _ ih => exact ih hc
  | holding s _ ih | block _ _ _ ih | guarded _ _ _ _ ih | marked _ _ _ ih =>
    rcases List.mem_cons.mp hc with new | old
    · cases new
    · exact List.mem_cons_of_mem _ (ih old)
  | context before held _ _ ih =>
    rcases List.mem_cons.mp hc with new | old
    · cases new
      exact List.mem_cons_of_mem _ ((before.held_iff _).mp held)
    · exact List.mem_cons_of_mem _ (ih old)

end World.Moment

/-! ## Moments of the sample session -/

/-- The world in which the block begins, when the session of the sample enters the spacer. -/
def spacerBlock (w : World) : World :=
  let root : SessionId := ⟨0⟩
  let asked := (root.provide (runner 1) ⟨0⟩).run { w with running := root :: w.running }
  let opened := asked.2.updateSession root
    ({ · with topLevel := some (asked.2.session root).topLevel.isNone })
  opened.updateSession root
    ({ · with frame := ⟨some ⟨0⟩, (opened.session root).frame.target, asked.1.toOption.join⟩ })

/-- What is under way in such a block, which a provider may serve. -/
def spacerActivities (provider : Option ProviderId) : List Activity :=
  [.block ⟨0⟩ ⟨⟨0⟩, provider, none⟩, .context ⟨0⟩ ⟨0⟩ provider, .holding ⟨0⟩]

theorem moment_openWithSpacer : World.Moment [] (openWithSpacer.run (.empty .empty)).2 :=
  .ran (.start _) (.code (R := runner 0)
    (.bind (.calm (Action.calm_make _ _)) fun _ => .calm (Action.calm_openRoot _)))

/-- The world in a block of the spacer. -/
def inSpacer : World := spacerBlock (openWithSpacer.run (.empty .empty)).2

theorem moment_inSpacer : World.Moment (spacerActivities none) inSpacer := by
  have held := moment_openWithSpacer.holding ⟨0⟩
  have provided : ((⟨0⟩ : SessionId).provide (runner 1) ⟨0⟩).run
      { (openWithSpacer.run (.empty .empty)).2 with running := [⟨0⟩] } = (.ok none, _) := rfl
  exact .block (.context held List.mem_cons_self (by decide) provided) rfl rfl

/-- The world in a block of the spacer inside a block of the spacer. -/
def inSpacerTwice : World := spacerBlock inSpacer

theorem moment_inSpacerTwice :
    World.Moment (spacerActivities none ++ spacerActivities none) inSpacerTwice := by
  have held := moment_inSpacer.holding ⟨0⟩
  have provided : ((⟨0⟩ : SessionId).provide (runner 1) ⟨0⟩).run
      { inSpacer with running := ⟨0⟩ :: inSpacer.running } = (.ok none, _) := rfl
  exact .block (.context held List.mem_cons_self (by decide) provided) rfl rfl

end TargetBuilder
