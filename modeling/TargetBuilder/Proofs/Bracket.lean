import TargetBuilder.Proofs.Program

/-!
# Contexts as brackets

Entering a target changes the session of its root in four places only: the frame and the mark are
changed before something runs and put back after it, the queue is emptied, and a build that succeeds
makes the session active. A guarantee that gets over these four is kept by the whole of entering, with
the passes over deferred work and the contexts of the work itself.

* `Nesting.keeps_drain`: what gets over frame, mark and queue is kept by the drain.
* `Brackets.keeps_enterTarget`: from the four places to entering.
* `Brackets.of_tolerates`: a guarantee that tolerates every change of the context tolerates the
  brackets.
* `Discipline.of_root`: what programs keep of one root session.
-/

namespace TargetBuilder

open World (Calm Idle)

/-- A session that differs in its context only, or whose deferred work was taken out as well. -/
structure Session.ContextChange (x y : Session) : Prop where
  root : y.root = x.root
  config : y.config = x.config
  synthesized : y.synthesized = x.synthesized
  queue : y.queue = x.queue ∨ y.queue = []

namespace Session.ContextChange

theorem frame (x : Session) (frame : Frame) : ContextChange x { x with frame } :=
  ⟨rfl, rfl, rfl, Or.inl rfl⟩

theorem mark (x : Session) (topLevel : Option Bool) : ContextChange x { x with topLevel } :=
  ⟨rfl, rfl, rfl, Or.inl rfl⟩

theorem taken (x : Session) : ContextChange x { x with queue := [] } :=
  ⟨rfl, rfl, rfl, Or.inr rfl⟩

theorem activated (x : Session) : ContextChange x { x with lifecycle := .active } :=
  ⟨rfl, rfl, rfl, Or.inl rfl⟩

theorem leave (x : Session) (before : Option Bool) (givenUp : Bool) :
    ContextChange x (SessionId.leave before givenUp x) := by
  refine ⟨rfl, rfl, rfl, ?_⟩
  unfold SessionId.leave
  dsimp only
  split
  · exact Or.inr rfl
  · exact Or.inl rfl

end Session.ContextChange

/--
A session is changed before something runs and changed back after it. The second change has to bring
back what was seen of the session from the changed one, and to leave it alone where it was not changed:
a session that is not there is not changed the first time.
-/
theorem World.changed_back {β : Type} (p : Session → β) {w w' : World} {r s : SessionId}
    {f g : Session → Session} (size : w.sessions.size ≤ w'.sessions.size)
    (inside : p (w'.session s) = p ((w.updateSession r f).session s))
    (back : ∀ y, p y = p (f (w.session r)) → p (g y) = p (w.session r))
    (still : ∀ y, p y = p (w.session r) → p (g y) = p (w.session r)) :
    p ((w'.updateSession r g).session s) = p (w.session s) := by
  rw [session_updateSession] at inside ⊢
  by_cases hs : s = r
  · subst hs
    by_cases there : s.index < w.sessions.size
    · rw [if_pos ⟨rfl, there⟩] at inside
      rw [if_pos ⟨rfl, Nat.lt_of_lt_of_le there size⟩]
      exact back _ inside
    · rw [if_neg fun hc => there hc.2] at inside
      split
      · exact still _ inside
      · exact inside
  · rw [if_neg fun hc => hs hc.1] at inside ⊢
    exact inside

/-- A session on which a context is open is there. -/
theorem World.lt_size_of_open {w : World} {root : SessionId} (h : (w.session root).topLevel.isSome) :
    root.index < w.sessions.size := by
  rcases Nat.lt_or_ge root.index w.sessions.size with there | gone
  · exact there
  · rw [w.session_of_size_le gone] at h
    cases h

/-! ## Another frame -/

theorem World.queue_reframed (w : World) (root : SessionId) (frame : Frame) :
    (w.updateSession root ({ · with frame })).queue root = w.queue root :=
  session_updateSession_same w root root Session.queue fun _ => rfl

theorem World.topLevel_reframed (w : World) (root : SessionId) (frame : Frame) :
    ((w.updateSession root ({ · with frame })).session root).topLevel =
      (w.session root).topLevel :=
  session_updateSession_same w root root Session.topLevel fun _ => rfl

/-! ## Runs of the brackets -/

namespace SessionId

theorem run_root {s root : SessionId} {w : World} (h : w.rootOf? s = some root) :
    s.root.run w = (.ok root, w) := by
  unfold SessionId.root
  rw [Action.run_bind, Action.run_read]
  dsimp only
  rw [h]
  rfl

/-- What is left of visiting a target once it is known what encloses it. -/
theorem run_visit_ok {root : SessionId} {outermost : Bool} {t : TargetId} {w w' : World}
    {parent : Option TargetId}
    (h : root.enclosing.run (w.write (.event (.entering root t outermost))) = (.ok parent, w'))
    (provider : Option ProviderId) (block : SessionId → Action World Unit) :
    (root.visit outermost t provider block).run w =
      (((block root).run (w'.updateSession root ({ · with frame := ⟨some t, parent, provider⟩ }))).1,
        ((block root).run
          (w'.updateSession root ({ · with frame := ⟨some t, parent, provider⟩ }))).2.updateSession
            root ({ · with frame := (w'.session root).frame })) := by
  show (root.enclosing >>= fun parent =>
    root.withFrame ⟨some t, parent, provider⟩ (block root)).run _ = _
  rw [Action.run_bind, h]
  rfl

end SessionId

/-! ## Nesting -/

/-- A guarantee that a root session keeps while it does what contexts on it need. -/
structure Hosting (R : Runner) (G : World → World → Prop) (root : SessionId) : Prop
    extends Guarantee G Idle where
  enclosing : root.enclosing.Keeps G
  provide : ∀ t, (root.provide R t).Keeps G
  exec : ∀ task, (R.exec task root).Keeps G

theorem Hosting.of_calm {R : Runner} {G : World → World → Prop} (hG : Guarantee G Calm)
    (hR : R.Keeps G) (root : SessionId) : Hosting R G root where
  toGuarantee := hG.still.idle
  enclosing := .of_quiet hG (Action.calm_enclosing root)
  provide := hR.provide root
  exec task := hR.exec task root

/-- A guarantee that a root session keeps where it puts another frame or another mark in place. -/
structure Nesting (G : World → World → Prop) (root : SessionId) : Prop where
  withFrame : ∀ {α : Type} (frame : Frame) {x : Action World α}, x.Keeps G →
    (root.withFrame frame x).Keeps G
  inContext : ∀ {α : Type} {x : Bool → Action World α}, (∀ b, (x b).Keeps G) →
    (root.inContext x).Keeps G

namespace Nesting

variable {G : World → World → Prop} {root : SessionId} {R : Runner}

theorem keeps_visit (hG : Guarantee G Idle) (hn : Nesting G root) (henc : root.enclosing.Keeps G)
    (outermost : Bool) (t : TargetId) (provider : Option ProviderId)
    {block : SessionId → Action World Unit} (hblock : (block root).Keeps G) :
    (root.visit outermost t provider block).Keeps G := by
  refine .bind hG (.of_quiet hG (Action.idle_report fun _ _ h => by cases h)) fun _ => ?_
  exact .bind hG henc fun parent => hn.withFrame _ hblock

theorem keeps_enterDeferred (h : Hosting R G root) (hn : Nesting G root) (work : Deferred) :
    (root.enterDeferred R work).Keeps G := by
  have hG := h.toGuarantee
  refine .bind hG (h.provide work.target) fun provider => ?_
  refine hn.inContext fun outermost => hn.keeps_visit hG h.enclosing _ _ _ ?_
  exact .bind hG (h.exec work.task) fun _ => .pure hG _

/-! ### Where the queue is emptied, too -/

section Taken

variable {Q : World → World → Prop} (taken : ∀ w, G w (w.updateSession root ({ · with queue := [] })))

include taken

theorem keeps_takeQueue (hG : Guarantee G Q) : root.takeQueue.Keeps G :=
  .bind hG (.reads hG _) fun _ => .bind hG (.modify taken) fun _ => .pure hG _

theorem keeps_dropQueue (hG : Guarantee G Q) : root.dropQueue.Keeps G :=
  .bind hG (keeps_takeQueue taken hG) fun _ => .pure hG _

variable (h : Hosting R G root) (hn : Nesting G root)

include h hn

theorem keeps_runDeferred (work : Deferred) : (root.runDeferred R work).Keeps G := by
  have hG := h.toGuarantee
  refine .bind hG (.capture (hn.keeps_enterDeferred h work)) fun r => ?_
  split
  · exact .pure hG _
  · exact .bind hG (keeps_dropQueue taken hG) fun _ => .stop hG _

theorem keeps_runPasses (origin : TargetId) :
    ∀ fuel passes, (root.runPasses R origin fuel passes).Keeps G
  | 0, _ => .stop h.toGuarantee _
  | fuel + 1, passes => by
    have hG := h.toGuarantee
    refine .bind hG (keeps_takeQueue taken hG) fun batch => ?_
    split
    · exact .pure hG _
    · refine .bind hG (.reads hG _) fun x => ?_
      split
      · refine .bind hG (.of_quiet hG (Action.idle_report fun _ _ h => by cases h)) fun _ => ?_
        refine .bind hG (.each hG (keeps_runDeferred taken h hn) batch) fun _ => ?_
        exact keeps_runPasses origin fuel (passes + 1)
      · refine .bind hG (keeps_dropQueue taken hG) fun dropped => ?_
        refine .bind hG (.of_quiet hG (Action.idle_report fun _ _ h => by cases h)) fun _ => ?_
        exact .fail hG _

theorem keeps_drain (origin : TargetId) : (root.drain R origin).Keeps G := by
  have hG := h.toGuarantee
  refine .inSpan hG _ (.bind hG (keeps_runPasses taken h hn origin _ _) fun passes => ?_)
  split
  · exact .of_quiet hG (Action.idle_report fun _ _ h => by cases h)
  · exact .pure hG _

end Taken

end Nesting

/-! ## Brackets -/

/-- A guarantee that a root session keeps where it changes its own state while a target is entered. -/
structure Brackets (G : World → World → Prop) (root : SessionId) : Prop where
  withFrame : ∀ {α : Type} (frame : Frame) {x : Action World α}, x.Keeps G →
    (root.withFrame frame x).Keeps G
  inContext : ∀ {α : Type} {x : Bool → Action World α}, (∀ b, (x b).Keeps G) →
    (root.inContext x).Keeps G
  taken : ∀ w, G w (w.updateSession root ({ · with queue := [] }))
  activated : ∀ w, G w (w.updateSession root ({ · with lifecycle := .active }))

namespace Brackets

variable {G : World → World → Prop} {root : SessionId} {R : Runner}

theorem nesting (hb : Brackets G root) : Nesting G root := ⟨hb.withFrame, hb.inContext⟩

/-! ## From brackets to entering -/

theorem keeps_complete (h : Hosting R G root) (hb : Brackets G root) (t : TargetId)
    (result : Except Stop Unit) : (root.complete R t result).Keeps G := by
  have hG := h.toGuarantee
  unfold SessionId.complete
  split
  · exact .bind hG (Nesting.keeps_drain hb.taken h hb.nesting t) fun _ => .modify hb.activated
  · refine .bind hG (Nesting.keeps_dropQueue hb.taken hG) fun dropped => ?_
    dsimp only
    split
    · exact .bind hG (.of_quiet hG (Action.idle_report fun _ _ h => by cases h)) fun _ => .fail hG _
    · exact .fail hG _
  · exact .stop hG _

theorem keeps_build (h : Hosting R G root) (hb : Brackets G root) (t : TargetId)
    (provider : Option ProviderId) {block : SessionId → Action World Unit}
    (hblock : (block root).Keeps G) : (root.build R t provider block).Keeps G :=
  have hG := h.toGuarantee
  .inSpan hG _ (.bind hG (.capture (hb.nesting.keeps_visit hG h.enclosing _ _ _ hblock)) fun r =>
    hb.keeps_complete h t r)

/-- **Entering keeps what its brackets keep.** -/
theorem keeps_enterTarget (h : Hosting R G root) (hb : Brackets G root) (t : TargetId)
    {block : SessionId → Action World Unit} (hblock : (block root).Keeps G) :
    (root.enterTarget R t block).Keeps G := by
  have hG := h.toGuarantee
  refine .bind hG (h.provide t) fun provider => hb.inContext fun outermost => ?_
  split
  · exact hb.keeps_build h t provider hblock
  · exact hb.nesting.keeps_visit hG h.enclosing _ _ _ hblock

/-! ## Changes that a guarantee tolerates -/

/-- What holds after any change of the context of a root session holds after entering. -/
theorem of_tolerates {Q : World → World → Prop} (hG : Guarantee G Q)
    (h : ∀ w f, (∀ x, Session.ContextChange x (f x)) → G w (w.updateSession root f)) :
    Brackets G root where
  withFrame frame x hx := by
    intro w
    rw [SessionId.run_withFrame]
    have inside := hx (w.updateSession root ({ · with frame }))
    cases hr : x.run (w.updateSession root ({ · with frame })) with
    | mk r w' =>
      rw [hr] at inside
      refine hG.trans (h w _ fun x => .frame x frame) (hG.trans inside ?_)
      exact h w' _ fun x => .frame x _
  inContext {α x} hx := by
    intro w
    rw [SessionId.run_inContext]
    generalize hm : (w.session root).topLevel = before
    have inside := hx before.isNone
      (w.updateSession root ({ · with topLevel := some before.isNone }))
    cases hr : (x before.isNone).run
        (w.updateSession root ({ · with topLevel := some before.isNone })) with
    | mk r w' =>
      rw [hr] at inside
      refine hG.trans (h w _ fun x => .mark x _) (hG.trans inside ?_)
      exact h w' _ fun x => .leave x _ _
  taken w := h w _ .taken
  activated w := h w _ .activated

end Brackets

/-! ## Disciplines about one root session -/

/--
What programs keep of a root session is settled by what the session itself does, which is to nest
contexts and to build, as long as it does not matter what happens to other sessions.
-/
theorem Discipline.of_root {G : World → World → Prop} {root : SessionId} (hG : Guarantee G)
    (defer : ∀ w r d, G w (w.defer r d)) (hn : Nesting G root)
    (build : ∀ (R : Runner) (t : TargetId) (provider : Option ProviderId)
      (block : SessionId → Action World Unit), R.Keeps G → (∀ r, (block r).Keeps G) →
        ∀ w, (w.session root).topLevel = none →
          G w ((root.inContext fun _ => root.build R t provider block).run w).2)
    (other : ∀ w r f, root ≠ r → (∀ x, Session.ContextChange x (f x)) → G w (w.updateSession r f)) :
    Discipline G where
  toGuarantee := hG
  defer := defer
  enterTarget R r t block hexec hblock := by
    have hR : R.Keeps G := .of_quiet hG hexec
    by_cases hr : root = r
    · subst hr
      refine .bind hG (hR.provide root t) fun provider w => ?_
      have visited := hn.inContext (fun b => hn.keeps_visit hG.calm.still.idle
        (.of_quiet hG (Action.quiet_enclosing root)) b t provider (hblock root)) w
      have built := build R t provider block hR hblock w
      rw [SessionId.run_inContext] at visited built ⊢
      cases hm : (w.session root).topLevel with
      | none =>
        rw [hm] at built
        exact built rfl
      | some b =>
        rw [hm] at visited
        exact visited
    · exact (Brackets.of_tolerates hG fun w f hf => other w r f hr hf).keeps_enterTarget
        (.of_calm hG.calm hR r) t (hblock r)

end TargetBuilder
