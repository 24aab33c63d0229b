import TargetBuilder.Proofs.Build
import TargetBuilder.Proofs.Bypass

/-!
# Faults travel unchanged

Code runs inside other code: the block of a context inside the entering, an operation of a provider inside
a call, deferred work inside the build that it was deferred in. When the innermost fails, all that is
around it ends with the very same fault, unless a statement swallows it. On the way out frames and marks
are put back, work that waits is dropped, and lines say what has ended. Nothing is run on the way out: no
operation is tried another time or in another way, and no further work is started.

One computation *leads* to another when running it comes to running the other one, with nothing in between
that handles faults.

* `Leads.fault`: a fault travels all the way that leads to it.
* `faults_travel_unchanged`: the ways there are, and that faults travel them.
-/

namespace TargetBuilder

open Script (runner)
open Candidate (isOffered direct underName refuse)

/-! ## Unwinding -/

/-- All that happened between two worlds is that code ended around a fault. -/
inductive World.Unwinds (f : Fault) (a : World) : World → Prop
  | refl : Unwinds f a a
  | closed {b : World} (span : Span) : Unwinds f a b → Unwinds f a (b.write (.closed span))
  | abandoned {b : World} (dropped : Nat) :
      Unwinds f a b → Unwinds f a (b.write (.event (.abandoned dropped f)))
  | finished {b : World} (word : String) :
      Unwinds f a b → Unwinds f a (b.write (.finished word (.error f)))
  /-- The frame of a session is put back. -/
  | reframed {b : World} (root : SessionId) (frame : Frame) :
      Unwinds f a b → Unwinds f a (b.updateSession root ({ · with frame }))
  /-- The mark of a session is put back. -/
  | left {b : World} (root : SessionId) (before : Option Bool) :
      Unwinds f a b → Unwinds f a (b.updateSession root (SessionId.leave before false))
  /-- The work that waits on a session is dropped. -/
  | dropped {b : World} (root : SessionId) :
      Unwinds f a b → Unwinds f a (b.updateSession root ({ · with queue := [] }))
  /-- A session is no longer held. -/
  | released {b : World} (running : List SessionId) :
      Unwinds f a b → Unwinds f a { b with running }
  /-- A name is no longer in flight. -/
  | landed {b : World} (t : TargetId) (name : String) :
      Unwinds f a b → Unwinds f a (b.land t name)

open World (Unwinds)

theorem World.Unwinds.trans {f : Fault} {a b c : World} (h : a.Unwinds f b) (k : b.Unwinds f c) :
    a.Unwinds f c := by
  induction k with
  | refl => exact h
  | closed span _ ih => exact ih.closed span
  | abandoned dropped _ ih => exact ih.abandoned dropped
  | finished word _ ih => exact ih.finished word
  | reframed root frame _ ih => exact ih.reframed root frame
  | left root before _ ih => exact ih.left root before
  | dropped root _ ih => exact ih.dropped root
  | released running _ ih => exact ih.released running
  | landed t name _ ih => exact ih.landed t name

/-! ## Ways through code -/

/--
Running `x` from `w` comes to running `y` from `m`, and nothing in between handles a fault. What handles
faults otherwise is passed through here in the places where the fault goes on: a build, the running of a
piece of deferred work, and a statement that does not swallow its fault.
-/
inductive Leads : ∀ {α β : Type}, Action World α → World → Action World β → World → Prop
  | here {α : Type} (x : Action World α) (w : World) : Leads x w x w
  /-- What is left to be run is the same. -/
  | same {α β : Type} {x z : Action World α} {y : Action World β} {w v m : World} :
      x.run w = z.run v → Leads z v y m → Leads x w y m
  /-- Something follows. -/
  | first {α β γ : Type} {x : Action World α} {g : α → Action World γ} {y : Action World β}
      {w m : World} : Leads x w y m → Leads (x >>= g) w y m
  /-- Something is put back afterwards. -/
  | ensuring {α β : Type} {x : Action World α} {cleanUp : Except Stop α → World → World}
      {y : Action World β} {w m : World} :
      (∀ f v, Unwinds f v (cleanUp (.error (.fault f)) v)) → Leads x w y m →
        Leads (x.ensuring cleanUp) w y m
  /-- The block of a build. -/
  | build {β : Type} {R : Runner} {root : SessionId} {t : TargetId} {provider : Option ProviderId}
      {block : SessionId → Action World Unit} {y : Action World β} {w m : World} :
      Leads (root.visit true t provider block) (w.write (.opened .build)) y m →
        Leads (root.build R t provider block) w y m
  /-- A piece of deferred work. -/
  | deferred {β : Type} {R : Runner} {root : SessionId} {work : Deferred} {y : Action World β}
      {w m : World} : Leads (root.enterDeferred R work) w y m → Leads (root.runDeferred R work) w y m
  /-- A statement that does not swallow its fault. -/
  | statement {β : Type} {st : Statement} {x : Action World Value} {y : Action World β} {w m : World} :
      st.attempt = false → Leads x w y m → Leads (Script.conclude st x) w y m

theorem SessionId.run_complete_fault (R : Runner) (root : SessionId) (t : TargetId) (f : Fault)
    (w : World) :
    ∃ w', (root.complete R t (.error (.fault f))).run w = (.error (.fault f), w') ∧ w.Unwinds f w' := by
  have dropped := Unwinds.refl.dropped (f := f) (a := w) root
  show ∃ w', ((if (w.queue root).length > 0 then _ else _ : Action World Unit).run
    (w.updateSession root ({ · with queue := [] }))) = (.error (.fault f), w') ∧ w.Unwinds f w'
  split
  · exact ⟨_, rfl, dropped.abandoned _⟩
  · exact ⟨_, rfl, dropped⟩

namespace Leads

variable {α β γ : Type} {x z : Action World α} {y : Action World β} {w v m : World} {R : Runner}
  {root : SessionId} {t : TargetId} {provider : Option ProviderId}
  {block : SessionId → Action World Unit}

/-- **A fault travels all the way that leads to it**, by induction on the way. -/
theorem fault {f : Fault} {m' : World} (h : Leads x w y m) (fails : y.run m = (.error (.fault f), m')) :
    ∃ w', x.run w = (.error (.fault f), w') ∧ m'.Unwinds f w' := by
  -- each layer ends with the fault of the one inside, and adds what it does on its way out
  induction h with
  | here x w => exact ⟨m', fails, .refl⟩
  | same same _ ih =>
    rw [same]
    exact ih fails
  | first _ ih =>
    obtain ⟨w', ran, unwinds⟩ := ih fails
    refine ⟨w', ?_, unwinds⟩
    rw [Action.run_bind, ran]
  | ensuring unwinding _ ih =>
    obtain ⟨w', ran, unwinds⟩ := ih fails
    rw [Action.run_ensuring, ran]
    exact ⟨_, rfl, unwinds.trans (unwinding f w')⟩
  | build _ ih =>
    obtain ⟨w', ran, unwinds⟩ := ih fails
    obtain ⟨w'', completed, dropped⟩ := SessionId.run_complete_fault _ _ _ f w'
    refine ⟨w''.write (.closed .build), ?_, (unwinds.trans dropped).closed .build⟩
    unfold SessionId.build
    rw [World.run_inSpan, Action.run_bind, Action.run_capture, ran]
    dsimp only
    rw [completed]
  | deferred _ ih =>
    obtain ⟨w', ran, unwinds⟩ := ih fails
    exact ⟨_, SessionId.run_runDeferred_error ran, unwinds.dropped _⟩
  | @statement _ st x _ _ _ going _ ih =>
    obtain ⟨w', ran, unwinds⟩ := ih fails
    refine ⟨w'.write (.finished st.verb.word (.error f)), ?_, unwinds.finished _⟩
    unfold Script.conclude
    rw [Action.run_bind, Action.run_capture, ran]
    dsimp only
    rw [going]
    rfl

theorem trans {δ : Type} {u : Action World δ} {v : World} (h : Leads x w y m) (k : Leads y m u v) :
    Leads x w u v := by
  induction h with
  | here x w => exact k
  | same same _ ih => exact .same same (ih k)
  | first _ ih => exact .first (ih k)
  | ensuring unwinding _ ih => exact .ensuring unwinding (ih k)
  | build _ ih => exact .build (ih k)
  | deferred _ ih => exact .deferred (ih k)
  | statement going _ ih => exact .statement going (ih k)

/-- Something came before, and succeeded. -/
theorem next {g : α → Action World γ} {a : α} (ran : x.run w = (.ok a, v))
    (h : Leads (g a) v y m) : Leads (x >>= g) w y m :=
  .same (by rw [Action.run_bind, ran]) h

/-! ## Brackets -/

theorem holding (s : SessionId) (h : Leads x { w with running := s :: w.running } y m) :
    Leads (World.holding s x) w y m := by
  refine .same (z := x.ensuring fun _ v => { v with running := w.running }) rfl (.ensuring ?_ h)
  intro f v
  exact Unwinds.refl.released _

theorem inSpan (span : Span) (h : Leads x (w.write (.opened span)) y m) :
    Leads (World.inSpan span x) w y m := by
  refine .same (z := x.ensuring fun _ v => v.write (.closed span)) rfl (.ensuring ?_ h)
  intro f v
  exact Unwinds.refl.closed span

theorem withFrame (frame : Frame) (h : Leads x (w.updateSession root ({ · with frame })) y m) :
    Leads (root.withFrame frame x) w y m := by
  refine .same (z := x.ensuring fun _ v =>
    v.updateSession root ({ · with frame := (w.session root).frame })) rfl (.ensuring ?_ h)
  intro f v
  exact Unwinds.refl.reframed root _

/-- A fault does not give a context up, so the mark is all that is put back. -/
theorem inContext {x : Bool → Action World α} {outermost : Bool}
    (hm : (w.session root).topLevel.isNone = outermost)
    (h : Leads (x outermost) (w.updateSession root ({ · with topLevel := some outermost })) y m) :
    Leads (root.inContext x) w y m := by
  subst hm
  refine .same (z := (x (w.session root).topLevel.isNone).ensuring fun r v =>
    v.updateSession root (SessionId.leave (w.session root).topLevel (SessionId.wasGivenUp r))) rfl
    (.ensuring ?_ h)
  intro f v
  exact Unwinds.refl.left root _

theorem marking {name : String} {meta' : Metadata} (fresh : (w.target t).metadata.launch? name = some meta')
    (h : Leads x (w.updateMetadata t fun _ => meta') y m) : Leads (World.marking t name x z) w y m := by
  refine .same (z := x.ensuring fun _ v => v.land t name) ?_ (.ensuring ?_ h)
  · rw [World.run_marking_fresh fresh]
    rfl
  · intro f v
    exact Unwinds.refl.landed t name

/-! ## Contexts -/

/-- Visiting always comes to the block, in a world that does not depend on the block. -/
theorem visit (root : SessionId) (outermost : Bool) (t : TargetId) (provider : Option ProviderId)
    (w : World) : ∃ m, ∀ block : SessionId → Action World Unit,
      Leads (root.visit outermost t provider block) w (block root) m := by
  obtain ⟨parent, w', enclosed⟩ :=
    root.enclosing_ok (w.write (.event (.entering root t outermost)))
  exact ⟨_, fun block => .next rfl (.next enclosed (.withFrame _ (.here _ _)))⟩

/-- Once the provider is known, running deferred work comes to its task. -/
theorem task {w' : World} (hp : (root.provide R t).run w = (.ok provider, w')) :
    ∃ m, ∀ task, Leads (root.enterDeferred R ⟨t, task⟩) w (R.exec task root) m := by
  obtain ⟨m, visited⟩ := visit root (w'.session root).topLevel.isNone t provider
    (w'.updateSession root ({ · with topLevel := some (w'.session root).topLevel.isNone }))
  refine ⟨m, fun task => .next hp (.inContext rfl ?_)⟩
  exact (visited (R.perform task)).trans (.first (.here _ _))

/-- Running deferred work comes to its task, or it ends before and does not depend on the task. -/
theorem enterDeferred (R : Runner) (root : SessionId) (t : TargetId) (w : World) :
    (∃ answer, ∀ task, (root.enterDeferred R ⟨t, task⟩).run w = answer) ∨
      ∃ m, ∀ task, Leads (root.enterDeferred R ⟨t, task⟩) w (R.exec task root) m := by
  cases hp : (root.provide R t).run w with
  | mk r w' =>
  cases r with
  | error e =>
    refine Or.inl ⟨(.error e, w'), fun task => ?_⟩
    unfold SessionId.enterDeferred
    rw [Action.run_bind, hp]
  | ok provider => exact Or.inr (task hp)

/-- Entering a target comes to its block, or it ends before and does not depend on the block. -/
theorem enterTarget (R : Runner) (root : SessionId) (t : TargetId) (w : World) :
    (∃ r w', ∀ block, (root.enterTarget R t block).run w = (.error r, w')) ∨
      ∃ m, ∀ block, Leads (root.enterTarget R t block) w (block root) m := by
  cases hp : (root.provide R t).run w with
  | mk r w₁ =>
  cases r with
  | error e =>
    refine Or.inl ⟨e, w₁, fun block => ?_⟩
    unfold SessionId.enterTarget
    rw [Action.run_bind, hp]
  | ok provider =>
    -- an outermost entering is a build; a nested one goes to its block at once
    cases hm : (w₁.session root).topLevel.isNone with
    | true =>
      obtain ⟨m, visited⟩ := visit root true t provider
        ((w₁.updateSession root ({ · with topLevel := some true })).write (.opened .build))
      exact Or.inr ⟨m, fun block => .next hp (.inContext hm (.build (visited block)))⟩
    | false =>
      obtain ⟨m, visited⟩ := visit root false t provider
        (w₁.updateSession root ({ · with topLevel := some false }))
      exact Or.inr ⟨m, fun block => .next hp (.inContext hm (visited block))⟩

/-- **Entering comes to its block**, or it ends before and does not depend on the block. -/
theorem enter (R : Runner) (s : SessionId) (request : Request) (w : World) :
    (∃ answer, ∀ block, (s.enter R request block).run w = answer) ∨
      ∃ root m, w.rootOf? s = some root ∧ ∀ block, Leads (s.enter R request block) w (block root) m := by
  cases hroot : w.rootOf? s with
  | none =>
    refine Or.inl ⟨(.error (.fault .noContext), w), fun block => ?_⟩
    unfold SessionId.enter
    rw [SessionId.root_bind, Action.run_bind, Action.run_reads, hroot]
    rfl
  | some root =>
    have run_of : ∀ block, (s.enter R request block).run w =
        (World.holding root (root.resolveRequest request >>= fun t =>
          root.enterTarget R t block >>= fun _ => pure t)).run w := by
      intro block
      unfold SessionId.enter
      rw [Action.run_bind, SessionId.run_root hroot]
    cases hres : (root.resolveRequest request).run { w with running := root :: w.running } with
    | mk r resolved =>
    cases r with
    | error e =>
      refine Or.inl ⟨(.error e, { resolved with running := w.running }), fun block => ?_⟩
      rw [run_of, World.run_holding, Action.run_bind, hres]
    | ok t =>
      rcases enterTarget R root t resolved with ⟨e, w', blockless⟩ | ⟨m, entered⟩
      · refine Or.inl ⟨(.error e, { w' with running := w.running }), fun block => ?_⟩
        rw [run_of, World.run_holding, Action.run_bind, hres]
        dsimp only
        rw [Action.run_bind, blockless]
      · refine Or.inr ⟨root, m, rfl, fun block => ?_⟩
        exact .same (run_of block) (.holding root (.next hres (.first (entered block))))

end Leads

/-! ## Deferred work -/

namespace Leads

variable {β : Type} {y : Action World β} {w v m : World} {R : Runner} {root : SessionId}

/-- A list of actions comes to each of them whose predecessors have succeeded. -/
theorem each {γ : Type} {g : γ → Action World Unit} {a : γ} {rest : List γ} :
    ∀ {front : List γ} {w : World}, (Action.each front g).run w = (.ok (), m) →
      Leads (Action.each (front ++ a :: rest) g) w (g a) m
  | [], w, ran => by
    cases ran
    exact .first (.here _ _)
  | b :: front, w, ran => by
    rw [Action.run_each_cons, Action.run_bind] at ran
    show Leads (g b >>= fun _ => Action.each (front ++ a :: rest) g) w (g a) m
    cases hb : (g b).run w with
    | mk r w' =>
    rw [hb] at ran
    cases r with
    | ok u => exact .next hb (each ran)
    | error e => cases ran

/-- Passes come to the work that they start. -/
theorem runPasses {origin : TargetId} {fuel passes : Nat} {turn : Turn}
    (h : root.Starts R origin fuel passes w turn) :
    Leads (root.runPasses R origin fuel passes) w (root.enterDeferred R turn.work) turn.before := by
  induction h with
  | @inPass fuel passes w m front rest work waiting allowed ran =>
    have some_waits : w.queue root ≠ [] := by simp [waiting]
    refine .same (SessionId.run_runPasses_allowed some_waits allowed) (.first ?_)
    rw [waiting]
    exact (each ran).trans (.deferred (.here _ _))
  | later waiting allowed ran _ ih =>
    exact .same (SessionId.run_runPasses_allowed waiting allowed) (.next ran ih)

/-- What follows the block of a build that has succeeded. -/
theorem drain {t : TargetId} {provider : Option ProviderId} {block : SessionId → Action World Unit}
    (visited : (root.visit true t provider block).run (w.write (.opened .build)) = (.ok (), v))
    (h : Leads (root.drain R t) v y m) : Leads (root.build R t provider block) w y m := by
  refine .inSpan .build (.next (a := .ok ()) (v := v) ?_ (.first h))
  rw [Action.run_capture, visited]

/-- **A build whose block has succeeded comes to the work that its passes start.** -/
theorem enterDrain {s : SessionId} {request : Request} {t : TargetId} {w₀ w₁ : World}
    (h : s.Opens R request w root t w₀) {block : SessionId → Action World Unit}
    (succeeds : (block root).run w₀ = (.ok (), w₁)) :
    ∃ frame, ∀ turn, root.Starts R t R.fuel 0
        ((w₁.updateSession root ({ · with frame })).write (.opened .drain)) turn →
      Leads (s.enter R request block) w (root.enterDeferred R turn.work) turn.before := by
  obtain @⟨resolved, provided, asked, provider, parent, hroot, there, hres, hprov, hout, hask⟩ := h
  refine ⟨(asked.session root).frame, fun turn starts => ?_⟩
  have visited := SessionId.run_visit_ok hask provider block
  rw [succeeds] at visited
  have outermost : (provided.session root).topLevel.isNone = true := by rw [hout]; rfl
  have entered : Leads (root.enterTarget R t block) resolved (root.enterDeferred R turn.work)
      turn.before :=
    .next hprov (.inContext outermost (.drain visited (.inSpan .drain (.first (runPasses starts)))))
  unfold SessionId.enter
  exact .next (SessionId.run_root hroot) (.holding root (.next hres (.first entered)))

end Leads

/-! ## Calls -/

/-- What a round of a call goes on with: a candidate, the call under another name, or a refusal. -/
def SessionId.goOn (R : Runner) (s : SessionId) (naming : Naming) (provider : Option ProviderId)
    (t : TargetId) (name : String) (args : List Value) (block : Option Task)
    (again : String → Action World Value) (found : Option Candidate) : Action World Value :=
  match found with
  | some c => c.perform R s provider t block
  | none =>
    match naming.translation? name with
    | some native => do
      World.report (.retrying name native)
      again native
    | none => refuse naming t args block name

theorem SessionId.run_goOn (R : Runner) (s : SessionId) (naming : Naming)
    (provider : Option ProviderId) (t : TargetId) (name : String) (args : List Value)
    (block : Option Task) (again : String → Action World Value) (found : Option Candidate) (w : World) :
    (s.goOn R naming provider t name args block again found).run w =
      match found with
      | some c => (c.perform R s provider t block).run w
      | none =>
        match naming.translation? name with
        | some native => (again native).run (w.write (.event (.retrying name native)))
        | none => (refuse naming t args block name).run w := by
  unfold goOn
  cases found with
  | some c => rfl
  | none => cases naming.translation? name <;> rfl

/-- What a candidate sends to the target, if it is not an operation of the provider. -/
def Way.sends? : Way → Option (String × List Value)
  | .provider _ _ _ => none
  | .target _ selector args => some (selector, args)
  | .unexposed setter args => some (setter, args)

namespace Leads

variable {R : Runner} {s : SessionId} {name : String} {args : List Value} {block : Option Task}
  {w w' : World} {t : TargetId}

/-- A call goes through rounds, one for each name. -/
theorem round (tries : Nat) (established : (s.receiver name).run w = (.ok t, w')) (named : name ≠ "") :
    Leads (s.applyWithin R args block (tries + 1) name) w
      (s.goOn R (w'.session s).config.naming (w'.providerOf? s) t name args block
        (s.applyWithin R args block tries)
        ((underName (w'.session s).config.naming args block.isSome (w'.target t) name).find?
          (isOffered ((w'.providerOf? s).map w'.provider) (w'.target t)))) w' := by
  refine .same ?_ (.here _ _)
  exact (SessionId.run_resolveOnce _ args block named established).trans
    (SessionId.run_goOn R s _ _ t name args block _ _ w').symm

theorem guarded {meta' : Metadata} (established : (s.receiver name).run w = (.ok t, w'))
    (fresh : (w'.target t).metadata.launch? name = some meta') :
    Leads (s.guardedApply R name args block) w (s.apply R name args block)
      (w'.updateMetadata t fun _ => meta') := by
  rw [SessionId.guardedApply_eq]
  exact .next established (.marking fresh (.here _ _))

/-- A call of a name that is in flight has a round of its own, past the provider. -/
theorem bypassed (established : (s.receiver name).run w = (.ok t, w'))
    (flying : w'.isInFlight t name = true) :
    Leads (s.guardedApply R name args block) w
      (s.goOn R (w'.session s).config.naming (w'.providerOf? s) t name args block
        (fun native => s.apply R native args block)
        ((direct (w'.session s).config.naming args block.isSome (w'.target t) name).find?
          (isOffered none (w'.target t))))
      (w'.note [.alreadyInFlight name, .bypassing name]) := by
  refine .same ?_ (.here _ _)
  exact (SessionId.run_guardedApply_past established flying).trans
    (SessionId.run_goOn R s _ _ t name args block _ _ _).symm

theorem retried {naming : Naming} {native : String} (h : naming.translation? name = some native)
    (provider : Option ProviderId) (again : String → Action World Value) :
    Leads (s.goOn R naming provider t name args block again none) w (again native)
      (w.write (.event (.retrying name native))) := by
  unfold SessionId.goOn
  rw [h]
  exact .next rfl (.here _ _)

/-- An operation of a provider comes to its statements. -/
theorem operation {p : ProviderId} {body : List Statement} {operation : String}
    (offered : (w.provider p).operations.get? operation = some body) :
    ∃ kept m, Leads (Capability.invoke R p operation args block) w
      (R.exec (.script body ⟨args, some kept⟩) (w.provider p).session) m := by
  let told := (w.write (.event (.providerInvoked operation args.length))).write
    (.operationRunning operation args block.isSome)
  refine ⟨⟨w.blocks.size⟩, (told.addBlock block).2, ?_⟩
  unfold Capability.invoke
  refine .next (Action.run_read w) ?_
  dsimp only
  rw [offered]
  exact .next rfl (.next rfl (.next rfl (.here _ _)))

/-- A candidate of the provider comes to its operation. -/
theorem invokes (p : ProviderId) (called operation : String) (isLongForm : Bool) :
    ∃ m, w.SameButLog m ∧
      Leads (Candidate.perform R s (some p) t block ⟨called, .provider operation args isLongForm⟩) w
        (Capability.invoke R p operation args block) m :=
  ⟨_, .write w _, .next rfl (.here _ _)⟩

/-- A candidate of the target comes to sending. -/
theorem sends {c : Candidate} {selector : String} (h : c.way.sends? = some (selector, args))
    (provider : Option ProviderId) :
    ∃ m, w.SameButLog m ∧ Leads (c.perform R s provider t block) w (World.send t selector args) m := by
  obtain ⟨called, way⟩ := c
  cases way with
  | provider _ _ _ => cases h
  | target convention _ _ =>
    cases h
    cases block with
    | some task => exact ⟨w, .refl w, .first (.here _ _)⟩
    | none => exact ⟨_, .write w _, .next rfl (.here _ _)⟩
  | unexposed _ _ =>
    cases h
    exact ⟨_, .write w _, .next rfl (.here _ _)⟩

/-- A target that a call with a block has answered is entered. -/
theorem answered {called selector : String} {convention : Convention} {task : Task} {answer : Value}
    {u : TargetId} (sent : (World.send t selector args).run w = (.ok answer, w'))
    (target : answer.target? = some u) (provider : Option ProviderId) :
    Leads (Candidate.perform R s provider t (some task) ⟨called, .target convention selector args⟩) w
      (s.enter R (.target u) (R.perform task)) (w'.write (.event (.switching selector u))) := by
  refine .next sent ?_
  unfold SessionId.enterAnswer
  rw [target]
  exact .next rfl (.first (.here _ _))

end Leads

/-! ## Statements -/

namespace Leads

variable {R : Runner} {env : Env} {s : SessionId} {st : Statement} {w w' : World}

/-- A block comes to each of its statements whose predecessors have succeeded. -/
theorem body {rest : List Statement} :
    ∀ {front : List Statement} {last v : Value} {w : World},
      (Script.runBody R env s last front).run w = (.ok v, w') →
        Leads (Script.runBody R env s last (front ++ st :: rest)) w (Script.runStatement R env s st) w'
  | [], _, _, _, ran => by
    cases ran
    exact .first (.here _ _)
  | other :: front, last, v, w, ran => by
    show Leads (Script.runStatement R env s other >>= fun v =>
      Script.runBody R env s v (front ++ st :: rest)) w _ _
    unfold Script.runBody at ran
    rw [Action.run_bind] at ran
    cases ho : (Script.runStatement R env s other).run w with
    | mk r w'' =>
    rw [ho] at ran
    cases r with
    | ok a => exact .next ho (body ran)
    | error e => cases ran

/-- A statement that names no session comes to its verb. -/
theorem verb (going : st.attempt = false) (own : st.on = none) (w : World) :
    Leads (Script.runStatement R env s st) w (Script.perform R env s st.verb) w := by
  unfold Script.runStatement
  rw [own]
  exact .statement going (.here _ _)

/-- A statement that names a session comes to its verb on that session. -/
theorem verbOn {name : String} {other : SessionId} (going : st.attempt = false)
    (on : st.on = some name) (known : w.handles.get? name = some other) :
    Leads (Script.runStatement R env s st) w (Script.perform R env other st.verb)
      { w with running := other :: w.running } := by
  have run : (Script.runStatement R env s st).run w =
      (World.holding other (Script.conclude st (Script.perform R env other st.verb))).run w := by
    unfold Script.runStatement
    rw [on]
    show (Script.runOn R env name st).run w = _
    unfold Script.runOn
    rw [Action.run_bind, Action.run_read]
    dsimp only
    rw [known]
  exact .same run (.holding other (.statement going (.here _ _)))

end Leads

/-- The operation that a verb asks of a session once its operands are known. -/
inductive Script.Asks (R : Runner) (env : Env) (s : SessionId) (w : World) :
    ∀ {β : Type}, Verb → Action World β → World → Prop
  | enter {place : Expr} {block : Block} {request : Request} {task : Option Task} {v m : World} :
      (evalRequest env place).run w = (.ok request, v) → (takeBlock env block).run v = (.ok task, m) →
        Asks R env s w (.enter place block) (s.enter R request (performBlock R task)) m
  | apply {name : String} {args : Args} {block : Block} {values : List Value} {task : Option Task}
      {v m : World} :
      (evalArgs env args).run w = (.ok values, v) → (takeBlock env block).run v = (.ok task, m) →
        Asks R env s w (.apply name args block) (s.apply R name values task) m
  | guarded {name : String} {args : Args} {block : Block} {values : List Value} {task : Option Task}
      {v m : World} :
      (evalArgs env args).run w = (.ok values, v) → (takeBlock env block).run v = (.ok task, m) →
        Asks R env s w (.guarded name args block) (s.guardedApply R name values task) m
  | call {name : String} {args : Args} {values : List Value} {m : World} :
      (evalArgs env args).run w = (.ok values, m) →
        Asks R env s w (.call name args) (s.call R name values none) m
  | callWith {name : String} {args : Args} {block : Block} {values : List Value} {task : Option Task}
      {v m : World} :
      (takeBlock env block).run w = (.ok task, v) → (evalArgs env args).run v = (.ok values, m) →
        Asks R env s w (.callWith name args block) (s.call R name values (some (task.getD .idle))) m

/-- A verb comes to the operation that it asks for. -/
theorem Leads.asked {R : Runner} {env : Env} {s : SessionId} {verb : Verb} {β : Type}
    {y : Action World β} {w m : World} (h : Script.Asks R env s w verb y m) :
    Leads (Script.perform R env s verb) w y m := by
  cases h with
  | enter place block => exact .next place (.next block (.first (.here _ _)))
  | apply args block => exact .next args (.next block (.here _ _))
  | guarded args block => exact .next args (.next block (.here _ _))
  | call args => exact .next args (.here _ _)
  | callWith block args => exact .next block (.next args (.here _ _))

/-! ## Faults travel unchanged -/

/--
The ways through contexts, deferred work, calls, operations of providers and blocks, where tasks may nest
as deep as `fuel` allows.
-/
structure Layers (fuel : Nat) : Prop where
  /-- Entering a context comes to its block, or it ends before that, whatever the block is. -/
  block : ∀ (s : SessionId) (request : Request) (w : World),
    (∃ answer, ∀ block, (s.enter (runner fuel) request block).run w = answer) ∨
      ∃ root m, w.rootOf? s = some root ∧
        ∀ block, Leads (s.enter (runner fuel) request block) w (block root) m
  /-- If the block of a build succeeds, entering comes to the work that its passes start. -/
  deferred : ∀ {s root : SessionId} {request : Request} {w w₀ w₁ : World} {t : TargetId}
    {block : SessionId → Action World Unit}, s.Opens (runner fuel) request w root t w₀ →
      (block root).run w₀ = (.ok (), w₁) →
        ∃ frame, ∀ turn, root.Starts (runner fuel) t fuel 0
            ((w₁.updateSession root ({ · with frame })).write (.opened .drain)) turn →
          Leads (s.enter (runner fuel) request block) w (root.enterDeferred (runner fuel) turn.work)
            turn.before
  /-- Deferred work comes to its task, or it ends before that, whatever the task is. -/
  task : ∀ (root : SessionId) (t : TargetId) (w : World),
    (∃ answer, ∀ task, (root.enterDeferred (runner fuel) ⟨t, task⟩).run w = answer) ∨
      ∃ m, ∀ task, Leads (root.enterDeferred (runner fuel) ⟨t, task⟩) w ((runner fuel).exec task root) m
  /-- A call is a guarded call, or it is resolved at once. -/
  call : ∀ (s : SessionId) (name : String) (args : List Value) (block : Option Task) (w : World),
    Leads (s.call (runner fuel) name args block) w
      (if isReserved name then s.guardedApply (runner fuel) name args block
        else s.apply (runner fuel) name args block) w
  /-- A guarded call marks its name and is resolved. -/
  guarded : ∀ {s : SessionId} {name : String} {w w' : World} {t : TargetId} {m : Metadata}
    (args : List Value) (block : Option Task), (s.receiver name).run w = (.ok t, w') →
      (w'.target t).metadata.launch? name = some m →
        Leads (s.guardedApply (runner fuel) name args block) w (s.apply (runner fuel) name args block)
          (w'.updateMetadata t fun _ => m)
  /-- A guarded call of a name that is in flight is resolved past the provider. -/
  bypassed : ∀ {s : SessionId} {name : String} {w w' : World} {t : TargetId} (args : List Value)
    (block : Option Task), (s.receiver name).run w = (.ok t, w') → w'.isInFlight t name = true →
      Leads (s.guardedApply (runner fuel) name args block) w
        (s.goOn (runner fuel) (w'.session s).config.naming (w'.providerOf? s) t name args block
          (fun native => s.apply (runner fuel) native args block)
          ((direct (w'.session s).config.naming args block.isSome (w'.target t) name).find?
            (isOffered none (w'.target t))))
        (w'.note [.alreadyInFlight name, .bypassing name])
  /-- A call is resolved in rounds, which choose among what provider and target offer. -/
  round : ∀ {s : SessionId} {name : String} {w w' : World} {t : TargetId} (args : List Value)
    (block : Option Task) (tries : Nat), (s.receiver name).run w = (.ok t, w') → name ≠ "" →
      Leads (s.applyWithin (runner fuel) args block (tries + 1) name) w
        (s.goOn (runner fuel) (w'.session s).config.naming (w'.providerOf? s) t name args block
          (s.applyWithin (runner fuel) args block tries)
          ((underName (w'.session s).config.naming args block.isSome (w'.target t) name).find?
            (isOffered ((w'.providerOf? s).map w'.provider) (w'.target t)))) w'
  /-- A round that finds nothing leads to the next, if the name has a translation. -/
  retried : ∀ {naming : Naming} {name native : String}, naming.translation? name = some native →
    ∀ (s : SessionId) (provider : Option ProviderId) (t : TargetId) (args : List Value)
      (block : Option Task) (again : String → Action World Value) (w : World),
      Leads (s.goOn (runner fuel) naming provider t name args block again none) w (again native)
        (w.write (.event (.retrying name native)))
  /-- Carrying out a candidate of the provider comes to the operation. -/
  invokes : ∀ (s : SessionId) (t : TargetId) (p : ProviderId) (called operation : String)
    (isLongForm : Bool) (args : List Value) (block : Option Task) (w : World),
      ∃ m, w.SameButLog m ∧
        Leads (Candidate.perform (runner fuel) s (some p) t block
          ⟨called, .provider operation args isLongForm⟩) w
          (Capability.invoke (runner fuel) p operation args block) m
  /-- An operation of a provider comes to its statements. -/
  operation : ∀ {p : ProviderId} {operation : String} {body : List Statement} {w : World}
    (args : List Value) (block : Option Task),
      (w.provider p).operations.get? operation = some body →
        ∃ kept m, Leads (Capability.invoke (runner fuel) p operation args block) w
          ((runner fuel).exec (.script body ⟨args, some kept⟩) (w.provider p).session) m
  /-- Carrying out any other candidate comes to an operation of the target. -/
  sends : ∀ {c : Candidate} {selector : String} {args : List Value},
    c.way.sends? = some (selector, args) →
      ∀ (s : SessionId) (provider : Option ProviderId) (t : TargetId) (block : Option Task) (w : World),
        ∃ m, w.SameButLog m ∧
          Leads (c.perform (runner fuel) s provider t block) w (World.send t selector args) m
  /-- In a call with a block, the target that the operation answers is entered. -/
  answered : ∀ {t u : TargetId} {called selector : String} {convention : Convention}
    {args : List Value} {answer : Value} {w w' : World},
      (World.send t selector args).run w = (.ok answer, w') → answer.target? = some u →
        ∀ (s : SessionId) (provider : Option ProviderId) (block : Task),
          Leads (Candidate.perform (runner fuel) s provider t (some block)
            ⟨called, .target convention selector args⟩) w
            (s.enter (runner fuel) (.target u) ((runner fuel).perform block))
            (w'.write (.event (.switching selector u)))
  /-- Running a block for what it does comes to its task. -/
  performed : ∀ (task : Task) (s : SessionId) (w : World),
    Leads ((runner fuel).perform task s) w ((runner fuel).exec task s) w
  /-- A block comes to each of its statements, when those before it have succeeded. -/
  statements : ∀ {env : Env} {s : SessionId} {front rest : List Statement} {st : Statement} {v : Value}
    {w w' : World}, (Script.runBody (runner fuel) env s .nil front).run w = (.ok v, w') →
      Leads ((runner (fuel + 1)).exec (.script (front ++ st :: rest) env) s) w
        (Script.runStatement (runner fuel) env s st) w'
  /-- A statement that swallows no fault comes to what it does. -/
  verb : ∀ {st : Statement}, st.attempt = false → ∀ (env : Env) (s : SessionId) (w : World),
    (st.on = none → Leads (Script.runStatement (runner fuel) env s st) w
      (Script.perform (runner fuel) env s st.verb) w) ∧
    ∀ name other, st.on = some name → w.handles.get? name = some other →
      Leads (Script.runStatement (runner fuel) env s st) w
        (Script.perform (runner fuel) env other st.verb) { w with running := other :: w.running }
  /-- A verb that enters or calls comes to the entering or the call. -/
  asked : ∀ {env : Env} {s : SessionId} {verb : Verb} {β : Type} {y : Action World β} {w m : World},
    Script.Asks (runner fuel) env s w verb y m →
      Leads (Script.perform (runner fuel) env s verb) w y m

theorem layers (fuel : Nat) : Layers fuel where
  block := Leads.enter _
  deferred opens succeeds := Leads.enterDrain opens succeeds
  task := Leads.enterDeferred _
  call _ _ _ _ _ := .same rfl (.here _ _)
  guarded _ _ := Leads.guarded
  bypassed _ _ := Leads.bypassed
  round _ _ tries := Leads.round tries
  retried h _ provider _ _ _ again _ := Leads.retried h provider again
  invokes _ _ p called operation isLongForm _ _ _ := Leads.invokes p called operation isLongForm
  operation _ _ := Leads.operation
  sends h _ provider _ _ _ := Leads.sends h provider
  answered sent target _ provider _ := Leads.answered sent target provider
  performed _ _ _ := .first (.here _ _)
  statements := Leads.body
  verb going _ _ w := ⟨fun own => Leads.verb going own w, fun _ _ => Leads.verbOn going⟩
  asked := Leads.asked

/--
**Faults travel unchanged and stop the build.** Contexts, deferred work, calls, operations of providers and
blocks nest in all these ways. Wherever the innermost code fails, all the way that leads to it fails with
the same fault, and on the way out nothing is run: code ends, and the work that waits is dropped.
-/
theorem faults_travel_unchanged (fuel : Nat) :
    Layers fuel ∧
      ∀ {α β : Type} {x : Action World α} {y : Action World β} {w m m' : World} {f : Fault},
        Leads x w y m → y.run m = (.error (.fault f), m') →
          ∃ w', x.run w = (.error (.fault f), w') ∧ m'.Unwinds f w' :=
  ⟨layers fuel, Leads.fault⟩

/-- A statement that fails for want of a context. -/
def raising : Statement := .mk (.raise .noContext) none false

/-- Defers a block that fails. -/
def deferRaising (r : SessionId) : Action World Unit :=
  r.schedule none (some (.script [raising] .empty))

theorem faults_travel_unchanged_deferRaising :
    let root : SessionId := ⟨0⟩
    let build := root.enter (runner 3) (.target ⟨0⟩) deferRaising
    let w := (openWithSpacer.run (.empty .empty)).2
    ∃ m w', Leads build w (Script.perform (runner 2) .empty root raising.verb) m ∧
      build.run w = (.error (.fault .noContext), w') ∧ m.Unwinds .noContext w' := by
  intro root build w
  have opens : root.Opens (runner 3) (.target ⟨0⟩) w root ⟨0⟩ _ :=
    .begin rfl (by decide) (Prod.ext rfl rfl) (Prod.ext rfl rfl) rfl (Prod.ext rfl rfl)
  obtain ⟨travelling, travels⟩ := faults_travel_unchanged 3
  obtain ⟨frame, comes⟩ := @travelling.deferred _ _ _ _ _ _ _ deferRaising opens (Prod.ext rfl rfl)
  let work : Deferred := ⟨⟨0⟩, .script [raising] .empty⟩
  obtain ⟨v, started, provider, v', provided⟩ : ∃ v, Leads build w (root.enterDeferred (runner 3) work) v ∧
      ∃ provider v', (root.provide (runner 3) work.target).run v = (.ok provider, v') :=
    ⟨_, comes ⟨_, work, [], _⟩ (@SessionId.Starts.inPass (runner 3) root ⟨0⟩ 2 0 _ _ [] [] work rfl rfl rfl),
      none, _, Prod.ext rfl rfl⟩
  obtain ⟨m, task⟩ := Leads.task provided
  -- the statements of the block run one level further down
  have nested := (faults_travel_unchanged 2).1
  have block : Leads ((runner 3).exec work.task root) m
      (Script.runStatement (runner 2) .empty root raising) m :=
    @Layers.statements 2 nested .empty root [] [] raising .nil m m rfl
  have verb := (nested.verb (rfl : raising.attempt = false) .empty root m).1 rfl
  have way := ((started.trans (task work.task)).trans block).trans verb
  obtain ⟨w', failed, unwinds⟩ := travels way rfl
  exact ⟨m, w', way, failed, unwinds⟩

end TargetBuilder
