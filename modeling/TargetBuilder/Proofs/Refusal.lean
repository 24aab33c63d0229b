import TargetBuilder.Proofs.ChildSession
import TargetBuilder.Proofs.RootTarget
import TargetBuilder.Proofs.SwitchingCall

/-!
# Requests that are refused

A request is resolved before anything else is done about it. It comes to a target, or there is a reason why
it does not, and then whoever made it gets the reason and finds the sessions as they were: no context is
opened, nothing is put off, and no block is run.

* `World.ComesTo`: what a request comes to.
* `requests_refused`: what is refused, and what becomes of that which is not.
-/

namespace TargetBuilder

open World (Calm Quiet)

namespace World

/-! ## What a request comes to -/

/--
The target that the look-up of a root session finds for a token: the one that has the name then, when the
session was asked for its root target.
-/
def tokenTarget? (w : World) (r : SessionId) (token : String) : Option TargetId :=
  (w.session r).config.lookup.bind fun lookup =>
    (lookup token).bind (r.ownRootTarget.run w).2.named

/--
What a request on a session comes to: a target, or the reason why there is none. Without a request it is
the target that is current, or else the root target, that is wanted.
-/
inductive ComesTo (w : World) (s : SessionId) : Option Request → Except Fault TargetId → Prop
  | rootGone {request : Option Request} : w.rootOf? s = none → ComesTo w s request (.error .noContext)
  | target {r : SessionId} (t : TargetId) : w.rootOf? s = some r →
      ComesTo w s (some (.target t)) (.ok t)
  | noRootTarget {r : SessionId} (token : String) : w.rootOf? s = some r → w.rootTarget? r = none →
      ComesTo w s (some (.token token)) (.error .noContext)
  /-- The look-up does not know the token, or there is no look-up. -/
  | unknownToken {r : SessionId} {token : String} {rootTarget : TargetId} : w.rootOf? s = some r →
      w.rootTarget? r = some rootTarget → w.tokenTarget? r token = none →
        ComesTo w s (some (.token token)) (.error (.targetNotFound token))
  | token {r : SessionId} {token : String} {rootTarget t : TargetId} : w.rootOf? s = some r →
      w.rootTarget? r = some rootTarget → w.tokenTarget? r token = some t →
        ComesTo w s (some (.token token)) (.ok t)
  | current {r : SessionId} {t : TargetId} : w.rootOf? s = some r →
      (w.session r).frame.target = some t → ComesTo w s none (.ok t)
  | rootTarget {r : SessionId} {t : TargetId} : w.rootOf? s = some r →
      (w.session r).frame.target = none → w.rootTarget? r = some t → ComesTo w s none (.ok t)
  | nowhere {r : SessionId} : w.rootOf? s = some r → (w.session r).frame.target = none →
      w.rootTarget? r = none → ComesTo w s none (.error .invalidDeferred)

/-- A request comes to one thing only. -/
theorem ComesTo.unique {w : World} {s : SessionId} {request : Option Request}
    {x y : Except Fault TargetId} (hx : w.ComesTo s request x) (hy : w.ComesTo s request y) : x = y := by
  cases hx <;> cases hy <;> simp_all

end World

namespace SessionId

variable {r s : SessionId} {w : World}

/-! ## Resolving -/

theorem run_lookUp (r : SessionId) (t : TargetId) (token : String) (w : World) :
    ((r.lookUp t token).run w).1 =
      .ok ((w.session r).config.lookup.bind fun lookup => (lookup token).bind w.named) := by
  unfold lookUp state
  rw [Action.run_bind, Action.run_reads]
  dsimp only
  cases (w.session r).config.lookup <;> rfl

/-- A root session resolves a request to what it comes to, whatever is running. -/
theorem resolveRequest_comesTo (hroot : w.rootOf? s = some r) (there : r.index < w.sessions.size)
    (request : Request) (running : List SessionId) :
    ∃ answer, w.ComesTo s (some request) answer ∧
      ((r.resolveRequest request).run { w with running }).1 = answer.mapError .fault := by
  cases request with
  | target t => exact ⟨.ok t, .target t hroot, rfl⟩
  | token token =>
    have same : World.SameTargets w { w with running } := ⟨rfl, rfl, rfl⟩
    have answered := r.ownRootTarget_fst { w with running }
    rw [rootTarget?_same same rfl rfl] at answered
    have names := (ownRootTarget_same (r := r) same rfl rfl).named
    have config := (Action.calm_ownRootTarget r { w with running }).config r there
    unfold resolveRequest
    rw [Action.run_bind]
    cases hrun : r.ownRootTarget.run { w with running } with
    | mk x w' =>
    rw [hrun] at answered names config
    cases answered
    dsimp only
    cases known : w.rootTarget? r with
    | none => exact ⟨_, .noRootTarget token hroot known, rfl⟩
    | some rootTarget =>
      have found : ((r.lookUp rootTarget token).run w').1 = .ok (w.tokenTarget? r token) := by
        rw [run_lookUp, config, names]
        rfl
      dsimp only
      rw [Action.run_bind]
      cases hlook : (r.lookUp rootTarget token).run w' with
      | mk y w'' =>
      rw [hlook] at found
      cases found
      dsimp only
      cases resolved : w.tokenTarget? r token with
      | none => exact ⟨_, .unknownToken hroot known resolved, rfl⟩
      | some t => exact ⟨_, .token hroot known resolved, rfl⟩

/-- So it does when work is put off. -/
theorem deferralTarget_comesTo (hroot : w.rootOf? s = some r) (there : r.index < w.sessions.size)
    (request : Option Request) :
    ∃ answer, w.ComesTo s request answer ∧
      ((r.deferralTarget request).run w).1 = answer.mapError .fault := by
  cases request with
  | some request => exact resolveRequest_comesTo hroot there request w.running
  | none =>
    unfold deferralTarget
    dsimp only
    rw [Action.run_bind, run_enclosing]
    cases current : (w.session r).frame.target with
    | some t => exact ⟨_, .current hroot current, rfl⟩
    | none =>
      have answered := r.ownRootTarget_fst w
      dsimp only
      cases hrun : r.ownRootTarget.run w with
      | mk x w' =>
      rw [hrun] at answered
      cases answered
      dsimp only
      cases known : w.rootTarget? r with
      | none => exact ⟨_, .nowhere hroot current known, rfl⟩
      | some t => exact ⟨_, .rootTarget hroot current known, rfl⟩

end SessionId

/-! ## What is done about requests -/

/--
An operation that is given a block is refused: whatever the block is, it fails in the same way, so the
block is not run, and the contexts of all sessions are as they were.
-/
def Refused {β α : Type} (x : β → Action World α) (w : World) (f : Fault) : Prop :=
  ∃ w', w.ContextsKept w' ∧ ∀ block, (x block).run w = (.error (.fault f), w')

/-- An operation is refused with one fault only. -/
theorem Refused.unique {β α : Type} {x : β → Action World α} {w : World} {f g : Fault} (block : β)
    (hf : Refused x w f) (hg : Refused x w g) : f = g := by
  obtain ⟨_, -, failed⟩ := hf
  obtain ⟨_, -, failed'⟩ := hg
  have same := (failed block).symm.trans (failed' block)
  injection same with same
  injection same with same
  injection same

/-- An operation that is refused if and only if its request comes to a fault is refused with that fault. -/
theorem refused_iff {β α : Type} {x : β → Action World α} {w : World} {s : SessionId}
    {request : Option Request} {answer : Except Fault TargetId} (block : β)
    (comes : w.ComesTo s request answer)
    (ends : match answer with
      | .error g => Refused x w g
      | .ok _ => ∀ g, ¬ Refused x w g) (f : Fault) :
    Refused x w f ↔ w.ComesTo s request (.error f) := by
  cases answer with
  | ok t => exact ⟨fun refused => absurd refused (ends f), fun other => by cases comes.unique other⟩
  | error g =>
    constructor
    · intro refused
      rw [refused.unique block ends]
      exact comes
    · intro same
      cases comes.unique same
      exact ends

/-- Work was put off on a root session: it comes last in the queue, and all else is as it was. -/
structure World.PutOff (a : World) (r : SessionId) (work : Deferred) (b : World) : Prop where
  queue_self : b.queue r = a.queue r ++ [work]
  queue : ∀ s, s ≠ r → b.queue s = a.queue s
  frame : ∀ s, (b.session s).frame = (a.session s).frame
  topLevel : ∀ s, (b.session s).topLevel = (a.session s).topLevel
  lifecycle : ∀ s, (b.session s).lifecycle = (a.session s).lifecycle

namespace SessionId

variable {R : Runner} {r s : SessionId} {w : World}

/-- Putting work off, when there is a root and some work. -/
theorem run_schedule (hroot : w.rootOf? s = some r) (request : Option Request) (task : Task) :
    (s.schedule request (some task)).run w =
      match (r.deferralTarget request).run w with
      | (.ok t, w') => (.ok (), w'.defer r ⟨t, task⟩)
      | (.error e, w') => (.error e, w') := by
  unfold schedule
  dsimp only
  rw [Action.run_bind, run_root hroot]
  dsimp only
  rw [Action.run_bind]
  cases (r.deferralTarget request).run w with
  | mk x w' => cases x <;> rfl

theorem putOff_defer {w' : World} (h : Quiet w w') (there : r.index < w.sessions.size) (work : Deferred) :
    w.PutOff r work (w'.defer r work) := by
  have same : ∀ {β : Type} (p : Session → β),
      (∀ x : Session, p { x with queue := x.queue ++ [work] } = p x) →
        ∀ q, p ((w'.defer r work).session q) = p (w'.session q) :=
    fun p hp q => World.session_updateSession_same _ r q p hp
  refine ⟨?_, fun q other => ?_, fun q => ?_, fun q => ?_, fun q => ?_⟩
  · have last := World.session_updateSession_self (w'.write (.event (.scheduled r work.target)))
      (fun session => { session with queue := session.queue ++ [work] })
      (Nat.lt_of_lt_of_le there h.size_le)
    exact (congrArg Session.queue last).trans (congrArg (· ++ [work]) (h.queue r))
  · have apart := World.session_updateSession_of_ne (w'.write (.event (.scheduled r work.target)))
      (fun session => { session with queue := session.queue ++ [work] }) other
    exact (congrArg Session.queue apart).trans (h.queue q)
  · exact (same (·.frame) (fun _ => rfl) q).trans (h.frame q)
  · exact (same (·.topLevel) (fun _ => rfl) q).trans (h.topLevel q)
  · exact (same (·.lifecycle) (fun _ => rfl) q).trans (h.lifecycle q)

/-- **What becomes of work that is to be put off** is what the request comes to. -/
theorem schedule_comesTo (hroot : w.rootOf? s = some r) (there : r.index < w.sessions.size)
    (request : Option Request) :
    ∃ answer w', w.ComesTo s request answer ∧ Quiet w w' ∧
      ∀ task, (s.schedule request (some task)).run w =
        match answer with
        | .ok t => (.ok (), w'.defer r ⟨t, task⟩)
        | .error f => (.error (.fault f), w') := by
  obtain ⟨answer, comes, ends⟩ := deferralTarget_comesTo hroot there request
  have quiet := (Action.calm_deferralTarget r request w).toQuiet
  cases hrun : (r.deferralTarget request).run w with
  | mk x w' =>
  rw [hrun] at ends quiet
  cases ends
  refine ⟨answer, w', comes, quiet, fun task => ?_⟩
  rw [run_schedule hroot, hrun]
  cases answer <;> rfl

/-- A block that unwinds makes the visit unwind. -/
theorem visit_unwinding (r : SessionId) (outermost : Bool) (t : TargetId) (provider : Option ProviderId)
    (w : World) : ((r.visit outermost t provider fun _ => .stop .unwound).run w).1 = .error .unwound := by
  obtain ⟨parent, w', enclosed⟩ := r.enclosing_ok (w.write (.event (.entering r t outermost)))
  rw [run_visit_ok enclosed]
  rfl

/-- So entering a target does not end with a fault if the block unwinds, not even outside any context. -/
theorem enterTarget_unwinding (r : SessionId) (t : TargetId) (w : World) (f : Fault) :
    ((r.enterTarget R t fun _ => .stop .unwound).run w).1 ≠ .error (.fault f) := by
  unfold enterTarget
  rw [Action.run_bind]
  cases hprov : (r.provide R t).run w with
  | mk x provided =>
  cases x with
  | error e =>
    intro failed
    exact provide_error hprov f (Except.error.inj failed)
  | ok provider =>
    dsimp only
    rw [run_inContext]
    dsimp only
    split
    · unfold build
      rw [World.run_inSpan, Action.run_bind, Action.run_capture, visit_unwinding]
      dsimp only
      rw [run_complete_error]
      exact fun failed => by cases failed
    · rw [visit_unwinding]
      exact fun failed => by cases failed

/-- **Putting work off is refused for what the request comes to**, and not otherwise. -/
theorem refused_schedule_iff (hroot : w.rootOf? s = some r) (there : r.index < w.sessions.size)
    (request : Option Request) (f : Fault) :
    Refused (fun task => s.schedule request (some task)) w f ↔ w.ComesTo s request (.error f) := by
  obtain ⟨answer, w', comes, quiet, run⟩ := schedule_comesTo hroot there request
  refine refused_iff .idle comes ?_ f
  cases answer with
  | error g => exact ⟨w', .of_quiet quiet rfl, run⟩
  | ok t =>
    rintro g ⟨_, -, refused⟩
    have same := (refused .idle).symm.trans (run .idle)
    cases same

/-- **So is entering a context.** -/
theorem refused_enter_iff (hroot : w.rootOf? s = some r) (there : r.index < w.sessions.size)
    (request : Request) (f : Fault) :
    Refused (s.enter R request) w f ↔ w.ComesTo s (some request) (.error f) := by
  obtain ⟨answer, comes, ends⟩ := resolveRequest_comesTo hroot there request (r :: w.running)
  have calm := Action.calm_resolveRequest r request { w with running := r :: w.running }
  have run : ∀ block, (s.enter R request block).run w =
      (World.holding r (r.resolveRequest request >>= fun t =>
        r.enterTarget R t block >>= fun _ => pure t)).run w := by
    intro block
    unfold enter
    rw [Action.run_bind, run_root hroot]
  simp only [World.run_holding, Action.run_bind] at run
  cases hrun : (r.resolveRequest request).run { w with running := r :: w.running } with
  | mk x resolved =>
  rw [hrun] at ends calm
  simp only [hrun] at run
  cases ends
  refine refused_iff (fun _ => .stop .unwound) comes ?_ f
  cases answer with
  | error g =>
    refine ⟨{ resolved with running := w.running }, ⟨?_, ?_, ?_, ?_⟩, run⟩
    · exact calm.frame
    · exact calm.topLevel
    · exact calm.queue
    · exact calm.lifecycle
  | ok t =>
    rintro g ⟨w', -, refused⟩
    have unwinding := enterTarget_unwinding (R := R) r t resolved g
    have ended := (refused fun _ => .stop .unwound).symm.trans (run _)
    dsimp only [Except.mapError] at ended
    cases hentered : (r.enterTarget R t fun _ => .stop .unwound).run resolved with
    | mk y entered =>
    rw [hentered] at ended unwinding
    cases y with
    | ok u => cases ended
    | error e =>
      cases ended
      exact unwinding rfl

/-- **So is resolving a request** that nothing is done about. -/
theorem refused_context_iff (hroot : w.rootOf? s = some r) (there : r.index < w.sessions.size)
    (request : Request) (f : Fault) :
    Refused (fun _ : Unit => s.context request) w f ↔ w.ComesTo s (some request) (.error f) := by
  obtain ⟨answer, comes, ends⟩ := resolveRequest_comesTo hroot there request w.running
  have quiet := (Action.calm_resolveRequest r request w).toQuiet
  have run : (s.context request).run w = (r.resolveRequest request).run w := by
    unfold context
    rw [Action.run_bind, run_root hroot]
  refine refused_iff () comes ?_ f
  cases hrun : (r.resolveRequest request).run w with
  | mk x w' =>
  rw [hrun] at quiet run
  have ended : x = answer.mapError .fault := by
    rw [← ends, hrun]
  subst ended
  cases answer with
  | error g => exact ⟨w', .of_quiet quiet rfl, fun _ => run⟩
  | ok t =>
    rintro g ⟨_, -, refused⟩
    have same := (refused ()).symm.trans run
    cases same

/-- When the root is gone, requests are refused before anything is asked for. -/
theorem refused_of_gone (gone : w.rootOf? s = none) {β α : Type} (block : β)
    {x : β → SessionId → Action World α} (request : Option Request) (f : Fault) :
    Refused (fun b => s.root >>= x b) w f ↔ w.ComesTo s request (.error f) :=
  refused_iff block (.rootGone gone) ⟨w, .of_quiet (Quiet.refl w) rfl, fun b => run_root_gone gone (x b)⟩ f

end SessionId

/--
**A request that cannot be honoured is refused for the reason there is, and leaves the session alone.**
Putting work off without a block is refused before anything is asked for. With a block it is refused if and
only if the request comes to a fault, with that fault, and otherwise one piece of work is appended to the queue
of the root and nothing else changes there. Entering a context, and resolving a request, are refused under
the same conditions, before the block is run.
-/
theorem requests_refused {s : SessionId} {w : World} (hw : w.WellRooted) (hs : w.IsThere s) (R : Runner) :
    (∀ request block, ((s.schedule request block).run w).1 = .error (.fault .blockRequired) ↔
      block = none) ∧
      (∀ request, (s.schedule request none).run w = (.error (.fault .blockRequired), w)) ∧
      (∀ request f, Refused (fun task => s.schedule request (some task)) w f ↔
        w.ComesTo s request (.error f)) ∧
      (∀ request task,
        match (s.schedule request (some task)).run w with
        | (.ok (), after) => ∃ r t, w.rootOf? s = some r ∧ w.ComesTo s request (.ok t) ∧
            w.PutOff r ⟨t, task⟩ after
        | (.error e, _) => ∃ f, e = .fault f ∧ w.ComesTo s request (.error f)) ∧
      (∀ request f, Refused (s.enter R request) w f ↔ w.ComesTo s (some request) (.error f)) ∧
      ∀ request f, Refused (fun _ : Unit => s.context request) w f ↔
        w.ComesTo s (some request) (.error f) := by
  have ends : ∀ request task,
      match (s.schedule request (some task)).run w with
      | (.ok (), after) => ∃ r t, w.rootOf? s = some r ∧ w.ComesTo s request (.ok t) ∧
          w.PutOff r ⟨t, task⟩ after
      | (.error e, _) => ∃ f, e = .fault f ∧ w.ComesTo s request (.error f) := by
    intro request task
    cases hroot : w.rootOf? s with
    | none =>
      have run : (s.schedule request (some task)).run w = _ := SessionId.run_root_gone hroot _
      rw [run]
      exact ⟨.noContext, rfl, .rootGone hroot⟩
    | some r =>
      have there := (hw.isRoot_of_rootOf? hs hroot).1
      obtain ⟨answer, w', comes, quiet, run⟩ := SessionId.schedule_comesTo hroot there request
      rw [run task]
      cases answer with
      | ok t => exact ⟨r, t, rfl, comes, SessionId.putOff_defer quiet there _⟩
      | error f => exact ⟨f, rfl, comes⟩
  refine ⟨fun request block => ?_, fun _ => rfl, fun request f => ?_, ends, fun request f => ?_,
    fun request f => ?_⟩
  · cases block with
    | none => exact ⟨fun _ => rfl, fun _ => rfl⟩
    | some task =>
      refine ⟨fun failed => ?_, fun h => by cases h⟩
      have ended := ends request task
      cases hrun : (s.schedule request (some task)).run w with
      | mk x after =>
        rw [hrun] at failed ended
        cases failed
        obtain ⟨f, same, comes⟩ := ended
        -- nothing comes to this fault
        cases same
        cases comes
  · cases hroot : w.rootOf? s with
    | none => exact SessionId.refused_of_gone hroot Task.idle request f
    | some r => exact SessionId.refused_schedule_iff hroot (hw.isRoot_of_rootOf? hs hroot).1 request f
  · cases hroot : w.rootOf? s with
    | none => exact SessionId.refused_of_gone hroot (fun _ => .stop .unwound) (some request) f
    | some r => exact SessionId.refused_enter_iff hroot (hw.isRoot_of_rootOf? hs hroot).1 request f
  · cases hroot : w.rootOf? s with
    | none => exact SessionId.refused_of_gone hroot () (some request) f
    | some r => exact SessionId.refused_context_iff hroot (hw.isRoot_of_rootOf? hs hroot).1 request f

namespace Script

/-- A factory that declines once and then makes spacers, and a look-up that knows a name of nothing. -/
def reluctant : ConfigSpec :=
  { ConfigSpec.empty with
    factory := some ⟨1, some "Spacer", none⟩
    lookup := some [("header", "nobody")] }

/-- A root session whose factory was not called yet. -/
def unasked : World := after (.empty .empty) reluctant []

/-- The session once its factory has declined. -/
def askedOnce : World := after (.empty .empty) reluctant [.mk .rootTarget none false]

end Script

open Script in
theorem requests_refused_reluctant :
    let s : SessionId := ⟨0⟩
    let header : Request := .token "header"
    Refused (fun task => s.schedule (some header) (some task)) unasked .noContext ∧
      Refused (s.enter (runner 1) header) askedOnce (.targetNotFound "header") ∧
      Refused (fun task => s.schedule none (some task)) unasked .invalidDeferred := by
  intro s header
  have before := requests_refused (s := s) (World.arises_after .empty reluctant []).wellRooted
    (by decide +kernel : 0 < unasked.sessions.size) (runner 1)
  have after := requests_refused (s := s)
    (World.arises_after .empty reluctant [.mk .rootTarget none false]).wellRooted
    (by decide +kernel : 0 < askedOnce.sessions.size) (runner 1)
  have current : (unasked.session s).frame.target = none := by decide +kernel
  have declined : unasked.rootTarget? s = none := by decide +kernel
  have handedOut : askedOnce.rootTarget? s = some ⟨0⟩ := by decide +kernel
  have unknown : askedOnce.tokenTarget? s "header" = none := by decide +kernel
  refine ⟨?_, ?_, ?_⟩
  · exact (before.2.2.1 _ _).mpr (.noRootTarget "header" (r := s) (by decide +kernel) declined)
  · exact (after.2.2.2.2.1 _ _).mpr (.unknownToken (r := s) (by decide +kernel) handedOut unknown)
  · exact (before.2.2.1 _ _).mpr (.nowhere (r := s) (by decide +kernel) current declined)

end TargetBuilder
