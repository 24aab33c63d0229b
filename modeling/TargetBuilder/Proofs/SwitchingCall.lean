import TargetBuilder.Proofs.Build
import TargetBuilder.Proofs.LookUp
import TargetBuilder.Proofs.Still
import TargetBuilder.Proofs.Unserved

/-!
# Calls with a block

A call with a block that the provider does not serve sends one selector, and if that answers a target, it
enters the target and runs the block there. The block is handed along from one spelling to the next and
from a name to its translation, and is run once or not at all: what a call does apart from running its
block does not depend on the block.

* `SessionId.EntersOnce`: what is left of a call that has come to a target.
* `call_with_block_switches`: the ways in which a call with a block goes.
-/

namespace TargetBuilder

open World (Quiet Grown)
open Script (runner)
open Candidate (isOffered ofSpelling)

/-! ## Looking a provider up does not fail -/

/-- A fault in a factory does not keep its provider from being made. -/
theorem Capability.produce_error {R : Runner} {root : SessionId} {factory : ProviderFactory}
    {w w' : World} {e : Stop} (h : (produce R root factory).run w = (.error e, w')) :
    ∀ f, e ≠ .fault f := by
  rintro f rfl
  unfold produce runFactory at h
  obtain ⟨child, opened, hchild⟩ : ∃ child opened, (World.openChild root).run w = (.ok child, opened) :=
    ⟨_, _, rfl⟩
  rw [Action.run_bind, hchild] at h
  simp only [Action.run_bind, Action.run_attempt, SessionId.state, Action.run_reads, World.emit,
    Action.run_modify, Action.run_adding] at h
  cases hrun : (R.perform (.script factory.setup .empty) child).run _ with
  | mk r after =>
    rw [hrun] at h
    rcases r with (_ | _ | _) | _ <;> cases h

/-- So a look-up does not end with a fault. -/
theorem SessionId.provide_error {R : Runner} {root : SessionId} {t : TargetId} {w w' : World} {e : Stop}
    (h : (root.provide R t).run w = (.error e, w')) : ∀ f, e ≠ .fault f := by
  rw [run_provide, Capability.run_provide] at h
  split at h
  · cases h
  · split at h
    · cases h
    · split at h
      · cases h
      · split at h
        · cases h
        · next produced =>
          cases h
          exact Capability.produce_error produced

/-! ## Entering a target -/

namespace SessionId

variable {R : Runner} {root s : SessionId} {next : TargetId} {w : World}

/-- What follows a block that did not succeed does not make it succeed. -/
theorem run_complete_error (t : TargetId) (e : Stop) (w : World) :
    ((root.complete R t (.error e)).run w).1 = .error e := by
  cases e with
  | fault f =>
    obtain ⟨dropped, rest, hdropped⟩ : ∃ dropped rest, root.dropQueue.run w = (.ok dropped, rest) :=
      ⟨_, _, rfl⟩
    unfold complete
    dsimp only
    rw [Action.run_bind, hdropped]
    dsimp only
    by_cases waiting : dropped > 0
    · rw [if_pos waiting]
      rfl
    · rw [if_neg waiting]
      rfl
  | unwound => rfl
  | outOfFuel => rfl

/-- A build whose block has succeeded ends as the drain does. -/
theorem run_complete_ok (t : TargetId) (w : World) :
    ((root.complete R t (.ok ())).run w).1 = ((root.drain R t).run w).1 := by
  unfold complete
  rw [Action.run_bind]
  cases (root.drain R t).run w with
  | mk r w' => cases r <;> rfl

/-- A look-up that is given up is all that there is of entering. -/
theorem run_enter_error {e : Stop} {provided : World} (hroot : w.rootOf? s = some root)
    (hprov : (root.provide R next).run { w with running := root :: w.running } = (.error e, provided))
    (block : SessionId → Action World Unit) :
    (s.enter R (.target next) block).run w = (.error e, { provided with running := w.running }) := by
  unfold enter
  rw [Action.run_bind, run_root hroot]
  dsimp only
  rw [World.run_holding, Action.run_bind]
  unfold resolveRequest
  dsimp only [Action.run_pure]
  unfold enterTarget
  rw [Action.run_bind, Action.run_bind, hprov]

/-- Inside another context, all that entering does after the look-up is to visit the target. -/
theorem run_enter_nested {provider : Option ProviderId} {provided : World} {mark : Bool}
    (hroot : w.rootOf? s = some root)
    (hprov : (root.provide R next).run { w with running := root :: w.running } = (.ok provider, provided))
    (hopen : (provided.session root).topLevel = some mark)
    (block : SessionId → Action World Unit) :
    (s.enter R (.target next) block).run w =
      let visited := (root.visit false next provider block).run
        (provided.updateSession root ({ · with topLevel := some false }))
      (visited.1.map fun _ => next,
        { visited.2.updateSession root (leave (some mark) (wasGivenUp visited.1)) with
          running := w.running }) := by
  unfold enter
  rw [Action.run_bind, run_root hroot]
  dsimp only
  rw [World.run_holding, Action.run_bind]
  unfold resolveRequest
  dsimp only [Action.run_pure]
  unfold enterTarget
  rw [Action.run_bind, Action.run_bind, hprov]
  dsimp only
  rw [run_inContext, hopen]
  simp only [Option.isNone_some, Bool.false_eq_true, if_false]
  cases (root.visit false next provider block).run _ with
  | mk r w' => cases r <;> rfl

/--
The world in which the block of a context begins, after the provider of its target was found: the mark is
set, what encloses the target is asked for, and the frame is set.
-/
def begun (root : SessionId) (next : TargetId) (outermost : Bool) (provider : Option ProviderId)
    (provided : World) : World :=
  let marked := provided.updateSession root ({ · with topLevel := some outermost })
  let opened := if outermost then marked.write (.opened .build) else marked
  let asked := root.enclosing.run (opened.write (.event (.entering root next outermost)))
  asked.2.updateSession root ({ · with frame := ⟨some next, asked.1.toOption.join, provider⟩ })

/--
A call enters a target whose provider was found in `provided`: the block is run once, from the world in
which it begins, with the target as the current one, and what is left of the call does not know the
block. If the block fails, so does the call. If it succeeds, the call answers, when this was the outermost
context only if the drain succeeds, too.
-/
def EntersOnce {α : Type} (R : Runner) (root : SessionId) (next : TargetId) (outermost : Bool)
    (provider : Option ProviderId) (provided : World) (answer : α)
    (call : Task → Except Stop α × World) : Prop :=
  let m := root.begun next outermost provider provided
  (m.session root).frame.target = some next ∧
    ∃ (frame : Frame) (after : Except Stop Unit × World → Except Stop α × World),
      (∀ task, call task = after ((R.perform task root).run m)) ∧
      (∀ e x, (after (.error e, x)).1 = .error e) ∧
      ∀ x, (after (.ok (), x)).1 =
        if outermost then
          ((root.drain R next).run (x.updateSession root ({ · with frame }))).1.map fun _ => answer
        else .ok answer

variable {outermost : Bool} {provider : Option ProviderId} {provided : World}

theorem begun_eq {parent : Option TargetId} {asked : World}
    (hask : root.enclosing.run
      ((if outermost then
          (provided.updateSession root ({ · with topLevel := some outermost })).write (.opened .build)
        else provided.updateSession root ({ · with topLevel := some outermost })).write
        (.event (.entering root next outermost))) = (.ok parent, asked)) :
    root.begun next outermost provider provided =
      asked.updateSession root ({ · with frame := ⟨some next, parent, provider⟩ }) := by
  unfold begun
  simp only [hask]
  rfl

/-- What is made of the answer afterwards makes no difference to entering. -/
theorem EntersOnce.map {α β : Type} {answer : α} {call : Task → Except Stop α × World}
    (h : root.EntersOnce R next outermost provider provided answer call) (f : α → β) :
    root.EntersOnce R next outermost provider provided (f answer)
      fun task => ((call task).1.map f, (call task).2) := by
  obtain ⟨current, frame, after, runs, failed, succeeded⟩ := h
  refine ⟨current, frame, fun r => ((after r).1.map f, (after r).2), fun task => ?_, fun e x => ?_,
    fun x => ?_⟩
  · dsimp only
    rw [runs task]
  · dsimp only
    rw [failed e x]
    rfl
  · dsimp only
    rw [succeeded x]
    cases outermost with
    | false => rfl
    | true =>
      simp only [if_true]
      cases ((root.drain R next).run _).1 <;> rfl

/-- **Entering a target runs the block once**, once the provider was looked up. -/
theorem enter_entersOnce (hR : ∀ task s, (R.exec task s).Keeps (Grown root))
    (hroot : w.rootOf? s = some root) (there : root.index < w.sessions.size)
    (hprov : (root.provide R next).run { w with running := root :: w.running } =
      (.ok provider, provided)) :
    root.EntersOnce R next (w.session root).topLevel.isNone provider provided next
      fun task => (s.enter R (.target next) (R.perform task)).run w := by
  have providing := Action.Keeps.sessionProvide (Grown.guarantee root) hR root next
    { w with running := root :: w.running }
  rw [hprov] at providing
  have kept : (provided.session root).topLevel = (w.session root).topLevel := providing.topLevel
  obtain ⟨_, later, -⟩ := providing.later
  cases mark : (w.session root).topLevel with
  | none =>
    obtain ⟨parent, asked, hask⟩ := root.enclosing_ok
      (((provided.updateSession root ({ · with topLevel := some true })).write
        (.opened .build)).write (.event (.entering root next true)))
    have opens : s.Opens R (.target next) w root next _ :=
      .begin hroot there rfl hprov (kept.trans mark) hask
    obtain ⟨current, -, -⟩ := opens.begins hR
    obtain ⟨frame, hrun⟩ := opens.run_enter
    have begins : root.begun next true provider provided = _ := begun_eq hask
    rw [← begins] at current hrun
    let after : Except Stop Unit × World → Except Stop TargetId × World := fun ran =>
      let built := (root.complete R next ran.1).run (ran.2.updateSession root ({ · with frame }))
      (built.1.map fun _ => next,
        { (built.2.write (.closed .build)).updateSession root (leave none (wasGivenUp built.1)) with
          running := w.running })
    refine ⟨current, frame, after, fun task => hrun (R.perform task), fun e x => ?_, fun x => ?_⟩
    · exact congrArg (Except.map fun _ => next) (run_complete_error next e _)
    · exact congrArg (Except.map fun _ => next) (run_complete_ok next _)
  | some outer =>
    obtain ⟨parent, asked, hask⟩ := root.enclosing_ok
      ((provided.updateSession root ({ · with topLevel := some false })).write
        (.event (.entering root next false)))
    have asking := Action.quiet_enclosing root
      ((provided.updateSession root ({ · with topLevel := some false })).write
        (.event (.entering root next false)))
    rw [hask] at asking
    have there' : root.index < asked.sessions.size := by
      refine Nat.lt_of_lt_of_le (Nat.lt_of_lt_of_le there later.size_le) ?_
      exact Nat.le_trans (Nat.le_of_eq (World.size_updateSession provided root _).symm) asking.size_le
    have begins : root.begun next false provider provided = _ := begun_eq hask
    let frame := (asked.session root).frame
    let after : Except Stop Unit × World → Except Stop TargetId × World := fun ran =>
      (ran.1.map fun _ => next,
        { (ran.2.updateSession root ({ · with frame })).updateSession root
            (leave (some outer) (wasGivenUp ran.1)) with
          running := w.running })
    have current : ((root.begun next false provider provided).session root).frame.target = some next := by
      rw [begins, World.session_updateSession_self asked _ there']
    refine ⟨current, frame, after, fun task => ?_, fun e x => rfl, fun x => rfl⟩
    simp only [Option.isNone_some]
    rw [begins, run_enter_nested hroot hprov (kept.trans mark), run_visit_ok hask]

/-- **Entering an answer**: only a target is entered, once its provider was looked up. -/
theorem enterAnswer_once (hR : ∀ task s, (R.exec task s).Keeps (Grown root))
    (hroot : w.rootOf? s = some root) (there : root.index < w.sessions.size) {selector : String}
    {v : Value} {call : Task → Except Stop Value × World}
    (answers : ∀ task, call task = (s.enterAnswer R selector v task).run w) :
    match v.target? with
    | none => ∀ task, call task = (.error (.fault (.notATarget selector v.kind)), w)
    | some next =>
      let entering := w.write (.event (.switching selector next))
      match (root.provide R next).run { entering with running := root :: entering.running } with
      | (.error e, _) => (∀ f, e ≠ .fault f) ∧ ∃ x, ∀ task, call task = (.error e, x)
      | (.ok provider, provided) =>
        (∀ task, call task =
          (((s.enter R (.target next) (R.perform task)).run entering).1.map .target,
            ((s.enter R (.target next) (R.perform task)).run entering).2)) ∧
        root.EntersOnce R next (w.session root).topLevel.isNone provider provided (.target next)
          call := by
  unfold enterAnswer at answers
  cases hv : v.target? with
  | none =>
    rw [hv] at answers
    exact answers
  | some next =>
    rw [hv] at answers
    let entering := w.write (.event (.switching selector next))
    dsimp only
    have entered : ∀ task, call task =
        (((s.enter R (.target next) (R.perform task)).run entering).1.map Value.target,
          ((s.enter R (.target next) (R.perform task)).run entering).2) := by
      intro task
      refine (answers task).trans ?_
      show (s.enter R (.target next) (R.perform task) >>= fun entered =>
        pure (Value.target entered)).run entering = _
      rw [Action.run_bind]
      cases (s.enter R (.target next) (R.perform task)).run entering with
      | mk r x => cases r <;> rfl
    cases hprov : (root.provide R next).run { entering with running := root :: entering.running } with
    | mk r provided =>
    cases r with
    | error e =>
      refine ⟨provide_error hprov, { provided with running := entering.running }, fun task => ?_⟩
      rw [entered, run_enter_error (w := entering) hroot hprov]
      rfl
    | ok provider =>
      have once := (enter_entersOnce hR (w := entering) hroot there hprov).map Value.target
      rw [← funext entered] at once
      exact ⟨entered, once⟩

/-- A session with a current target has a root that is there. -/
theorem lt_size_of_target {t : TargetId} {w₁ : World} (current : s.target.run w = (.ok t, w₁))
    (hroot : w.rootOf? s = some root) : root.index < w.sessions.size := by
  rcases Nat.lt_or_ge root.index w.sessions.size with there | gone
  · exact there
  · unfold target at current
    rw [Action.run_bind, run_root hroot] at current
    dsimp only at current
    have nothing : root.enclosing.run w = (.ok none, w) := by
      have blank := w.session_of_size_le gone
      rw [run_enclosing, blank]
      show root.ownRootTarget.run w = _
      unfold ownRootTarget state
      rw [Action.run_bind, Action.run_reads]
      dsimp only
      rw [blank]
      rfl
    rw [Action.run_bind, nothing] at current
    cases current

end SessionId

/-! ## Which spelling is sent -/

/-- Among the spellings of a call with a block, what is found is the first one that is exposed. -/
theorem Candidate.find_asked_switching (naming : Naming) (args : List Value) (x : Target)
    (names : List String) :
    ((asked naming args true x names).find? (isOffered none x)).map Candidate.way =
      (Spelling.choose x ((names.filter (· ≠ "")).flatMap (Spelling.switching naming · args))).map
        fun spelling => .target spelling.convention spelling.selector spelling.args := by
  have own : ∀ name, ((direct naming args true x name).find? (isOffered none x)).map Candidate.way =
      (Spelling.choose x (Spelling.switching naming name args)).map
        fun spelling => .target spelling.convention spelling.selector spelling.args := by
    intro name
    have silent : unexposedSetter naming args true x name = [] := rfl
    unfold direct
    rw [silent, List.append_nil, find_ofTarget, if_pos rfl, Option.map_map]
    rfl
  unfold asked
  induction names.filter (· ≠ "") with
  | nil => rfl
  | cons name rest ih =>
    unfold Spelling.choose at own ih ⊢
    rw [List.flatMap_cons, List.flatMap_cons, List.find?_append, List.find?_append, Option.map_or,
      Option.map_or, ih, own]

/--
A call with a block that the provider does not serve sends the first spelling that is exposed under one
of its names and enters what that answers, or it cannot be applied.
-/
theorem SessionId.run_apply_switching {R : Runner} {s : SessionId} {name : String} {names : List String}
    {args : List Value} {w w₁ : World} {t : TargetId} (current : s.target.run w = (.ok t, w₁))
    (tries : (w₁.session s).config.naming.Tries name names) (unserved : w₁.Unserved s args names)
    (bound : names.length ≤ R.fuel) :
    ∃ events last, last ∈ names ∧ ∀ task, (s.apply R name args (some task)).run w =
      match Spelling.choose (w₁.target t) ((names.filter (· ≠ "")).flatMap
          (Spelling.switching (w₁.session s).config.naming · args)) with
      | none => (.error (.fault (.apply last (w₁.target t).type.name)), w₁.note events)
      | some spelling =>
        (World.send t spelling.selector spelling.args >>= fun answer =>
          s.enterAnswer R spelling.selector answer task).run (w₁.note events) := by
  obtain ⟨events, last, mem, ends⟩ :=
    @run_applyWithin_unserved R s args t _ _ _ tries true (w₁.target t)
  have run : ∀ task, (s.apply R name args (some task)).run w = _ :=
    fun task => ends bound current rfl ⟨_, rfl⟩ unserved (some task) rfl
  have found := Candidate.find_asked_switching (w₁.session s).config.naming args (w₁.target t) names
  cases chosen : Spelling.choose (w₁.target t) ((names.filter (· ≠ "")).flatMap
      (Spelling.switching (w₁.session s).config.naming · args)) with
  | none =>
    rw [chosen, Option.map_none, Option.map_eq_none_iff] at found
    rw [found] at run
    by_cases lost : "" ∈ names
    · simp only [if_pos lost] at run
      exact ⟨events, "", lost, run⟩
    · simp only [if_neg lost] at run
      refine ⟨events, last, mem, fun task => (run task).trans ?_⟩
      rw [← World.target_note w₁ events]
      rfl
  | some spelling =>
    rw [chosen, Option.map_some] at found
    obtain ⟨⟨native, way⟩, hc, hway⟩ := Option.map_eq_some_iff.mp found
    subst hway
    rw [hc] at run
    exact ⟨events, last, mem, run⟩

/-! ## The ways of a call with a block -/

/-- The contexts of all sessions, and what waits on them, are as they were. -/
structure World.ContextsKept (a b : World) : Prop where
  frame : ∀ s, (b.session s).frame = (a.session s).frame
  topLevel : ∀ s, (b.session s).topLevel = (a.session s).topLevel
  queue : ∀ s, (b.session s).queue = (a.session s).queue
  lifecycle : ∀ s, (b.session s).lifecycle = (a.session s).lifecycle

theorem World.ContextsKept.of_quiet {a b c : World} (h : Quiet a b) (same : c.sessions = b.sessions) :
    a.ContextsKept c := by
  have session := session_congr same
  refine ⟨fun s => ?_, fun s => ?_, fun s => ?_, fun s => ?_⟩ <;> rw [session]
  · exact h.frame s
  · exact h.topLevel s
  · exact h.queue s
  · exact h.lifecycle s

/-- What is noted and sent for a call of a session leaves the contexts as they were, and its root there. -/
theorem World.contextsKept_send {s root : SessionId} {w w₁ : World} {t : TargetId}
    (current : s.target.run w = (.ok t, w₁)) (hroot : w.rootOf? s = some root) (events : List Event)
    (selector : String) (args : List Value) :
    let sent := (World.send t selector args).run (w₁.note events)
    w.ContextsKept sent.2 ∧ sent.2.rootOf? s = some root ∧ root.index < sent.2.sessions.size := by
  intro sent
  have quiet : Quiet w w₁ := by
    have asked := (Action.calm_target s w).toQuiet
    rwa [current] at asked
  obtain ⟨log, noted⟩ := w₁.sameButLog_note events
  have still := Action.still_send t selector args (w₁.note events)
  have same : sent.2.sessions = w₁.sessions := by
    rw [still.sessions, noted]
  have hroot₁ : w₁.rootOf? s = some root := SessionId.rootOf?_target current hroot
  refine ⟨.of_quiet quiet same, ?_, ?_⟩
  · rw [still.rootOf?_eq, noted]
    exact hroot₁
  · rw [same]
    exact Nat.lt_of_lt_of_le (SessionId.lt_size_of_target current hroot) quiet.size_le

/--
**A call with a block runs its block once, in the right place, or not at all.** Take a session with a
current target, and a provider that offers none of the names that the call is tried by. If the target
exposes none of the spellings of those names, nothing is sent and the call cannot be applied. Otherwise the
first spelling that it exposes is sent. If that fails, so does the call; if it answers something that is no
target, the call fails with the selector that was sent and the kind of the answer. In all these cases the
block is not run, and the contexts of all sessions are as they were. If it answers a target, what is left
of the call is entering it from the world after that, and nothing else is sent for the call: the provider
of the target is looked up, the block is run once from the world in which it begins then, and the call
answers the target, unless the block fails, or the drain after it. All that can come between is that the
look-up is given up, which is no fault; so is the call then, and the block is not run.
-/
theorem call_with_block_switches {fuel : Nat} {s root : SessionId} {name : String}
    {names : List String} {args : List Value} {w w₁ : World} {t : TargetId}
    (current : s.target.run w = (.ok t, w₁)) (hroot : w.rootOf? s = some root)
    (tries : (w₁.session s).config.naming.Tries name names) (unserved : w₁.Unserved s args names)
    (bound : names.length ≤ fuel) :
    let call := fun task => (s.apply (runner fuel) name args (some task)).run w
    let spellings := (names.filter (· ≠ "")).flatMap
      (Spelling.switching (w₁.session s).config.naming · args)
    ∃ events,
      match Spelling.choose (w₁.target t) spellings with
      | none =>
        w.ContextsKept (w₁.note events) ∧ ∃ last ∈ names, ∀ task, call task =
          (.error (.fault (.apply last (w₁.target t).type.name)), w₁.note events)
      | some spelling =>
        let sent := (World.send t spelling.selector spelling.args).run (w₁.note events)
        match sent.1 with
        | .error e => w.ContextsKept sent.2 ∧ ∀ task, call task = (.error e, sent.2)
        | .ok v =>
          match v.target? with
          | none =>
            w.ContextsKept sent.2 ∧ ∀ task, call task =
              (.error (.fault (.notATarget spelling.selector v.kind)), sent.2)
          | some next =>
            let entering := sent.2.write (.event (.switching spelling.selector next))
            match (root.provide (runner fuel) next).run
                { entering with running := root :: entering.running } with
            | (.error e, _) => (∀ f, e ≠ .fault f) ∧ ∃ x, ∀ task, call task = (.error e, x)
            | (.ok provider, provided) =>
              (∀ task,
                let entered := (s.enter (runner fuel) (.target next) ((runner fuel).perform task)).run
                  entering
                call task = (entered.1.map .target, entered.2)) ∧
              root.EntersOnce (runner fuel) next (w.session root).topLevel.isNone provider provided
                (.target next) call := by
  intro call spellings
  obtain ⟨events, last, mem, run⟩ :=
    SessionId.run_apply_switching (R := runner fuel) current tries unserved bound
  refine ⟨events, ?_⟩
  cases chosen : Spelling.choose (w₁.target t) spellings with
  | none =>
    simp only [spellings] at chosen
    rw [chosen] at run
    have quiet : Quiet w w₁ := by
      have asked := (Action.calm_target s w).toQuiet
      rwa [current] at asked
    obtain ⟨log, noted⟩ := w₁.sameButLog_note events
    exact ⟨.of_quiet quiet (by rw [noted]), last, mem, run⟩
  | some spelling =>
    simp only [spellings] at chosen
    rw [chosen] at run
    simp only [Action.run_bind] at run
    obtain ⟨kept, hroot', there⟩ :=
      World.contextsKept_send current hroot events spelling.selector spelling.args
    cases hsent : (World.send t spelling.selector spelling.args).run (w₁.note events) with
    | mk r x =>
    rw [hsent] at kept hroot' there
    simp only [hsent] at run ⊢
    cases r with
    | error e => exact ⟨kept, run⟩
    | ok v =>
      have answered := SessionId.enterAnswer_once (R := runner fuel)
        (Script.keeps_exec (Grown.discipline root) fuel) hroot' there run
      rw [kept.topLevel] at answered
      cases hv : v.target? with
      | none =>
        simp only [hv] at answered ⊢
        exact ⟨kept, answered⟩
      | some next =>
        simp only [hv] at answered ⊢
        exact answered

/-- A class whose targets answer the second target of the world. -/
def innerClass : TargetClass :=
  { Catalogue.spacer with interface := .constants (.ofList [("inner", .target ⟨1⟩)]) }

/-- A world with a root session on such a target, and a spacer, which the target answers. -/
def innerWorld : World :=
  ((rootedWorld innerClass).addTarget
    (World.instantiate Catalogue.spacer (.catalogue "Spacer") "b" Catalogue.spacer.initial)).2

/-- The call switches from the first target to the second, which is the current one in the block. -/
theorem call_with_block_switches_inner :
    let s : SessionId := ⟨0⟩
    let w := innerWorld
    s.target.run w = (.ok ⟨0⟩, w) ∧
      ∃ entering provided, (s.provide (runner 1) ⟨1⟩).run { entering with running := [s] } =
          (.ok none, provided) ∧
        ((s.begun ⟨1⟩ true none provided).session s).frame = ⟨some ⟨1⟩, some ⟨0⟩, none⟩ ∧
        (∀ task,
          let entered := (s.enter (runner 1) (.target ⟨1⟩) ((runner 1).perform task)).run entering
          (s.apply (runner 1) "inner" [] (some task)).run w = (entered.1.map .target, entered.2)) ∧
        s.EntersOnce (runner 1) ⟨1⟩ true none provided (.target ⟨1⟩)
          fun task => (s.apply (runner 1) "inner" [] (some task)).run w := by
  intro s w
  have current : s.target.run w = (.ok ⟨0⟩, w) := rfl
  have tries : (w.session s).config.naming.Tries "inner" ["inner"] :=
    Naming.tries_of_not_separated (by decide +kernel)
  obtain ⟨events, ways⟩ := @call_with_block_switches 1 s ⟨0⟩ "inner" ["inner"] [] w w ⟨0⟩ current rfl
    tries (.of_none rfl) (by decide)
  obtain ⟨log, noted⟩ := w.sameButLog_note events
  rw [noted] at ways
  obtain ⟨entered, once⟩ := ways
  refine ⟨current, _, _, ?_, ?_, entered, once⟩
  · rfl
  · rfl

end TargetBuilder
