import TargetBuilder.Proofs.Drain
import TargetBuilder.Proofs.Stack

/-!
# Builds

A build is the outermost context on a root session. When its block succeeds, the deferred work runs,
and nothing else happens until the build ends.

* `SessionId.opens_or_blockless`: outside any context, entering opens a build or never gets to its block.
* `SessionId.Opens.run_enter`: what is left of entering once the build is open.
* `deferred_work_breadthFirst`: the deferred work of a build runs breadth-first, exactly once.
-/

namespace TargetBuilder

open World (Quiet Later Grown Tidied)
open Script (runner)

/-! ## Opening a build -/

/--
A build is opened on a root session: the request is for the target `t`, the provider was looked for, no
context is open, and the block of the build begins in the last world.
-/
inductive SessionId.Opens (R : Runner) (s : SessionId) (request : Request) (w : World)
    (root : SessionId) (t : TargetId) : World → Prop
  | begin {resolved provided asked : World} {provider : Option ProviderId}
      {parent : Option TargetId} :
      w.rootOf? s = some root → root.index < w.sessions.size →
      (root.resolveRequest request).run { w with running := root :: w.running } =
        (.ok t, resolved) →
      (root.provide R t).run resolved = (.ok provider, provided) →
      (provided.session root).topLevel = none →
      root.enclosing.run
        (((provided.updateSession root ({ · with topLevel := some true })).write
          (.opened .build)).write (.event (.entering root t true))) = (.ok parent, asked) →
      Opens R s request w root t
        (asked.updateSession root ({ · with frame := ⟨some t, parent, provider⟩ }))

namespace SessionId

variable {R : Runner} {root : SessionId}

/-- Enters as `enter` does, with anything that is to follow the block of a build. -/
def enterVia (finish : SessionId → TargetId → Except Stop Unit → Action World Unit) (R : Runner)
    (s : SessionId) (request : Request) (block : SessionId → Action World Unit) :
    Action World TargetId := do
  let root ← s.root
  World.holding root do
    let t ← root.resolveRequest request
    let provider ← root.provide R t
    root.inContext fun outermost =>
      if outermost then
        World.inSpan .build do
          let result ← Action.capture (root.visit true t provider block)
          finish root t result
      else root.visit outermost t provider block
    pure t

theorem enterVia_complete (s : SessionId) (request : Request)
    (block : SessionId → Action World Unit) :
    s.enterVia (fun root t => root.complete R t) R request block = s.enter R request block := by
  unfold enterVia enter enterTarget build
  simp only [bind_assoc]

/--
What is left of entering once the build is open: the block, what follows it, and the clean-up. After the
block the frame is as it was when the block began.
-/
theorem run_enterVia_visiting {s : SessionId} {request : Request} {w resolved provided asked : World}
    {t : TargetId} {provider : Option ProviderId} {parent : Option TargetId}
    (hroot : w.rootOf? s = some root)
    (hres : (root.resolveRequest request).run { w with running := root :: w.running } =
      (.ok t, resolved))
    (hprov : (root.provide R t).run resolved = (.ok provider, provided))
    (hout : (provided.session root).topLevel = none)
    (hask : root.enclosing.run
      (((provided.updateSession root ({ · with topLevel := some true })).write
        (.opened .build)).write (.event (.entering root t true))) = (.ok parent, asked))
    (finish : SessionId → TargetId → Except Stop Unit → Action World Unit)
    (block : SessionId → Action World Unit) :
    (s.enterVia finish R request block).run w =
      let ran := (block root).run (asked.updateSession root ({ · with frame := ⟨some t, parent, provider⟩ }))
      let built := (finish root t ran.1).run
        (ran.2.updateSession root ({ · with frame := (asked.session root).frame }))
      (built.1.map fun _ => t,
        { (built.2.write (.closed .build)).updateSession root
            (leave none (wasGivenUp built.1)) with running := w.running }) := by
  have outermost : (provided.session root).topLevel.isNone = true := by rw [hout]; rfl
  unfold enterVia
  rw [Action.run_bind, run_root hroot]
  dsimp only
  rw [World.run_holding, Action.run_bind, hres]
  dsimp only
  rw [Action.run_bind, hprov]
  dsimp only
  rw [Action.run_bind, run_inContext, outermost, hout, if_pos rfl]
  rw [World.run_inSpan, Action.run_bind, Action.run_capture, run_visit_ok hask]
  dsimp only
  cases (finish root t ((block root).run (asked.updateSession root
    ({ · with frame := ⟨some t, parent, provider⟩ }))).1).run _ with
  | mk r w' => cases r <;> rfl

theorem Opens.run_enterVia {s : SessionId} {request : Request} {w w₀ : World} {t : TargetId}
    (h : s.Opens R request w root t w₀) :
    ∃ frame : Frame, ∀ finish, ∀ block : SessionId → Action World Unit,
      (s.enterVia finish R request block).run w =
        let built := (finish root t ((block root).run w₀).1).run
          (((block root).run w₀).2.updateSession root ({ · with frame }))
        (built.1.map fun _ => t,
          { (built.2.write (.closed .build)).updateSession root
              (leave none (wasGivenUp built.1)) with running := w.running }) := by
  obtain @⟨resolved, provided, asked, provider, parent, hroot, there, hres, hprov, hout, hask⟩ := h
  exact ⟨_, run_enterVia_visiting hroot hres hprov hout hask⟩

theorem Opens.run_enter {s : SessionId} {request : Request} {w w₀ : World} {t : TargetId}
    (h : s.Opens R request w root t w₀) :
    ∃ frame : Frame, ∀ block : SessionId → Action World Unit,
      (s.enter R request block).run w =
        let built := (root.complete R t ((block root).run w₀).1).run
          (((block root).run w₀).2.updateSession root ({ · with frame }))
        (built.1.map fun _ => t,
          { (built.2.write (.closed .build)).updateSession root
              (leave none (wasGivenUp built.1)) with running := w.running }) := by
  obtain ⟨frame, hrun⟩ := h.run_enterVia
  refine ⟨frame, fun block => ?_⟩
  rw [← enterVia_complete]
  exact hrun (fun root t => root.complete R t) block

/-- A build that succeeds answers the target that was asked for. -/
theorem Opens.target_eq {s : SessionId} {request : Request} {w w₀ : World} {t answered : TargetId}
    (h : s.Opens R request w root t w₀) {block : SessionId → Action World Unit}
    (ok : ((s.enter R request block).run w).1 = .ok answered) : answered = t := by
  obtain ⟨frame, hrun⟩ := h.run_enter
  rw [hrun block] at ok
  dsimp only at ok
  generalize ((root.complete R t ((block root).run w₀).1).run _).1 = built at ok
  cases built with
  | ok u => exact (Except.ok.inj ok).symm
  | error e => cases ok

/-- The block of a build begins with the target as the current one, in the outermost context. -/
theorem Opens.begins {s : SessionId} {request : Request} {w w₀ : World} {t : TargetId}
    (hR : ∀ task s, (R.exec task s).Keeps (Grown root)) (h : s.Opens R request w root t w₀) :
    (w₀.session root).frame.target = some t ∧ (w₀.session root).topLevel = some true ∧
      ∃ ds, Later w ds w₀ := by
  obtain @⟨resolved, provided, asked, provider, parent, hroot, there, hres, hprov, hout, hask⟩ := h
  have moved : Quiet w { w with running := root :: w.running } :=
    Quiet.of_sessions_eq rfl fun _ => rfl
  have resolving := Action.quiet_resolveRequest root request { w with running := root :: w.running }
  rw [hres] at resolving
  have providing := Action.Keeps.sessionProvide (Grown.guarantee root) hR root t resolved
  rw [hprov] at providing
  obtain ⟨ds, hlater⟩ := providing.markKept.later
  let opened := (provided.updateSession root ({ · with topLevel := some true })).write
    (.opened .build)
  have asking := Action.quiet_enclosing root (opened.write (.event (.entering root t true)))
  rw [hask] at asking
  have before : Later w ds provided := ((Later.refl.quiet moved).quiet resolving).trans hlater
  have marked : Later w ds opened :=
    (before.context root fun x => .mark x _).quiet (Quiet.write _ fun _ => rfl)
  have asked_later : Later w ds asked :=
    (marked.quiet (Quiet.write _ fun _ => rfl)).quiet asking
  have current := World.session_updateSession_self asked
    ({ · with frame := ⟨some t, parent, provider⟩ }) (Nat.lt_of_lt_of_le there asked_later.size_le)
  refine ⟨by rw [current], ?_, ds, asked_later.context root fun x => .frame x _⟩
  rw [current]
  refine (asking.topLevel root).trans ?_
  have there' : root.index < provided.sessions.size := Nat.lt_of_lt_of_le there before.size_le
  show ((provided.updateSession root _).session root).topLevel = _
  rw [World.session_updateSession_self provided _ there']

/-! ## What follows the block -/

/-- What ends a drain, or follows it, runs nothing. -/
theorem IsDrain.before_tidied {α β : Type} {first : List Deferred} {w w' w'' : World}
    {passes : List (List Start)} {r : Except Stop α} (h : IsDrain R root first w passes r w')
    (f : α → β) (k : Tidied root w' w'') : IsDrain R root first w passes (r.map f) w'' where
  chain := h.chain.before_tidied k
  breadthFirst := h.breadthFirst
  allSucceeded b hb := by
    cases r with
    | ok a => exact h.allSucceeded a rfl
    | error e => cases hb
  ok_of_allSucceeded all hne := by
    cases r with
    | ok a => exact ⟨f a, rfl⟩
    | error e =>
      obtain ⟨a, ha⟩ := h.ok_of_allSucceeded all fun he => hne (by rw [he]; rfl)
      cases ha

/-- After a block that succeeded, the deferred work runs breadth-first. -/
theorem complete_ok_isDrain (hR : ∀ task s, (R.exec task s).Keeps (Grown root)) {P : World → Prop}
    (hP : Persists R root P) (t : TargetId) (w : World) (hopen : (w.session root).topLevel.isSome)
    (hw : P w) :
    ∃ passes, IsDrain R root (w.queue root) w passes ((root.complete R t (.ok ())).run w).1
        ((root.complete R t (.ok ())).run w).2 ∧
      ∀ x ∈ passes.flatten, P x.before := by
  obtain ⟨passes, h, held⟩ := runPasses_breadthFirst hR hP t R.fuel 0 (w.write (.opened .drain)) hopen
    (hP.write (fun _ => rfl) hw)
  have h : IsDrain R root (w.queue root) w passes _ _ :=
    { h with chain := h.chain.after_tidied (.write _ (fun _ => rfl) .refl) }
  refine ⟨passes, ?_, held⟩
  unfold complete drain
  rw [Action.run_bind, World.run_inSpan, Action.run_bind]
  cases hr : (root.runPasses R t R.fuel 0).run (w.write (.opened .drain)) with
  | mk r w' =>
  rw [hr] at h
  cases r with
  | error e => exact h.before_tidied (fun _ => ()) (.write _ (fun _ => rfl) .refl)
  | ok n =>
    dsimp only
    by_cases hn : n > 0
    · rw [if_pos hn]
      have settled : Tidied root w' (w'.write (.event (.settled n))) :=
        .write _ (fun _ => rfl) .refl
      exact h.before_tidied (fun _ => ())
        (.context .activated (settled.write (.closed .drain) fun _ => rfl))
    · rw [if_neg hn]
      have closed : Tidied root w' (w'.write (.closed .drain)) := .write _ (fun _ => rfl) .refl
      exact h.before_tidied (fun _ => ()) (.context .activated closed)

/--
The drain of a build is all that happens from the end of its block to the end of the build. What holds
when the visit has ended, and goes on to hold, is there whenever work is started.
-/
theorem isDrain_of_visited (hR : ∀ task s, (R.exec task s).Keeps (Grown root)) {P : World → Prop}
    (hP : Persists R root P) {w w₁ : World} {t : TargetId} {frame : Frame}
    (hopen : (w₁.session root).topLevel.isSome)
    (hw : P (w₁.updateSession root ({ · with frame }))) :
    let built := (root.complete R t (.ok ())).run (w₁.updateSession root ({ · with frame }))
    ∃ passes, IsDrain R root (w₁.queue root) w₁ passes (built.1.map fun _ => t)
        { (built.2.write (.closed .build)).updateSession root
          (leave none (wasGivenUp built.1)) with running := w.running } ∧
      ∀ x ∈ passes.flatten, P x.before := by
  intro built
  have visited : Tidied root w₁ (w₁.updateSession root ({ · with frame })) :=
    .context (fun x => .frame x frame) .refl
  have still : ((w₁.updateSession root ({ · with frame })).session root).topLevel.isSome := by
    rw [World.topLevel_reframed]
    exact hopen
  obtain ⟨passes, hd, held⟩ := complete_ok_isDrain hR hP t _ still hw
  rw [World.queue_reframed] at hd
  have begun : IsDrain R root (w₁.queue root) w₁ passes _ _ :=
    { hd with chain := hd.chain.after_tidied visited }
  refine ⟨passes, begun.before_tidied (fun _ => t) ?_, held⟩
  exact .running _ (.context (fun x => .leave x none _) (.write _ (fun _ => rfl) .refl))

/-- What holds when the block has ended, whatever the frame is, is there whenever work is started. -/
theorem Opens.isDrain_persists (hR : ∀ task s, (R.exec task s).Keeps (Grown root)) {P : World → Prop}
    (hP : Persists R root P) {s : SessionId} {request : Request} {w w₀ w₁ : World} {t : TargetId}
    (h : s.Opens R request w root t w₀) {block : SessionId → Action World Unit}
    (hok : (block root).run w₀ = (.ok (), w₁)) (hopen : (w₁.session root).topLevel.isSome)
    (hw : ∀ frame, P (w₁.updateSession root ({ · with frame }))) :
    ∃ passes, IsDrain R root (w₁.queue root) w₁ passes ((s.enter R request block).run w).1
        ((s.enter R request block).run w).2 ∧
      ∀ x ∈ passes.flatten, P x.before := by
  obtain ⟨frame, hrun⟩ := h.run_enter
  rw [hrun block, hok]
  exact isDrain_of_visited hR hP hopen (hw frame)

theorem Opens.isDrain (hR : ∀ task s, (R.exec task s).Keeps (Grown root)) {s : SessionId}
    {request : Request} {w w₀ w₁ : World} {t : TargetId} (h : s.Opens R request w root t w₀)
    {block : SessionId → Action World Unit} (hok : (block root).run w₀ = (.ok (), w₁))
    (hopen : (w₁.session root).topLevel.isSome) :
    ∃ passes, IsDrain R root (w₁.queue root) w₁ passes ((s.enter R request block).run w).1
      ((s.enter R request block).run w).2 := by
  obtain ⟨passes, hd, -⟩ := h.isDrain_persists hR (.trivial R root) hok hopen fun _ => trivial
  exact ⟨passes, hd⟩

end SessionId

/-! ## Deferred work runs breadth-first -/

/--
**Deferred work runs breadth-first, exactly once.** The block of a build begins in `w₀` and succeeds in
`w₁`. What waits then is what waited when it began and what was deferred meanwhile, in order. From `w₁` to
the end of the build nothing runs but the starts of a chain. They are breadth-first over the generations:
each starts work that no other starts, on the target that it was deferred for, and what they start is a
prefix of all generations one after the other. The build succeeds if all of it was started and nothing
failed, and only then. The bound on nesting and passes is the exception: where it was reached, no more is
said of the ending.
-/
theorem deferred_work_breadthFirst {fuel : Nat} {s root : SessionId} {request : Request}
    {w w₀ w₁ : World} {t : TargetId} {block : SessionId → Action World Unit}
    (opens : s.Opens (runner fuel) request w root t w₀)
    (program : ∀ r, Program (runner fuel) (block r))
    (succeeds : (block root).run w₀ = (.ok (), w₁)) :
    let answer := (s.enter (runner fuel) request block).run w
    ∃ during passes, Later w₀ during w₁ ∧
      w₁.queue root = w₀.queue root ++ workOn root during ∧
      Chain (runner fuel) root w₁ passes.flatten answer.2 ∧
      BreadthFirst root (w₁.queue root) passes ∧
      executed passes <+: (generations root (w₁.queue root) passes).flatten ∧
      (answer.1 ≠ .error .outOfFuel →
        (answer.1 = .ok t ↔ AllSucceeded root (w₁.queue root) passes)) := by
  have hR := Script.keeps_exec (Grown.discipline root) fuel
  obtain ⟨_, marked, _⟩ := opens.begins hR
  have grown := Script.keeps_program (Grown.discipline root) (program root) w₀
  rw [succeeds] at grown
  have hopen : (w₁.session root).topLevel.isSome := by
    rw [grown.topLevel, marked]
    rfl
  obtain ⟨during, hlater, hqueue⟩ := grown.later
  obtain ⟨passes, hd⟩ := opens.isDrain hR succeeds hopen
  refine ⟨during, passes, hlater, hqueue (by rw [marked]; rfl), hd.chain, hd.breadthFirst,
    hd.breadthFirst.executed_prefix, fun bounded => ⟨hd.allSucceeded t, fun all => ?_⟩⟩
  obtain ⟨a, ha⟩ := hd.ok_of_allSucceeded all bounded
  rw [ha, opens.target_eq ha]

/-- A world with a spacer. -/
def spacerWorld : World :=
  match (World.empty .empty).create "Spacer" "s" [] with
  | some (_, w) => w
  | none => default

/-- Notes a text, now or when the outermost context closes. -/
def noting (s : String) (later : Bool) : Statement :=
  let now := .mk (.log s) none false
  if later then .mk (.defer none (.given [now])) none false else now

-- what is deferred runs after the block that deferred it
example :
    (Script.after spacerWorld .empty [.mk (.enter (.targetNamed "s") (.given
        [noting "b" true, noting "a" false])) none false]).log.toList.filterMap
      (fun | .text s => some s | _ => none) = ["a", "b"] := by
  decide +kernel

/-- Defers work that defers itself once more. -/
def deferTwice (r : SessionId) : Action World Unit := r.schedule none (some (.chain (some 1)))

/-- The build defers one piece of work, and succeeds. -/
theorem opens_deferTwice :
    let root : SessionId := ⟨0⟩
    let w := (openWithSpacer.run (.empty .empty)).2
    ∃ w₀ w₁, root.Opens (runner 3) (.target ⟨0⟩) w root ⟨0⟩ w₀ ∧
      (deferTwice root).run w₀ = (.ok (), w₁) ∧ (∃ work, w₁.queue root = [work]) ∧
        ((root.enter (runner 3) (.target ⟨0⟩) deferTwice).run w).1 = .ok ⟨0⟩ := by
  intro root w
  exact ⟨_, _, .begin rfl (by decide) (Prod.ext rfl rfl) (Prod.ext rfl rfl) rfl (Prod.ext rfl rfl),
    Prod.ext rfl rfl, ⟨_, rfl⟩, congrArg Prod.fst (Action.run_eq_of_toOption (by decide +kernel))⟩

theorem deferred_work_breadthFirst_deferTwice :
    let root : SessionId := ⟨0⟩
    let answer := (root.enter (runner 3) (.target ⟨0⟩) deferTwice).run
      (openWithSpacer.run (.empty .empty)).2
    answer.1 = .ok ⟨0⟩ ∧ ∃ w₁ passes, (w₁.queue root).length = 1 ∧
      Chain (runner 3) root w₁ passes.flatten answer.2 ∧
        AllSucceeded root (w₁.queue root) passes := by
  intro root answer
  obtain ⟨w₀, w₁, opens, succeeds, ⟨work, queued⟩, succeeded⟩ := opens_deferTwice
  have program : ∀ r, Program (runner 3) (deferTwice r) := fun r => .schedule r none _
  obtain ⟨during, passes, _, _, hchain, _, _, hok⟩ :=
    deferred_work_breadthFirst opens program succeeds
  exact ⟨succeeded, w₁, passes, congrArg List.length queued, hchain,
    (hok (by rw [succeeded]; nofun)).mp succeeded⟩

end TargetBuilder
