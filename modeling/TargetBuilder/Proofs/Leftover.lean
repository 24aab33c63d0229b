import TargetBuilder.Proofs.Build

/-!
# What is left of deferred work

A build that got as far as its block leaves no work in the queue of its session, however it ends, and
this needs nothing to be known of the block. Work that was taken out of the queue and not started is held
by nothing. Whatever is started in a later build was therefore deferred after this one had ended.

* `SessionId.Opens.queue_nil`: the queue is empty when the build ends, for any runner and any block.
* `no_deferred_work_survives`: later queues and later builds hold later work only.
-/

namespace TargetBuilder

open World (Quiet Later Grown Tidied)
open Script (runner)

namespace SessionId

section Emptied

variable (R : Runner) (root : SessionId)

/-! ## The places where the queue is emptied -/

theorem queue_taken (w : World) :
    (w.updateSession root ({ · with queue := [] })).queue root = [] := by
  unfold World.queue
  rw [World.session_updateSession]
  split
  · rfl
  · next gone =>
    have size : w.sessions.size ≤ root.index := Nat.le_of_not_lt fun there => gone ⟨rfl, there⟩
    rw [w.session_of_size_le size]
    rfl

theorem queue_leave (w : World) (givenUp : Bool) (h : givenUp = false → w.queue root = []) :
    (w.updateSession root (leave none givenUp)).queue root = [] := by
  cases givenUp with
  | true =>
    refine Eq.trans ?_ (queue_taken root w)
    unfold World.queue
    rw [World.session_updateSession, World.session_updateSession]
    split
    · rfl
    · rfl
  | false =>
    rw [← h rfl]
    exact World.session_updateSession_same w root root Session.queue fun _ => rfl

/-- Work that does not succeed takes the rest of the queue with it. -/
theorem queue_runDeferred (work : Deferred) (w : World) (e : Stop)
    (h : ((root.runDeferred R work).run w).1 = .error e) :
    ((root.runDeferred R work).run w).2.queue root = [] := by
  cases hr : (root.enterDeferred R work).run w with
  | mk r w' =>
  cases r with
  | ok u =>
    rw [run_runDeferred_ok hr] at h
    cases h
  | error e =>
    rw [run_runDeferred_error hr]
    exact queue_taken root w'

theorem queue_each {e : Stop} :
    ∀ (batch : List Deferred) (w : World),
      ((Action.each batch (root.runDeferred R)).run w).1 = .error e →
        ((Action.each batch (root.runDeferred R)).run w).2.queue root = []
  | [], _, h => by cases h
  | work :: rest, w, h => by
    rw [Action.run_each_cons, Action.run_bind] at h ⊢
    have first := queue_runDeferred R root work w
    cases hr : (root.runDeferred R work).run w with
    | mk r w' =>
    rw [hr] at h first
    cases r with
    | ok u => exact queue_each rest w' h
    | error e' =>
      cases h
      exact first e rfl

/-- Passes end with nothing left, or with a fault that empties the queue, unless they are given up. -/
theorem queue_runPasses (origin : TargetId) :
    ∀ (fuel n : Nat) (w : World), wasGivenUp ((root.runPasses R origin fuel n).run w).1 = false →
      ((root.runPasses R origin fuel n).run w).2.queue root = []
  | 0, _, _, h => by cases h
  | fuel + 1, n, w, h => by
    rw [run_runPasses_succ] at h ⊢
    generalize htaken : w.updateSession root ({ · with queue := [] }) = taken at h ⊢
    have emptied : taken.queue root = [] := htaken ▸ queue_taken root w
    by_cases hnone : (w.queue root).isEmpty
    · rw [if_pos hnone]
      exact emptied
    · rw [if_neg hnone] at h ⊢
      by_cases hallowed : allowsPass (taken.session root).config.maxPasses n
      · rw [if_pos hallowed] at h ⊢
        let reported := taken.write (.event (.draining (n + 1) (w.queue root).length origin))
        change wasGivenUp ((Action.each (w.queue root) (root.runDeferred R) >>= fun _ =>
          root.runPasses R origin fuel (n + 1)).run reported).1 = false at h
        show ((Action.each (w.queue root) (root.runDeferred R) >>= fun _ =>
          root.runPasses R origin fuel (n + 1)).run reported).2.queue root = []
        have failed := fun e => queue_each R root (w.queue root) reported (e := e)
        rw [Action.run_bind] at h ⊢
        cases hr : (Action.each (w.queue root) (root.runDeferred R)).run reported with
        | mk r w' =>
        rw [hr] at h failed
        cases r with
        | ok u => exact queue_runPasses origin fuel (n + 1) w' h
        | error e => exact failed e rfl
      · rw [if_neg hallowed]
        exact queue_taken root taken

theorem queue_drain (origin : TargetId) (w : World)
    (h : wasGivenUp ((root.drain R origin).run w).1 = false) :
    ((root.drain R origin).run w).2.queue root = [] := by
  have passed := queue_runPasses R root origin R.fuel 0 (w.write (.opened .drain))
  unfold drain at h ⊢
  rw [World.run_inSpan, Action.run_bind] at h ⊢
  cases hr : (root.runPasses R origin R.fuel 0).run (w.write (.opened .drain)) with
  | mk r w' =>
  rw [hr] at h passed
  cases r with
  | error e =>
    -- the span only closes, so the drain is given up exactly if its passes are
    refine passed ?_
    cases e <;> exact h
  | ok n =>
    dsimp only
    by_cases hn : n > 0
    · rw [if_pos hn]
      exact passed rfl
    · rw [if_neg hn]
      exact passed rfl

theorem queue_complete (t : TargetId) (result : Except Stop Unit) (w : World)
    (h : wasGivenUp ((root.complete R t result).run w).1 = false) :
    ((root.complete R t result).run w).2.queue root = [] := by
  unfold complete at h ⊢
  split at h
  · have drained := queue_drain R root t w
    rw [Action.run_bind] at h ⊢
    cases hr : (root.drain R t).run w with
    | mk r w' =>
    rw [hr] at h drained
    cases r with
    | error e => exact drained h
    | ok u =>
      refine Eq.trans ?_ (drained rfl)
      exact World.session_updateSession_same w' root root Session.queue fun _ => rfl
  · next f =>
    show ((if (w.queue root).length > 0 then _ else _ : Action World Unit).run
      (w.updateSession root ({ · with queue := [] }))).2.queue root = []
    split
    · exact queue_taken root w
    · exact queue_taken root w
  · next e hne =>
    cases e with
    | fault f => exact absurd rfl (hne f)
    | unwound => cases h
    | outOfFuel => cases h

end Emptied

variable {R : Runner} {root : SessionId}

/-- **A build that got as far as its block leaves nothing in the queue**, however it ends. -/
theorem Opens.queue_nil {s : SessionId} {request : Request} {w w₀ : World} {t : TargetId}
    (h : s.Opens R request w root t w₀) (block : SessionId → Action World Unit) :
    ((s.enter R request block).run w).2.queue root = [] := by
  obtain ⟨frame, hrun⟩ := h.run_enter
  rw [hrun block]
  exact queue_leave root _ _ fun kept => queue_complete R root t _ _ kept

/-! ## What later builds start -/

/-- After a block that did not succeed, nothing runs. -/
theorem tidied_complete_error (R : Runner) (root : SessionId) (t : TargetId) (e : Stop)
    (w : World) : Tidied root w ((root.complete R t (.error e)).run w).2 := by
  cases e with
  | fault f =>
    have dropped : Tidied root w (w.updateSession root ({ · with queue := [] })) :=
      .context .taken .refl
    show Tidied root w ((if (w.queue root).length > 0 then _ else _ : Action World Unit).run
      (w.updateSession root ({ · with queue := [] }))).2
    split
    · exact dropped.write _ fun _ => rfl
    · exact dropped
  | unwound => exact .refl
  | outOfFuel => exact .refl

/-- What a build starts is what waits when its block ends, or was deferred by what it started. -/
theorem Opens.exists_chain (hR : ∀ task s, (R.exec task s).Keeps (Grown root)) {s : SessionId}
    {request : Request} {w w₀ w₁ : World} {t : TargetId} (h : s.Opens R request w root t w₀)
    {block : SessionId → Action World Unit} {r : Except Stop Unit}
    (ran : (block root).run w₀ = (r, w₁)) (hopen : (w₁.session root).topLevel.isSome) :
    ∃ starts, Chain R root w₁ starts ((s.enter R request block).run w).2 ∧
      starts.map (·.work) <+: w₁.queue root ++ starts.flatMap (·.adds root) := by
  cases r with
  | ok u =>
    obtain ⟨passes, hd⟩ := h.isDrain hR ran hopen
    refine ⟨passes.flatten, hd.chain, ?_⟩
    rw [← generations_flatten]
    exact hd.breadthFirst.executed_prefix
  | error e =>
    obtain ⟨frame, hrun⟩ := h.run_enter
    refine ⟨[], .done ?_, List.nil_prefix⟩
    rw [hrun block, ran]
    have visited : Tidied root w₁ (w₁.updateSession root ({ · with frame })) :=
      .context (fun x => .frame x frame) .refl
    have completed := visited.trans (tidied_complete_error R root t e _)
    exact .running _ (.context (fun x => .leave x none _) (completed.write _ fun _ => rfl))

end SessionId

/--
**No deferred work survives a build.** When a build that got as far as its block has ended, in whatever
way, its queue is empty. In any later world, what waits was deferred since. And in any later build of the
session, whatever its block does, what is started was deferred since, by its block or before it or by
work that it started itself.
-/
theorem no_deferred_work_survives {fuel : Nat} {s root : SessionId} {request : Request}
    {w w₀ : World} {t : TargetId} (opens : s.Opens (runner fuel) request w root t w₀)
    (block : SessionId → Action World Unit) :
    let ended := ((s.enter (runner fuel) request block).run w).2
    ended.queue root = [] ∧
      (∀ since later, Later ended since later → later.queue root <:+ workOn root since) ∧
      ∀ {fuel' : Nat} {s' : SessionId} {request' : Request} {t' : TargetId}
        {later begun finished : World} {r : Except Stop Unit}
        {block' : SessionId → Action World Unit},
        (∃ since, Later ended since later) → s'.Opens (runner fuel') request' later root t' begun →
        (∀ r, Program (runner fuel') (block' r)) → (block' root).run begun = (r, finished) →
          ∃ starts, Chain (runner fuel') root finished starts
              ((s'.enter (runner fuel') request' block').run later).2 ∧
            (∃ since, Later ended since finished) ∧
            ∀ since, Later ended since finished →
              starts.map (·.work) <:+: workOn root since ++ starts.flatMap (·.adds root) := by
  intro ended
  have emptied : ended.queue root = [] := opens.queue_nil block
  have waiting : ∀ since later, Later ended since later →
      later.queue root <:+ workOn root since := by
    intro since later h
    have nothing : ended.queue root <:+ [] := List.suffix_nil.mpr emptied
    exact h.queue_suffix nothing
  refine ⟨emptied, waiting, ?_⟩
  intro fuel' s' request' t' later begun finished r block' before opens' program ran
  have hR := Script.keeps_exec (Grown.discipline root) fuel'
  obtain ⟨_, marked, opening⟩ := opens'.begins hR
  have grown := Script.keeps_program (Grown.discipline root) (program root) begun
  rw [ran] at grown
  obtain ⟨starts, hchain, taken⟩ := opens'.exists_chain hR ran (by rw [grown.topLevel, marked]; rfl)
  refine ⟨starts, hchain, ?_, ?_⟩
  · exact Later.guarantee.trans (Later.guarantee.trans before opening) grown.markKept.later
  · intro since h
    -- what waits is the end of what was deferred since, and it is taken from the front
    obtain ⟨older, holder⟩ := waiting since finished h
    obtain ⟨left, hleft⟩ := taken
    refine ⟨older, left, ?_⟩
    rw [List.append_assoc, hleft, ← List.append_assoc, holder]

/-- Defers work, and fails. -/
def deferAndFail (r : SessionId) : Action World Unit := do
  r.schedule none (some .idle)
  .fail .noContext

theorem no_deferred_work_survives_deferAndFail :
    let root : SessionId := ⟨0⟩
    let ended := ((root.enter (runner 3) (.target ⟨0⟩) deferAndFail).run
      (openWithSpacer.run (.empty .empty)).2).2
    (ended.deferrals root).length = 1 ∧ ended.queue root = [] ∧
      ∃ finished starts, (finished.queue root).length = 1 ∧
        Chain (runner 3) root finished starts
          ((root.enter (runner 3) (.target ⟨0⟩) deferTwice).run ended).2 ∧
        ∃ since, Later ended since finished ∧
          starts.map (·.work) <:+: workOn root since ++ starts.flatMap (·.adds root) := by
  intro root ended
  have opens : root.Opens (runner 3) (.target ⟨0⟩) (openWithSpacer.run (.empty .empty)).2 root
      ⟨0⟩ _ :=
    .begin rfl (by decide) (Prod.ext rfl rfl) (Prod.ext rfl rfl) rfl (Prod.ext rfl rfl)
  have opens' : root.Opens (runner 3) (.target ⟨0⟩) ended root ⟨0⟩ _ :=
    .begin (by decide +kernel) (by decide +kernel) (Action.run_eq_of_toOption (by decide +kernel))
      (Action.run_eq_of_toOption (a := none) (by decide +kernel)) (by decide +kernel)
      (Action.run_eq_of_toOption (a := none) (by decide +kernel))
  have program : ∀ r, Program (runner 3) (deferTwice r) := fun r => .schedule r none _
  obtain ⟨emptied, _, builds⟩ := no_deferred_work_survives opens deferAndFail
  obtain ⟨starts, hchain, ⟨since, hlater⟩, hstarted⟩ :=
    builds ⟨[], .refl⟩ opens' program (Action.run_eq_of_toOption (a := ()) (by decide +kernel))
  exact ⟨by decide +kernel, emptied, _, starts, by decide +kernel, hchain, since, hlater,
    hstarted since hlater⟩

end TargetBuilder
