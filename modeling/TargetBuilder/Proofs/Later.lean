import TargetBuilder.Proofs.Bracket

/-!
# Later worlds

A world becomes a later one by quiet changes, by work that is deferred, and by changes of the context of
a session, which may take out all the work that waits there. Work is put into a queue in no other way
than by being deferred, so what waits in a later world, beyond what was waiting before, was deferred in
between.

* `World.Later.discipline`: whatever a program does, it ends in a later world.
* `World.Later.deferrals_eq`: the log records the targets of all the work that was deferred.
* `World.Later.queue_suffix`: what waits was deferred last.
-/

namespace TargetBuilder

open World (Quiet)

/-- The work on a root session, among all the work that was deferred. -/
def workOn (root : SessionId) (deferred : List (SessionId × Deferred)) : List Deferred :=
  deferred.filterMap fun d => if d.1 = root then some d.2 else none

@[simp] theorem workOn_nil (root : SessionId) : workOn root [] = [] := rfl

@[simp] theorem workOn_append (root : SessionId) (xs ys : List (SessionId × Deferred)) :
    workOn root (xs ++ ys) = workOn root xs ++ workOn root ys := List.filterMap_append

theorem workOn_singleton (root r : SessionId) (d : Deferred) :
    workOn root [(r, d)] = if r = root then [d] else [] := by
  unfold workOn
  split <;> simp_all

namespace World

/-- A world that an earlier one can become, with the work that was deferred in between. -/
inductive Later (a : World) : List (SessionId × Deferred) → World → Prop
  | refl : Later a [] a
  | quiet {ds : List (SessionId × Deferred)} {b c : World} :
      Later a ds b → Quiet b c → Later a ds c
  | defer {ds : List (SessionId × Deferred)} {b : World} (r : SessionId) (d : Deferred) :
      Later a ds b → Later a (ds ++ [(r, d)]) (b.defer r d)
  | context {ds : List (SessionId × Deferred)} {b : World} (r : SessionId) {f : Session → Session} :
      Later a ds b → (∀ x, Session.ContextChange x (f x)) → Later a ds (b.updateSession r f)

theorem queue_defer (w : World) (r s : SessionId) (d : Deferred) :
    (w.defer r d).queue s =
      if s = r ∧ r.index < w.sessions.size then w.queue s ++ [d] else w.queue s := by
  unfold queue defer
  rw [session_updateSession]
  show (if s = r ∧ r.index < w.sessions.size then _ else _ : Session).queue = _
  split
  · next h =>
    rw [h.1]
    rfl
  · rfl

/-- A change of a context leaves every queue as it is, or empties it. -/
theorem queue_context (w : World) (r s : SessionId) {f : Session → Session}
    (hf : ∀ x, Session.ContextChange x (f x)) :
    (w.updateSession r f).queue s = w.queue s ∨ (w.updateSession r f).queue s = [] := by
  unfold queue
  rw [session_updateSession]
  split
  · next h =>
    rw [h.1]
    exact (hf (w.session r)).queue
  · exact Or.inl rfl

namespace Later

variable {a b c : World} {ds es : List (SessionId × Deferred)}

theorem trans (h : Later a ds b) (k : Later b es c) : Later a (ds ++ es) c := by
  induction k with
  | refl =>
    rw [List.append_nil]
    exact h
  | quiet _ hq ih => exact ih.quiet hq
  | defer r d _ ih =>
    rw [← List.append_assoc]
    exact ih.defer r d
  | context r _ hf ih => exact ih.context r hf

/-- One change of a context. -/
theorem changed (w : World) (r : SessionId) {f : Session → Session}
    (hf : ∀ x, Session.ContextChange x (f x)) : Later w [] (w.updateSession r f) :=
  Later.refl.context r hf

theorem size_le (h : Later a ds b) : a.sessions.size ≤ b.sessions.size := by
  induction h with
  | refl => exact Nat.le_refl _
  | quiet _ hq ih => exact Nat.le_trans ih hq.size_le
  | defer r d _ ih =>
    refine Nat.le_trans ih (Nat.le_of_eq ?_)
    exact (World.size_updateSession _ _ _).symm
  | context r _ _ ih =>
    rw [World.size_updateSession]
    exact ih

/-- The configuration of a session is never changed. -/
theorem config (h : Later a ds b) {s : SessionId} (there : s.index < a.sessions.size) :
    (b.session s).config = (a.session s).config := by
  induction h with
  | refl => rfl
  | quiet hb hq ih => exact (hq.config s (Nat.lt_of_lt_of_le there hb.size_le)).trans ih
  | defer r d _ ih =>
    refine Eq.trans ?_ ih
    exact session_updateSession_same _ r s Session.config fun _ => rfl
  | context r _ hf ih =>
    refine Eq.trans ?_ ih
    exact session_updateSession_same _ r s Session.config fun x => (hf x).config

/-- **The log records the targets of the work that was deferred, in order.** -/
theorem deferrals_eq (h : Later a ds b) (root : SessionId) :
    b.deferrals root = a.deferrals root ++ (workOn root ds).map (·.target) := by
  induction h with
  | refl => simp
  | quiet _ hq ih =>
    rw [hq.deferrals]
    exact ih
  | @defer ds b r d _ ih =>
    have logged : (b.defer r d).deferrals root =
        b.deferrals root ++ (workOn root [(r, d)]).map (·.target) := by
      refine (deferrals_write b _ root).trans ?_
      rw [workOn_singleton]
      by_cases hr : r = root
      · simp [Entry.deferral?, hr]
      · simp [Entry.deferral?, hr]
    rw [logged, ih, workOn_append, List.map_append, List.append_assoc]
  | context _ _ _ ih => exact ih

/-- **What waits was deferred last**, if the queue began with nothing or with what was deferred. -/
theorem queue_suffix (h : Later a ds b) {root : SessionId} {before : List Deferred}
    (start : a.queue root <:+ before) : b.queue root <:+ before ++ workOn root ds := by
  induction h with
  | refl =>
    rw [workOn_nil, List.append_nil]
    exact start
  | quiet _ hq ih =>
    rw [hq.queue]
    exact ih
  | @defer ds b r d _ ih =>
    rw [queue_defer, workOn_append, workOn_singleton, ← List.append_assoc]
    obtain ⟨front, hfront⟩ := ih
    by_cases hr : root = r
    · subst hr
      rw [if_pos rfl]
      split
      · exact ⟨front, by rw [← List.append_assoc, hfront]⟩
      · next gone =>
        -- a session that is not there has no queue to put work into
        have nothing : b.queue root = [] := by
          unfold queue
          rw [session_of_size_le b (Nat.le_of_not_lt fun there => gone ⟨rfl, there⟩)]
          rfl
        rw [nothing]
        exact List.nil_suffix
    · rw [if_neg fun hc => hr hc.1, if_neg (Ne.symm hr), List.append_nil]
      exact ⟨front, hfront⟩
  | context r _ hf ih =>
    rcases queue_context _ r root hf with same | emptied
    · rw [same]
      exact ih
    · rw [emptied]
      exact List.nil_suffix

/-- Being later, whatever was deferred, is a guarantee. -/
theorem guarantee : Guarantee fun a b => ∃ ds, Later a ds b where
  refl _ := ⟨[], .refl⟩
  trans := fun ⟨_, h⟩ ⟨_, k⟩ => ⟨_, h.trans k⟩
  quiet h := ⟨[], Later.refl.quiet h⟩

theorem brackets (root : SessionId) : Brackets (fun a b => ∃ ds, Later a ds b) root :=
  .of_tolerates guarantee fun w _ hf => ⟨[], changed w root hf⟩

/-- **Whatever a program does, it ends in a later world.** -/
theorem discipline : Discipline fun a b => ∃ ds, Later a ds b where
  toGuarantee := guarantee
  defer _ r d := ⟨_, Later.refl.defer r d⟩
  enterTarget _ root t _ hR hb :=
    (brackets root).keeps_enterTarget (.of_calm guarantee.calm (.of_quiet guarantee hR) root) t (hb root)

end Later

end World

end TargetBuilder
