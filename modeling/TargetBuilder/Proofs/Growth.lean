import TargetBuilder.Proofs.Later
import TargetBuilder.Proofs.Script

/-!
# Growth of the queue

While a context is open on a root session, work is only added to its queue, at the end and in the order
in which it is deferred. Contexts that are nested in the open one run no deferred work of that session,
and neither do builds of other sessions, although those empty their own queues.

Outside any context the queue may also become shorter: a build that begins and ends there takes its work
away.

* `World.Grown.discipline`: whatever a program does while a context is open, the queue grows by the
  work that it defers.
-/

namespace TargetBuilder

open World (Quiet Later)
open Script (runner)

namespace World

/-- The mark of a root session is as it was, and the world is a later one. -/
structure MarkKept (root : SessionId) (a b : World) : Prop where
  topLevel : (b.session root).topLevel = (a.session root).topLevel
  later : ∃ ds, Later a ds b

/--
The mark of a root session is as it was, and if it says that a context is open, the queue became longer
by the work that was deferred on the session.
-/
structure Grown (root : SessionId) (a b : World) : Prop where
  topLevel : (b.session root).topLevel = (a.session root).topLevel
  later : ∃ ds, Later a ds b ∧
    ((a.session root).topLevel.isSome → b.queue root = a.queue root ++ workOn root ds)

/-! ## The mark -/

namespace MarkKept

variable {root : SessionId}

theorem guarantee (root : SessionId) : Guarantee (MarkKept root) where
  refl _ := ⟨rfl, [], .refl⟩
  trans h k := ⟨k.topLevel.trans h.topLevel, Later.guarantee.trans h.later k.later⟩
  quiet h := ⟨h.topLevel root, Later.guarantee.quiet h⟩

theorem of_update (w : World) {f : Session → Session} (hf : ∀ x, Session.ContextChange x (f x))
    (ht : ∀ x, (f x).topLevel = x.topLevel) : MarkKept root w (w.updateSession root f) :=
  ⟨session_updateSession_same w root root Session.topLevel ht, [], .changed w root hf⟩

theorem brackets (root : SessionId) : Brackets (MarkKept root) root where
  withFrame {α} frame x hx := by
    intro w
    have inside := hx (w.updateSession root ({ · with frame }))
    refine ⟨?_, (Later.brackets root).withFrame frame (fun w => (hx w).later) w⟩
    obtain ⟨ds, hlater⟩ := inside.later
    have size := hlater.size_le
    rw [size_updateSession] at size
    exact changed_back Session.topLevel size inside.topLevel (fun _ h => h) fun _ h => h
  inContext {α x} hx := by
    intro w
    have inside := hx (w.session root).topLevel.isNone
      (w.updateSession root ({ · with topLevel := some (w.session root).topLevel.isNone }))
    refine ⟨?_, (Later.brackets root).inContext (fun b w => (hx b w).later) w⟩
    obtain ⟨ds, hlater⟩ := inside.later
    have size := hlater.size_le
    rw [size_updateSession] at size
    exact changed_back Session.topLevel size inside.topLevel (fun _ _ => rfl) fun _ _ => rfl
  taken w := of_update w .taken fun _ => rfl
  activated w := of_update w .activated fun _ => rfl

/-- A build keeps the mark if all that runs in it does. -/
theorem of_build {G : World → World → Prop} (mark : ∀ {a b}, G a b → MarkKept root a b) {R : Runner}
    (hR : R.Keeps G) (t : TargetId) (provider : Option ProviderId)
    {block : SessionId → Action World Unit} (hblock : ∀ r, (block r).Keeps G) (w : World) :
    MarkKept root w ((root.inContext fun _ => root.build R t provider block).run w).2 :=
  (brackets root).inContext (fun _ => (brackets root).keeps_build
    (.of_calm (guarantee root).calm (hR.mono mark) root) t provider fun w => mark (hblock root w)) w

end MarkKept

/-! ## The queue -/

namespace Grown

variable {root : SessionId} {R : Runner} {a b c : World}

theorem markKept (h : Grown root a b) : MarkKept root a b := by
  obtain ⟨ds, hlater, _⟩ := h.later
  exact ⟨h.topLevel, ds, hlater⟩

theorem trans (h : Grown root a b) (k : Grown root b c) : Grown root a c := by
  obtain ⟨ds, hab, hqueue⟩ := h.later
  obtain ⟨es, hbc, kqueue⟩ := k.later
  refine ⟨k.topLevel.trans h.topLevel, ds ++ es, hab.trans hbc, ?_⟩
  intro hopen
  rw [kqueue (by rw [h.topLevel]; exact hopen), hqueue hopen, workOn_append, List.append_assoc]

theorem guarantee (root : SessionId) : Guarantee (Grown root) where
  refl _ := ⟨rfl, [], .refl, fun _ => (List.append_nil _).symm⟩
  trans := trans
  quiet h := ⟨h.topLevel root, [], Later.refl.quiet h,
    fun _ => (h.queue root).trans (List.append_nil _).symm⟩

theorem defer (w : World) (r : SessionId) (d : Deferred) : Grown root w (w.defer r d) := by
  refine ⟨?_, [(r, d)], Later.refl.defer r d, ?_⟩
  · exact session_updateSession_same _ r root Session.topLevel fun _ => rfl
  · intro hopen
    rw [queue_defer, workOn_singleton]
    by_cases hr : r = root
    · subst hr
      rw [if_pos ⟨rfl, lt_size_of_open hopen⟩, if_pos rfl]
    · rw [if_neg fun hc => hr hc.1.symm, if_neg hr, List.append_nil]

/-- What happens to another session shows on neither the mark nor the queue. -/
theorem of_update_other (w : World) {r : SessionId} (hr : root ≠ r) {f : Session → Session}
    (hf : ∀ x, Session.ContextChange x (f x)) : Grown root w (w.updateSession r f) := by
  have same := session_updateSession_of_ne w f hr
  refine ⟨congrArg Session.topLevel same, [], .changed w r hf, ?_⟩
  intro _
  rw [workOn_nil, List.append_nil]
  exact congrArg Session.queue same

theorem withFrame {α : Type} (frame : Frame) {x : Action World α} (hx : x.Keeps (Grown root)) :
    (root.withFrame frame x).Keeps (Grown root) := by
  intro w
  have kept := (MarkKept.brackets root).withFrame frame (fun w => (hx w).markKept) w
  obtain ⟨ds, hlater, hqueue⟩ := (hx (w.updateSession root ({ · with frame }))).later
  refine ⟨kept.topLevel, ds, ?_, ?_⟩
  · have marked := Later.changed w root fun x => .frame x frame
    exact (marked.trans hlater).context root fun x => .frame x (w.session root).frame
  · intro hopen
    rw [SessionId.run_withFrame]
    refine (queue_reframed _ _ _).trans ((hqueue (by rw [topLevel_reframed]; exact hopen)).trans ?_)
    rw [queue_reframed]

/-- A context that is nested in an open one leaves the queue alone when it ends. -/
theorem inContext {α : Type} {x : Bool → Action World α} (hx : ∀ b, (x b).Keeps (Grown root)) :
    (root.inContext x).Keeps (Grown root) := by
  intro w
  have kept := (MarkKept.brackets root).inContext (fun b w => (hx b w).markKept) w
  rw [SessionId.run_inContext] at kept ⊢
  generalize hm : (w.session root).topLevel = before at kept ⊢
  obtain ⟨ds, hlater, hqueue⟩ :=
    (hx before.isNone (w.updateSession root ({ · with topLevel := some before.isNone }))).later
  refine ⟨kept.topLevel, ds, ?_, ?_⟩
  · have marked := Later.changed w root fun x => .mark x (some before.isNone)
    exact (marked.trans hlater).context root fun x => .leave x _ _
  · intro hopen
    have there := lt_size_of_open hopen
    rw [hm] at hopen
    have marked : ((w.updateSession root ({ · with topLevel := some before.isNone })).session
        root).topLevel.isSome := by
      rw [session_updateSession_self w _ there]
      rfl
    -- only the outermost context empties the queue when it is left, and this one is nested
    have left : ∀ (v : World) (givenUp : Bool),
        (v.updateSession root (SessionId.leave before givenUp)).queue root = v.queue root := by
      intro v givenUp
      refine session_updateSession_same v root root Session.queue fun x => ?_
      unfold SessionId.leave
      cases before with
      | none => cases hopen
      | some b => rfl
    refine (left _ _).trans ((hqueue marked).trans ?_)
    congr 1
    exact session_updateSession_same w root root Session.queue fun _ => rfl

theorem nesting (root : SessionId) : Nesting (Grown root) root := ⟨withFrame, inContext⟩

/-- **While a context is open, work is only added to the queue.** -/
theorem discipline (root : SessionId) : Discipline (Grown root) := by
  refine .of_root (guarantee root) defer (nesting root) ?_ fun w _ _ hr hf => of_update_other w hr hf
  -- a build may empty the queue, but it begins where no context is open
  intro R t provider block hR hblock w hout
  have kept := MarkKept.of_build markKept hR t provider hblock w
  obtain ⟨ds, hlater⟩ := kept.later
  refine ⟨kept.topLevel, ds, hlater, fun hopen => ?_⟩
  rw [hout] at hopen
  cases hopen

end Grown

end World

end TargetBuilder
