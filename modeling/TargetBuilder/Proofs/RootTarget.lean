import TargetBuilder.Proofs.Calm

/-!
# Root targets

A root session that has a root target answers it, and nothing else happens. One that has none asks its root
factory, if it has one. The factory may hand out a target, which the session has from then on, or it may
decline, and is asked again the next time.

* `World.rootTarget?`: the root target that a session would answer.
* `SessionId.ownRootTarget_fst`: it answers that one.
-/

namespace TargetBuilder

namespace World

/-! ## What making a target depends on -/

/-- The two worlds have the same targets under the same names, and types are described alike in both. -/
structure SameTargets (a b : World) : Prop where
  types : b.describedTypes = a.describedTypes
  targets : b.targets = a.targets
  names : b.targetNames = a.targetNames

namespace SameTargets

variable {a b : World}

theorem named (h : SameTargets a b) : b.named = a.named := by
  unfold World.named
  rw [h.names]

theorem addTarget (h : SameTargets a b) (x : Target) :
    (b.addTarget x).1 = (a.addTarget x).1 ∧ SameTargets (a.addTarget x).2 (b.addTarget x).2 := by
  unfold World.addTarget
  dsimp only
  rw [h.targets, h.names]
  exact ⟨rfl, h.types, rfl, rfl⟩

theorem addParts (owner : String) (parts : List (String × String)) :
    ∀ {a b : World} (fields : Fields), SameTargets a b →
      (World.addParts owner parts fields b).1 = (World.addParts owner parts fields a).1 ∧
        SameTargets (World.addParts owner parts fields a).2 (World.addParts owner parts fields b).2 := by
  induction parts with
  | nil => exact fun _ h => ⟨rfl, h⟩
  | cons part rest ih =>
    intro a b fields h
    obtain ⟨field, type⟩ := part
    unfold World.addParts
    cases Catalogue.find? type with
    | none => exact ih fields h
    | some c =>
      obtain ⟨made, same⟩ :=
        h.addTarget (instantiate c (.catalogue type) (owner ++ "." ++ field) c.initial)
      dsimp only
      rw [made]
      exact ih _ same

/-- Both worlds make the same target, or neither makes one. -/
theorem create (h : SameTargets a b) (type name : String) (stored : List (String × Value)) :
    Option.Rel (fun x y => y.1 = x.1 ∧ SameTargets x.2 y.2) (a.create type name stored)
      (b.create type name stored) := by
  unfold World.create
  rw [h.types]
  cases a.describedTypes.get? type with
  | some c => exact .some (h.addTarget _)
  | none =>
    cases Catalogue.find? type with
    | none => exact .none
    | some c =>
      obtain ⟨fields, same⟩ := addParts name c.parts c.initial h
      refine .some ?_
      dsimp only
      rw [fields]
      exact same.addTarget _

theorem make (h : SameTargets a b) (type name : String) :
    ((World.make type name).run b).1 = ((World.make type name).run a).1 ∧
      SameTargets ((World.make type name).run a).2 ((World.make type name).run b).2 := by
  have created := h.create type name []
  unfold Action.run World.make
  cases ha : a.create type name [] with
  | none =>
    rw [ha] at created
    cases hb : b.create type name [] with
    | none => exact ⟨rfl, h⟩
    | some y =>
      rw [hb] at created
      cases created
  | some x =>
    rw [ha] at created
    cases hb : b.create type name [] with
    | none =>
      rw [hb] at created
      cases created
    | some y =>
      rw [hb] at created
      cases created with
      | some same => exact ⟨congrArg (Except.ok ∘ some) same.1, same.2⟩

end SameTargets

/-! ## Root factories -/

/-- What a root factory hands out when it is called next. -/
def handOut? (w : World) (f : RootFactoryId) : Option TargetId :=
  let factory := w.rootFactories.get f.index
  match factory.answer (factory.calls + 1) with
  | .declined => none
  | .named name => w.named name
  | .made type name => (w.create type name []).map (·.1)

theorem make_fst (type name : String) (w : World) :
    ((make type name).run w).1 = .ok ((w.create type name []).map (·.1)) := by
  unfold Action.run make
  cases w.create type name [] <;> rfl

/-- A root factory hands out what it would hand out before it is noted that it is called. -/
theorem callRootFactory_fst (f : RootFactoryId) (w : World) :
    ((callRootFactory f).run w).1 = .ok (w.handOut? f) := by
  unfold callRootFactory handOut?
  rw [Action.run_bind, Action.run_read]
  dsimp only
  rw [Action.run_bind, Action.run_modify]
  dsimp only
  rw [Action.run_bind]
  dsimp only [emit, Action.run_modify]
  cases (w.rootFactories.get f.index).answer ((w.rootFactories.get f.index).calls + 1) with
  | declined => rfl
  | named name => rfl
  | made type name =>
    dsimp only
    rw [← make_fst]
    refine (SameTargets.make ?_ type name).1
    exact ⟨rfl, rfl, rfl⟩

/-- What a root factory leaves of the targets depends on the targets and the factories. -/
theorem SameTargets.callRootFactory {a b : World} (h : SameTargets a b)
    (factories : b.rootFactories = a.rootFactories) (f : RootFactoryId) :
    ((World.callRootFactory f).run b).1 = ((World.callRootFactory f).run a).1 ∧
      SameTargets ((World.callRootFactory f).run a).2 ((World.callRootFactory f).run b).2 := by
  unfold World.callRootFactory
  simp only [Action.run_bind, Action.run_read, Action.run_modify, emit, factories]
  cases (a.rootFactories.get f.index).answer ((a.rootFactories.get f.index).calls + 1) with
  | declined => exact ⟨rfl, h.types, h.targets, h.names⟩
  | named name => exact ⟨congrArg Except.ok (congrFun h.named name), h.types, h.targets, h.names⟩
  | made type name =>
    dsimp only
    refine SameTargets.make ?_ type name
    exact ⟨h.types, h.targets, h.names⟩

end World

/-! ## The root target of a session -/

/-- The root target that a root session has: the configured one, or the one that was made. -/
def Session.rootTarget? (s : Session) : Option TargetId := s.config.rootTarget.or s.synthesized

/-- A root session that has no root target has the one that is made for it. -/
theorem Session.rootTarget?_synthesized {s : Session} (lacks : s.rootTarget? = none) (t : TargetId) :
    ({ s with synthesized := some t } : Session).rootTarget? = some t := by
  obtain ⟨configured, -⟩ := Option.or_eq_none_iff.mp lacks
  unfold rootTarget?
  dsimp only
  rw [configured]
  rfl

/--
The root target that a root session would answer: the one that it has, or else what its root factory
hands out when it is called next.
-/
def World.rootTarget? (w : World) (r : SessionId) : Option TargetId :=
  (w.session r).rootTarget?.or ((w.session r).config.rootFactory.bind w.handOut?)

namespace SessionId

variable {r : SessionId} {w : World}

/-- A root target that is there is answered, and nothing else happens. -/
theorem run_ownRootTarget_has {t : TargetId} (h : (w.session r).rootTarget? = some t) :
    r.ownRootTarget.run w = (.ok (some t), w) := by
  unfold ownRootTarget state
  rw [Action.run_bind, Action.run_reads]
  dsimp only
  unfold Session.rootTarget? at h
  cases configured : (w.session r).config.rootTarget with
  | some u =>
    rw [configured] at h
    cases h
    rfl
  | none =>
    rw [configured, Option.none_or] at h
    rw [h]
    rfl

/-- A session that has no root target asks its root factory, if it has one. -/
theorem run_ownRootTarget_lacks (h : (w.session r).rootTarget? = none) :
    r.ownRootTarget.run w =
      match (w.session r).config.rootFactory with
      | none => (.ok none, w)
      | some factory => (r.synthesizeRoot factory).run w := by
  obtain ⟨configured, made⟩ := Option.or_eq_none_iff.mp h
  unfold ownRootTarget state
  rw [Action.run_bind, Action.run_reads]
  dsimp only
  rw [configured, made]
  cases (w.session r).config.rootFactory <;> rfl

theorem synthesizeRoot_fst (factory : RootFactoryId) :
    ((r.synthesizeRoot factory).run w).1 = .ok (w.handOut? factory) := by
  have called := World.callRootFactory_fst factory w
  unfold synthesizeRoot
  rw [Action.run_bind]
  cases hrun : (World.callRootFactory factory).run w with
  | mk answer w' =>
    rw [hrun] at called
    cases called
    dsimp only
    cases w.handOut? factory <;> rfl

/-- **What a root session answers** when it is asked for its root target. -/
theorem ownRootTarget_fst (r : SessionId) (w : World) :
    (r.ownRootTarget.run w).1 = .ok (w.rootTarget? r) := by
  unfold World.rootTarget?
  cases has : (w.session r).rootTarget? with
  | some t => rw [run_ownRootTarget_has has, Option.some_or]
  | none =>
    rw [run_ownRootTarget_lacks has, Option.none_or]
    cases (w.session r).config.rootFactory with
    | none => rfl
    | some factory => exact synthesizeRoot_fst factory

/-- What a session answers depends on the session, the targets and the root factories. -/
theorem rootTarget?_same {a b : World} (h : World.SameTargets a b)
    (factories : b.rootFactories = a.rootFactories) (session : b.session r = a.session r) :
    b.rootTarget? r = a.rootTarget? r := by
  have handOut : b.handOut? = a.handOut? := by
    funext f
    have same := (h.callRootFactory factories f).1
    rw [World.callRootFactory_fst, World.callRootFactory_fst] at same
    exact Except.ok.inj same
  unfold World.rootTarget?
  rw [session, handOut]

/-- So does what asking for a root target leaves of the targets. -/
theorem ownRootTarget_same {a b : World} (h : World.SameTargets a b)
    (factories : b.rootFactories = a.rootFactories) (session : b.session r = a.session r) :
    World.SameTargets (r.ownRootTarget.run a).2 (r.ownRootTarget.run b).2 := by
  cases has : (a.session r).rootTarget? with
  | some t =>
    rw [run_ownRootTarget_has has, run_ownRootTarget_has (by rw [session]; exact has)]
    exact h
  | none =>
    rw [run_ownRootTarget_lacks has, run_ownRootTarget_lacks (by rw [session]; exact has), session]
    cases (a.session r).config.rootFactory with
    | none => exact h
    | some factory =>
      obtain ⟨answer, same⟩ := h.callRootFactory factories factory
      unfold synthesizeRoot
      dsimp only
      rw [Action.run_bind, Action.run_bind]
      cases ha : (World.callRootFactory factory).run a with
      | mk x a' =>
      cases hb : (World.callRootFactory factory).run b with
      | mk y b' =>
      rw [ha, hb] at answer same
      cases answer
      rcases x with e | _ | t
      · exact same
      · exact same
      · exact ⟨same.types, same.targets, same.names⟩

end SessionId

end TargetBuilder
