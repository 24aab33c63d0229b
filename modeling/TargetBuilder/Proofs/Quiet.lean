import TargetBuilder.Context
import TargetBuilder.Proofs.Guarantee

/-!
# Quiet changes

What happens to targets and registries is quiet whatever it is, and so is making targets and sessions,
filling in a root target that was missing, and writing lines that do not say that work was deferred.
-/

namespace TargetBuilder

open World (Quiet)

/-! ## Making targets -/

namespace World

theorem addParts_eq (owner : String) (parts : List (String × String)) :
    ∀ (fields : Fields) (w : World), ∃ targets targetNames,
      (addParts owner parts fields w).2 = { w with targets, targetNames } := by
  induction parts with
  | nil => exact fun _ w => ⟨w.targets, w.targetNames, rfl⟩
  | cons part rest ih =>
    intro fields w
    obtain ⟨field, type⟩ := part
    unfold addParts
    split
    · exact ih fields w
    · exact ih _ (w.addTarget _).2

/-- Making a target changes nothing but the targets and their names. -/
theorem create_eq {w w' : World} {type name : String} {stored : List (String × Value)}
    {t : TargetId} (h : w.create type name stored = some (t, w')) :
    ∃ targets targetNames, w' = { w with targets, targetNames } := by
  unfold create at h
  split at h
  · cases h
    exact ⟨_, _, rfl⟩
  · obtain ⟨c, -, hc⟩ := Option.map_eq_some_iff.mp h
    obtain ⟨targets, targetNames, hp⟩ := addParts_eq name c.parts c.initial w
    cases hc
    rw [hp]
    exact ⟨_, _, rfl⟩

theorem make_eq (type name : String) (w : World) :
    ∃ targets targetNames, ((make type name).run w).2 = { w with targets, targetNames } := by
  show ∃ targets targetNames, ((make type name) w).2 = { w with targets, targetNames }
  unfold make
  split
  · next h => exact create_eq h
  · exact ⟨w.targets, w.targetNames, rfl⟩

/-- Calling a root factory changes the targets, counts the call and writes a line. -/
theorem callRootFactory_eq (f : RootFactoryId) (w : World) :
    ∃ targets targetNames rootFactories call, ((callRootFactory f).run w).2 =
      { w with targets, targetNames, rootFactories, log := w.log.push (.rootFactoryCalled call) } := by
  unfold callRootFactory
  rw [Action.run_bind]
  dsimp only [Action.run_read]
  rw [Action.run_bind]
  dsimp only [Action.run_modify]
  rw [Action.run_bind]
  dsimp only [emit, Action.run_modify]
  split
  · exact ⟨_, _, _, _, rfl⟩
  · exact ⟨_, _, _, _, rfl⟩
  · next type name _ =>
    obtain ⟨targets, targetNames, hm⟩ :=
      make_eq type name (World.write { w with rootFactories := _ } _)
    exact ⟨targets, targetNames, _, _, hm⟩

end World

/-! ## Changes that are quiet whatever they change -/

namespace World.Quiet

theorem event (w : World) {e : Event} (he : ∀ s t, e ≠ .scheduled s t) :
    Quiet w (w.write (.event e)) := by
  refine write w ?_
  intro r
  cases e with
  | scheduled s t => exact absurd rfl (he s t)
  | _ => rfl

theorem updateTarget (w : World) (t : TargetId) (f : Target → Target) :
    Quiet w (w.updateTarget t f) :=
  of_sessions_eq rfl fun _ => rfl

theorem land (w : World) (t : TargetId) (name : String) : Quiet w (w.land t name) :=
  updateTarget w t _

theorem updateRegistry (w : World) (r : RegistryId) (f : Registry → Registry) :
    Quiet w (w.updateRegistry r f) :=
  of_sessions_eq rfl fun _ => rfl

/-- A root target that is missing is filled in. -/
theorem synthesize (w : World) {r : SessionId} (h : (w.session r).synthesized = none)
    (t : TargetId) : Quiet w (w.updateSession r ({ · with synthesized := some t })) := by
  have kept : ∀ {β : Type} (p : Session → β),
      (∀ x : Session, p { x with synthesized := some t } = p x) →
        ∀ s, p ((w.updateSession r ({ · with synthesized := some t })).session s) = p (w.session s) :=
    fun p hp s => session_updateSession_same w r s p hp
  refine ⟨Nat.le_of_eq (size_updateSession w r _).symm, ?_, ?_, ?_, ?_, ?_, ?_, ?_, fun _ => rfl⟩
  · exact fun s _ => kept (·.root) (fun _ => rfl) s
  · exact fun s _ => kept (·.config) (fun _ => rfl) s
  · intro s u hu
    rw [session_updateSession]
    split
    · next hs =>
      rw [hs.1, h] at hu
      cases hu
    · exact hu
  · exact kept (·.frame) fun _ => rfl
  · exact kept (·.topLevel) fun _ => rfl
  · exact kept (·.lifecycle) fun _ => rfl
  · exact kept (·.queue) fun _ => rfl

end World.Quiet

end TargetBuilder
