import TargetBuilder.Proofs.LookUp
import TargetBuilder.Proofs.Moment

/-!
# One provider for a root session and a type

A registry makes a provider when one is looked up for a root session and a type of target and there is
none yet, and it finds that provider again for every target of the type. But a factory runs before its
provider is recorded, and it may look up providers itself. So what is kept is not that a pair has one
provider, but that it gets no more once a look-up for it has come to its end.

* `World.Settled.regime`: whatever code does, a pair that has its provider keeps it, and gets no other.
* `looked_up_once`: what a look-up answers, what it makes, and what is answered ever after.
* `reentered_factory_makes_two`: a factory that looks up a provider for its own pair.
-/

namespace TargetBuilder

open World (Calm Moment)
open Script (runner)
open Capability (boundKey?)

/-! ## What asking for providers keeps -/

namespace World

/-- Whatever code does, sessions, targets and registries stay, and what they are. -/
theorem Extends.regime : Regime Extends :=
  Guarantee.regime ⟨refl, trans, ProvidersKept.toExtends⟩ fun _ root t hR =>
    .sessionProvide_of_recording guarantee (fun root t key w => bound w root t key)
      (fun w _ _ => .updateRegistry w _ _) hR root t

theorem ProvidersKept.of_begins {a b : World} (h : Begins a b) : ProvidersKept a b := by
  cases h with
  | holding s => exact .of_stores_eq rfl rfl rfl
  | mark root => exact .updateSession a root fun _ => rfl
  | frame root frame => exact .updateSession a root fun _ => rfl
  | launched h => exact .launched a _ h

/-- What holds of a world goes on to hold. -/
def Stays (I : World → Prop) (a b : World) : Prop := I a → I b

theorem Stays.guarantee {I : World → Prop} {Q : World → World → Prop}
    (kept : ∀ {a b}, Q a b → I a → I b) : Guarantee (Stays I) Q :=
  ⟨fun _ h => h, fun h k ha => k (h ha), kept⟩

/-- The index of every registry has a key for exactly the pairs that have a provider. -/
def Indexed (w : World) : Prop := ∀ r, (w.registry r).Indexed

theorem Indexed.of_providersKept {a b : World} (hk : ProvidersKept a b) (h : a.Indexed) :
    b.Indexed := fun r => (h r).congr (hk.records r)

theorem Indexed.regime : Regime (Stays Indexed) := by
  have hG : Guarantee (Stays Indexed) Calm := Stays.guarantee fun h => of_providersKept (.of_calm h)
  refine Guarantee.regime (Stays.guarantee of_providersKept) fun R root t hR => ?_
  refine .sessionProvide_of_recording hG (fun _ _ _ _ hw => hw) (fun w r entry hw s => ?_) hR root t
  rw [registry_updateRegistry]
  split
  · exact (hw r).record entry
  · exact hw s

/--
A root session has its provider for a type: `p` is what its registry finds, after `ps` were recorded in
all, and whatever key is stored on `u`, which is of the type, leads to `p`.
-/
structure Settled (root : SessionId) (type : String) (p : ProviderId) (ps : List ProviderId)
    (u : TargetId) (w : World) : Prop where
  root_there : root.index < w.sessions.size
  target_there : u.index < w.targets.size
  of_type : (w.target u).type.name = type
  holds : (w.registry (w.registryOf root)).Holds root type p ps
  bound : ∀ key, boundKey? w root u = some key →
    (w.registry (w.registryOf root)).provider? key = some p

namespace Settled

variable {root : SessionId} {type : String} {p : ProviderId} {ps : List ProviderId} {u : TargetId}
  {a b w : World}

theorem providersFor_eq (h : Settled root type p ps u w) : w.providersFor root type = ps :=
  h.holds.providers

theorem of_providersKept (hk : ProvidersKept a b) (h : Settled root type p ps u a) :
    Settled root type p ps u b where
  root_there := Nat.lt_of_lt_of_le h.root_there hk.sessions_le
  target_there := Nat.lt_of_lt_of_le h.target_there hk.targets_le
  of_type := by rw [hk.type u h.target_there, h.of_type]
  holds := by
    rw [hk.registryOf h.root_there]
    exact h.holds.congr (hk.records _)
  bound key hkey := by
    unfold boundKey? Metadata.get? at hkey
    rw [hk.slots] at hkey
    rw [hk.registryOf h.root_there, Registry.provider?_congr (hk.records _)]
    exact h.bound key hkey

/-- Another target may take the place of `u`, if nothing is stored on it for the root session. -/
theorem retarget (h : Settled root type p ps u w) {u' : TargetId}
    (there : u'.index < w.targets.size) (htype : (w.target u').type.name = type)
    (free : u' = u ∨ boundKey? w root u' = none) : Settled root type p ps u' w := by
  rcases free with rfl | free
  · exact h
  · exact { h with
      target_there := there
      of_type := htype
      bound := fun key hkey => by rw [free] at hkey; cases hkey }

/-- A key that is stored on a target does no harm, unless it is the wrong one on `u`. -/
theorem bind (h : Settled root type p ps u w) {r : SessionId} {t : TargetId} {key : Nat}
    (right : r = root → t = u → (w.registry (w.registryOf root)).provider? key = some p) :
    Settled root type p ps u (w.bound r t key) where
  root_there := h.root_there
  target_there := Nat.lt_of_lt_of_le h.target_there (Extends.bound w r t key).targets_le
  of_type := by rw [(Extends.bound w r t key).type u h.target_there, h.of_type]
  holds := h.holds
  bound k hk := by
    rw [boundKey?_bound] at hk
    split at hk
    · next hc =>
      cases hk
      exact right hc.2.symm hc.1.1.symm
    · exact h.bound k hk

theorem updateRegistry (h : Settled root type p ps u w) (r : RegistryId) {f : Registry → Registry}
    (holds : ∀ x, x.Holds root type p ps → (f x).Holds root type p ps)
    (found : ∀ x key, x.provider? key = some p → (f x).provider? key = some p) :
    Settled root type p ps u (w.updateRegistry r f) :=
  { h with
    holds := by
      show Registry.Holds (World.registry _ (w.registryOf root)) root type p ps
      rw [registry_updateRegistry]
      split
      · next hr => exact holds _ (hr.1 ▸ h.holds)
      · exact h.holds
    bound := fun key hkey => by
      show (World.registry _ (w.registryOf root)).provider? key = some p
      rw [registry_updateRegistry]
      split
      · next hr => exact found _ key (hr.1 ▸ h.bound key hkey)
      · exact h.bound key hkey }

/-- Recording a provider for another pair makes no difference, if it is stored on another target. -/
theorem record_other (h : Settled root type p ps u w) (r : RegistryId) {r' : SessionId} {t : TargetId}
    {type' : String} (q : ProviderId) (ne : (r', type') ≠ (root, type)) (apart : r' = root → t ≠ u) :
    Settled root type p ps u (w.recorded r r' t type' q) := by
  have recorded := h.updateRegistry r (f := (·.record ⟨r', type', q⟩))
    (fun _ hx => hx.record_of_ne ne) fun _ _ hx => Registry.provider?_record_of_some hx _
  exact (recorded.bind fun hr ht => absurd ht (apart hr)).of_providersKept (.write _ _)

/-- A target on which the key of the provider is stored is served by it. -/
theorem of_bound {t : TargetId} {key : Nat} (hroot : root.index < w.sessions.size)
    (ht : t.index < w.targets.size) (htype : (w.target t).type.name = type)
    (holds : (w.registry (w.registryOf root)).Holds root type p ps)
    (right : (w.registry (w.registryOf root)).provider? key = some p) :
    Settled root type p ps t (w.bound root t key) where
  root_there := hroot
  target_there := Nat.lt_of_lt_of_le ht (Extends.bound w root t key).targets_le
  of_type := by rw [(Extends.bound w root t key).type t ht, htype]
  holds := holds
  bound k hk := by
    rw [boundKey?_bound, if_pos ⟨⟨rfl, ht⟩, rfl⟩] at hk
    cases hk
    exact right

/-- A provider that is recorded for the pair itself is the one that is found from then on. -/
theorem of_recorded {r : RegistryId} {t : TargetId} (hroot : root.index < w.sessions.size)
    (ht : t.index < w.targets.size) (hr : r.index < w.registries.size) (own : w.registryOf root = r)
    (htype : (w.target t).type.name = type) :
    Settled root type p (w.providersFor root type ++ [p]) t (w.recorded r root t type p) := by
  subst own
  have stored : (w.updateRegistry (w.registryOf root) (·.record ⟨root, type, p⟩)).registry
      (w.registryOf root) = (w.registry (w.registryOf root)).record ⟨root, type, p⟩ := by
    rw [registry_updateRegistry, if_pos ⟨rfl, hr⟩]
  refine of_providersKept (.write _ _) (of_bound hroot ht htype ?_ ?_)
  · show Registry.Holds (World.registry _ (w.registryOf root)) _ _ _ _
    rw [stored]
    exact .recorded _ root type p
  · show (World.registry _ (w.registryOf root)).provider? _ = some p
    rw [stored, Registry.provider?_record, if_pos rfl]

/-- **Whatever code does, a pair that has its provider keeps it, and gets no other.** -/
theorem regime : Regime (Stays (Settled root type p ps u)) := by
  have hG : Guarantee (Stays (Settled root type p ps u)) Calm :=
    Stays.guarantee fun h => of_providersKept (.of_calm h)
  refine Guarantee.regime (Stays.guarantee of_providersKept) fun R r t hR w h => ?_
  rw [SessionId.run_provide, Capability.run_provide]
  split
  · exact h
  split
  · next key hkey =>
    refine h.bind fun hr ht => ?_
    subst hr ht
    have indexed := h.holds.indexed
    rw [← h.of_type, hkey] at indexed
    exact indexed
  · next missing =>
    -- only for another pair is there no key, and then the target is another one, too
    have ne : (r, (w.target t).type.name) ≠ (root, type) := by
      intro hc
      have indexed := h.holds.indexed
      obtain ⟨rfl, htype⟩ := Prod.mk.inj hc
      rw [← htype, missing] at indexed
      cases indexed
    have apart : r = root → t ≠ u := by
      rintro rfl rfl
      exact ne (by rw [h.of_type])
    split
    · exact h.of_providersKept (.write _ _)
    · next factory _ =>
      have producing := Capability.keeps_produce hG hR r factory
      split
      · next q w' hq =>
        exact (producing.of_run hq h).record_other _ q ne apart
      · next e w' hq =>
        exact producing.of_run hq h

/-- A look-up answers the provider of the pair, and makes none. -/
theorem run_provide (h : Settled root type p ps u w) (R : Runner) :
    ∃ w', (root.provide R u).run w = (.ok (some p), w') ∧ Settled root type p ps u w' := by
  rw [SessionId.run_provide, Capability.run_provide]
  cases hb : (boundKey? w root u).bind (w.registry (w.registryOf root)).provider? with
  | some q =>
    obtain ⟨key, hkey, hq⟩ := Option.bind_eq_some_iff.mp hb
    rw [h.bound key hkey] at hq
    cases hq
    exact ⟨w, rfl, h⟩
  | none =>
    obtain ⟨key, hkey, hp⟩ := Option.bind_eq_some_iff.mp h.holds.indexed
    rw [h.of_type, hkey]
    dsimp only
    rw [hp]
    exact ⟨_, rfl, h.bind fun _ _ => hp⟩

end Settled

/-! ## Later worlds -/

/--
What can come after a world, as long as no factory ends that is running in it for a root session and a
type: code runs, something changes that no look-up sees, such as that a context is opened or closed, or
a factory ends that was running for another pair, and its provider is recorded.
-/
inductive Onward (root : SessionId) (type : String) (w : World) : World → Prop
  | refl : Onward root type w w
  | ran {v : World} {fuel : Nat} {α : Type} {x : Action World α} :
      Onward root type w v → Piece (runner fuel) x → Onward root type w (x.run v).2
  | unseen {v v' : World} : Onward root type w v → ProvidersKept v v' → Onward root type w v'
  | ended {v : World} (r : RegistryId) (root' : SessionId) (t : TargetId) (p : ProviderId) :
      Onward root type w v → (root', (v.target t).type.name) ≠ (root, type) →
      Onward root type w (v.recorded r root' t (v.target t).type.name p)

theorem Settled.onward {root : SessionId} {type : String} {p : ProviderId} {ps : List ProviderId}
    {u : TargetId} {w v : World} (h : Settled root type p ps u w) (hv : Onward root type w v) :
    Settled root type p ps u v := by
  induction hv with
  | refl => exact h
  | ran _ hx ih => exact Settled.regime.keeps_piece hx _ ih
  | unseen _ hk ih => exact ih.of_providersKept hk
  | ended r root' t q _ ne ih =>
    refine ih.record_other r q ne ?_
    rintro rfl rfl
    exact ne (by rw [ih.of_type])

/-- From then on the pair gets no other provider, and the provider that it has is always answered. -/
theorem Settled.answers_onward {root : SessionId} {type : String} {p : ProviderId}
    {ps : List ProviderId} {t : TargetId} {w v : World} (h : Settled root type p ps t w)
    (hv : Onward root type w v) :
    v.providersFor root type = w.providersFor root type ∧
      ∀ u : TargetId, u.index < v.targets.size → (v.target u).type.name = type →
        u = t ∨ boundKey? v root u = none → ∀ v', Onward root type v v' →
          ∀ R, ∃ v'', (root.provide R u).run v' = (.ok (some p), v'') ∧
            v''.providersFor root type = w.providersFor root type := by
  have now := h.onward hv
  refine ⟨now.providersFor_eq.trans h.providersFor_eq.symm, fun u there htype hu v' hv' R => ?_⟩
  obtain ⟨v'', answer, after⟩ := ((now.retarget there htype hu).onward hv').run_provide R
  exact ⟨v'', answer, after.providersFor_eq.trans h.providersFor_eq.symm⟩

theorem Moment.indexed {l : List Activity} {w : World} (h : Moment l w) : w.Indexed := by
  obtain ⟨types, reached⟩ := h.reaches
  have begins : ∀ {a b : World}, Begins a b → Stays Indexed a b :=
    fun hb h => h.of_providersKept (.of_begins hb)
  exact Indexed.regime.keeps_reaches begins reached fun _ => Registry.indexed_empty

/-- What a look-up comes to, for a target on which no key is stored. -/
theorem Indexed.settled_of_run_provide {w w' : World} (h : w.Indexed) {fuel : Nat}
    {root : SessionId} {t : TargetId} {p : ProviderId} (hroot : root.index < w.sessions.size)
    (ht : t.index < w.targets.size) (hregistry : (w.registryOf root).index < w.registries.size)
    (free : boundKey? w root t = none)
    (found : (root.provide (runner fuel) t).run w = (.ok (some p), w')) :
    ∃ ps, Settled root (w.target t).type.name p ps t w' ∧
      (w.providersFor root (w.target t).type.name ≠ [] →
        ps = w.providersFor root (w.target t).type.name) ∧
      (w.providersFor root (w.target t).type.name = [] → ∃ factory made,
        (w.registry (w.registryOf root)).factoryFor (w.target t).type = some factory ∧
          (Capability.produce (runner fuel) root factory).run w = (.ok p, made) ∧
            ps = made.providersFor root (w.target t).type.name ++ [p]) := by
  have none_iff := h (w.registryOf root) root (w.target t).type.name
  rw [SessionId.run_provide, Capability.run_provide, free] at found
  dsimp only [Option.bind_none] at found
  split at found
  · next key hkey =>
    obtain ⟨hp, rfl⟩ := Prod.mk.inj found
    have hp : (w.registry (w.registryOf root)).provider? key = some p := Except.ok.inj hp
    have holds : (w.registry (w.registryOf root)).Holds root (w.target t).type.name p
        (w.providersFor root (w.target t).type.name) := ⟨rfl, by rw [hkey]; exact hp⟩
    refine ⟨_, .of_bound hroot ht rfl holds hp, fun _ => rfl, fun nothing => ?_⟩
    rw [none_iff.mpr nothing] at hkey
    cases hkey
  · next missing =>
    split at found
    · cases found
    next factory hf =>
    split at found
    · next q made hmade =>
      cases found
      have grown := (Capability.keeps_produce Extends.guarantee
        (Script.regime_exec Extends.regime fuel) root factory).of_run hmade
      have settled := Settled.of_recorded (p := p)
        (Nat.lt_of_lt_of_le hroot grown.sessions_le) (Nat.lt_of_lt_of_le ht grown.targets_le)
        (Nat.lt_of_lt_of_le hregistry grown.registries_le) (grown.registryOf hroot)
        (congrArg TargetType.name (grown.type t ht))
      exact ⟨_, settled, fun some_made => absurd (none_iff.mp missing) some_made,
        fun _ => ⟨factory, made, hf, hmade, rfl⟩⟩
    · cases found

end World

/--
**A look-up settles which provider serves.** At any moment of any run, let a provider `p` be answered
for a target on which no key is stored for the root session. If providers were recorded for the root
session and the type of the target before, none is added. If there were none, then a factory for the
type has run, and `p` comes after the providers that were recorded for the pair while it ran. And from
then on, as long as no factory ends that had begun for the same pair before, whatever else happens, the
pair gets no other provider; and every look-up for that target, or for a target of the type that is
there and on which no key is stored for the root session, answers `p` ever after.
-/
theorem looked_up_once {l : List Activity} {w w' : World} (h : Moment l w) {fuel : Nat}
    {root : SessionId} {t : TargetId} {p : ProviderId} (hroot : root.index < w.sessions.size)
    (ht : t.index < w.targets.size) (hregistry : (w.registryOf root).index < w.registries.size)
    (free : boundKey? w root t = none)
    (found : (root.provide (runner fuel) t).run w = (.ok (some p), w')) :
    let type := (w.target t).type.name
    (w.providersFor root type ≠ [] → w'.providersFor root type = w.providersFor root type) ∧
      (w.providersFor root type = [] → ∃ factory made,
        (w.registry (w.registryOf root)).factoryFor (w.target t).type = some factory ∧
          (Capability.produce (runner fuel) root factory).run w = (.ok p, made) ∧
            w'.providersFor root type = made.providersFor root type ++ [p]) ∧
        ∀ v, World.Onward root type w' v →
          v.providersFor root type = w'.providersFor root type ∧
            ∀ u : TargetId, u.index < v.targets.size → (v.target u).type.name = type →
              u = t ∨ boundKey? v root u = none → ∀ v', World.Onward root type v v' →
                ∀ R, ∃ v'', (root.provide R u).run v' = (.ok (some p), v'') ∧
                  v''.providersFor root type = w'.providersFor root type := by
  obtain ⟨ps, settled, again, first⟩ :=
    h.indexed.settled_of_run_provide hroot ht hregistry free found
  have all : w'.providersFor root (w.target t).type.name = ps := settled.providersFor_eq
  rw [← all] at again first
  exact ⟨again, first, fun v hv => settled.answers_onward hv⟩

/-! ## Factories that look up providers -/

/-- A described type whose targets take every selector. -/
def plain (type : String) : TargetClass := ⟨⟨type, []⟩, false, .everything, .empty, []⟩

/-- Two views and a layer, and a session whose registry has a factory for views with a set-up. -/
def openWithViews (setup : List Statement) : Action World Unit := do
  let _ ← World.make "View" "v"
  let _ ← World.make "View" "u"
  let _ ← World.make "Layer" "y"
  let registry ← Action.adding World.addRegistry
  let s ← World.openRoot { (default : Config) with registry }
  Script.register s ⟨"View", .empty, setup⟩ none

/-- The world with this session. -/
def withViews (setup : List Statement) : World :=
  let types := .ofList [("View", plain "View"), ("Layer", plain "Layer")]
  ((openWithViews setup).run (.empty types)).2

theorem calm_openWithViews (setup : List Statement) : (openWithViews setup).Keeps Calm := by
  have hG := Calm.guarantee
  unfold openWithViews
  refine .bind hG (Action.calm_make _ _) fun _ => .bind hG (Action.calm_make _ _) fun _ => ?_
  refine .bind hG (Action.calm_make _ _) fun _ => .bind hG (.adding Calm.addRegistry) fun _ => ?_
  exact .bind hG (Action.calm_openRoot _) fun s => Script.calm_register s _ none

theorem moment_withViews (setup : List Statement) : Moment [] (withViews setup) :=
  .ran (.start _) (.code (R := runner 0) (.calm (calm_openWithViews setup)))

theorem looked_up_once_view :
    let root : SessionId := ⟨0⟩
    let w := withViews []
    Moment [] w ∧ boundKey? w root ⟨0⟩ = none ∧ w.providersFor root "View" = [] ∧
      ∃ w', (root.provide (runner 1) ⟨0⟩).run w = (.ok (some ⟨0⟩), w') ∧
        w'.providersFor root "View" = [⟨0⟩] ∧
          ∃ w'', (root.provide (runner 1) ⟨1⟩).run w' = (.ok (some ⟨0⟩), w'') ∧
            w''.providersFor root "View" = [⟨0⟩] := by
  have found : ((⟨0⟩ : SessionId).provide (runner 1) ⟨0⟩).run (withViews []) =
      (.ok (some ⟨0⟩), _) := Action.run_eq_of_toOption (by decide +kernel)
  have made : (((⟨0⟩ : SessionId).provide (runner 1) ⟨0⟩).run (withViews [])).2.providersFor
      ⟨0⟩ "View" = [⟨0⟩] := by decide +kernel
  obtain ⟨-, -, onward⟩ := looked_up_once (moment_withViews []) (by decide) (by decide)
    (by decide +kernel) (by decide +kernel) found
  obtain ⟨-, answers⟩ := onward _ .refl
  obtain ⟨w'', answer, all⟩ := answers ⟨1⟩ (by decide +kernel) (by decide +kernel)
    (Or.inr (by decide +kernel)) _ .refl (runner 1)
  exact ⟨moment_withViews [], by decide +kernel, by decide +kernel, _, found, made, w'', answer,
    all.trans made⟩

/-- A set-up that enters the layer, and looks up a provider for a view while nothing was built yet. -/
def lookingUp : List Statement :=
  [.mk (.initial (.given
    [ .mk (.enter (.targetNamed "y") .absent) none false
    , .mk (.providerFor (.targetNamed "u")) none false ])) none false]

/--
A factory that looks up a provider for its own pair while it runs makes two of them. The look-up for
one view answers the provider that was recorded last; the other view keeps the one that was made
inside, and every later look-up for it answers that one.
-/
theorem reentered_factory_makes_two :
    let root : SessionId := ⟨0⟩
    let v : TargetId := ⟨0⟩
    let u : TargetId := ⟨1⟩
    let w := withViews lookingUp
    let looked := (Script.providerFor (runner 8) root v).run w
    Moment [] w ∧ (w.target v).type = (w.target u).type ∧ w.providersFor root "View" = [] ∧
      looked.1.toOption = some (some ⟨1⟩) ∧
        looked.2.providersFor root "View" = [⟨0⟩, ⟨1⟩] ∧
          ((Script.providerFor (runner 8) root u).run looked.2).1.toOption = some (some ⟨0⟩) ∧
            ((Script.providerFor (runner 8) root v).run looked.2).1.toOption = some (some ⟨1⟩) := by
  refine ⟨moment_withViews lookingUp, ?_, ?_, ?_, ?_, ?_, ?_⟩ <;> decide +kernel

end TargetBuilder
