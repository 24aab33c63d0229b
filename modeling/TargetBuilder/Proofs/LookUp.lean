import TargetBuilder.Proofs.Orderly

/-!
# Looking up providers

What a registry has made, what a look-up sees of a world, and what it comes to. Three stores work
together: the providers in the order in which they were recorded, the index by root session and type,
and the keys on the targets. Nearly everything that happens is seen by none of them.

* `Capability.run_provide`: the three steps of a look-up as one equation.
* `Guarantee.regime`: a guarantee of all that look-ups cannot see is a regime, if asking for providers
  keeps it, too.
-/

namespace TargetBuilder

open World (Calm)
open Capability (boundKey? slotName)

/-! ## What a registry has made -/

namespace Registry

/-- The providers that were recorded for a root session and the name of a type, in order. -/
def providersFor (r : Registry) (root : SessionId) (type : String) : List ProviderId :=
  r.registrations.items.toList.filterMap fun e =>
    if (e.root, e.type) = (root, type) then some e.provider else none

theorem providersFor_record (r : Registry) (e : Registration) (root : SessionId) (type : String) :
    (r.record e).providersFor root type =
      r.providersFor root type ++ if (e.root, e.type) = (root, type) then [e.provider] else [] := by
  unfold providersFor record Arena.push
  rw [Array.toList_push, List.filterMap_append, List.filterMap_cons, List.filterMap_nil]
  by_cases h : (e.root, e.type) = (root, type)
  · simp only [if_pos h]
  · simp only [if_neg h]

/-- A key under which a provider is found is not the one that the next provider will get. -/
theorem provider?_record_of_some {r : Registry} {key : Nat} {p : ProviderId}
    (h : r.provider? key = some p) (e : Registration) : (r.record e).provider? key = some p := by
  rw [provider?_record, if_neg ?_]
  · exact h
  · rintro rfl
    unfold provider? nextKey at h
    rw [(r.registrations.get?_eq_none_iff _).mpr (Nat.le_refl _)] at h
    cases h

/-! ### What depends on the records only -/

section Records

variable {a b : Registry}

theorem index_congr (h : b.records = a.records) : b.index = a.index := congrArg Prod.snd h

theorem provider?_congr (h : b.records = a.records) : b.provider? = a.provider? := by
  have stored : b.registrations = a.registrations := congrArg Prod.fst h
  funext key
  unfold provider?
  rw [stored]

theorem providersFor_congr (h : b.records = a.records) (root : SessionId) (type : String) :
    b.providersFor root type = a.providersFor root type := by
  have stored : b.registrations = a.registrations := congrArg Prod.fst h
  unfold providersFor
  rw [stored]

end Records

/-! ### The index -/

/-- The index has a key for exactly the pairs for which a provider was recorded. -/
def Indexed (r : Registry) : Prop :=
  ∀ root type, r.index.get? (root, type) = none ↔ r.providersFor root type = []

theorem indexed_empty : empty.Indexed := fun _ _ => ⟨fun _ => rfl, fun _ => rfl⟩

theorem Indexed.record {r : Registry} (h : r.Indexed) (e : Registration) : (r.record e).Indexed := by
  intro root type
  rw [index_record, providersFor_record]
  by_cases hp : (root, type) = (e.root, e.type)
  · rw [if_pos hp, if_pos hp.symm]
    simp
  · rw [if_neg hp, if_neg (Ne.symm hp), List.append_nil]
    exact h root type

theorem Indexed.congr {a b : Registry} (h : a.Indexed) (same : b.records = a.records) :
    b.Indexed := by
  intro root type
  rw [index_congr same, providersFor_congr same]
  exact h root type

/-- A registry finds `p` for a root session and a type, and `ps` is all that it recorded for them. -/
structure Holds (r : Registry) (root : SessionId) (type : String) (p : ProviderId)
    (ps : List ProviderId) : Prop where
  providers : r.providersFor root type = ps
  indexed : (r.index.get? (root, type)).bind r.provider? = some p

namespace Holds

variable {r : Registry} {root : SessionId} {type : String} {p : ProviderId} {ps : List ProviderId}

/-- Recording a provider for one pair makes no difference to another. -/
theorem record_of_ne (h : r.Holds root type p ps) {e : Registration}
    (ne : (e.root, e.type) ≠ (root, type)) : (r.record e).Holds root type p ps where
  providers := by rw [providersFor_record, if_neg ne, List.append_nil, h.providers]
  indexed := by
    obtain ⟨key, hkey, hp⟩ := Option.bind_eq_some_iff.mp h.indexed
    rw [index_record, if_neg (Ne.symm ne), hkey]
    exact provider?_record_of_some hp e

/-- A provider that was just recorded is the one that is found. -/
theorem recorded (r : Registry) (root : SessionId) (type : String) (p : ProviderId) :
    (r.record ⟨root, type, p⟩).Holds root type p (r.providersFor root type ++ [p]) where
  providers := by rw [providersFor_record, if_pos rfl]
  indexed := by
    rw [index_record, if_pos rfl]
    show (r.record ⟨root, type, p⟩).provider? r.nextKey = some p
    rw [provider?_record, if_pos rfl]

theorem congr {a b : Registry} (h : a.Holds root type p ps) (same : b.records = a.records) :
    b.Holds root type p ps where
  providers := by rw [providersFor_congr same, h.providers]
  indexed := by rw [index_congr same, provider?_congr same, h.indexed]

end Holds

end Registry

/-! ## What look-ups see of a world -/

namespace World

/-- The registry in which the providers of a root session are looked up. -/
def registryOf (w : World) (root : SessionId) : RegistryId := (w.session root).config.registry

/-- The providers that were made for a root session and the name of a type. -/
def providersFor (w : World) (root : SessionId) (type : String) : List ProviderId :=
  (w.registry (w.registryOf root)).providersFor root type

/-- Whatever is there stays, with the configurations of sessions and the types of targets. -/
structure Extends (a b : World) : Prop where
  sessions_le : a.sessions.size ≤ b.sessions.size
  targets_le : a.targets.size ≤ b.targets.size
  registries_le : a.registries.size ≤ b.registries.size
  config : ∀ s, s.index < a.sessions.size → (b.session s).config = (a.session s).config
  type : ∀ t, t.index < a.targets.size → (b.target t).type = (a.target t).type

/-- What looking up providers depends on stays. -/
structure ProvidersKept (a b : World) : Prop extends Extends a b where
  slots : ∀ t, (b.target t).metadata.slots = (a.target t).metadata.slots
  records : ∀ r, (b.registry r).records = (a.registry r).records

theorem type_updateMetadata (w : World) (t u : TargetId) (f : Metadata → Metadata) :
    ((w.updateMetadata t f).target u).type = (w.target u).type :=
  w.targets.get_update_same (·.type) rfl u.index

namespace Extends

variable {a b c : World}

theorem refl (a : World) : Extends a a :=
  ⟨Nat.le_refl _, Nat.le_refl _, Nat.le_refl _, fun _ _ => rfl, fun _ _ => rfl⟩

theorem trans (h : Extends a b) (k : Extends b c) : Extends a c where
  sessions_le := Nat.le_trans h.sessions_le k.sessions_le
  targets_le := Nat.le_trans h.targets_le k.targets_le
  registries_le := Nat.le_trans h.registries_le k.registries_le
  config s hs := (k.config s (Nat.lt_of_lt_of_le hs h.sessions_le)).trans (h.config s hs)
  type t ht := (k.type t (Nat.lt_of_lt_of_le ht h.targets_le)).trans (h.type t ht)

theorem of_calm (h : Calm a b) : Extends a b where
  sessions_le := h.size_le
  targets_le := h.targets_le
  registries_le := h.registries_le
  config := h.config
  type := h.type

theorem registryOf (h : Extends a b) {root : SessionId} (there : root.index < a.sessions.size) :
    b.registryOf root = a.registryOf root := congrArg Config.registry (h.config root there)

theorem updateSession (w : World) (r : SessionId) {f : Session → Session}
    (hf : ∀ x, (f x).config = x.config) : Extends w (w.updateSession r f) where
  sessions_le := Nat.le_of_eq (size_updateSession w r f).symm
  targets_le := Nat.le_refl _
  registries_le := Nat.le_refl _
  config s _ := session_updateSession_same w r s Session.config hf
  type _ _ := rfl

theorem updateMetadata (w : World) (t : TargetId) (f : Metadata → Metadata) :
    Extends w (w.updateMetadata t f) where
  sessions_le := Nat.le_refl _
  targets_le := Nat.le_of_eq (w.targets.size_update t.index _).symm
  registries_le := Nat.le_refl _
  config _ _ := rfl
  type u _ := type_updateMetadata w t u f

theorem updateRegistry (w : World) (r : RegistryId) (f : Registry → Registry) :
    Extends w (w.updateRegistry r f) where
  sessions_le := Nat.le_refl _
  targets_le := Nat.le_refl _
  registries_le := Nat.le_of_eq (w.registries.size_update r.index f).symm
  config _ _ := rfl
  type _ _ := rfl

theorem guarantee : Guarantee Extends Calm := ⟨refl, trans, of_calm⟩

end Extends

namespace ProvidersKept

variable {a b c : World}

theorem of_calm (h : Calm a b) : ProvidersKept a b where
  toExtends := .of_calm h
  slots t := congrArg Metadata.slots (h.metadata t)
  records := h.records

theorem trans (h : ProvidersKept a b) (k : ProvidersKept b c) : ProvidersKept a c where
  toExtends := h.toExtends.trans k.toExtends
  slots t := (k.slots t).trans (h.slots t)
  records r := (k.records r).trans (h.records r)

theorem updateSession (w : World) (r : SessionId) {f : Session → Session}
    (hf : ∀ x, (f x).config = x.config) : ProvidersKept w (w.updateSession r f) where
  toExtends := .updateSession w r hf
  slots _ := rfl
  records _ := rfl

/-- Marking names and taking marks off are no matter of slots. -/
theorem updateMetadata (w : World) (t : TargetId) {f : Metadata → Metadata}
    (hf : (f (w.target t).metadata).slots = (w.target t).metadata.slots) :
    ProvidersKept w (w.updateMetadata t f) where
  toExtends := .updateMetadata w t f
  slots u := by
    rw [metadata_updateMetadata]
    split
    · next hu => rw [hf, hu.1]
    · rfl
  records _ := rfl

theorem launched (w : World) (t : TargetId) {name : String} {m : Metadata}
    (h : (w.target t).metadata.launch? name = some m) :
    ProvidersKept w (w.updateMetadata t fun _ => m) := by
  refine updateMetadata w t ?_
  unfold Metadata.launch? at h
  split at h
  · cases h
  · cases h
    rfl

theorem landed (w : World) (t : TargetId) (name : String) : ProvidersKept w (w.land t name) :=
  updateMetadata w t rfl

/-- What happens neither to sessions nor to targets or registries. -/
theorem of_stores_eq (hs : b.sessions = a.sessions) (ht : b.targets = a.targets)
    (hr : b.registries = a.registries) : ProvidersKept a b where
  sessions_le := Nat.le_of_eq (by rw [hs])
  targets_le := Nat.le_of_eq (by rw [ht])
  registries_le := Nat.le_of_eq (by rw [hr])
  config s _ := by unfold session; rw [hs]
  type t _ := by unfold target; rw [ht]
  slots t := by unfold target; rw [ht]
  records r := by unfold registry; rw [hr]

theorem write (w : World) (e : Entry) : ProvidersKept w (w.write e) := of_stores_eq rfl rfl rfl

theorem defer (w : World) (r : SessionId) (d : Deferred) : ProvidersKept w (w.defer r d) :=
  (write w _).trans (updateSession _ r fun _ => rfl)

end ProvidersKept

end World

/-- A guarantee of all that look-ups cannot see is a regime if asking for providers keeps it, too. -/
theorem Guarantee.regime {G : World → World → Prop} (hG : Guarantee G World.ProvidersKept)
    (provide : ∀ (R : Runner) (root : SessionId) (t : TargetId),
      (∀ task s, (R.exec task s).Keeps G) → (root.provide R t).Keeps G) : Regime G where
  refl := hG.refl
  trans := hG.trans
  quiet h := hG.quiet (.of_calm h)
  holding s _ hx := .holding hG (fun _ _ => hG.quiet (.of_stores_eq rfl rfl rfl)) s hx
  defer w r d := hG.quiet (.defer w r d)
  context w r _ hf := hG.quiet (.updateSession w r fun x => (hf x).config)
  provide := provide
  marking t name _ _ hx hy :=
    .marking ⟨hG.refl, hG.trans, fun h => hG.quiet (.of_calm h.toCalm)⟩
      (fun w t _ _ h => hG.quiet (.launched w t h)) (fun w t name => hG.quiet (.landed w t name))
      t name hx hy

/-! ## Looking a provider up -/

namespace World

/-- The world after the key of a provider was stored on a target. -/
def bound (w : World) (root : SessionId) (t : TargetId) (key : Nat) : World :=
  w.updateMetadata t (·.set root slotName (.provider key))

/-- The world after a provider was recorded for a root session and a type, and stored on a target. -/
def recorded (w : World) (r : RegistryId) (root : SessionId) (t : TargetId) (type : String)
    (p : ProviderId) : World :=
  ((w.updateRegistry r (·.record ⟨root, type, p⟩)).bound root t (w.registry r).nextKey).write
    (.event (.providerCreated root type t))

theorem Extends.bound (w : World) (root : SessionId) (t : TargetId) (key : Nat) :
    Extends w (w.bound root t key) := .updateMetadata w t _

theorem boundKey?_bound (w : World) (root other : SessionId) (t u : TargetId) (key : Nat) :
    boundKey? (w.bound root t key) other u =
      if (u = t ∧ t.index < w.targets.size) ∧ other = root then some key
      else boundKey? w other u := by
  unfold boundKey? bound
  rw [metadata_updateMetadata]
  by_cases hu : u = t ∧ t.index < w.targets.size
  · rw [if_pos hu, Metadata.get?_set]
    by_cases hr : other = root
    · rw [hr, if_pos rfl, if_pos ⟨hu, rfl⟩]
      rfl
    · have apart : (other, slotName) ≠ (root, slotName) := fun hc => hr (Prod.mk.inj hc).1
      rw [if_neg apart, if_neg fun hc => hr hc.2, hu.1]
  · rw [if_neg hu, if_neg fun hc => hu hc.1]

end World

namespace Capability

/-- Makes a provider by a factory, on a new child of a root session. -/
def produce (R : Runner) (root : SessionId) (factory : ProviderFactory) :
    Action World ProviderId := do
  let child ← World.openChild root
  runFactory R factory child

theorem run_make (R : Runner) (r : RegistryId) (root : SessionId) (t : TargetId) (type : String)
    (factory : ProviderFactory) (w : World) :
    (make R r root t type factory).run w =
      match (produce R root factory).run w with
      | (.ok p, made) => (.ok p, made.recorded r root t type p)
      | (.error e, made) => (.error e, made) := by
  unfold make produce
  simp only [Action.run_bind]
  cases (World.openChild root).run w with
  | mk child opened =>
    cases child with
    | error e => rfl
    | ok child =>
      dsimp only
      cases (runFactory R factory child).run opened with
      | mk p made => cases p <;> rfl

/-- The three steps of a look-up: the key on the target, the index, the factory. -/
theorem run_provide (R : Runner) (r : RegistryId) (root : SessionId) (t : TargetId) (w : World) :
    (provide R r root t).run w =
      match (boundKey? w root t).bind (w.registry r).provider? with
      | some p => (.ok (some p), w)
      | none =>
        match (w.registry r).index.get? (root, (w.target t).type.name) with
        | some key => (.ok ((w.registry r).provider? key), w.bound root t key)
        | none =>
          match (w.registry r).factoryFor (w.target t).type with
          | none => (.ok none, w.write (.event (.factoryMissing (w.target t).type.name)))
          | some factory =>
            match (produce R root factory).run w with
            | (.ok p, made) => (.ok (some p), made.recorded r root t (w.target t).type.name p)
            | (.error e, made) => (.error e, made) := by
  unfold provide
  rw [Action.run_bind, Action.run_read]
  dsimp only
  cases (boundKey? w root t).bind (w.registry r).provider? with
  | some p => rfl
  | none =>
  cases (w.registry r).index.get? (root, (w.target t).type.name) with
  | some key => rfl
  | none =>
  cases (w.registry r).factoryFor (w.target t).type with
  | none => rfl
  | some factory =>
    dsimp only
    rw [Action.run_bind, run_make]
    cases (produce R root factory).run w with
    | mk p made => cases p <;> rfl

theorem keeps_produce {G : World → World → Prop} (hG : Guarantee G Calm) {R : Runner}
    (hR : ∀ task s, (R.exec task s).Keeps G) (root : SessionId) (factory : ProviderFactory) :
    (produce R root factory).Keeps G :=
  .bind hG (.of_quiet hG (Action.calm_openChild root)) fun child =>
    .runFactory hG.still.idle (fun _ _ => hG.quiet (Calm.of_stores_eq rfl rfl rfl rfl rfl)) hR factory child

end Capability

theorem SessionId.run_provide (R : Runner) (root : SessionId) (t : TargetId) (w : World) :
    (root.provide R t).run w = (Capability.provide R (w.registryOf root) root t).run w := by
  unfold SessionId.provide SessionId.state
  rw [Action.run_bind, Action.run_reads]
  rfl

end TargetBuilder
