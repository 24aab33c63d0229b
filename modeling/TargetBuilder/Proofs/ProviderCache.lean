import TargetBuilder.Proofs.LookUpHistory

/-!
# Provider look-ups as a plain cache

A look-up goes through three stores: the key on the target, the index of the registry, and the factories
that are registered. For root sessions that look up in their own registries, and factories that stand
alone, the three come to one cache, which is keyed by the root session and the name of the type, and which
is filled by the first factory that is found.

The proof is a refinement. The plain cache is what the look-ups of a run left in it, and `World.Refines`
says what the three stores hold for it.

* `World.Refines.lookUp`: one look-up does what the plain cache says, and the stores follow.
* `lookUps_agree_with_cache`: so do all of them, and what is cached is what was made.
-/

namespace TargetBuilder

open World (Moment ProvidersKept)
open Script (runner)
open Capability (boundKey?)
open SessionId (wasGivenUp)

/-- One of the look-ups made `p` for the root session and the type. -/
def Made (xs : List LookUp) (root : SessionId) (type : String) (p : ProviderId) : Prop :=
  ∃ y ∈ xs, y.root = root ∧ y.type = type ∧ ∃ f, y.Makes f p

theorem made_concat {xs : List LookUp} {x : LookUp} {root : SessionId} {type : String}
    {p : ProviderId} :
    Made (xs ++ [x]) root type p ↔
      Made xs root type p ∨ (x.root = root ∧ x.type = type) ∧ ∃ f, x.Makes f p := by
  unfold Made
  simp only [List.mem_append, List.mem_singleton, or_and_right, exists_or, exists_eq_left, and_assoc]

/-! ## The plain cache -/

/-- A provider for each root session and name of a type, or none yet. -/
def PlainCache : Type := SessionId → String → Option ProviderId

namespace PlainCache

/-- Nothing is cached. -/
def empty : PlainCache := fun _ _ => none

/-- Caches what was answered, if anything was, unless there is something already. -/
def store (c : PlainCache) (root : SessionId) (type : String) (p? : Option ProviderId) : PlainCache :=
  fun r τ => if (r, τ) = (root, type) then (c r τ).or p? else c r τ

variable {c : PlainCache} {root : SessionId} {type : String}

theorem store_of_some {p : ProviderId} (h : c root type = some p) (p? : Option ProviderId) :
    c.store root type p? = c := by
  funext r τ
  unfold store
  split
  · next hr =>
    obtain ⟨rfl, rfl⟩ := Prod.mk.inj hr
    rw [h]
    rfl
  · rfl

theorem store_none : c.store root type none = c := by
  funext r τ
  unfold store
  split
  · exact Option.or_none
  · rfl

theorem store_self (h : c root type = none) (p? : Option ProviderId) :
    c.store root type p? root type = p? := by
  unfold store
  rw [if_pos rfl, h]
  rfl

theorem store_of_ne (p? : Option ProviderId) {r : SessionId} {τ : String}
    (h : (r, τ) ≠ (root, type)) : c.store root type p? r τ = c r τ := if_neg h

theorem store_eq_some_iff (p? : Option ProviderId) {r : SessionId} {τ : String} {p : ProviderId} :
    c.store root type p? r τ = some p ↔
      c r τ = some p ∨ (root = r ∧ type = τ) ∧ c root type = none ∧ p? = some p := by
  unfold store
  split
  · next hr =>
    obtain ⟨rfl, rfl⟩ := Prod.mk.inj hr
    rw [Option.or_eq_some_iff]
    simp
  · next hr =>
    refine ⟨Or.inl, fun h => ?_⟩
    rcases h with h | ⟨⟨rfl, rfl⟩, -⟩
    · exact h
    · exact absurd rfl hr

end PlainCache

/-- What a plain cache holds after some look-ups. -/
def cachedBy (xs : List LookUp) : PlainCache :=
  xs.foldl (fun c x => c.store x.root x.type x.answer?) .empty

theorem cachedBy_concat (xs : List LookUp) (x : LookUp) :
    cachedBy (xs ++ [x]) = (cachedBy xs).store x.root x.type x.answer? := by
  unfold cachedBy
  rw [List.foldl_append, List.foldl_cons, List.foldl_nil]

/--
The look-up does what a plain cache says. What is cached is answered. Otherwise the factory that is found
is called, and unless it is given up, what it makes is answered. Without a factory nothing happens,
and there is no answer.
-/
def LookUp.Answers (x : LookUp) (c : PlainCache) : Prop :=
  match c x.root x.type, x.factory? with
  | some p, _ =>
    x.result = .ok (some p) ∧ x.after.factoryCalls = x.before.factoryCalls ∧
      x.after.providers = x.before.providers
  | none, some f => x.Calls f ∧ ((∃ p, x.Makes f p) ∨ wasGivenUp x.result = true)
  | none, none =>
    x.result = .ok none ∧ x.after = x.before.write (.event (.factoryMissing x.type))

/-! ## What the stores hold -/

namespace World

/--
The three stores hold what a plain cache holds: the registry of a root session finds what is cached for
it, no registry finds anything else, and the keys on targets lead to what is cached.
-/
structure Refines (c : PlainCache) (w : World) : Prop where
  cached : ∀ root type p, c root type = some p → root.index < w.sessions.size ∧
    ((w.registry (w.registryOf root)).index.get? (root, type)).bind
      (w.registry (w.registryOf root)).provider? = some p
  indexed : ∀ r root type, c root type = none → (w.registry r).index.get? (root, type) = none
  bound : ∀ root t key, boundKey? w root t = some key → t.index < w.targets.size ∧
    ∃ p, c root (w.target t).type.name = some p ∧
      (w.registry (w.registryOf root)).provider? key = some p

namespace Refines

variable {c : PlainCache} {a b w : World}

theorem empty (types : OrderedMap String TargetClass) : Refines .empty (.empty types) where
  cached _ _ _ h := by cases h
  indexed _ _ _ _ := rfl
  bound _ _ _ h := by cases h

theorem of_providersKept (hk : ProvidersKept a b) (h : Refines c a) : Refines c b where
  cached root type p hp := by
    obtain ⟨there, found⟩ := h.cached root type p hp
    refine ⟨Nat.lt_of_lt_of_le there hk.sessions_le, ?_⟩
    rw [hk.registryOf there, Registry.index_congr (hk.records _),
      Registry.provider?_congr (hk.records _)]
    exact found
  indexed r root type hn := by
    rw [Registry.index_congr (hk.records r)]
    exact h.indexed r root type hn
  bound root t key hkey := by
    unfold boundKey? Metadata.get? at hkey
    rw [hk.slots] at hkey
    obtain ⟨there, p, hp, found⟩ := h.bound root t key hkey
    refine ⟨Nat.lt_of_lt_of_le there hk.targets_le, p, ?_, ?_⟩
    · rw [hk.type t there]
      exact hp
    · rw [hk.registryOf (h.cached root _ p hp).1, Registry.provider?_congr (hk.records _)]
      exact found

/-- The key under which a provider is found may be stored on a target of its type. -/
theorem bind (h : Refines c w) {root : SessionId} {t : TargetId} {p : ProviderId} {key : Nat}
    (there : t.index < w.targets.size) (hp : c root (w.target t).type.name = some p)
    (found : (w.registry (w.registryOf root)).provider? key = some p) :
    Refines c (w.bound root t key) where
  cached := h.cached
  indexed := h.indexed
  bound r u k hk := by
    have targets := Extends.bound w root t key
    rw [boundKey?_bound] at hk
    split at hk
    · next hu =>
      obtain ⟨⟨rfl, _⟩, rfl⟩ := hu
      cases hk
      refine ⟨Nat.lt_of_lt_of_le there targets.targets_le, p, ?_, found⟩
      rw [targets.type _ there]
      exact hp
    · obtain ⟨uthere, q, hq, qfound⟩ := h.bound r u k hk
      refine ⟨Nat.lt_of_lt_of_le uthere targets.targets_le, q, ?_, qfound⟩
      rw [targets.type _ uthere]
      exact hq

/-- The first provider for a pair is recorded in the registry of the root session. -/
theorem record (h : Refines c w) {root : SessionId} {type : String} (missing : c root type = none)
    (there : root.index < w.sessions.size)
    (registered : (w.registryOf root).index < w.registries.size) (p : ProviderId) :
    Refines (c.store root type (some p))
      (w.updateRegistry (w.registryOf root) (·.record ⟨root, type, p⟩)) where
  cached r τ q hq := by
    show _ ∧ ((World.registry _ (w.registryOf r)).index.get? (r, τ)).bind
      (World.registry _ (w.registryOf r)).provider? = some q
    rw [registry_updateRegistry]
    by_cases pair : (r, τ) = (root, type)
    · obtain ⟨rfl, rfl⟩ := Prod.mk.inj pair
      rw [PlainCache.store_self missing] at hq
      cases hq
      rw [if_pos ⟨rfl, registered⟩]
      exact ⟨there, (Registry.Holds.recorded _ r τ p).indexed⟩
    · rw [PlainCache.store_of_ne _ pair] at hq
      obtain ⟨rthere, found⟩ := h.cached r τ q hq
      refine ⟨rthere, ?_⟩
      split
      · next own =>
        rw [own.1] at found
        exact (Registry.Holds.record_of_ne ⟨rfl, found⟩ (Ne.symm pair)).indexed
      · exact found
  indexed r s τ hn := by
    have apart : (s, τ) ≠ (root, type) := by
      rintro pair
      obtain ⟨rfl, rfl⟩ := Prod.mk.inj pair
      rw [PlainCache.store_self missing] at hn
      cases hn
    rw [PlainCache.store_of_ne _ apart] at hn
    rw [registry_updateRegistry]
    split
    · rw [Registry.index_record, if_neg apart]
      exact h.indexed _ s τ hn
    · exact h.indexed r s τ hn
  bound r u k hk := by
    obtain ⟨uthere, q, hq, found⟩ := h.bound r u k hk
    refine ⟨uthere, q, ?_, ?_⟩
    · show c.store root type (some p) r (w.target u).type.name = some q
      unfold PlainCache.store
      rw [hq]
      split <;> rfl
    · show (World.registry _ (w.registryOf r)).provider? k = some q
      rw [registry_updateRegistry]
      split
      · next own =>
        rw [own.1] at found
        exact Registry.provider?_record_of_some found _
      · exact found

/-- A provider that was just made is recorded, and its key is stored on the target. -/
theorem recorded (h : Refines c w) {r : RegistryId} {root : SessionId} {t : TargetId} {type : String}
    (missing : c root type = none) (there : root.index < w.sessions.size)
    (tthere : t.index < w.targets.size) (registered : r.index < w.registries.size)
    (own : w.registryOf root = r) (htype : (w.target t).type.name = type) (p : ProviderId) :
    Refines (c.store root type (some p)) (w.recorded r root t type p) := by
  subst own htype
  refine of_providersKept (.write _ _) (bind (p := p) (h.record missing there registered p) tthere
    (PlainCache.store_self missing _) ?_)
  show (World.registry _ (w.registryOf root)).provider? _ = some p
  rw [registry_updateRegistry, if_pos ⟨rfl, registered⟩, Registry.provider?_record, if_pos rfl]

end Refines

end World

/-! ## Look-ups on the stores -/

namespace World.Refines

variable {c : PlainCache} {x : LookUp}

/-- What is cached is answered, whichever store it is found in. -/
theorem lookUp_cached (h : Refines c x.before) (own : x.IsOwn)
    (there : x.target.index < x.before.targets.size) {p : ProviderId}
    (cached : c x.root x.type = some p) :
    (x.result = .ok (some p) ∧ x.after.factoryCalls = x.before.factoryCalls ∧
      x.after.providers = x.before.providers) ∧ Refines c x.after := by
  have run := x.run_eq
  split at run
  · next q hq =>
    obtain ⟨key, hkey, found⟩ := Option.bind_eq_some_iff.mp hq
    obtain ⟨-, q', hq', found'⟩ := h.bound x.root x.target key hkey
    rw [own] at found'
    have same : some q = some p := (found.symm.trans found').trans (hq'.symm.trans cached)
    obtain ⟨result, after⟩ := Prod.mk.inj run
    rw [result, after]
    exact ⟨⟨congrArg Except.ok same, rfl, rfl⟩, h⟩
  · obtain ⟨-, found⟩ := h.cached x.root x.type p cached
    obtain ⟨key, hkey, found⟩ := Option.bind_eq_some_iff.mp found
    have stored := h.bind there cached found
    rw [own] at hkey found
    have hkey : x.store.index.get? (x.root, x.type) = some key := hkey
    rw [hkey] at run
    obtain ⟨result, after⟩ := Prod.mk.inj run
    rw [result, after]
    exact ⟨⟨congrArg Except.ok found, rfl, rfl⟩, stored⟩

/-- If nothing is cached, the look-up gets to the factories. -/
theorem lookUp_uncached (h : Refines c x.before) (uncached : c x.root x.type = none) :
    (x.result, x.after) = x.viaFactory := by
  have unbound : (boundKey? x.before x.root x.target).bind x.store.provider? = none := by
    rw [Option.bind_eq_none_iff]
    intro key hkey
    obtain ⟨-, p, hp, -⟩ := h.bound x.root x.target key hkey
    have hp : c x.root x.type = some p := hp
    rw [uncached] at hp
    cases hp
  have unindexed : x.store.index.get? (x.root, x.type) = none := h.indexed _ _ _ uncached
  rw [x.run_eq, unbound, unindexed]

/-- **One look-up does what the plain cache says**, and the stores hold what is cached after it. -/
theorem lookUp (h : Refines c x.before) (own : x.IsOwn) (proper : x.Proper) :
    x.Answers c ∧ Refines (c.store x.root x.type x.answer?) x.after := by
  unfold LookUp.Answers
  cases cached : c x.root x.type with
  | some p =>
    rw [PlainCache.store_of_some cached]
    exact h.lookUp_cached own proper.target_there cached
  | none =>
    obtain ⟨missing, result, after⟩ | ⟨f, made, produced, calls, outcome⟩ :=
      LookUp.of_viaFactory proper (h.lookUp_uncached cached)
    · rw [missing]
      refine ⟨⟨result, after⟩, ?_⟩
      unfold LookUp.answer?
      rw [result, after]
      show Refines (c.store x.root x.type none) _
      rw [PlainCache.store_none]
      exact h.of_providersKept (.write _ _)
    rw [calls.found]
    have kept := h.of_providersKept produced.toProvidersKept
    obtain ⟨p, makes, after⟩ | ⟨unanswered, givenUp, after⟩ := outcome
    · refine ⟨⟨calls, Or.inl ⟨p, makes⟩⟩, ?_⟩
      rw [makes.answer?, after]
      exact kept.recorded cached (Nat.lt_of_lt_of_le proper.root_there produced.sessions_le)
        (Nat.lt_of_lt_of_le proper.target_there produced.targets_le)
        (Nat.lt_of_lt_of_le proper.registry_there produced.registries_le)
        ((produced.registryOf proper.root_there).trans own)
        (congrArg TargetType.name (produced.type _ proper.target_there)) p
    · refine ⟨⟨calls, Or.inr givenUp⟩, ?_⟩
      rw [unanswered, after, PlainCache.store_none]
      exact kept

end World.Refines

/-! ## Runs -/

/-- A look-up makes a provider if nothing was cached and it answers. -/
theorem LookUp.Answers.makes_iff {x : LookUp} {c : PlainCache} (h : x.Answers c) (p : ProviderId) :
    (∃ f, x.Makes f p) ↔ c x.root x.type = none ∧ x.answer? = some p := by
  unfold Answers at h
  constructor
  · rintro ⟨f, makes⟩
    refine ⟨?_, makes.answer?⟩
    cases cached : c x.root x.type with
    | none => rfl
    | some q =>
      rw [cached] at h
      have longer := congrArg List.length (makes.called.symm.trans h.2.1)
      rw [List.length_append] at longer
      exact absurd longer (Nat.succ_ne_self _)
  · rintro ⟨uncached, answer⟩
    unfold answer? at answer
    rw [uncached] at h
    cases hf : x.factory? with
    | none =>
      rw [hf] at h
      rw [h.1] at answer
      cases answer
    | some f =>
      rw [hf] at h
      obtain ⟨-, ⟨q, makes⟩ | givenUp⟩ := h
      · rw [makes.result] at answer
        cases answer
        exact ⟨f, makes⟩
      · cases hr : x.result with
        | ok a =>
          rw [hr] at givenUp
          cases givenUp
        | error e =>
          rw [hr] at answer
          cases answer

/-- What is answered is cached afterwards. -/
theorem LookUp.Answers.cached {x : LookUp} {c : PlainCache} (h : x.Answers c) {p : ProviderId}
    (answer : x.answer? = some p) : c.store x.root x.type x.answer? x.root x.type = some p := by
  cases cached : c x.root x.type with
  | none => rw [PlainCache.store_self cached, answer]
  | some q =>
    unfold Answers at h
    rw [cached] at h
    rw [PlainCache.store_of_some cached, cached, ← answer]
    unfold answer?
    rw [h.1]
    rfl

/-- What look-ups left in the plain cache is held by the stores, and it is what they made. -/
theorem World.Consulted.refines {types : OrderedMap String TargetClass} {xs : List LookUp} {w : World}
    (h : Consulted (.empty types) xs w) (own : ∀ y ∈ xs, y.IsOwn) (proper : ∀ y ∈ xs, y.Proper) :
    Refines (cachedBy xs) w ∧
      ∀ root type p, cachedBy xs root type = some p ↔ Made xs root type p := by
  induction h with
  | refl =>
    refine ⟨.empty types, fun root type p => ⟨fun hp => (by cases hp), ?_⟩⟩
    rintro ⟨y, hy, -⟩
    cases hy
  | unseen _ hk ih => exact (ih own proper).imp_left (.of_providersKept hk)
  | lookUp x _ ih =>
    rw [List.forall_mem_append, List.forall_mem_singleton] at own proper
    obtain ⟨held, made⟩ := ih own.1 proper.1
    obtain ⟨answers, after⟩ := held.lookUp own.2 proper.2
    rw [cachedBy_concat]
    refine ⟨after, fun root type p => ?_⟩
    rw [PlainCache.store_eq_some_iff, made_concat, made, answers.makes_iff]

/--
**Look-ups agree with a plain cache.** Every moment of a run is reached by look-ups of root sessions in
their own registries, and else by what no look-up sees. If what they name is there, and the factories
that they call stand alone, then the plain cache holds what they made, for each root session and type.
And the next look-up does what the plain cache says, whatever is stored on its target and whatever was
registered since. What it answers was made for its root session and the type of its target.
-/
theorem lookUps_agree_with_cache :
    (∀ {l : List Activity} {w : World}, Moment l w →
      ∃ types xs, World.Consulted (.empty types) xs w ∧ ∀ y ∈ xs, y.IsOwn) ∧
    ∀ {types : OrderedMap String TargetClass} {xs : List LookUp} {w : World},
      World.Consulted (.empty types) xs w → (∀ y ∈ xs, y.IsOwn) → (∀ y ∈ xs, y.Proper) →
        (∀ root type p, cachedBy xs root type = some p ↔ Made xs root type p) ∧
          ∀ x : LookUp, x.before = w → x.IsOwn → x.Proper →
            x.Answers (cachedBy xs) ∧
              ∀ p, x.answer? = some p → Made (xs ++ [x]) x.root x.type p := by
  refine ⟨World.Consulted.of_moment, fun {types xs w} h own proper => ?_⟩
  obtain ⟨held, made⟩ := h.refines own proper
  refine ⟨made, ?_⟩
  rintro x rfl xown xproper
  have answers := (held.lookUp xown xproper).1
  refine ⟨answers, fun p answer => ?_⟩
  obtain ⟨-, made⟩ := (h.lookUp x).refines
    (List.forall_mem_append.mpr ⟨own, List.forall_mem_singleton.mpr xown⟩)
    (List.forall_mem_append.mpr ⟨proper, List.forall_mem_singleton.mpr xproper⟩)
  rw [← made, cachedBy_concat]
  exact answers.cached answer

/-! ## Two look-ups -/

/-- A factory that writes a line. -/
def greeting : ProviderFactory := ⟨"View", .empty, [.mk (.log "set up") none false]⟩

/-- A first look-up, for a view, in the world with two views. -/
def lookUpView : LookUp := ⟨runner 2, ⟨0⟩, ⟨0⟩, ⟨0⟩, withViews greeting.setup⟩

/-- The next one, for the other view, on which no key is stored. -/
def lookUpOtherView : LookUp := ⟨runner 2, ⟨0⟩, ⟨0⟩, ⟨1⟩, lookUpView.after⟩

theorem lookUps_agree_with_cache_views :
    let x := lookUpView
    let y := lookUpOtherView
    (∃ types, World.Consulted (.empty types) [x] y.before) ∧ x.IsOwn ∧ x.Proper ∧ y.IsOwn ∧ y.Proper ∧
      Made [x] ⟨0⟩ "View" ⟨0⟩ ∧ boundKey? y.before ⟨0⟩ ⟨1⟩ = none ∧
        y.result = .ok (some ⟨0⟩) ∧ y.after.factoryCalls = [("View", ⟨1⟩)] := by
  have proper : lookUpView.Proper :=
    ⟨by decide, by decide, by decide +kernel, Script.standsAlone_of_found rfl (by decide)⟩
  have proper' : lookUpOtherView.Proper :=
    ⟨by decide +kernel, by decide +kernel, by decide +kernel,
      Script.standsAlone_of_found rfl (by decide)⟩
  have consulted : World.Consulted (.empty _) [lookUpView] lookUpOtherView.before :=
    .lookUp lookUpView (.unseen .refl (.of_calm (calm_openWithViews greeting.setup _)))
  have own : lookUpView.IsOwn := rfl
  have own' : lookUpOtherView.IsOwn := rfl
  obtain ⟨made, answers⟩ := lookUps_agree_with_cache.2 consulted
    (List.forall_mem_singleton.mpr own) (List.forall_mem_singleton.mpr proper)
  have cached : cachedBy [lookUpView] ⟨0⟩ "View" = some ⟨0⟩ := by decide +kernel
  obtain ⟨answer, -⟩ := answers lookUpOtherView rfl own' proper'
  have cached' : cachedBy [lookUpView] lookUpOtherView.root lookUpOtherView.type = some ⟨0⟩ := cached
  unfold LookUp.Answers at answer
  rw [cached'] at answer
  obtain ⟨result, calls, -⟩ := answer
  have called : lookUpOtherView.before.factoryCalls = [("View", ⟨1⟩)] := by decide +kernel
  exact ⟨⟨_, consulted⟩, own, proper, own', proper', (made _ _ _).mp cached, by decide +kernel,
    result, calls.trans called⟩

end TargetBuilder
