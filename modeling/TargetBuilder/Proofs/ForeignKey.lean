import TargetBuilder.Proofs.ProviderCache

/-!
# Keys of other registries

The key that a target holds for a root session does not say which registry gave it out, nor for which
type. A registry that is asked takes any key that it finds there for its own. So when two registries are
asked for one root session, what the second answers depends on what the first stored.

What a registry answers was made by its own factories in any case. It was made for the root session and
the type of the target as long as no other registry was asked for the same target.

* `World.Entries.lookUp`: what one look-up answers and leaves behind, by where the entries came from.
* `registry_answers_own_entry`: what a registry answers after any run.
* `foreign_key_answers_other_type`: two registries, one root session, and a provider for the wrong type.
-/

namespace TargetBuilder

open World (Calm ProvidersKept Extends)
open Script (runner)
open Capability (boundKey?)

/-! ## Entries of registries -/

namespace Registry

theorem registrations_record (r : Registry) (e : Registration) (key : Nat) :
    (r.record e).registrations.get? key =
      if key = r.nextKey then some e else r.registrations.get? key :=
  r.registrations.get?_push e key

/-- What was recorded stays under its key. -/
theorem registrations_record_of_some {r : Registry} {key : Nat} {e : Registration}
    (h : r.registrations.get? key = some e) (new : Registration) :
    (r.record new).registrations.get? key = some e := by
  rw [registrations_record, if_neg ?_]
  · exact h
  · rintro rfl
    rw [nextKey, (r.registrations.get?_eq_none_iff _).mpr (Nat.le_refl _)] at h
    cases h

theorem registrations_congr {a b : Registry} (h : b.records = a.records) :
    b.registrations = a.registrations := congrArg Prod.fst h

end Registry

/-- One of the look-ups in the registry made the provider of the entry, for its root session and type. -/
def MadeIn (xs : List LookUp) (r : RegistryId) (e : Registration) : Prop :=
  ∃ y ∈ xs, y.registry = r ∧ y.root = e.root ∧ y.type = e.type ∧ ∃ f, y.Makes f e.provider

theorem MadeIn.concat {xs : List LookUp} {r : RegistryId} {e : Registration} (h : MadeIn xs r e)
    (x : LookUp) : MadeIn (xs ++ [x]) r e :=
  let ⟨y, hy, made⟩ := h
  ⟨y, List.mem_append_left _ hy, made⟩

namespace World

/--
Where the entries of registries come from, and what leads to them. Every entry was made by a look-up in
its registry; the index leads to entries for the pair; and a key on a target leads to an entry for the
pair in a registry that was asked for the target, which may be any.
-/
structure Entries (xs : List LookUp) (w : World) : Prop where
  made : ∀ r key e, (w.registry r).registrations.get? key = some e → MadeIn xs r e
  indexed : ∀ r root type key, (w.registry r).index.get? (root, type) = some key →
    ∃ p, (w.registry r).registrations.get? key = some ⟨root, type, p⟩
  bound : ∀ root t key, boundKey? w root t = some key → t.index < w.targets.size ∧
    ∃ y ∈ xs, y.root = root ∧ y.target = t ∧
      ∃ p, (w.registry y.registry).registrations.get? key = some ⟨root, (w.target t).type.name, p⟩

namespace Entries

variable {xs : List LookUp} {x : LookUp} {a b w : World}

theorem empty (types : OrderedMap String TargetClass) : Entries [] (.empty types) where
  made _ _ _ h := by cases h
  indexed _ _ _ _ h := by cases h
  bound _ _ _ h := by cases h

theorem of_providersKept (hk : ProvidersKept a b) (h : Entries xs a) : Entries xs b where
  made r key e he := by
    rw [Registry.registrations_congr (hk.records r)] at he
    exact h.made r key e he
  indexed r root type key hkey := by
    rw [Registry.index_congr (hk.records r)] at hkey
    rw [Registry.registrations_congr (hk.records r)]
    exact h.indexed r root type key hkey
  bound root t key hkey := by
    unfold boundKey? Metadata.get? at hkey
    rw [hk.slots] at hkey
    obtain ⟨there, y, hy, hroot, htarget, p, hp⟩ := h.bound root t key hkey
    refine ⟨Nat.lt_of_lt_of_le there hk.targets_le, y, hy, hroot, htarget, p, ?_⟩
    rw [hk.type t there, Registry.registrations_congr (hk.records _)]
    exact hp

theorem concat (h : Entries xs w) (x : LookUp) : Entries (xs ++ [x]) w where
  made r key e he := (h.made r key e he).concat x
  indexed := h.indexed
  bound root t key hkey :=
    let ⟨there, y, hy, leads⟩ := h.bound root t key hkey
    ⟨there, y, List.mem_append_left _ hy, leads⟩

/-- A registry that was asked for a target stores the key of an entry of its own. -/
theorem bind (h : Entries xs w) (hx : x ∈ xs) (there : x.target.index < w.targets.size)
    (htype : (w.target x.target).type.name = x.type) {key : Nat} {p : ProviderId}
    (hp : (w.registry x.registry).registrations.get? key = some ⟨x.root, x.type, p⟩) :
    Entries xs (w.bound x.root x.target key) where
  made := h.made
  indexed := h.indexed
  bound root t k hk := by
    have targets := Extends.bound w x.root x.target key
    rw [boundKey?_bound] at hk
    split at hk
    · next ht =>
      obtain ⟨⟨rfl, _⟩, rfl⟩ := ht
      cases hk
      refine ⟨Nat.lt_of_lt_of_le there targets.targets_le, x, hx, rfl, rfl, p, ?_⟩
      rw [targets.type _ there, htype]
      exact hp
    · obtain ⟨there, y, hy, hroot, htarget, q, hq⟩ := h.bound root t k hk
      refine ⟨Nat.lt_of_lt_of_le there targets.targets_le, y, hy, hroot, htarget, q, ?_⟩
      rw [targets.type _ there]
      exact hq

/-- A registry records what its factory made. -/
theorem record (h : Entries xs w) {r : RegistryId} {e : Registration} (made : MadeIn xs r e) :
    Entries xs (w.updateRegistry r (·.record e)) where
  made s key e' he := by
    rw [registry_updateRegistry] at he
    split at he
    · next hs =>
      rw [Registry.registrations_record] at he
      split at he
      · cases he
        rw [hs.1]
        exact made
      · exact h.made s key e' (hs.1 ▸ he)
    · exact h.made s key e' he
  indexed s root type key hkey := by
    rw [registry_updateRegistry] at hkey ⊢
    split at hkey
    · next hs =>
      rw [if_pos hs]
      rw [Registry.index_record] at hkey
      split at hkey
      · next pair =>
        obtain ⟨rfl, rfl⟩ := Prod.mk.inj pair
        cases hkey
        refine ⟨e.provider, ?_⟩
        rw [Registry.registrations_record, if_pos rfl]
      · obtain ⟨p, hp⟩ := h.indexed r root type key hkey
        exact ⟨p, Registry.registrations_record_of_some hp _⟩
    · next hs =>
      rw [if_neg hs]
      exact h.indexed s root type key hkey
  bound root t key hkey := by
    obtain ⟨there, y, hy, hroot, htarget, p, hp⟩ := h.bound root t key hkey
    refine ⟨there, y, hy, hroot, htarget, p, ?_⟩
    rw [registry_updateRegistry]
    split
    · next hs => exact Registry.registrations_record_of_some (hs.1 ▸ hp) _
    · exact hp

/-- A provider that was just made is recorded, and its key is stored on the target. -/
theorem recorded (h : Entries xs w) (hx : x ∈ xs) (there : x.target.index < w.targets.size)
    (registered : x.registry.index < w.registries.size)
    (htype : (w.target x.target).type.name = x.type) {f : ProviderFactory} {p : ProviderId}
    (makes : x.Makes f p) :
    Entries xs (w.recorded x.registry x.root x.target x.type p) ∧
      ((w.recorded x.registry x.root x.target x.type p).registry x.registry).registrations.get?
        (w.registry x.registry).nextKey = some ⟨x.root, x.type, p⟩ := by
  have entry : (World.registry (w.updateRegistry x.registry (·.record ⟨x.root, x.type, p⟩))
      x.registry).registrations.get? (w.registry x.registry).nextKey =
        some ⟨x.root, x.type, p⟩ := by
    rw [registry_updateRegistry, if_pos ⟨rfl, registered⟩, Registry.registrations_record, if_pos rfl]
  have made : MadeIn xs x.registry ⟨x.root, x.type, p⟩ := ⟨x, hx, rfl, rfl, rfl, f, makes⟩
  exact ⟨of_providersKept (.write _ _) ((h.record made).bind hx there htype entry), entry⟩

end Entries

end World

/-! ## What registries answer -/

/-- The look-up answers an entry that its registry has in the end, and that was made there. -/
structure LookUp.AnswersEntry (x : LookUp) (xs : List LookUp) (e : Registration) : Prop where
  answer : x.answer? = some e.provider
  stored : ∃ key, (x.after.registry x.registry).registrations.get? key = some e
  made : MadeIn (xs ++ [x]) x.registry e

/-- No other registry was asked for the target and the root session of the look-up. -/
def LookUp.Alone (x : LookUp) (xs : List LookUp) : Prop :=
  ∀ y ∈ xs, y.root = x.root → y.target = x.target → y.registry = x.registry

namespace World.Entries

variable {xs : List LookUp} {x : LookUp}

/-- What the key on the target leads to is taken for the provider. -/
theorem lookUp_bound (h : Entries xs x.before) {p : ProviderId}
    (hp : (boundKey? x.before x.root x.target).bind x.store.provider? = some p)
    (result : x.result = .ok (some p)) (after : x.after = x.before) :
    ∃ e, x.AnswersEntry xs e ∧ (x.Alone xs → e.root = x.root ∧ e.type = x.type) := by
  obtain ⟨key, hkey, found⟩ := Option.bind_eq_some_iff.mp hp
  obtain ⟨e, he, rfl⟩ := Option.map_eq_some_iff.mp found
  refine ⟨e, ⟨?_, ⟨key, by rw [after]; exact he⟩, (h.made _ _ _ he).concat x⟩, fun alone => ?_⟩
  · unfold LookUp.answer?
    rw [result]
    rfl
  -- without other registries the key was given out by this one
  · obtain ⟨-, y, hy, hroot, htarget, q, hq⟩ := h.bound _ _ key hkey
    rw [alone y hy hroot htarget] at hq
    cases Option.some.inj (he.symm.trans hq)
    exact ⟨rfl, rfl⟩

/-- What one look-up answers is an entry of its registry, and every entry is accounted for after it. -/
theorem lookUp (h : Entries xs x.before) (proper : x.Proper) :
    Entries (xs ++ [x]) x.after ∧ ∀ p, x.answer? = some p →
      ∃ e, x.AnswersEntry xs e ∧ (x.Alone xs → e.root = x.root ∧ e.type = x.type) := by
  have hx : x ∈ xs ++ [x] := List.mem_concat_self
  have run := x.run_eq
  split at run
  · next p hp =>
    obtain ⟨result, after⟩ := Prod.mk.inj run
    refine ⟨by rw [after]; exact h.concat x, fun _ _ => h.lookUp_bound hp result after⟩
  split at run
  · next key hkey =>
    obtain ⟨p, hp⟩ := h.indexed _ _ _ _ hkey
    obtain ⟨result, after⟩ := Prod.mk.inj run
    refine ⟨by rw [after]; exact (h.concat x).bind hx proper.target_there rfl hp, fun _ _ => ?_⟩
    refine ⟨⟨x.root, x.type, p⟩, ⟨?_, ⟨key, by rw [after]; exact hp⟩,
      (h.made _ _ _ hp).concat x⟩, fun _ => ⟨rfl, rfl⟩⟩
    unfold LookUp.answer?
    rw [result]
    exact congrArg (Option.map Registration.provider) hp
  obtain ⟨-, result, after⟩ | ⟨f, made, produced, calls, outcome⟩ := LookUp.of_viaFactory proper run
  · refine ⟨by rw [after]; exact (h.concat x).of_providersKept (.write _ _), fun p answer => ?_⟩
    unfold LookUp.answer? at answer
    rw [result] at answer
    cases answer
  have kept := (h.concat x).of_providersKept produced.toProvidersKept
  obtain ⟨p, makes, after⟩ | ⟨unanswered, -, after⟩ := outcome
  · obtain ⟨entries, stored⟩ := kept.recorded hx
      (Nat.lt_of_lt_of_le proper.target_there produced.targets_le)
      (Nat.lt_of_lt_of_le proper.registry_there produced.registries_le)
      (congrArg TargetType.name (produced.type _ proper.target_there)) makes
    rw [← after] at entries stored
    exact ⟨entries, fun _ _ => ⟨⟨x.root, x.type, p⟩, ⟨makes.answer?, ⟨_, stored⟩,
      x, hx, rfl, rfl, rfl, f, makes⟩, fun _ => ⟨rfl, rfl⟩⟩⟩
  · refine ⟨by rw [after]; exact kept, fun p answer => ?_⟩
    rw [unanswered] at answer
    cases answer

end World.Entries

/-- Every entry of every registry is accounted for after any run. -/
theorem World.Consulted.entries {types : OrderedMap String TargetClass} {xs : List LookUp} {w : World}
    (h : Consulted (.empty types) xs w) (proper : ∀ y ∈ xs, y.Proper) : Entries xs w := by
  induction h with
  | refl => exact .empty types
  | unseen _ hk ih => exact (ih proper).of_providersKept hk
  | lookUp x _ ih =>
    rw [List.forall_mem_append, List.forall_mem_singleton] at proper
    exact ((ih proper.1).lookUp proper.2).1

/--
**A registry answers entries of its own.** Let any registries be asked for any targets under any root
sessions. If a registry answers, it answers one of its entries, which was made by a factory of its own.
And if no other registry was asked for the same target under the same root session before, then the
entry was made for this root session and the type of the target.
-/
theorem registry_answers_own_entry {types : OrderedMap String TargetClass} {xs : List LookUp}
    {x : LookUp} (h : World.Consulted (.empty types) xs x.before) (proper : ∀ y ∈ xs, y.Proper)
    (xproper : x.Proper) {p : ProviderId} (answer : x.answer? = some p) :
    ∃ e, x.AnswersEntry xs e ∧ (x.Alone xs → e.root = x.root ∧ e.type = x.type) :=
  ((h.entries proper).lookUp xproper).2 p answer

/-! ## Two registries -/

/-- The factory for a type that does nothing. -/
def idle (type : String) : ProviderFactory := ⟨type, .empty, []⟩

/-- The world with two views and a layer, and a second registry with factories for both types. -/
def withTwoRegistries : World :=
  ((withViews []).addRegistry.2.updateRegistry ⟨1⟩ (·.register (idle "View"))).updateRegistry ⟨1⟩
    (·.register (idle "Layer"))

/-- The first registry is asked for a view. -/
def askFirst : LookUp := ⟨runner 1, ⟨0⟩, ⟨0⟩, ⟨0⟩, withTwoRegistries⟩

/-- Then the second is asked for the layer. -/
def askSecond : LookUp := ⟨runner 1, ⟨1⟩, ⟨0⟩, ⟨2⟩, askFirst.after⟩

theorem consulted_withTwoRegistries :
    ∃ types, World.Consulted (.empty types) [askFirst, askSecond] askSecond.after := by
  have registered : ∀ (w : World) f, Calm w (w.updateRegistry ⟨1⟩ (·.register f)) :=
    fun w f => .updateRegistry w ⟨1⟩ fun _ => rfl
  have added : Calm (withViews []) withTwoRegistries :=
    ((Calm.addRegistry _).trans (registered _ _)).trans (registered _ _)
  have opened := (calm_openWithViews [] _).trans added
  exact ⟨_, .lookUp askSecond (.lookUp askFirst (.unseen .refl (.of_calm opened)))⟩

theorem proper_withTwoRegistries : ∀ y ∈ [askFirst, askSecond], y.Proper := by
  have first : askFirst.Proper :=
    ⟨by decide +kernel, by decide +kernel, by decide +kernel,
      Script.standsAlone_of_found rfl (by decide)⟩
  have second : askSecond.Proper :=
    ⟨by decide +kernel, by decide +kernel, by decide +kernel,
      Script.standsAlone_of_found rfl (by decide)⟩
  simp [first, second]

/-- The second registry is asked for the view that the first was not asked for. -/
def askOther : LookUp := ⟨runner 1, ⟨1⟩, ⟨0⟩, ⟨1⟩, askSecond.after⟩

theorem registry_answers_own_entry_other :
    askOther.Proper ∧ askOther.answer? = some ⟨2⟩ ∧
      ∃ e, askOther.AnswersEntry [askFirst, askSecond] e ∧ e.root = ⟨0⟩ ∧ e.type = "View" := by
  obtain ⟨types, consulted⟩ := consulted_withTwoRegistries
  have proper : askOther.Proper :=
    ⟨by decide +kernel, by decide +kernel, by decide +kernel,
      Script.standsAlone_of_found rfl (by decide)⟩
  have answer : askOther.answer? = some ⟨2⟩ := by decide +kernel
  obtain ⟨e, entry, right⟩ :=
    registry_answers_own_entry (x := askOther) consulted proper_withTwoRegistries proper answer
  have alone : askOther.Alone [askFirst, askSecond] := by
    intro y hy _ same
    simp only [List.mem_cons, List.not_mem_nil, or_false] at hy
    rcases hy with rfl | rfl <;> cases same
  exact ⟨proper, answer, e, entry, right alone⟩

/-- The second registry is asked for the view that the first was asked for. -/
def askAgain : LookUp := ⟨runner 1, ⟨1⟩, ⟨0⟩, ⟨0⟩, askSecond.after⟩

/--
The key that the first registry stored on the view leads the second one to the provider that it made for
the layer, although it has a factory for views.
-/
theorem foreign_key_answers_other_type :
    (∃ types, World.Consulted (.empty types) [askFirst, askSecond] askAgain.before) ∧
      askAgain.Proper ∧ askAgain.type = "View" ∧ askAgain.answer? = some ⟨1⟩ ∧
        MadeIn [askFirst, askSecond] ⟨1⟩ ⟨⟨0⟩, "Layer", ⟨1⟩⟩ ∧
          ¬ MadeIn [askFirst, askSecond, askAgain] ⟨1⟩ ⟨⟨0⟩, "View", ⟨1⟩⟩ := by
  have proper : askAgain.Proper :=
    ⟨by decide +kernel, by decide +kernel, by decide +kernel,
      Script.standsAlone_of_found rfl (by decide)⟩
  have makes : askSecond.Makes (idle "Layer") ⟨1⟩ :=
    { found := rfl
      called := by decide +kernel
      child_root := by decide +kernel
      result := rfl
      number := by decide +kernel
      provider := rfl }
  refine ⟨consulted_withTwoRegistries, proper, rfl, by decide +kernel,
    ⟨askSecond, by simp, rfl, rfl, rfl, _, makes⟩, ?_⟩
  rintro ⟨y, hy, registry, -, type, f, makes⟩
  simp only [List.mem_cons, List.not_mem_nil, or_false] at hy
  rcases hy with rfl | rfl | rfl
  · exact absurd registry (by decide)
  · exact absurd type (by decide +kernel)
  · exact absurd makes.number (by decide +kernel)

end TargetBuilder
