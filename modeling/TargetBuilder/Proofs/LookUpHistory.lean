import TargetBuilder.Proofs.OneProvider

/-!
# Runs as lists of look-ups

A run may look up providers at any time, in contexts and outside of them, for any root session and in
any registry. What else it does is seen by no look-up. So all that matters of a run is the list of its
look-ups, each with the world in which it began.

A look-up may call a factory, which may do anything. Of a factory that *stands alone*, which does not
use the engine while it runs, it can be said what comes of the look-up.

* `World.Consulted.of_moment`: every run can be seen as a list of look-ups.
* `LookUp.of_viaFactory`: what comes of a look-up that gets to the factories.
-/

namespace TargetBuilder

open World (Calm Moment ProvidersKept)
open Script (runner)
open Capability (boundKey?)
open SessionId (wasGivenUp)

/-! ## Factories that keep to themselves -/

/-- The type that a provider factory was registered for, and the session that it runs on. -/
def Entry.factoryCall? : Entry → Option (String × SessionId)
  | .factoryRunning type s _ => some (type, s)
  | _ => none

namespace World

/-- Every call of a provider factory so far, in order. -/
def factoryCalls (w : World) : List (String × SessionId) :=
  w.log.toList.filterMap Entry.factoryCall?

theorem factoryCalls_write (w : World) (e : Entry) :
    (w.write e).factoryCalls = w.factoryCalls ++ e.factoryCall?.toList :=
  filterMap_log_write w e _

theorem factoryCalls_recorded (w : World) (r : RegistryId) (root : SessionId) (t : TargetId)
    (type : String) (p : ProviderId) :
    (w.recorded r root t type p).factoryCalls = w.factoryCalls :=
  (factoryCalls_write _ _).trans (List.append_nil _)

/-- Look-ups see nothing of it, and no factory is called and no provider made. -/
structure Apart (a b : World) : Prop extends ProvidersKept a b where
  root : ∀ s, s.index < a.sessions.size → (b.session s).root = (a.session s).root
  providers : b.providers = a.providers
  factoryCalls : b.factoryCalls = a.factoryCalls

namespace Apart

theorem guarantee : Guarantee Apart Apart where
  refl w := ⟨.of_calm (.refl w), fun _ _ => rfl, rfl, rfl⟩
  trans h k := by
    refine ⟨h.toProvidersKept.trans k.toProvidersKept, fun s hs => ?_, ?_, ?_⟩
    · exact (k.root s (Nat.lt_of_lt_of_le hs h.sessions_le)).trans (h.root s hs)
    · exact k.providers.trans h.providers
    · exact k.factoryCalls.trans h.factoryCalls
  quiet h := h

theorem emit {e : Entry} (he : e.factoryCall? = none) : (World.emit e).Keeps Apart := by
  intro w
  refine ⟨.write w e, fun _ _ => rfl, rfl, ?_⟩
  show (w.write e).factoryCalls = w.factoryCalls
  rw [factoryCalls_write, he]
  exact List.append_nil _

end Apart

end World

open World (Apart)

/-- The factory does not use sessions or registries while it runs. -/
def ProviderFactory.StandsAlone (R : Runner) (f : ProviderFactory) : Prop :=
  ∀ s, (R.perform (.script f.setup .empty) s).Keeps Apart

/-- A statement that does nothing but write a text, have a value, fail or unwind. -/
def Statement.isPlain : Statement → Bool
  | .mk (.log _) none _ | .mk (.value _) none _ | .mk (.raise _) none _ | .mk .panic none _ => true
  | _ => false

namespace Script

theorem apart_conclude (st : Statement) {x : Action World Value} (hx : x.Keeps Apart) :
    (conclude st x).Keeps Apart := by
  have hG := Apart.guarantee
  unfold conclude
  refine .bind hG (.capture hx) fun result => ?_
  split
  · exact .bind hG (Apart.emit rfl) fun _ => .pure hG _
  · refine .bind hG (Apart.emit rfl) fun _ => ?_
    split
    · exact .pure hG _
    · exact .fail hG _
  · exact .stop hG _

theorem apart_runStatement {R : Runner} {env : Env} {s : SessionId} {st : Statement}
    (plain : st.isPlain = true) : (runStatement R env s st).Keeps Apart := by
  have hG := Apart.guarantee
  unfold Statement.isPlain at plain
  split at plain
  · exact apart_conclude _ (.bind hG (Apart.emit rfl) fun _ => .pure hG _)
  · exact apart_conclude _ (.reads hG _)
  · exact apart_conclude _ (.fail hG _)
  · exact apart_conclude _ (.stop hG _)
  · cases plain

theorem apart_runBody {R : Runner} {env : Env} {s : SessionId} :
    ∀ {body : List Statement} (last : Value), (∀ st ∈ body, st.isPlain = true) →
      (runBody R env s last body).Keeps Apart
  | [], _, _ => .pure Apart.guarantee _
  | _ :: _, _, plain =>
    .bind Apart.guarantee (apart_runStatement (plain _ List.mem_cons_self)) fun v =>
      apart_runBody v fun st hst => plain st (List.mem_cons_of_mem _ hst)

/-- A factory whose set-up has no statement that uses a session stands alone. -/
theorem standsAlone_of_isPlain {f : ProviderFactory} (plain : ∀ st ∈ f.setup, st.isPlain = true)
    (fuel : Nat) : f.StandsAlone (runner fuel) := by
  have hG := Apart.guarantee
  intro s
  refine .bind hG ?_ fun _ => .pure hG _
  cases fuel with
  | zero => exact .stop hG _
  | succ fuel => exact apart_runBody .nil plain

theorem standsAlone_of_found {fuel : Nat} {found : Option ProviderFactory} {g : ProviderFactory}
    (h : found = some g) (plain : ∀ st ∈ g.setup, st.isPlain = true) (f : ProviderFactory)
    (hf : found = some f) : f.StandsAlone (runner fuel) := by
  rw [h] at hf
  cases hf
  exact standsAlone_of_isPlain plain fuel

end Script

/-! ## Look-ups -/

/-- A look-up: which registry is asked for the provider of which target, and in which world. -/
structure LookUp where
  runner : Runner
  registry : RegistryId
  root : SessionId
  target : TargetId
  before : World

namespace LookUp

/-- How the look-up ends. -/
def result (x : LookUp) : Except Stop (Option ProviderId) :=
  ((Capability.provide x.runner x.registry x.root x.target).run x.before).1

/-- The world in which the look-up ends. -/
def after (x : LookUp) : World :=
  ((Capability.provide x.runner x.registry x.root x.target).run x.before).2

/-- The provider that is answered, if any. -/
def answer? (x : LookUp) : Option ProviderId := x.result.toOption.join

/-- The name of the type of the target. -/
def type (x : LookUp) : String := (x.before.target x.target).type.name

/-- What the registry holds when it is asked. -/
def store (x : LookUp) : Registry := x.before.registry x.registry

/-- The factory that is registered at the moment for the first name in the lineage that has one. -/
def factory? (x : LookUp) : Option ProviderFactory :=
  x.store.factoryFor (x.before.target x.target).type

/-- The session that will be made next. -/
def child (x : LookUp) : SessionId := ⟨x.before.sessions.size⟩

/-- A root session looks up in its own registry. -/
def IsOwn (x : LookUp) : Prop := x.before.registryOf x.root = x.registry

/-- What is named is there, and a factory that may be called stands alone. -/
structure Proper (x : LookUp) : Prop where
  root_there : x.root.index < x.before.sessions.size
  target_there : x.target.index < x.before.targets.size
  registry_there : x.registry.index < x.before.registries.size
  alone : ∀ f, x.factory? = some f → f.StandsAlone x.runner

/-- The look-up calls the factory that it finds, once, on a new child of the root session. -/
structure Calls (x : LookUp) (f : ProviderFactory) : Prop where
  found : x.factory? = some f
  called : x.after.factoryCalls = x.before.factoryCalls ++ [(f.type, x.child)]
  child_root : (x.after.session x.child).root = some x.root

/-- The look-up answers `p`, which the factory made on the child session. -/
structure Makes (x : LookUp) (f : ProviderFactory) (p : ProviderId) : Prop extends Calls x f where
  result : x.result = .ok (some p)
  number : p.index = x.before.providers.size
  provider : x.after.provider p = ⟨x.child, f.operations⟩

/-- What a look-up comes to if neither the key on the target nor the index leads to a provider. -/
def viaFactory (x : LookUp) : Except Stop (Option ProviderId) × World :=
  match x.factory? with
  | none => (.ok none, x.before.write (.event (.factoryMissing x.type)))
  | some f =>
    match (Capability.produce x.runner x.root f).run x.before with
    | (.ok p, made) => (.ok (some p), made.recorded x.registry x.root x.target x.type p)
    | (.error e, made) => (.error e, made)

theorem run_eq (x : LookUp) :
    (x.result, x.after) =
      match (boundKey? x.before x.root x.target).bind x.store.provider? with
      | some p => (.ok (some p), x.before)
      | none =>
        match x.store.index.get? (x.root, x.type) with
        | some key => (.ok (x.store.provider? key), x.before.bound x.root x.target key)
        | none => x.viaFactory :=
  Capability.run_provide x.runner x.registry x.root x.target x.before

end LookUp

/-! ## Runs as lists of look-ups -/

namespace World

/-- The second world comes from the first by some look-ups, and else by what no look-up sees. -/
inductive Consulted (a : World) : List LookUp → World → Prop
  | refl : Consulted a [] a
  | unseen {xs : List LookUp} {b c : World} :
      Consulted a xs b → ProvidersKept b c → Consulted a xs c
  | lookUp {xs : List LookUp} (x : LookUp) :
      Consulted a xs x.before → Consulted a (xs ++ [x]) x.after

namespace Consulted

variable {a b c : World} {xs ys : List LookUp}

theorem trans (h : Consulted a xs b) (k : Consulted b ys c) : Consulted a (xs ++ ys) c := by
  induction k with
  | refl =>
    rw [List.append_nil]
    exact h
  | unseen _ hk ih => exact ih.unseen hk
  | lookUp x _ ih =>
    rw [← List.append_assoc]
    exact ih.lookUp x

/-- Whatever code does, it does by look-ups of root sessions in their own registries, and unseen. -/
theorem regime : Regime fun a b => ∃ xs, Consulted a xs b ∧ ∀ y ∈ xs, y.IsOwn := by
  refine Guarantee.regime ⟨fun w => ⟨[], .refl, by simp⟩, ?_,
    fun h => ⟨[], .unseen .refl h, by simp⟩⟩ fun R root t _ w => ?_
  · rintro a b c ⟨xs, h, own⟩ ⟨ys, k, own'⟩
    exact ⟨xs ++ ys, h.trans k, List.forall_mem_append.mpr ⟨own, own'⟩⟩
  · rw [SessionId.run_provide]
    exact ⟨[⟨R, w.registryOf root, root, t, w⟩], .lookUp ⟨R, _, root, t, w⟩ .refl,
      List.forall_mem_singleton.mpr rfl⟩

/--
**Every moment of a run is reached by look-ups** of root sessions in their own registries, and else by
what no look-up sees.
-/
theorem of_moment {l : List Activity} {w : World} (h : Moment l w) :
    ∃ types xs, Consulted (.empty types) xs w ∧ ∀ y ∈ xs, y.IsOwn := by
  obtain ⟨types, reached⟩ := h.reaches
  have begins : ∀ {a b : World}, Begins a b → ∃ xs, Consulted a xs b ∧ ∀ y ∈ xs, y.IsOwn :=
    fun hb => ⟨[], .unseen .refl (.of_begins hb), by simp⟩
  exact ⟨types, regime.keeps_reaches begins reached⟩

end Consulted

end World

/-! ## Making a provider -/

namespace Capability

/-- The world after a child of a root session was made for a factory. -/
def childOpened (w : World) (root : SessionId) : World :=
  (w.addSession (.fresh (some root) (w.session root).config)).2.write
    (.event (.childCreated root ⟨w.sessions.size⟩))

theorem session_childOpened (w : World) (root : SessionId) :
    (childOpened w root).session ⟨w.sessions.size⟩ = .fresh (some root) (w.session root).config :=
  w.sessions.get_push_self _

/-- The world in which a factory begins to run for a root session. -/
def factoryBegun (w : World) (root : SessionId) (f : ProviderFactory) : World :=
  (childOpened w root).write (.factoryRunning f.type ⟨w.sessions.size⟩ false)

/-- A factory runs its set-up on a new child, and if it gets through, the provider is added. -/
theorem run_produce (R : Runner) (root : SessionId) (f : ProviderFactory) (w : World) :
    (produce R root f).run w =
      match (R.perform (.script f.setup .empty) ⟨w.sessions.size⟩).attempt.run
          (factoryBegun w root f) with
      | (.ok _, v) =>
        (.ok ⟨v.providers.size⟩, (v.addProvider ⟨⟨w.sessions.size⟩, f.operations⟩).2)
      | (.error e, v) => (.error e, v) := by
  have child : ((childOpened w root).session ⟨w.sessions.size⟩).isRoot = false := by
    rw [session_childOpened]
    rfl
  have began : (produce R root f).run w =
      ((R.perform (.script f.setup .empty) ⟨w.sessions.size⟩).attempt >>= fun _ =>
        Action.adding (·.addProvider ⟨⟨w.sessions.size⟩, f.operations⟩)).run
          ((childOpened w root).write (.factoryRunning f.type ⟨w.sessions.size⟩
            ((childOpened w root).session ⟨w.sessions.size⟩).isRoot)) := rfl
  rw [began, child, Action.run_bind, ← factoryBegun]
  cases (R.perform (.script f.setup .empty) ⟨w.sessions.size⟩).attempt.run (factoryBegun w root f) with
  | mk ended v => cases ended <;> rfl

/-- What comes of a factory that stands alone. -/
structure Produced (w : World) (root : SessionId) (f : ProviderFactory) (made : World) : Prop
    extends ProvidersKept w made where
  called : made.factoryCalls = w.factoryCalls ++ [(f.type, ⟨w.sessions.size⟩)]
  child_root : (made.session ⟨w.sessions.size⟩).root = some root

theorem Produced.begun (w : World) (root : SessionId) (f : ProviderFactory) :
    Produced w root f (factoryBegun w root f) where
  toProvidersKept := by
    have opened := ProvidersKept.of_calm
      (Calm.addSession w (some root) (w.session root).config)
    exact (opened.trans (.write _ _)).trans (.write _ _)
  called := by
    unfold factoryBegun childOpened
    rw [World.factoryCalls_write, World.factoryCalls_write]
    exact congrArg (· ++ _) (List.append_nil _)
  child_root := congrArg Session.root (session_childOpened w root)

theorem Produced.apart {w v made : World} {root : SessionId} {f : ProviderFactory}
    (h : Produced w root f v) (there : w.sessions.size < v.sessions.size) (k : Apart v made) :
    Produced w root f made where
  toProvidersKept := h.toProvidersKept.trans k.toProvidersKept
  called := k.factoryCalls.trans h.called
  child_root := (k.root _ there).trans h.child_root

/-- What gets past catching faults was given up. -/
theorem wasGivenUp_of_attempt {α β : Type} {x : Action World α} {w v : World} {e : Stop}
    (h : x.attempt.run w = (.error e, v)) : wasGivenUp (.error e : Except Stop β) = true := by
  rw [Action.run_attempt] at h
  cases hx : x.run w with
  | mk r v =>
    rw [hx] at h
    cases r with
    | ok a => cases h
    | error e => cases e <;> cases h <;> rfl

/-- A factory that stands alone makes a provider on its child session, or is given up. -/
theorem produce_of_standsAlone {R : Runner} {root : SessionId} {f : ProviderFactory} {w made : World}
    {result : Except Stop ProviderId} (alone : f.StandsAlone R)
    (h : (produce R root f).run w = (result, made)) :
    Produced w root f made ∧
      ((∃ p, result = .ok p ∧ p.index = w.providers.size ∧
        made.provider p = ⟨⟨w.sessions.size⟩, f.operations⟩) ∨
        ∃ e, result = .error e ∧ wasGivenUp (.error e : Except Stop (Option ProviderId)) = true) := by
  have apart : (R.perform (.script f.setup .empty) ⟨w.sessions.size⟩).attempt.Keeps Apart :=
    .attempt (alone _)
  have there : w.sessions.size < (factoryBegun w root f).sessions.size := by
    show _ < (w.sessions.push _).size
    rw [w.sessions.size_push]
    exact Nat.lt_succ_self _
  rw [run_produce] at h
  split at h
  · next v hv =>
    have k := apart.of_run hv
    obtain ⟨rfl, rfl⟩ := Prod.mk.inj h
    have produced := (Produced.begun w root f).apart there k
    refine ⟨⟨produced.toProvidersKept.trans (.of_stores_eq rfl rfl rfl), produced.called,
      produced.child_root⟩, Or.inl ⟨_, rfl, ?_, ?_⟩⟩
    · exact congrArg Arena.size k.providers
    · exact v.providers.get_push_self _
  · next e v hv =>
    have k := apart.of_run hv
    obtain ⟨rfl, rfl⟩ := Prod.mk.inj h
    exact ⟨(Produced.begun w root f).apart there k,
      Or.inr ⟨e, rfl, wasGivenUp_of_attempt hv⟩⟩

end Capability

namespace LookUp

theorem Calls.of_produced {x : LookUp} {f : ProviderFactory} {made : World}
    (found : x.factory? = some f) (h : Capability.Produced x.before x.root f made)
    (calls : x.after.factoryCalls = made.factoryCalls) (sessions : x.after.sessions = made.sessions) :
    x.Calls f where
  found := found
  called := calls.trans h.called
  child_root := by
    unfold World.session
    rw [sessions]
    exact h.child_root

/-- A look-up that gets to the factories finds none, or calls the one that it finds. -/
theorem of_viaFactory {x : LookUp} (proper : x.Proper) (h : (x.result, x.after) = x.viaFactory) :
    (x.factory? = none ∧ x.result = .ok none ∧
      x.after = x.before.write (.event (.factoryMissing x.type))) ∨
    ∃ f made, Capability.Produced x.before x.root f made ∧ x.Calls f ∧
      ((∃ p, x.Makes f p ∧ x.after = made.recorded x.registry x.root x.target x.type p) ∨
        x.answer? = none ∧ wasGivenUp x.result = true ∧ x.after = made) := by
  unfold viaFactory at h
  cases hf : x.factory? with
  | none =>
    rw [hf] at h
    obtain ⟨result, after⟩ := Prod.mk.inj h
    exact Or.inl ⟨rfl, result, after⟩
  | some f =>
  rw [hf] at h
  dsimp only at h
  cases hp : (Capability.produce x.runner x.root f).run x.before with
  | mk ended made =>
  rw [hp] at h
  obtain ⟨produced, outcome⟩ := Capability.produce_of_standsAlone (proper.alone f hf) hp
  refine Or.inr ⟨f, made, produced, ?_⟩
  obtain ⟨p, rfl, number, provider⟩ | ⟨e, rfl, givenUp⟩ := outcome
  · obtain ⟨result, after⟩ := Prod.mk.inj h
    have calls : x.Calls f := .of_produced hf produced
      (by rw [after]; exact World.factoryCalls_recorded ..) (by rw [after]; rfl)
    have makes : x.Makes f p :=
      { calls with result, number, provider := by rw [after]; exact provider }
    exact ⟨calls, Or.inl ⟨p, makes, after⟩⟩
  · obtain ⟨result, after⟩ := Prod.mk.inj h
    have calls : x.Calls f := .of_produced hf produced (by rw [after]) (by rw [after])
    refine ⟨calls, Or.inr ⟨?_, by rw [result]; exact givenUp, after⟩⟩
    unfold answer?
    rw [result]
    rfl

theorem Makes.answer? {x : LookUp} {f : ProviderFactory} {p : ProviderId} (h : x.Makes f p) :
    x.answer? = some p := by
  unfold LookUp.answer?
  rw [h.result]
  rfl

end LookUp

end TargetBuilder
