import TargetBuilder.Proofs.Calm
import TargetBuilder.Script.Run

/-!
# Still changes

A *still* change is a calm one that leaves alone who is there: the sessions with all that is in them,
the names that sessions are kept under, and the providers. Reading, writing to the log, sending selectors
and registering factories are still; making a session, a root target or a provider is not.

All of these are even *idle*: no root factory is called, either.
-/

namespace TargetBuilder

open World (Calm)

namespace World

/-- A calm change that leaves sessions, the names of sessions and providers as they are. -/
structure Still (a b : World) : Prop extends Calm a b where
  sessions : b.sessions = a.sessions
  handles : b.handles = a.handles
  providers : b.providers = a.providers

namespace Still

variable {a b c : World}

theorem refl (a : World) : Still a a := ⟨Calm.refl a, rfl, rfl, rfl⟩

theorem trans (h : Still a b) (k : Still b c) : Still a c :=
  ⟨h.toCalm.trans k.toCalm, k.sessions.trans h.sessions, k.handles.trans h.handles,
    k.providers.trans h.providers⟩

theorem guarantee : Guarantee Still Still := ⟨refl, trans, id⟩

theorem session_eq (h : Still a b) (s : SessionId) : b.session s = a.session s :=
  session_congr h.sessions s

theorem rootOf?_eq (h : Still a b) (s : SessionId) : b.rootOf? s = a.rootOf? s :=
  rootOf?_congr (congrArg Session.root (h.session_eq s)) h.running h.handles

theorem write (w : World) {e : Entry} (he : ∀ r, e.deferral? r = none) : Still w (w.write e) :=
  ⟨Calm.write w he, rfl, rfl, rfl⟩

theorem event (w : World) {e : Event} (he : ∀ s t, e ≠ .scheduled s t) :
    Still w (w.write (.event e)) :=
  ⟨Calm.event w he, rfl, rfl, rfl⟩

end Still

/-! ## Root factories -/

/-- The numbers of the calls of root factories that the log tells of, in order. -/
def rootCalls (w : World) : List Nat := w.log.toList.filterMap Entry.rootCall?

theorem rootCalls_write (w : World) (e : Entry) :
    (w.write e).rootCalls = w.rootCalls ++ e.rootCall?.toList :=
  filterMap_log_write w e _

theorem rootCalls_writeAll {lines : List Entry} (h : ∀ e ∈ lines, e.rootCall? = none) (w : World) :
    (w.writeAll lines).rootCalls = w.rootCalls := by
  induction lines generalizing w with
  | nil => rfl
  | cons e rest ih =>
    obtain ⟨first, others⟩ := List.forall_mem_cons.mp h
    refine (ih others (w.write e)).trans ?_
    rw [rootCalls_write, first]
    exact List.append_nil _

/-- A still change during which no root factory is called. -/
structure Idle (a b : World) : Prop extends Still a b where
  rootCalls : b.rootCalls = a.rootCalls

namespace Idle

variable {a b c : World}

theorem of_log_eq (h : Still a b) (same : b.log = a.log) : Idle a b where
  toStill := h
  rootCalls := by unfold World.rootCalls; rw [same]

theorem refl (a : World) : Idle a a := of_log_eq (.refl a) rfl

theorem trans (h : Idle a b) (k : Idle b c) : Idle a c :=
  ⟨h.toStill.trans k.toStill, k.rootCalls.trans h.rootCalls⟩

theorem guarantee : Guarantee Idle Idle := ⟨refl, trans, id⟩

theorem write (w : World) {e : Entry} (he : ∀ r, e.deferral? r = none) (hc : e.rootCall? = none) :
    Idle w (w.write e) where
  toStill := Still.write w he
  rootCalls := by rw [rootCalls_write, hc]; exact List.append_nil _

theorem event (w : World) {e : Event} (he : ∀ s t, e ≠ .scheduled s t) :
    Idle w (w.write (.event e)) where
  toStill := Still.event w he
  rootCalls := by rw [rootCalls_write]; exact List.append_nil _

theorem addRegistry (w : World) : Idle w w.addRegistry.2 :=
  of_log_eq ⟨Calm.addRegistry w, rfl, rfl, rfl⟩ rfl

theorem registryNamed (w : World) (name : String) : Idle w (w.registryNamed name).2 := by
  unfold World.registryNamed
  split
  · exact refl w
  · exact (addRegistry w).trans (of_log_eq ⟨Calm.of_stores_eq rfl rfl rfl rfl rfl, rfl, rfl, rfl⟩ rfl)

theorem addRootFactory (w : World) (answer : Nat → RootAnswer) :
    Idle w (w.addRootFactory answer).2 :=
  of_log_eq ⟨Calm.of_stores_eq rfl rfl rfl rfl rfl, rfl, rfl, rfl⟩ rfl

end Idle

end World

open World (Still Idle)

/-- What keeps calm changes keeps still ones. -/
theorem Guarantee.still {G : World → World → Prop} (hG : Guarantee G Calm) : Guarantee G Still where
  refl := hG.refl
  trans := hG.trans
  quiet h := hG.quiet h.toCalm

/-- What keeps still changes keeps idle ones. -/
theorem Guarantee.idle {G : World → World → Prop} (hG : Guarantee G Still) : Guarantee G Idle where
  refl := hG.refl
  trans := hG.trans
  quiet h := hG.quiet h.toStill

namespace Action

variable {α : Type} {x : Action World α}

theorem Keeps.still (h : Keeps Idle x) : Keeps Still x := fun w => (h w).toStill

theorem idle_report {e : Event} (he : ∀ s t, e ≠ .scheduled s t) : Keeps Idle (World.report e) :=
  fun w => Idle.event w he

theorem idle_send (t : TargetId) (selector : String) (args : List Value) :
    Keeps Idle (World.send t selector args) := by
  intro w
  have calm := calm_send t selector args w
  have told : (w.writeAll ((w.target t).lines t selector args)).rootCalls = w.rootCalls :=
    World.rootCalls_writeAll (fun _ mem => Target.rootCall?_lines mem) w
  obtain ⟨log, written⟩ := w.sameButLog_writeAll ((w.target t).lines t selector args)
  rw [written] at told
  rw [run_send_lines, written] at calm ⊢
  exact ⟨⟨calm, rfl, rfl, rfl⟩, told⟩

theorem idle_root (s : SessionId) : Keeps Idle s.root := by
  have hG := Idle.guarantee
  unfold SessionId.root
  refine .bind hG (.read hG) fun w => ?_
  split
  · exact .pure hG _
  · exact .fail hG _

theorem idle_rootState (s : SessionId) : Keeps Idle s.rootState :=
  .bind Idle.guarantee (.read Idle.guarantee) fun _ => .pure Idle.guarantee _

theorem idle_lifecycle (s : SessionId) : Keeps Idle s.lifecycle := by
  have hG := Idle.guarantee
  unfold SessionId.lifecycle
  refine .bind hG (idle_rootState s) fun x => ?_
  split
  · exact .pure hG _
  · exact .pure hG _

theorem idle_register (s : SessionId) (factory : ProviderFactory) (registry : Option String) :
    Keeps Idle (Script.register s factory registry) := by
  have hG := Idle.guarantee
  unfold Script.register
  have registered : ∀ r : RegistryId, Action.Keeps Idle (do
      World.report (.factoryRegistered factory.type)
      Action.modify (·.updateRegistry r (·.register factory))) := fun r =>
    .bind hG (idle_report fun _ _ h => by cases h) fun _ =>
      .modify fun w => .of_log_eq ⟨Calm.updateRegistry w r fun _ => rfl, rfl, rfl, rfl⟩ rfl
  cases registry with
  | some name => exact .bind hG (.adding fun w => Idle.registryNamed w name) registered
  | none => exact .bind hG (.reads hG _) fun _ => .bind hG (.pure hG _) registered

/-! ## What is idle is still -/

theorem still_report {e : Event} (he : ∀ s t, e ≠ .scheduled s t) : Keeps Still (World.report e) :=
  (idle_report he).still

theorem still_send (t : TargetId) (selector : String) (args : List Value) :
    Keeps Still (World.send t selector args) := (idle_send t selector args).still

theorem still_root (s : SessionId) : Keeps Still s.root := (idle_root s).still

theorem still_rootState (s : SessionId) : Keeps Still s.rootState := (idle_rootState s).still

theorem still_lifecycle (s : SessionId) : Keeps Still s.lifecycle := (idle_lifecycle s).still

end Action

theorem Script.calm_register (s : SessionId) (factory : ProviderFactory) (registry : Option String) :
    (Script.register s factory registry).Keeps Calm :=
  fun w => (Action.idle_register s factory registry w).toCalm

end TargetBuilder
