import TargetBuilder.Proofs.Quiet

/-!
# Calm changes

A quiet change may do anything to targets and registries. A *calm* change leaves alone what the engine
itself keeps there, which is the metadata of the targets and the providers that registries recorded, and
it leaves alone what is running. Targets keep their types, too.

What sessions and targets do besides opening contexts, deferring work, making providers and marking
names is calm: asking for the root target, which may have to be made, looking up tokens, sending
selectors, making sessions.
-/

namespace TargetBuilder

/-- What a registry has recorded: the providers that were made, and the keys under which they are found. -/
def Registry.records (r : Registry) : Arena Registration × OrderedMap (SessionId × String) Nat :=
  (r.registrations, r.index)

namespace World

/-- A quiet change that leaves alone what the engine keeps on targets and in registries. -/
structure Calm (a b : World) : Prop extends Quiet a b where
  targets_le : a.targets.size ≤ b.targets.size
  registries_le : a.registries.size ≤ b.registries.size
  type : ∀ t, t.index < a.targets.size → (b.target t).type = (a.target t).type
  metadata : ∀ t, (b.target t).metadata = (a.target t).metadata
  records : ∀ r, (b.registry r).records = (a.registry r).records
  running : b.running = a.running

namespace Calm

variable {a b c : World}

/-- What happens neither to targets nor to registries, nor to what is running. -/
theorem of_quiet (h : Quiet a b) (ht : b.targets = a.targets) (hr : b.registries = a.registries)
    (hn : b.running = a.running) : Calm a b where
  toQuiet := h
  targets_le := Nat.le_of_eq (by rw [ht])
  registries_le := Nat.le_of_eq (by rw [hr])
  type t _ := by unfold World.target; rw [ht]
  metadata t := by unfold World.target; rw [ht]
  records r := by unfold World.registry; rw [hr]
  running := hn

/-- What happens to names, providers, root factories and blocks only. -/
theorem of_stores_eq (hs : b.sessions = a.sessions) (ht : b.targets = a.targets)
    (hr : b.registries = a.registries) (hn : b.running = a.running) (hl : b.log = a.log) :
    Calm a b := by
  refine of_quiet (Quiet.of_sessions_eq hs fun s => ?_) ht hr hn
  unfold deferrals
  rw [hl]

theorem refl (a : World) : Calm a a := of_stores_eq rfl rfl rfl rfl rfl

theorem trans (h : Calm a b) (k : Calm b c) : Calm a c where
  toQuiet := h.toQuiet.trans k.toQuiet
  targets_le := Nat.le_trans h.targets_le k.targets_le
  registries_le := Nat.le_trans h.registries_le k.registries_le
  type t ht := (k.type t (Nat.lt_of_lt_of_le ht h.targets_le)).trans (h.type t ht)
  metadata t := (k.metadata t).trans (h.metadata t)
  records r := (k.records r).trans (h.records r)
  running := k.running.trans h.running

theorem guarantee : Guarantee Calm Calm := ⟨refl, trans, id⟩

theorem write (w : World) {e : Entry} (he : ∀ r, e.deferral? r = none) : Calm w (w.write e) :=
  of_quiet (Quiet.write w he) rfl rfl rfl

theorem event (w : World) {e : Event} (he : ∀ s t, e ≠ .scheduled s t) :
    Calm w (w.write (.event e)) :=
  of_quiet (Quiet.event w he) rfl rfl rfl

theorem addSession (w : World) (root : Option SessionId) (config : Config) :
    Calm w (w.addSession (.fresh root config)).2 :=
  of_quiet (Quiet.addSession w root config) rfl rfl rfl

theorem synthesize (w : World) {r : SessionId} (h : (w.session r).synthesized = none)
    (t : TargetId) : Calm w (w.updateSession r ({ · with synthesized := some t })) :=
  of_quiet (Quiet.synthesize w h t) rfl rfl rfl

/-! ## Targets -/

theorem updateTarget (w : World) (t : TargetId) {f : Target → Target}
    (ht : (f (w.target t)).type = (w.target t).type)
    (hm : (f (w.target t)).metadata = (w.target t).metadata) : Calm w (w.updateTarget t f) where
  toQuiet := Quiet.updateTarget w t f
  targets_le := Nat.le_of_eq (w.targets.size_update t.index f).symm
  registries_le := Nat.le_refl _
  type u _ := w.targets.get_update_same (·.type) ht u.index
  metadata u := w.targets.get_update_same (·.metadata) hm u.index
  records _ := rfl
  running := rfl

/-- A target that is new has nothing stored on it, like one that is not there yet. -/
theorem addTarget (w : World) {x : Target} (hm : x.metadata = .empty) :
    Calm w (w.addTarget x).2 where
  toQuiet := Quiet.of_sessions_eq rfl fun _ => rfl
  targets_le := by simp [World.addTarget]
  registries_le := Nat.le_refl _
  type t ht := congrArg (·.type) (w.targets.get_push_of_lt x ht)
  metadata t := w.targets.get_push_same (·.metadata) hm t.index
  records _ := rfl
  running := rfl

theorem addParts (owner : String) (parts : List (String × String)) :
    ∀ (fields : Fields) (w : World), Calm w (World.addParts owner parts fields w).2 := by
  induction parts with
  | nil => exact fun _ w => refl w
  | cons part rest ih =>
    intro fields w
    obtain ⟨field, type⟩ := part
    unfold World.addParts
    split
    · exact ih fields w
    · exact (addTarget w rfl).trans (ih _ _)

theorem create {w w' : World} {type name : String} {stored : List (String × Value)} {t : TargetId}
    (h : w.create type name stored = some (t, w')) : Calm w w' := by
  unfold World.create at h
  split at h
  · cases h
    exact addTarget w rfl
  · obtain ⟨c, -, hc⟩ := Option.map_eq_some_iff.mp h
    have parts := addParts name c.parts c.initial w
    cases hc
    exact parts.trans (addTarget _ rfl)

/-! ## Registries -/

theorem updateRegistry (w : World) (r : RegistryId) {f : Registry → Registry}
    (hf : ∀ x, (f x).records = x.records) : Calm w (w.updateRegistry r f) where
  toQuiet := Quiet.updateRegistry w r f
  targets_le := Nat.le_refl _
  registries_le := Nat.le_of_eq (w.registries.size_update r.index f).symm
  type _ _ := rfl
  metadata _ := rfl
  records s := w.registries.get_update_same Registry.records (hf _) s.index
  running := rfl

theorem addRegistry (w : World) : Calm w w.addRegistry.2 where
  toQuiet := Quiet.of_sessions_eq rfl fun _ => rfl
  targets_le := Nat.le_refl _
  registries_le := by simp [World.addRegistry]
  type _ _ := rfl
  metadata _ := rfl
  records r := w.registries.get_push_same Registry.records rfl r.index
  running := rfl

end Calm

end World

/-- What keeps quiet changes keeps calm ones. -/
theorem Guarantee.calm {G : World → World → Prop} (hG : Guarantee G) : Guarantee G World.Calm where
  refl := hG.refl
  trans := hG.trans
  quiet h := hG.quiet h.toQuiet

/-! ## Worlds that differ in their logs -/

/-- The worlds differ in their logs at most. -/
def World.SameButLog (w w' : World) : Prop := ∃ log, w' = { w with log }

namespace World.SameButLog

variable {w w' w'' : World}

theorem refl (w : World) : w.SameButLog w := ⟨w.log, rfl⟩

theorem write (w : World) (e : Entry) : w.SameButLog (w.write e) := ⟨_, rfl⟩

theorem trans (h₁ : w.SameButLog w') (h₂ : w'.SameButLog w'') : w.SameButLog w'' := by
  obtain ⟨log₁, rfl⟩ := h₁
  obtain ⟨log₂, rfl⟩ := h₂
  exact ⟨log₂, rfl⟩

end World.SameButLog

/-! ## Lines that are written -/

/-- The world after lines were written. -/
def World.writeAll (w : World) (lines : List Entry) : World := lines.foldl World.write w

theorem World.sameButLog_writeAll (w : World) (lines : List Entry) : w.SameButLog (w.writeAll lines) := by
  induction lines generalizing w with
  | nil => exact .refl w
  | cons e rest ih => exact (SameButLog.write w e).trans (ih _)

theorem World.Calm.writeAll {lines : List Entry} (h : ∀ e ∈ lines, ∀ r, e.deferral? r = none) (w : World) :
    Calm w (w.writeAll lines) := by
  induction lines generalizing w with
  | nil => exact .refl w
  | cons e rest ih =>
    obtain ⟨first, others⟩ := List.forall_mem_cons.mp h
    exact (Calm.write w first).trans (ih others _)

/-- The lines that are written when a selector is sent to a target. -/
def Target.lines (x : Target) (t : TargetId) (selector : String) (args : List Value) : List Entry :=
  (if x.origin = .described then [.sent t selector args] else [])
    ++ if x.runsMethod selector args.length then
        [.event (.invoking x.type.name selector args.length)]
      else []

namespace Target

variable {x : Target} {t : TargetId} {selector : String} {args : List Value} {e : Entry}

/-- They tell of the selector and of the method that is run for it. -/
theorem eq_of_mem_lines (mem : e ∈ x.lines t selector args) :
    e = .sent t selector args ∨ e = .event (.invoking x.type.name selector args.length) := by
  rcases List.mem_append.mp mem with sent | invoked
  · split at sent
    · exact Or.inl (List.mem_singleton.mp sent)
    · cases sent
  · split at invoked
    · exact Or.inr (List.mem_singleton.mp invoked)
    · cases invoked

theorem deferral?_lines (mem : e ∈ x.lines t selector args) (r : SessionId) : e.deferral? r = none := by
  rcases eq_of_mem_lines mem with rfl | rfl <;> rfl

theorem rootCall?_lines (mem : e ∈ x.lines t selector args) : e.rootCall? = none := by
  rcases eq_of_mem_lines mem with rfl | rfl <;> rfl

end Target

/-- The way in which a call ends that gets a reply. -/
def Reply.result : Reply → Except Stop Value
  | value v => .ok v
  | fault f => .error (.fault f)
  | unwinding => .error .unwound

/-! ## What keeps the root target keeps requests -/

namespace Action.Keeps

variable {G Q : World → World → Prop} (hG : Guarantee G Q)
  (hwrite : ∀ (w : World) {e : Entry}, (∀ r, e.deferral? r = none) → e.rootCall? = none →
    G w (w.write e))

include hG

theorem enclosing {r : SessionId} (hown : r.ownRootTarget.Keeps G) : r.enclosing.Keeps G := by
  unfold SessionId.enclosing
  refine .bind hG (.reads hG _) fun x => ?_
  split
  · exact .pure hG _
  · exact hown

include hwrite

theorem lookUp (root : SessionId) (t : TargetId) (token : String) : (root.lookUp t token).Keeps G := by
  unfold SessionId.lookUp
  refine .bind hG (.reads hG _) fun x => ?_
  split
  · exact .pure hG _
  · exact .bind hG (fun w => hwrite w (fun _ => rfl) rfl) fun _ => .bind hG (.read hG) fun _ => .pure hG _

variable {root : SessionId} (hown : root.ownRootTarget.Keeps G)

include hown

theorem resolveRequest (request : Request) : (root.resolveRequest request).Keeps G := by
  cases request with
  | target t => exact .pure hG t
  | token token =>
    unfold SessionId.resolveRequest
    refine .bind hG hown fun found => ?_
    split
    · exact .fail hG _
    · refine .bind hG (lookUp hG hwrite root _ token) fun t => ?_
      split
      · exact .fail hG _
      · exact .bind hG (fun w => hwrite w (fun _ => rfl) rfl) fun _ => .pure hG _

theorem deferralTarget (request : Option Request) : (root.deferralTarget request).Keeps G := by
  cases request with
  | some request => exact resolveRequest hG hwrite hown request
  | none =>
    unfold SessionId.deferralTarget
    refine .bind hG (enclosing hG hown) fun t => ?_
    split
    · exact .pure hG _
    · exact .fail hG _

end Action.Keeps

/-! ## Calm operations -/

open World (Quiet Calm)

namespace Action

variable {α : Type} {x : Action World α}

/-! ## The world -/

theorem calm_report {e : Event} (he : ∀ s t, e ≠ .scheduled s t) : Keeps Calm (World.report e) :=
  fun w => Calm.event w he

theorem calm_make (type name : String) : Keeps Calm (World.make type name) := by
  intro w
  show Calm w (World.make type name w).2
  unfold World.make
  split
  · next h => exact Calm.create h
  · exact Calm.refl w

/-- What sending does to the receiver shows on its fields only. -/
theorem send_keeps (x : Target) (named : String → Option TargetId) (selector : String)
    (args : List Value) :
    (x.send named selector args).2.type = x.type ∧
      (x.send named selector args).2.metadata = x.metadata := by
  unfold Target.send
  split
  · exact ⟨rfl, rfl⟩
  · split
    · exact ⟨rfl, rfl⟩
    · exact ⟨rfl, rfl⟩
  · split
    · exact ⟨rfl, rfl⟩
    · exact ⟨rfl, rfl⟩

/-- What is left of sending once it was noted: the receiver is changed, and it replies. -/
def receive (x : Target) (t : TargetId) (selector : String) (args : List Value) :
    Action World Value := do
  match x.send (← .read).named selector args with
  | (reply, after) => do
    .modify (·.updateTarget t fun _ => after)
    match reply with
    | .value v => pure v
    | .fault f => .fail f
    | .unwinding => .stop .unwound

theorem send_eq (t : TargetId) (selector : String) (args : List Value) :
    World.send t selector args = (do
      let receiver := (← .read).target t
      if receiver.origin = .described then World.emit (.sent t selector args)
      if receiver.runsMethod selector args.length then
        World.report (.invoking receiver.type.name selector args.length)
      receive receiver t selector args) := rfl

theorem run_receive (x : Target) (t : TargetId) (selector : String) (args : List Value) (w : World) :
    (receive x t selector args).run w =
      ((x.send w.named selector args).1.result,
        w.updateTarget t fun _ => (x.send w.named selector args).2) := by
  unfold receive
  rw [run_bind, run_read]
  dsimp only
  rw [run_bind, run_modify]
  dsimp only
  cases (x.send w.named selector args).1 <;> rfl

/-- What is sent is told of first, and then the receiver replies. -/
theorem run_send_lines (t : TargetId) (selector : String) (args : List Value) (w : World) :
    (World.send t selector args).run w =
      (((w.target t).send w.named selector args).1.result,
        (w.writeAll ((w.target t).lines t selector args)).updateTarget t
          fun _ => ((w.target t).send w.named selector args).2) := by
  rw [send_eq, run_bind, run_read]
  unfold Target.lines
  dsimp only
  split
  · split
    · exact run_receive _ t selector args _
    · exact run_receive _ t selector args _
  · split
    · exact run_receive _ t selector args _
    · exact run_receive _ t selector args _

/-- Sending notes that something is sent, and then the receiver replies. -/
theorem run_send (t : TargetId) (selector : String) (args : List Value) (w : World) :
    ∃ w', Calm w w' ∧ w.SameButLog w' ∧ (World.send t selector args).run w =
      (((w.target t).send w.named selector args).1.result,
        w'.updateTarget t fun _ => ((w.target t).send w.named selector args).2) :=
  ⟨_, Calm.writeAll (fun _ mem r => Target.deferral?_lines mem r) w, w.sameButLog_writeAll _,
    run_send_lines t selector args w⟩

theorem calm_send (t : TargetId) (selector : String) (args : List Value) :
    Keeps Calm (World.send t selector args) := by
  intro w
  obtain ⟨type, metadata⟩ := send_keeps (w.target t) w.named selector args
  obtain ⟨w', calm, ⟨log, rfl⟩, sent⟩ := run_send t selector args w
  rw [sent]
  exact calm.trans (Calm.updateTarget _ t type metadata)

/-! ## Root targets -/

theorem calm_callRootFactory (f : RootFactoryId) : Keeps Calm (World.callRootFactory f) := by
  have hG := Calm.guarantee
  unfold World.callRootFactory
  refine .bind hG (.read hG) fun w => .bind hG (.modify fun w => ?_) fun _ =>
    .bind hG (fun w => Calm.write w fun _ => rfl) fun _ => ?_
  · exact Calm.of_stores_eq rfl rfl rfl rfl rfl
  · split
    · exact .pure hG _
    · exact .reads hG _
    · exact calm_make _ _

/-- The root target is stored only where none was stored before. -/
theorem calm_ownRootTarget (r : SessionId) : Keeps Calm r.ownRootTarget := by
  have hG := Calm.guarantee
  intro w
  unfold SessionId.ownRootTarget SessionId.state
  rw [run_bind]
  dsimp only [run_reads]
  split
  · exact Calm.refl w
  · exact Calm.refl w
  · next factory _ missing _ =>
    unfold SessionId.synthesizeRoot
    rw [run_bind]
    have called := calm_callRootFactory factory w
    obtain ⟨targets, targetNames, rootFactories, call, same⟩ := World.callRootFactory_eq factory w
    cases hc : (World.callRootFactory factory).run w with
    | mk res w' =>
      rw [hc] at called same
      dsimp only at same
      cases res with
      | error e => exact called
      | ok answer =>
        cases answer with
        | none => exact called
        | some t =>
          refine called.trans ?_
          -- the factory changes no session, so the root target is missing still
          have still : ((w'.write (.event (.rootSynthesized r t))).session r).synthesized = none := by
            rw [World.session_write, same]
            exact missing
          exact (Calm.event w' fun _ _ h => by cases h).trans (Calm.synthesize _ still t)
  · exact Calm.refl w

theorem calm_enclosing (r : SessionId) : Keeps Calm r.enclosing :=
  .enclosing Calm.guarantee (calm_ownRootTarget r)

theorem calm_root (s : SessionId) : Keeps Calm s.root := by
  have hG := Calm.guarantee
  unfold SessionId.root
  refine .bind hG (.read hG) fun w => ?_
  split
  · exact .pure hG _
  · exact .fail hG _

theorem calm_target (s : SessionId) : Keeps Calm s.target := by
  have hG := Calm.guarantee
  unfold SessionId.target
  refine .bind hG (calm_root s) fun r => .bind hG (calm_enclosing r) fun t => ?_
  split
  · exact .pure hG _
  · exact .fail hG _

/-! ## Sessions and requests -/

theorem calm_openRoot (config : Config) : Keeps Calm (World.openRoot config) := by
  have hG := Calm.guarantee
  exact .bind hG (.adding fun w => Calm.addSession w none config) fun _ =>
    .bind hG (calm_report fun _ _ h => by cases h) fun _ => .pure hG _

theorem calm_openChild (root : SessionId) : Keeps Calm (World.openChild root) := by
  have hG := Calm.guarantee
  exact .bind hG (.read hG) fun _ =>
    .bind hG (.adding fun w => Calm.addSession w (some root) _) fun _ =>
      .bind hG (calm_report fun _ _ h => by cases h) fun _ => .pure hG _

theorem calm_resolveRequest (root : SessionId) (request : Request) :
    Keeps Calm (root.resolveRequest request) :=
  .resolveRequest Calm.guarantee (fun w _ he _ => Calm.write w he) (calm_ownRootTarget root) request

theorem calm_deferralTarget (root : SessionId) (request : Option Request) :
    Keeps Calm (root.deferralTarget request) :=
  .deferralTarget Calm.guarantee (fun w _ he _ => Calm.write w he) (calm_ownRootTarget root) request

/-! ## What is calm is quiet -/

theorem Keeps.quiet (h : Keeps Calm x) : Keeps Quiet x := fun w => (h w).toQuiet

theorem quiet_enclosing (r : SessionId) : Keeps Quiet r.enclosing := (calm_enclosing r).quiet

theorem quiet_resolveRequest (root : SessionId) (request : Request) :
    Keeps Quiet (root.resolveRequest request) := (calm_resolveRequest root request).quiet

end Action

/-! ## The root stays -/

theorem World.rootOf?_congr {a b : World} {s : SessionId}
    (hroot : (b.session s).root = (a.session s).root) (hrunning : b.running = a.running)
    (hhandles : b.handles = a.handles) : b.rootOf? s = a.rootOf? s := by
  unfold rootOf? isAlive
  rw [hroot, hrunning, hhandles]

namespace SessionId

/-- Asking for a root target makes no difference to which sessions are there. -/
theorem rootOf?_ownRootTarget (r : SessionId) (w : World) (s : SessionId) :
    (r.ownRootTarget.run w).2.rootOf? s = w.rootOf? s := by
  unfold ownRootTarget state
  rw [Action.run_bind]
  dsimp only [Action.run_reads]
  split
  · rfl
  · rfl
  · next factory _ _ _ =>
    obtain ⟨targets, targetNames, rootFactories, call, same⟩ := World.callRootFactory_eq factory w
    unfold synthesizeRoot
    rw [Action.run_bind]
    cases hc : (World.callRootFactory factory).run w with
    | mk res w' =>
    rw [hc] at same
    dsimp only at same
    subst same
    cases res with
    | error e => rfl
    | ok answer =>
    cases answer with
    | none => rfl
    | some t =>
      exact World.rootOf?_congr (World.session_updateSession_same _ r s Session.root fun _ => rfl) rfl rfl
  · rfl

/-- What encloses is the current target, or else the root target. -/
theorem run_enclosing (r : SessionId) (w : World) :
    r.enclosing.run w =
      match (w.session r).frame.target with
      | some t => (.ok (some t), w)
      | none => r.ownRootTarget.run w := by
  unfold enclosing state
  rw [Action.run_bind, Action.run_reads]
  dsimp only
  cases (w.session r).frame.target with
  | some t => rfl
  | none => rfl

theorem rootOf?_enclosing (r : SessionId) (w : World) (s : SessionId) :
    (r.enclosing.run w).2.rootOf? s = w.rootOf? s := by
  rw [run_enclosing]
  split
  · rfl
  · exact rootOf?_ownRootTarget r w s

end SessionId

/-! ## What encloses a block is always known -/

namespace World

theorem callRootFactory_ok (f : RootFactoryId) (w : World) :
    ∃ t w', (callRootFactory f).run w = (.ok t, w') := by
  unfold callRootFactory
  rw [Action.run_bind, Action.run_read]
  dsimp only
  rw [Action.run_bind, Action.run_modify]
  dsimp only
  rw [Action.run_bind]
  dsimp only [emit, Action.run_modify]
  split
  · exact ⟨_, _, rfl⟩
  · exact ⟨_, _, rfl⟩
  · next type name _ =>
    show ∃ t w', make type name _ = (.ok t, w')
    unfold make
    split
    · exact ⟨_, _, rfl⟩
    · exact ⟨_, _, rfl⟩

end World

namespace SessionId

theorem ownRootTarget_ok (r : SessionId) (w : World) :
    ∃ t w', r.ownRootTarget.run w = (.ok t, w') := by
  unfold ownRootTarget state
  rw [Action.run_bind, Action.run_reads]
  dsimp only
  split
  · exact ⟨_, _, rfl⟩
  · exact ⟨_, _, rfl⟩
  · next factory _ _ _ =>
    obtain ⟨t, w', called⟩ := World.callRootFactory_ok factory w
    unfold synthesizeRoot
    rw [Action.run_bind, called]
    cases t with
    | none => exact ⟨_, _, rfl⟩
    | some t => exact ⟨_, _, rfl⟩
  · exact ⟨_, _, rfl⟩

theorem enclosing_ok (r : SessionId) (w : World) : ∃ t w', r.enclosing.run w = (.ok t, w') := by
  rw [run_enclosing]
  split
  · exact ⟨_, _, rfl⟩
  · exact r.ownRootTarget_ok w

end SessionId

end TargetBuilder
