import TargetBuilder.Proofs.Rooted

/-!
# Thrifty code

Rooted code may take any step that leaves sessions, names and providers alone, and so might call a root
factory on its own. *Thrifty* code comes to call one only by asking a root for its root target.

This is what sessions, calls and scripts are made of.

* `Thrifty.rooted`: thrifty code is rooted.
* `Thrifty.call`: calls are thrifty, as are the operations that they are made of.
-/

namespace TargetBuilder

open World (Idle)

/--
A computation on sessions that are there, of which `S` are known, and on roots, of which `T` are known. Root
factories are called by asking roots for their root targets only.
-/
inductive Thrifty (R : Runner) : List SessionId → List SessionId → ∀ {α : Type}, Action World α → Prop
  | idle {S T : List SessionId} {α : Type} {x : Action World α} : x.Keeps Idle → Thrifty R S T x
  | bind {S T : List SessionId} {α β : Type} {x : Action World α} {f : α → Action World β} :
      Thrifty R S T x → (∀ a, Thrifty R S T (f a)) → Thrifty R S T (x >>= f)
  | capture {S T : List SessionId} {α : Type} {x : Action World α} :
      Thrifty R S T x → Thrifty R S T x.capture
  | attempt {S T : List SessionId} {α : Type} {x : Action World α} :
      Thrifty R S T x → Thrifty R S T x.attempt
  | holding {S T : List SessionId} {α : Type} {x : Action World α} (s : SessionId) :
      Thrifty R S T x → Thrifty R S T (World.holding s x)
  | marking {S T : List SessionId} {α : Type} {x y : Action World α} (t : TargetId) (name : String) :
      Thrifty R S T x → Thrifty R S T y → Thrifty R S T (World.marking t name x y)
  /-- Asking for the root of a session. -/
  | asking {S T : List SessionId} {α : Type} {s : SessionId}
      {f : Option SessionId → Action World α} : s ∈ S → Thrifty R S T (f none) →
        (∀ r, Thrifty R (r :: S) (r :: T) (f (some r))) →
          Thrifty R S T (Action.reads (·.rootOf? s) >>= f)
  /-- Looking up the session that is kept under a name. -/
  | lookingUp {S T : List SessionId} {α : Type} (name : String)
      {f : Option SessionId → Action World α} : Thrifty R S T (f none) →
        (∀ s, Thrifty R (s :: S) T (f (some s))) →
          Thrifty R S T (Action.reads (·.handles.get? name) >>= f)
  | openRoot {S T : List SessionId} {α : Type} (config : Config) {f : SessionId → Action World α} :
      (∀ s, Thrifty R (s :: S) T (f s)) → Thrifty R S T (World.openRoot config >>= f)
  | openChild {S T : List SessionId} {α : Type} {r : SessionId} {f : SessionId → Action World α} :
      r ∈ T → (∀ s, Thrifty R (s :: S) T (f s)) → Thrifty R S T (World.openChild r >>= f)
  | keep {S T : List SessionId} (name : String) {s : SessionId} :
      s ∈ S → Thrifty R S T (Script.keep name s)
  | forget {S T : List SessionId} (name : String) : Thrifty R S T (Script.forget name)
  | exec {S T : List SessionId} (task : Task) {s : SessionId} : s ∈ S → Thrifty R S T (R.exec task s)
  | invoke {S T : List SessionId} (p : ProviderId) (name : String) (args : List Value)
      (block : Option Task) : Thrifty R S T (Capability.invoke R p name args block)
  | ownRootTarget {S T : List SessionId} {r : SessionId} : r ∈ T → Thrifty R S T r.ownRootTarget
  | provide {S T : List SessionId} {r : SessionId} (t : TargetId) :
      r ∈ T → Thrifty R S T (r.provide R t)
  | schedule {S T : List SessionId} {s : SessionId} (request : Option Request) (task : Option Task) :
      s ∈ S → Thrifty R S T (s.schedule request task)
  | enter {S T : List SessionId} {s : SessionId} (request : Request)
      {block : SessionId → Action World Unit} : s ∈ S →
        (∀ r, Thrifty R (r :: S) (r :: T) (block r)) → Thrifty R S T (s.enter R request block)

/-- Asking for the root, and failing where it is gone. -/
theorem SessionId.root_bind {α : Type} (s : SessionId) (f : SessionId → Action World α) :
    (s.root >>= f) = Action.reads (·.rootOf? s) >>= fun found =>
      match found with
      | some r => f r
      | none => .fail .noContext := by
  apply Action.ext_run
  intro w
  unfold SessionId.root
  rw [Action.run_bind, Action.run_bind, Action.run_bind, Action.run_read, Action.run_reads]
  dsimp only
  cases w.rootOf? s <;> rfl

theorem SessionId.rootTarget_eq (s : SessionId) :
    s.rootTarget = Action.reads (·.rootOf? s) >>= fun found =>
      match found with
      | some r => r.ownRootTarget
      | none => pure none := rfl

theorem SessionId.receiver_eq (s : SessionId) (name : String) :
    s.receiver name = Action.reads (·.rootOf? s) >>= fun found =>
      match found with
      | none => .fail (.undefinedMethod name)
      | some r => r.enclosing >>= fun enclosed =>
        match enclosed with
        | some t => pure t
        | none => .fail (.undefinedMethod name) := rfl

namespace Thrifty

variable {R : Runner} {S T : List SessionId} {α β : Type} {x : Action World α}

/-- Thrifty code is rooted. -/
theorem rooted (hx : Thrifty R S T x) : Rooted R S T x := by
  induction hx with
  | idle h => exact .still h.still
  | bind _ _ ihx ihf => exact .bind ihx ihf
  | capture _ ih => exact .capture ih
  | attempt _ ih => exact .attempt ih
  | holding s _ ih => exact .holding s ih
  | marking t name _ _ ihx ihy => exact .marking t name ihx ihy
  | asking hs _ _ ihn ihs => exact .asking hs ihn ihs
  | lookingUp name _ _ ihn ihs => exact .lookingUp name ihn ihs
  | openRoot config _ ih => exact .openRoot config ih
  | openChild hr _ ih => exact .openChild hr ih
  | keep name hs => exact .keep name hs
  | forget name => exact .forget name
  | exec task hs => exact .exec task hs
  | invoke p name args block => exact .invoke p name args block
  | ownRootTarget hr => exact .ownRootTarget hr
  | provide t hr => exact .provide t hr
  | schedule request task hs => exact .schedule request task hs
  | enter request hs _ ih => exact .enter request hs ih

/-! ## Steps of thrifty code -/

theorem pure (a : α) : Thrifty R S T (Pure.pure a : Action World α) :=
  .idle (.pure Idle.guarantee a)

theorem stop (e : Stop) : Thrifty R S T (Action.stop e : Action World α) :=
  .idle (.stop Idle.guarantee e)

theorem fail (f : Fault) : Thrifty R S T (Action.fail f : Action World α) := stop (.fault f)

theorem read : Thrifty R S T Action.read := .idle (.read Idle.guarantee)

theorem reads (f : World → α) : Thrifty R S T (Action.reads f) := .idle (.reads Idle.guarantee f)

theorem ofResult (r : Except Stop α) : Thrifty R S T (Action.ofResult r) :=
  .idle (.ofResult Idle.guarantee r)

/-- Writes a line that tells neither of deferred work nor of a call of a root factory. -/
theorem emit {e : Entry} (h : ∀ r, e.deferral? r = none) (hc : e.rootCall? = none) :
    Thrifty R S T (World.emit e) :=
  .idle fun w => Idle.write w h hc

theorem report {e : Event} (h : ∀ s t, e ≠ .scheduled s t) : Thrifty R S T (World.report e) :=
  .idle (Action.idle_report h)

theorem perform (task : Task) {s : SessionId} (hs : s ∈ S) : Thrifty R S T (R.perform task s) :=
  .bind (.exec task hs) fun _ => pure _

/-- Asking for the root, and going on with it. -/
theorem root {s : SessionId} (hs : s ∈ S) {f : SessionId → Action World α}
    (hf : ∀ r, Thrifty R (r :: S) (r :: T) (f r)) : Thrifty R S T (s.root >>= f) := by
  rw [SessionId.root_bind]
  exact .asking hs (fail _) hf

/-! ## Targets and requests -/

theorem rootTarget {s : SessionId} (hs : s ∈ S) : Thrifty R S T s.rootTarget := by
  rw [SessionId.rootTarget_eq]
  exact .asking hs (pure _) fun _ => .ownRootTarget List.mem_cons_self

theorem enclosing {r : SessionId} (hr : r ∈ T) : Thrifty R S T r.enclosing := by
  unfold SessionId.enclosing
  refine .bind (reads _) fun session => ?_
  split
  · exact pure _
  · exact .ownRootTarget hr

theorem target {s : SessionId} (hs : s ∈ S) : Thrifty R S T s.target := by
  refine root hs fun r => .bind (enclosing List.mem_cons_self) fun t => ?_
  split
  · exact pure _
  · exact fail _

theorem sessionReport {s : SessionId} (hs : s ∈ S) : Thrifty R S T s.report :=
  .bind (.attempt (target hs)) fun _ => .bind (.idle (Action.idle_rootState s)) fun _ =>
    .bind (.idle (Action.idle_lifecycle s)) fun _ => pure _

theorem resolveRequest {r : SessionId} (hr : r ∈ T) (request : Request) :
    Thrifty R S T (r.resolveRequest request) := by
  cases request with
  | target t => exact pure t
  | token token =>
    unfold SessionId.resolveRequest
    refine .bind (.ownRootTarget hr) fun found => ?_
    split
    · exact fail _
    · refine .bind (.idle (.lookUp Idle.guarantee Idle.write r _ token)) fun t => ?_
      split
      · exact fail _
      · exact .bind (report fun _ _ h => by cases h) fun _ => pure _

theorem context {s : SessionId} (hs : s ∈ S) (request : Request) :
    Thrifty R S T (s.context request) :=
  root hs fun _ => resolveRequest List.mem_cons_self request

/-! ## Resolving calls -/

theorem naming (s : SessionId) : Thrifty R S T s.naming := .bind (reads _) fun _ => pure _

theorem receiver {s : SessionId} (hs : s ∈ S) (name : String) : Thrifty R S T (s.receiver name) := by
  rw [SessionId.receiver_eq]
  refine .asking hs (fail _) fun root => ?_
  refine .bind (enclosing List.mem_cons_self) fun t => ?_
  cases t with
  | none => exact fail _
  | some t => exact pure t

theorem enterAnswer {s : SessionId} (hs : s ∈ S) (selector : String) (answer : Value) (block : Task) :
    Thrifty R S T (s.enterAnswer R selector answer block) := by
  unfold SessionId.enterAnswer
  split
  · exact fail _
  · refine .bind (report fun _ _ h => by cases h) fun _ => .bind ?_ fun _ => pure _
    exact .enter _ hs fun root => perform block List.mem_cons_self

theorem retranslation (s : SessionId) (name : String) : Thrifty R S T (s.retranslation name) := by
  unfold SessionId.retranslation
  refine .bind (naming s) fun n => ?_
  split
  · exact pure _
  · exact .bind (report fun _ _ h => by cases h) fun _ => pure _

theorem send (t : TargetId) (selector : String) (args : List Value) :
    Thrifty R S T (World.send t selector args) :=
  .idle (Action.idle_send t selector args)

section Again

variable {again : String → Action World Value} {s : SessionId}

theorem sendSwitching (hs : s ∈ S) (ha : ∀ name, Thrifty R S T (again name)) (t : TargetId)
    (name : String) (args : List Value) (block : Task) :
    Thrifty R S T (s.sendSwitching R again t name args block) := by
  unfold SessionId.sendSwitching
  refine .bind read fun w => .bind (naming s) fun n => ?_
  split
  · exact .bind (send t _ _) fun answer => enterAnswer hs _ answer block
  · refine .bind (retranslation s name) fun translated => ?_
    split
    · exact ha _
    · exact fail _

theorem sendPlain (s : SessionId) (ha : ∀ name, Thrifty R S T (again name)) (t : TargetId)
    (name : String) (args : List Value) : Thrifty R S T (s.sendPlain again t name args) := by
  unfold SessionId.sendPlain
  refine .bind read fun w => .bind (naming s) fun n => ?_
  dsimp only
  split
  · exact .bind (report fun _ _ h => by cases h) fun _ => send t _ _
  · split
    · exact .bind (report fun _ _ h => by cases h) fun _ => send t _ _
    · refine .bind (retranslation s name) fun translated => ?_
      split
      · exact ha _
      · exact .bind (report fun _ _ h => by cases h) fun _ => send t _ _

theorem resolveDirect (hs : s ∈ S) (ha : ∀ name, Thrifty R S T (again name)) (t : TargetId)
    (name : String) (args : List Value) (block : Option Task) :
    Thrifty R S T (s.resolveDirect R again t name args block) := by
  cases block with
  | some block => exact sendSwitching hs ha t name args block
  | none => exact sendPlain s ha t name args

theorem providerCall (s : SessionId) (name : String) (args : List Value) :
    Thrifty R S T (s.providerCall name args) :=
  .bind read fun _ => .bind (naming s) fun _ => pure _

theorem refuseNameless (hs : s ∈ S) (name : String) : Thrifty R S T (s.refuseNameless name) := by
  unfold SessionId.refuseNameless
  refine .bind (.attempt (target hs)) fun t => ?_
  split
  · exact .bind read fun _ => fail _
  · exact fail _

theorem resolveOnce (hs : s ∈ S) (ha : ∀ name, Thrifty R S T (again name)) (name : String)
    (args : List Value) (block : Option Task) :
    Thrifty R S T (s.resolveOnce R again name args block) := by
  unfold SessionId.resolveOnce
  split
  · exact refuseNameless hs name
  · refine .bind (receiver hs name) fun t => .bind (providerCall s name args) fun call => ?_
    split
    · exact .bind (report fun _ _ h => by unfold ProviderCall.event at h; split at h <;> cases h)
        fun _ => .invoke _ _ _ block
    · exact resolveDirect hs ha t name args block

end Again

theorem applyWithin {s : SessionId} (hs : s ∈ S) (args : List Value) (block : Option Task) :
    ∀ (tries : Nat) (name : String), Thrifty R S T (s.applyWithin R args block tries name)
  | 0, _ => stop _
  | tries + 1, name => resolveOnce hs (applyWithin hs args block tries) name args block

theorem apply {s : SessionId} (hs : s ∈ S) (name : String) (args : List Value) (block : Option Task) :
    Thrifty R S T (s.apply R name args block) :=
  applyWithin hs args block R.fuel name

theorem guardedApply {s : SessionId} (hs : s ∈ S) (name : String) (args : List Value) (block : Option Task) :
    Thrifty R S T (s.guardedApply R name args block) := by
  rw [SessionId.guardedApply_eq]
  refine .bind (receiver hs name) fun t => .marking t name (apply hs name args block) ?_
  exact .bind (report fun _ _ h => by cases h) fun _ =>
    resolveDirect hs (fun translated => apply hs translated args block) t name args block

theorem call {s : SessionId} (hs : s ∈ S) (name : String) (args : List Value) (block : Option Task) :
    Thrifty R S T (s.call R name args block) := by
  unfold SessionId.call
  split
  · exact guardedApply hs name args block
  · exact apply hs name args block

end Thrifty

/-! ## Calls are orderly, and so are programs -/

section

variable {R : Runner} (s : SessionId) (name : String) (args : List Value)

theorem Orderly.guardedApply (block : Option Task) : Orderly R (s.guardedApply R name args block) :=
  (Thrifty.guardedApply (S := [s]) (T := []) List.mem_cons_self name args block).rooted.orderly

theorem Program.enterAnswer (selector : String) (answer : Value) (block : Task) :
    Program R (s.enterAnswer R selector answer block) :=
  (Thrifty.enterAnswer (S := [s]) (T := []) List.mem_cons_self selector answer block).rooted.orderly.program

theorem Program.apply (block : Option Task) : Program R (s.apply R name args block) :=
  (Thrifty.apply (S := [s]) (T := []) List.mem_cons_self name args block).rooted.orderly.program

theorem Program.call (block : Option Task) : Program R (s.call R name args block) :=
  (Thrifty.call (S := [s]) (T := []) List.mem_cons_self name args block).rooted.orderly.program

end

end TargetBuilder
