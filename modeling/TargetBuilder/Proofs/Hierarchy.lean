import TargetBuilder.Proofs.Script

/-!
# Hierarchies of sessions

Whoever a session, a name or a provider refers to is there, and a child of a root session refers to a
session that is a root. The state of a child is the one that it was made with: all that happens in a
hierarchy happens to its root.

Rooted code keeps all that, and so does what begins around it. A world that *proceeds* from another is one
in which code can find itself later.

* `Rooted.keeps_wellRooted`: rooted code keeps hierarchies as they are.
* `World.Proceeds.wellRooted`: what proceeds from a well-rooted world is well-rooted.
* `World.WellRooted.session_child`: the state of a child stays as it was made.
-/

namespace TargetBuilder

open World (Calm Still)

namespace World

/-! ## Well-rooted worlds -/

/-- The session was made. -/
def IsThere (w : World) (s : SessionId) : Prop := s.index < w.sessions.size

/-- The session was made, as the root of a hierarchy. -/
def IsRoot (w : World) (r : SessionId) : Prop := w.IsThere r ∧ (w.session r).root = none

/-- Sessions that are referred to are there, and children are as they were made. -/
structure WellRooted (w : World) : Prop where
  child : ∀ c r, (w.session c).root = some r →
    w.IsRoot r ∧ w.session c = .fresh (some r) (w.session r).config
  handle : ∀ name s, w.handles.get? name = some s → w.IsThere s
  provider : ∀ p name body, (w.provider p).operations.get? name = some body →
    w.IsThere (w.provider p).session

/-- No session is gone, moved to another hierarchy or configured anew. -/
structure HierarchyKept (a b : World) : Prop where
  size_le : a.sessions.size ≤ b.sessions.size
  root : ∀ s, a.IsThere s → (b.session s).root = (a.session s).root
  config : ∀ s, a.IsThere s → (b.session s).config = (a.session s).config

namespace HierarchyKept

variable {a b c : World}

theorem refl (a : World) : HierarchyKept a a := ⟨Nat.le_refl _, fun _ _ => rfl, fun _ _ => rfl⟩

theorem isThere (h : HierarchyKept a b) {s : SessionId} (hs : a.IsThere s) : b.IsThere s :=
  Nat.lt_of_lt_of_le hs h.size_le

theorem isRoot (h : HierarchyKept a b) {r : SessionId} (hr : a.IsRoot r) : b.IsRoot r :=
  ⟨h.isThere hr.1, (h.root r hr.1).trans hr.2⟩

theorem trans (h : HierarchyKept a b) (k : HierarchyKept b c) : HierarchyKept a c where
  size_le := Nat.le_trans h.size_le k.size_le
  root s hs := (k.root s (h.isThere hs)).trans (h.root s hs)
  config s hs := (k.config s (h.isThere hs)).trans (h.config s hs)

theorem of_quiet (h : Quiet a b) : HierarchyKept a b := ⟨h.size_le, h.root, h.config⟩

theorem updateSession (w : World) (r : SessionId) {f : Session → Session}
    (hroot : ∀ x, (f x).root = x.root) (hconfig : ∀ x, (f x).config = x.config) :
    HierarchyKept w (w.updateSession r f) where
  size_le := Nat.le_of_eq (w.size_updateSession r f).symm
  root s _ := w.session_updateSession_same r s Session.root hroot
  config s _ := w.session_updateSession_same r s Session.config hconfig

end HierarchyKept

namespace WellRooted

variable {w w' : World} {s r : SessionId}

theorem empty (types : OrderedMap String TargetClass) : WellRooted (.empty types) where
  child c r h := by
    rw [World.session_of_size_le _ (Nat.zero_le _)] at h
    cases h
  handle _ _ h := by cases h
  provider _ _ _ h := by cases h

/-- A child that is there is the child of a root that is there. -/
theorem isRoot_of_rootOf? (h : w.WellRooted) (hs : w.IsThere s) (hr : w.rootOf? s = some r) :
    w.IsRoot r := by
  unfold rootOf? at hr
  cases hroot : (w.session s).root with
  | none =>
    rw [hroot] at hr
    cases hr
    exact ⟨hs, hroot⟩
  | some q =>
    rw [hroot] at hr
    dsimp only at hr
    split at hr
    · cases hr
      exact (h.child s r hroot).1
    · cases hr

/-- What does not touch sessions, nor the names of sessions, nor providers. -/
theorem of_sessions_eq (h : w.WellRooted) (hs : w'.sessions = w.sessions)
    (hh : w'.handles = w.handles) (hp : w'.providers = w.providers) : w'.WellRooted := by
  have session := session_congr hs
  have provider : ∀ p, w'.provider p = w.provider p := fun p => by
    unfold World.provider
    rw [hp]
  have there : ∀ s, w'.IsThere s ↔ w.IsThere s := fun s => by
    unfold IsThere
    rw [hs]
  refine ⟨fun c r hc => ?_, fun name s hn => ?_, fun p name body hb => ?_⟩
  · rw [session] at hc ⊢
    obtain ⟨⟨hr, hroot⟩, fresh⟩ := h.child c r hc
    rw [session]
    exact ⟨⟨(there r).mpr hr, by rw [session]; exact hroot⟩, fresh⟩
  · rw [hh] at hn
    exact (there s).mpr (h.handle name s hn)
  · rw [provider] at hb ⊢
    exact (there _).mpr (h.provider p name body hb)

/-- A root may change as it likes, as long as it stays a root and keeps its configuration. -/
theorem updateRoot (h : w.WellRooted) (hr : w.IsRoot r) {f : Session → Session}
    (hroot : ∀ x, (f x).root = x.root) (hconfig : ∀ x, (f x).config = x.config) :
    (w.updateSession r f).WellRooted := by
  have kept := HierarchyKept.updateSession w r hroot hconfig
  refine ⟨fun c q hc => ?_, fun name s hn => kept.isThere (h.handle name s hn),
    fun p name body hb => kept.isThere (h.provider p name body hb)⟩
  rw [w.session_updateSession_same r c Session.root hroot] at hc
  obtain ⟨hq, fresh⟩ := h.child c q hc
  -- a child is not a root, so it is not what changes
  have other : c ≠ r := by
    rintro rfl
    rw [hr.2] at hc
    cases hc
  rw [session_updateSession_of_ne w f other, kept.config q hq.1]
  exact ⟨kept.isRoot hq, fresh⟩

/-- A session that is new is a root, or a child of a root with the same configuration. -/
theorem addSession (h : w.WellRooted) {root : Option SessionId} {config : Config}
    (hchild : ∀ r, root = some r → w.IsRoot r ∧ config = (w.session r).config) :
    (w.addSession (.fresh root config)).2.WellRooted := by
  have kept : HierarchyKept w (w.addSession (.fresh root config)).2 :=
    .of_quiet (Quiet.addSession w root config)
  have new : (w.addSession (.fresh root config)).2.session ⟨w.sessions.size⟩ = .fresh root config :=
    w.sessions.get_push_self _
  refine ⟨fun c q hc => ?_, fun name s hn => kept.isThere (h.handle name s hn),
    fun p name body hb => kept.isThere (h.provider p name body hb)⟩
  -- a session was there before, is the new one, or is not there at all
  rcases Nat.lt_trichotomy c.index w.sessions.size with old | last | beyond
  · have same : (w.addSession (.fresh root config)).2.session c = w.session c :=
      w.sessions.get_push_of_lt _ old
    rw [same] at hc ⊢
    obtain ⟨hq, fresh⟩ := h.child c q hc
    rw [kept.config q hq.1]
    exact ⟨kept.isRoot hq, fresh⟩
  · have hlast : c = ⟨w.sessions.size⟩ := by
      cases c
      exact congrArg SessionId.mk last
    rw [hlast, new] at hc ⊢
    obtain ⟨hq, hconfig⟩ := hchild q hc
    cases (hc : root = some q)
    rw [kept.config q hq.1, ← hconfig]
    exact ⟨kept.isRoot hq, rfl⟩
  · rw [World.session_of_size_le _ (by
      show (w.sessions.push _).size ≤ c.index
      rw [w.sessions.size_push]
      omega)] at hc
    cases hc

/-- A name is given to a session that is there. -/
theorem keep (h : w.WellRooted) (name : String) (hs : w.IsThere s) :
    WellRooted { w with handles := w.handles.insert name s } where
  child := h.child
  handle other t ht := by
    rw [OrderedMap.get?_insert] at ht
    split at ht
    · cases ht
      exact hs
    · exact h.handle other t ht
  provider := h.provider

/-- A provider gets a session that is there. -/
theorem addProvider (h : w.WellRooted) (hs : w.IsThere s)
    (operations : OrderedMap String (List Statement)) :
    (w.addProvider ⟨s, operations⟩).2.WellRooted where
  child := h.child
  handle := h.handle
  provider p name body hb := by
    rcases Nat.lt_trichotomy p.index w.providers.size with old | last | beyond
    · have same : (w.addProvider ⟨s, operations⟩).2.provider p = w.provider p :=
        w.providers.get_push_of_lt _ old
      rw [same] at hb ⊢
      exact h.provider p name body hb
    · have new : (w.addProvider ⟨s, operations⟩).2.provider p = ⟨s, operations⟩ := by
        unfold World.provider
        rw [last]
        exact w.providers.get_push_self _
      rw [new]
      exact hs
    · have gone : (w.addProvider ⟨s, operations⟩).2.provider p = default := by
        unfold World.provider Arena.get
        rw [(Arena.get?_eq_none_iff _ _).mpr (by
          show (w.providers.push _).size ≤ p.index
          rw [w.providers.size_push]
          omega)]
        rfl
      rw [gone] at hb
      cases hb

end WellRooted

/-! ## What code keeps that knows some sessions and roots -/

/-- Well-rooted worlds stay so, as long as what is known is true. -/
def RootingKept (S T : List SessionId) (a b : World) : Prop :=
  a.WellRooted → (∀ s ∈ S, a.IsThere s) → (∀ r ∈ T, a.IsRoot r) → b.WellRooted ∧ HierarchyKept a b

namespace RootingKept

variable {S T : List SessionId} {a b : World} {α : Type}

theorem guarantee (S T : List SessionId) : Guarantee (RootingKept S T) Still where
  refl _ h _ _ := ⟨h, .refl _⟩
  trans h k hw hS hT := by
    obtain ⟨hb, kept⟩ := h hw hS hT
    obtain ⟨hc, kept'⟩ := k hb (fun s hs => kept.isThere (hS s hs)) fun r hr => kept.isRoot (hT r hr)
    exact ⟨hc, kept.trans kept'⟩
  quiet h hw _ _ :=
    ⟨hw.of_sessions_eq h.sessions h.handles h.providers, .of_quiet h.toQuiet⟩

/-- What does not touch sessions, nor the names of sessions, nor providers. -/
theorem of_sessions_eq (hs : b.sessions = a.sessions) (hh : b.handles = a.handles)
    (hp : b.providers = a.providers) : RootingKept S T a b := by
  intro hw _ _
  have session := session_congr hs
  exact ⟨hw.of_sessions_eq hs hh hp, Nat.le_of_eq (congrArg Arena.size hs.symm),
    fun s _ => congrArg Session.root (session s), fun s _ => congrArg Session.config (session s)⟩

/-- A root that is known may change as it likes. -/
theorem updateRoot {r : SessionId} (hr : r ∈ T) (w : World) {f : Session → Session}
    (hroot : ∀ x, (f x).root = x.root) (hconfig : ∀ x, (f x).config = x.config) :
    RootingKept S T w (w.updateSession r f) :=
  fun hw _ hT => ⟨hw.updateRoot (hT r hr) hroot hconfig, .updateSession w r hroot hconfig⟩

/-! ### Getting to know sessions -/

/-- Asking a session for its root is how to get to know a root. -/
theorem asking {s : SessionId} (hs : s ∈ S) {f : Option SessionId → Action World α}
    (hnone : (f none).Keeps (RootingKept S T))
    (hsome : ∀ r, (f (some r)).Keeps (RootingKept (r :: S) (r :: T))) :
    (Action.reads (·.rootOf? s) >>= f).Keeps (RootingKept S T) := by
  intro w hw hS hT
  rw [Action.run_bind, Action.run_reads]
  dsimp only
  cases hr : w.rootOf? s with
  | none => exact hnone w hw hS hT
  | some r =>
    have root := hw.isRoot_of_rootOf? (hS s hs) hr
    exact hsome r w hw (List.forall_mem_cons.mpr ⟨root.1, hS⟩) (List.forall_mem_cons.mpr ⟨root, hT⟩)

theorem lookingUp (name : String) {f : Option SessionId → Action World α}
    (hnone : (f none).Keeps (RootingKept S T))
    (hsome : ∀ s, (f (some s)).Keeps (RootingKept (s :: S) T)) :
    (Action.reads (·.handles.get? name) >>= f).Keeps (RootingKept S T) := by
  intro w hw hS hT
  rw [Action.run_bind, Action.run_reads]
  dsimp only
  cases hh : w.handles.get? name with
  | none => exact hnone w hw hS hT
  | some s => exact hsome s w hw (List.forall_mem_cons.mpr ⟨hw.handle name s hh, hS⟩) hT

/-- A session that was just added is known from then on. -/
theorem adding (w : World) {root : Option SessionId} {config : Config} (e : Event)
    (he : ∀ s t, e ≠ .scheduled s t) {x : Action World α}
    (hx : x.Keeps (RootingKept (⟨w.sessions.size⟩ :: S) T))
    (hchild : ∀ r, root = some r → w.IsRoot r ∧ config = (w.session r).config) :
    RootingKept S T w
      (x.run ((w.addSession (.fresh root config)).2.write (.event e))).2 := by
  intro hw hS hT
  have calm := (Calm.addSession w root config).trans (Calm.event _ he)
  have kept := HierarchyKept.of_quiet calm.toQuiet
  have rooted : ((w.addSession (.fresh root config)).2.write (.event e)).WellRooted :=
    (hw.addSession hchild).of_sessions_eq rfl rfl rfl
  have there : World.IsThere ((w.addSession (.fresh root config)).2.write (.event e))
      ⟨w.sessions.size⟩ := by
    show w.sessions.size < (w.sessions.push _).size
    rw [w.sessions.size_push]
    exact Nat.lt_succ_self _
  obtain ⟨after, kept'⟩ := hx _ rooted
    (List.forall_mem_cons.mpr ⟨there, fun s hs => kept.isThere (hS s hs)⟩)
    fun r hr => kept.isRoot (hT r hr)
  exact ⟨after, kept.trans kept'⟩

theorem openRoot (config : Config) {f : SessionId → Action World α}
    (hf : ∀ s, (f s).Keeps (RootingKept (s :: S) T)) :
    (World.openRoot config >>= f).Keeps (RootingKept S T) :=
  fun w => adding w _ (fun _ _ h => by cases h) (hf ⟨w.sessions.size⟩) fun _ h => by cases h

theorem openChild {r : SessionId} (hr : r ∈ T) {f : SessionId → Action World α}
    (hf : ∀ s, (f s).Keeps (RootingKept (s :: S) T)) :
    (World.openChild r >>= f).Keeps (RootingKept S T) := by
  intro w hw hS hT
  refine adding w _ (fun _ _ h => by cases h) (hf ⟨w.sessions.size⟩) (fun q h => ?_) hw hS hT
  cases h
  exact ⟨hT r hr, rfl⟩

/-! ### What the operations of sessions keep -/

theorem ownRootTarget {r : SessionId} (hr : r ∈ T) : r.ownRootTarget.Keeps (RootingKept S T) := by
  have hG := guarantee S T
  unfold SessionId.ownRootTarget
  refine .bind hG (.reads hG _) fun session => ?_
  split
  · exact .pure hG _
  · exact .pure hG _
  · next factory _ _ _ =>
    refine .bind hG (fun w => ?_) fun found => ?_
    · obtain ⟨targets, targetNames, rootFactories, call, same⟩ := callRootFactory_eq factory w
      rw [same]
      exact of_sessions_eq rfl rfl rfl
    · split
      · exact .pure hG _
      · refine .bind hG (.of_quiet hG (Action.still_report fun _ _ h => by cases h)) fun _ => ?_
        exact .bind hG (fun w => updateRoot hr w (fun _ => rfl) fun _ => rfl) fun _ => .pure hG _
  · exact .pure hG _

theorem keep (name : String) {s : SessionId} (hs : s ∈ S) :
    (Script.keep name s).Keeps (RootingKept S T) :=
  fun _ hw hS _ => ⟨hw.keep name (hS s hs), Nat.le_refl _, fun _ _ => rfl, fun _ _ => rfl⟩

theorem forget (name : String) : (Script.forget name).Keeps (RootingKept S T) := by
  intro w hw _ _
  have fewer : ∀ other s, (w.handles.erase name).get? other = some s →
      w.handles.get? other = some s := by
    intro other s h
    rw [OrderedMap.get?_erase] at h
    split at h
    · cases h
    · exact h
  exact ⟨⟨hw.child, fun other s h => hw.handle other s (fewer other s h), hw.provider⟩,
    Nat.le_refl _, fun _ _ => rfl, fun _ _ => rfl⟩

theorem brackets {root : SessionId} (hroot : root ∈ T) : Brackets (RootingKept S T) root :=
  .of_tolerates (guarantee S T) fun w _ hf =>
    updateRoot hroot w (fun x => (hf x).root) fun x => (hf x).config

theorem schedule {s : SessionId} (hs : s ∈ S) (request : Option Request) (task : Option Task) :
    (s.schedule request task).Keeps (RootingKept S T) := by
  cases task with
  | none => exact .fail (guarantee S T) _
  | some task =>
    show ((s.root >>= fun root => _) : Action World Unit).Keeps _
    rw [SessionId.root_bind]
    refine asking hs (.fail (guarantee S T) _) fun root => ?_
    have hG := guarantee (root :: S) (root :: T)
    refine .bind hG (.deferralTarget hG (fun w _ he _ => hG.quiet (Still.write w he))
      (ownRootTarget List.mem_cons_self) request) fun t => ?_
    refine .bind hG (fun w => of_sessions_eq rfl rfl rfl) fun _ => ?_
    exact fun w => updateRoot List.mem_cons_self w (fun _ => rfl) fun _ => rfl

section

variable {R : Runner} (hR : ∀ (S T : List SessionId) (task : Task) (s : SessionId), s ∈ S →
  (R.exec task s).Keeps (RootingKept S T))

include hR

theorem invoke (p : ProviderId) (name : String) (args : List Value) (block : Option Task) :
    (Capability.invoke R p name args block).Keeps (RootingKept S T) := by
  intro w hw hS hT
  unfold Capability.invoke
  rw [Action.run_bind, Action.run_read]
  dsimp only
  cases hb : (w.provider p).operations.get? name with
  | none => exact ⟨hw, .refl w⟩
  | some body =>
    have hG := guarantee ((w.provider p).session :: S) T
    have served : Action.Keeps (RootingKept ((w.provider p).session :: S) T) (do
        World.report (.providerInvoked name args.length)
        World.emit (.operationRunning name args block.isSome)
        let kept ← Action.adding (·.addBlock block)
        R.exec (.script body ⟨args, some kept⟩) (w.provider p).session) :=
      .bind hG (.of_quiet hG (Action.still_report fun _ _ h => by cases h)) fun _ =>
        .bind hG (.of_quiet hG fun w => Still.write w fun _ => rfl) fun _ =>
          .bind hG (.adding fun w => of_sessions_eq rfl rfl rfl) fun _ =>
            hR _ _ _ _ List.mem_cons_self
    exact served w hw (List.forall_mem_cons.mpr ⟨hw.provider p name body hb, hS⟩) hT

theorem make {root : SessionId} (hroot : root ∈ T) (registry : RegistryId) (t : TargetId)
    (type : String) (factory : ProviderFactory) :
    (Capability.make R registry root t type factory).Keeps (RootingKept S T) := by
  refine openChild hroot fun child => ?_
  have hG := guarantee (child :: S) T
  refine .bind hG ?_ fun p => ?_
  · refine .bind hG (.reads hG _) fun _ => ?_
    refine .bind hG (.of_quiet hG fun w => Still.write w fun _ => rfl) fun _ => ?_
    refine .bind hG (.attempt (.bind hG (hR _ _ _ _ List.mem_cons_self) fun _ => .pure hG _)) fun _ => ?_
    exact fun w hw hS _ => ⟨hw.addProvider (hS child List.mem_cons_self) factory.operations,
      Nat.le_refl _, fun _ _ => rfl, fun _ _ => rfl⟩
  · refine .bind hG (.read hG) fun _ => .bind hG (fun w => of_sessions_eq rfl rfl rfl) fun _ => ?_
    refine .bind hG (fun w => of_sessions_eq rfl rfl rfl) fun _ => ?_
    exact .bind hG (.of_quiet hG (Action.still_report fun _ _ h => by cases h)) fun _ => .pure hG _

theorem provide {root : SessionId} (hroot : root ∈ T) (t : TargetId) :
    (root.provide R t).Keeps (RootingKept S T) := by
  have hG := guarantee S T
  refine .bind hG (.reads hG _) fun _ => .provide_of_make hG.idle (fun key w => ?_) fun type factory => ?_
  · exact of_sessions_eq rfl rfl rfl
  · exact make hR hroot _ t type factory

theorem hosting {root : SessionId} (hs : root ∈ S) (hroot : root ∈ T) :
    Hosting R (RootingKept S T) root where
  toGuarantee := (guarantee S T).idle
  enclosing := .enclosing (guarantee S T) (ownRootTarget hroot)
  provide := provide hR hroot
  exec task := hR S T task root hs

theorem enter {s : SessionId} (hs : s ∈ S) (request : Request)
    {block : SessionId → Action World Unit}
    (hblock : ∀ r, (block r).Keeps (RootingKept (r :: S) (r :: T))) :
    (s.enter R request block).Keeps (RootingKept S T) := by
  unfold SessionId.enter
  rw [SessionId.root_bind]
  refine asking hs (.fail (guarantee S T) _) fun root => ?_
  show (World.holding root _).Keeps _
  have hG := guarantee (root :: S) (root :: T)
  refine .holding hG (fun _ _ => of_sessions_eq rfl rfl rfl) root ?_
  refine .bind hG (.resolveRequest hG (fun w _ he _ => hG.quiet (Still.write w he))
    (ownRootTarget List.mem_cons_self) request) fun t => .bind hG ?_ fun _ => .pure hG _
  exact (brackets List.mem_cons_self).keeps_enterTarget
    (hosting hR List.mem_cons_self List.mem_cons_self) t (hblock root)

end

end RootingKept

end World

open World (RootingKept)

/-- **Rooted code keeps hierarchies as they are**, if the tasks that it leads to do. -/
theorem Rooted.keeps_wellRooted {R : Runner} {S T : List SessionId} {α : Type} {x : Action World α}
    (hR : ∀ (S T : List SessionId) (task : Task) (s : SessionId), s ∈ S →
      (R.exec task s).Keeps (RootingKept S T)) (hx : Rooted R S T x) :
    x.Keeps (RootingKept S T) := by
  induction hx with
  | still h => exact .of_quiet (RootingKept.guarantee _ _) h
  | bind _ _ ihx ihf => exact .bind (RootingKept.guarantee _ _) ihx ihf
  | capture _ ih => exact .capture ih
  | attempt _ ih => exact .attempt ih
  | holding s _ ih =>
    exact .holding (RootingKept.guarantee _ _) (fun _ _ => .of_sessions_eq rfl rfl rfl) s ih
  | marking t name _ _ ihx ihy =>
    exact .marking (RootingKept.guarantee _ _).idle (fun _ _ _ _ _ => .of_sessions_eq rfl rfl rfl)
      (fun _ _ _ => .of_sessions_eq rfl rfl rfl) t name ihx ihy
  | asking hs _ _ ihn ihs => exact .asking hs ihn ihs
  | lookingUp name _ _ ihn ihs => exact .lookingUp name ihn ihs
  | openRoot config _ ih => exact .openRoot config ih
  | openChild hr _ ih => exact .openChild hr ih
  | keep name hs => exact .keep name hs
  | forget name => exact .forget name
  | exec task hs => exact hR _ _ task _ hs
  | invoke p name args block => exact .invoke hR p name args block
  | ownRootTarget hr => exact .ownRootTarget hr
  | provide t hr => exact RootingKept.provide hR hr t
  | schedule request task hs => exact RootingKept.schedule hs request task
  | enter request hs _ ih => exact RootingKept.enter hR hs request ih

/-- Tasks keep hierarchies as they are, by induction on how deep they may nest. -/
theorem Script.exec_keeps_wellRooted :
    ∀ (fuel : Nat) (S T : List SessionId) (task : Task) (s : SessionId), s ∈ S →
      (exec fuel task s).Keeps (RootingKept S T)
  | 0, S, T, _, _, _ => .stop (RootingKept.guarantee S T) _
  | fuel + 1, S, T, task, s, hs => by
    rw [exec_succ]
    exact (rooted_runTask hs task).keeps_wellRooted (exec_keeps_wellRooted fuel)

namespace World

/-! ## Worlds that arise -/

/--
A world in which code can find itself later: rooted code has run to its end, a session is held, the
context of a root session has changed, as it does when a context is opened, when its block is entered and
when a pass takes the waiting work, or a name is marked as in flight.
-/
inductive Proceeds (a : World) : World → Prop
  | refl : Proceeds a a
  | ran {b : World} {fuel : Nat} {S T : List SessionId} {α : Type} {x : Action World α} :
      Proceeds a b → (∀ s ∈ S, b.IsThere s) → (∀ r ∈ T, b.IsRoot r) →
        Rooted (Script.runner fuel) S T x → Proceeds a (x.run b).2
  | holding {b : World} (s : SessionId) :
      Proceeds a b → Proceeds a { b with running := s :: b.running }
  | context {b : World} {r : SessionId} {f : Session → Session} :
      Proceeds a b → b.IsRoot r → (∀ x, Session.ContextChange x (f x)) →
        Proceeds a (b.updateSession r f)
  | launched {b : World} {t : TargetId} {name : String} {m : Metadata} :
      Proceeds a b → (b.target t).metadata.launch? name = some m →
        Proceeds a (b.updateMetadata t fun _ => m)

/-- A world that arises in a run, which began with nothing. -/
def Arises (w : World) : Prop := ∃ types, Proceeds (.empty types) w

/-- **What proceeds from a well-rooted world is well-rooted**, and the hierarchies are kept. -/
theorem Proceeds.wellRooted {a b : World} (h : Proceeds a b) (ha : a.WellRooted) :
    b.WellRooted ∧ HierarchyKept a b := by
  induction h with
  | refl => exact ⟨ha, .refl a⟩
  | @ran b fuel S T α x _ hS hT hx ih =>
    obtain ⟨hb, kept⟩ := ih
    obtain ⟨hc, kept'⟩ := hx.keeps_wellRooted (Script.exec_keeps_wellRooted fuel) b hb hS hT
    exact ⟨hc, kept.trans kept'⟩
  | holding s _ ih =>
    exact ⟨ih.1.of_sessions_eq rfl rfl rfl, ih.2.trans ⟨Nat.le_refl _, fun _ _ => rfl, fun _ _ => rfl⟩⟩
  | context _ hr hf ih =>
    exact ⟨ih.1.updateRoot hr (fun x => (hf x).root) fun x => (hf x).config,
      ih.2.trans (.updateSession _ _ (fun x => (hf x).root) fun x => (hf x).config)⟩
  | launched _ _ ih =>
    exact ⟨ih.1.of_sessions_eq rfl rfl rfl, ih.2.trans ⟨Nat.le_refl _, fun _ _ => rfl, fun _ _ => rfl⟩⟩

/-- A script leaves a world that arises, if it begins with nothing. -/
theorem arises_after (types : OrderedMap String TargetClass) (config : ConfigSpec)
    (script : List Statement) : (Script.after (.empty types) config script).Arises :=
  ⟨types, .ran .refl (fun _ h => absurd h List.not_mem_nil) (fun _ h => absurd h List.not_mem_nil)
    (Script.rooted_run (S := []) (T := []) Script.depthBound config script)⟩

theorem Arises.wellRooted {w : World} (h : w.Arises) : w.WellRooted :=
  h.elim fun types proceeds => (proceeds.wellRooted (.empty types)).1

/-- The state of a child is at every later time the one that it was made with. -/
theorem WellRooted.session_child {a b : World} (ha : a.WellRooted) (h : Proceeds a b)
    {c r : SessionId} (hc : (a.session c).root = some r) :
    b.session c = .fresh (some r) (a.session r).config := by
  obtain ⟨hb, kept⟩ := h.wellRooted ha
  have there : a.IsThere c := by
    rcases Nat.lt_or_ge c.index a.sessions.size with there | gone
    · exact there
    · rw [a.session_of_size_le gone] at hc
      cases hc
  have fresh := (hb.child c r ((kept.root c there).trans hc)).2
  rw [kept.config r (ha.child c r hc).1.1] at fresh
  exact fresh

end World

end TargetBuilder
