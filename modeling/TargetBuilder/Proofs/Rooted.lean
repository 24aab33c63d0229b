import TargetBuilder.Proofs.Orderly

/-!
# Rooted code

Orderly code may be given any session. *Rooted* code works on sessions that are known to be there, and
comes to the root of a hierarchy only by asking a session for it. What it knows is written beside it: the
sessions that are there, and those among them that are roots. It learns of a session by making it, by
asking for a root, or by looking a name up.

* `Rooted.orderly`: rooted code is orderly.
-/

namespace TargetBuilder

open World (Still)

/--
A computation on sessions that are there, of which `S` are known, and on roots, of which `T` are known.
-/
inductive Rooted (R : Runner) : List SessionId → List SessionId → ∀ {α : Type}, Action World α → Prop
  | still {S T : List SessionId} {α : Type} {x : Action World α} : x.Keeps Still → Rooted R S T x
  | bind {S T : List SessionId} {α β : Type} {x : Action World α} {f : α → Action World β} :
      Rooted R S T x → (∀ a, Rooted R S T (f a)) → Rooted R S T (x >>= f)
  | capture {S T : List SessionId} {α : Type} {x : Action World α} :
      Rooted R S T x → Rooted R S T x.capture
  | attempt {S T : List SessionId} {α : Type} {x : Action World α} :
      Rooted R S T x → Rooted R S T x.attempt
  | holding {S T : List SessionId} {α : Type} {x : Action World α} (s : SessionId) :
      Rooted R S T x → Rooted R S T (World.holding s x)
  | marking {S T : List SessionId} {α : Type} {x y : Action World α} (t : TargetId) (name : String) :
      Rooted R S T x → Rooted R S T y → Rooted R S T (World.marking t name x y)
  /-- Asking for the root of a session. -/
  | asking {S T : List SessionId} {α : Type} {s : SessionId}
      {f : Option SessionId → Action World α} : s ∈ S → Rooted R S T (f none) →
        (∀ r, Rooted R (r :: S) (r :: T) (f (some r))) →
          Rooted R S T (Action.reads (·.rootOf? s) >>= f)
  /-- Looking up the session that is kept under a name. -/
  | lookingUp {S T : List SessionId} {α : Type} (name : String)
      {f : Option SessionId → Action World α} : Rooted R S T (f none) →
        (∀ s, Rooted R (s :: S) T (f (some s))) →
          Rooted R S T (Action.reads (·.handles.get? name) >>= f)
  | openRoot {S T : List SessionId} {α : Type} (config : Config) {f : SessionId → Action World α} :
      (∀ s, Rooted R (s :: S) T (f s)) → Rooted R S T (World.openRoot config >>= f)
  | openChild {S T : List SessionId} {α : Type} {r : SessionId} {f : SessionId → Action World α} :
      r ∈ T → (∀ s, Rooted R (s :: S) T (f s)) → Rooted R S T (World.openChild r >>= f)
  | keep {S T : List SessionId} (name : String) {s : SessionId} :
      s ∈ S → Rooted R S T (Script.keep name s)
  | forget {S T : List SessionId} (name : String) : Rooted R S T (Script.forget name)
  | exec {S T : List SessionId} (task : Task) {s : SessionId} : s ∈ S → Rooted R S T (R.exec task s)
  | invoke {S T : List SessionId} (p : ProviderId) (name : String) (args : List Value)
      (block : Option Task) : Rooted R S T (Capability.invoke R p name args block)
  | ownRootTarget {S T : List SessionId} {r : SessionId} : r ∈ T → Rooted R S T r.ownRootTarget
  | provide {S T : List SessionId} {r : SessionId} (t : TargetId) :
      r ∈ T → Rooted R S T (r.provide R t)
  | schedule {S T : List SessionId} {s : SessionId} (request : Option Request) (task : Option Task) :
      s ∈ S → Rooted R S T (s.schedule request task)
  | enter {S T : List SessionId} {s : SessionId} (request : Request)
      {block : SessionId → Action World Unit} : s ∈ S →
        (∀ r, Rooted R (r :: S) (r :: T) (block r)) → Rooted R S T (s.enter R request block)

namespace Rooted

variable {R : Runner} {S T : List SessionId} {α : Type} {x : Action World α}

/-- Rooted code is orderly. -/
theorem orderly (hx : Rooted R S T x) : Orderly R x := by
  induction hx with
  | still h => exact .calm fun w => (h w).toCalm
  | bind _ _ ihx ihf => exact .bind ihx ihf
  | capture _ ih => exact .capture ih
  | attempt _ ih => exact .attempt ih
  | holding s _ ih => exact .holding s ih
  | marking t name _ _ ihx ihy => exact .marking t name ihx ihy
  | asking _ _ _ ihn ihs =>
    refine .bind (.reads _) fun found => ?_
    cases found with
    | none => exact ihn
    | some r => exact ihs r
  | lookingUp name _ _ ihn ihs =>
    refine .bind (.reads _) fun found => ?_
    cases found with
    | none => exact ihn
    | some s => exact ihs s
  | openRoot config _ ih => exact .bind (.calm (Action.calm_openRoot config)) ih
  | openChild _ _ ih => exact .bind (.calm (Action.calm_openChild _)) ih
  | keep name _ => exact .modify fun _ => World.Calm.of_stores_eq rfl rfl rfl rfl rfl
  | forget name =>
    exact .bind .read fun _ =>
      .bind (.modify fun _ => World.Calm.of_stores_eq rfl rfl rfl rfl rfl) fun _ => .pure _
  | exec task _ => exact .exec task _
  | invoke p name args block => exact .invoke p name args block
  | ownRootTarget _ => exact .calm (Action.calm_ownRootTarget _)
  | provide t _ => exact .provide _ t
  | schedule request task _ => exact .schedule _ request task
  | enter request _ _ ih => exact .enter _ request ih

end Rooted

end TargetBuilder
