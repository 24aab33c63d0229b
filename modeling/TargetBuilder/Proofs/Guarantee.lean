import TargetBuilder.World

/-!
# What an action guarantees

An action hands the world back however it ends, so what it leaves alone can be said as a relation
between the world before and the world after. A relation is a *guarantee* when it holds of nothing
having happened, adds up over actions that follow each other, and holds of every *quiet* change.

Most of what happens is quiet: targets, registries, providers, names and the log change all the time,
and new sessions are made. What a quiet change leaves alone is the context of every session that is
there, its deferred work, and the record of what was ever deferred.

* `Action.Keeps` is closed under every combinator of actions.
* `World.Quiet` is the strongest guarantee there is.
-/

namespace TargetBuilder

/-! ## What the log tells -/

/-- The target of the work that a line of the log says was deferred on a root session. -/
def Entry.deferral? (r : SessionId) : Entry → Option TargetId
  | .event (.scheduled s t) => if s = r then some t else none
  | _ => none

/-- The number of the call, if a line tells that a root factory was called. -/
def Entry.rootCall? : Entry → Option Nat
  | .rootFactoryCalled call => some call
  | _ => none

namespace World

/-- The targets of all the work that was ever deferred on a root session, in order. -/
def deferrals (w : World) (r : SessionId) : List TargetId :=
  w.log.toList.filterMap (Entry.deferral? r)

/-- The work that is waiting on a root session. -/
def queue (w : World) (r : SessionId) : List Deferred := (w.session r).queue

/-- What is read off the log grows by what is read off a line that is written. -/
theorem filterMap_log_write {β : Type} (w : World) (e : Entry) (f : Entry → Option β) :
    (w.write e).log.toList.filterMap f = w.log.toList.filterMap f ++ (f e).toList := by
  unfold write
  rw [Array.toList_push, List.filterMap_append]
  cases h : f e <;> simp [h]

theorem deferrals_write (w : World) (e : Entry) (r : SessionId) :
    (w.write e).deferrals r = w.deferrals r ++ (e.deferral? r).toList :=
  filterMap_log_write w e _

/-! ## Quiet changes -/

/--
A change that leaves the contexts of sessions and their deferred work alone. Sessions may be made, and
a root target that was missing may be filled in.
-/
structure Quiet (a b : World) : Prop where
  size_le : a.sessions.size ≤ b.sessions.size
  root : ∀ s, s.index < a.sessions.size → (b.session s).root = (a.session s).root
  config : ∀ s, s.index < a.sessions.size → (b.session s).config = (a.session s).config
  synthesized : ∀ s t, (a.session s).synthesized = some t → (b.session s).synthesized = some t
  frame : ∀ s, (b.session s).frame = (a.session s).frame
  topLevel : ∀ s, (b.session s).topLevel = (a.session s).topLevel
  lifecycle : ∀ s, (b.session s).lifecycle = (a.session s).lifecycle
  queue : ∀ s, b.queue s = a.queue s
  deferrals : ∀ s, b.deferrals s = a.deferrals s

namespace Quiet

variable {a b c : World}

theorem refl (a : World) : Quiet a a where
  size_le := Nat.le_refl _
  root _ _ := rfl
  config _ _ := rfl
  synthesized _ _ h := h
  frame _ := rfl
  topLevel _ := rfl
  lifecycle _ := rfl
  queue _ := rfl
  deferrals _ := rfl

theorem trans (h : Quiet a b) (k : Quiet b c) : Quiet a c where
  size_le := Nat.le_trans h.size_le k.size_le
  root s hs := (k.root s (Nat.lt_of_lt_of_le hs h.size_le)).trans (h.root s hs)
  config s hs := (k.config s (Nat.lt_of_lt_of_le hs h.size_le)).trans (h.config s hs)
  synthesized s t ht := k.synthesized s t (h.synthesized s t ht)
  frame s := (k.frame s).trans (h.frame s)
  topLevel s := (k.topLevel s).trans (h.topLevel s)
  lifecycle s := (k.lifecycle s).trans (h.lifecycle s)
  queue s := (k.queue s).trans (h.queue s)
  deferrals s := (k.deferrals s).trans (h.deferrals s)

/-- What touches neither the sessions nor the record of deferred work is quiet. -/
theorem of_sessions_eq (hs : b.sessions = a.sessions) (hd : ∀ s, b.deferrals s = a.deferrals s) :
    Quiet a b := by
  have h := session_congr hs
  refine ⟨Nat.le_of_eq (by rw [hs]), ?_, ?_, ?_, ?_, ?_, ?_, ?_, hd⟩
  · exact fun s _ => by rw [h]
  · exact fun s _ => by rw [h]
  · exact fun s t ht => by rw [h]; exact ht
  · exact fun s => by rw [h]
  · exact fun s => by rw [h]
  · exact fun s => by rw [h]
  · exact fun s => by unfold World.queue; rw [h]

theorem write (w : World) {e : Entry} (he : ∀ r, e.deferral? r = none) : Quiet w (w.write e) := by
  refine of_sessions_eq rfl ?_
  intro s
  rw [deferrals_write, he s]
  exact List.append_nil _

/-- A session that is new has nothing current and nothing waiting, like one that is not there yet. -/
theorem addSession (w : World) (root : Option SessionId) (config : Config) :
    Quiet w (w.addSession (.fresh root config)).2 := by
  have old : ∀ s : SessionId, s.index < w.sessions.size →
      (w.addSession (.fresh root config)).2.session s = w.session s :=
    fun s hs => w.sessions.get_push_of_lt _ hs
  have new : ∀ s : SessionId, ¬ s.index < w.sessions.size →
      ∃ r c, (w.addSession (.fresh root config)).2.session s = .fresh r c ∧
        w.session s = .fresh none default := by
    intro s hs
    have gone := w.session_of_size_le (Nat.le_of_not_lt hs)
    by_cases he : s.index = w.sessions.size
    · refine ⟨root, config, ?_, gone⟩
      have hs : s = ⟨w.sessions.size⟩ := by cases s; exact congrArg _ he
      rw [hs]
      exact w.sessions.get_push_self _
    · refine ⟨none, default, World.session_of_size_le _ ?_, gone⟩
      show (w.sessions.push _).size ≤ s.index
      rw [w.sessions.size_push]
      omega
  -- what a new session has in common with every new one was seen of it before it was there
  have same : ∀ {β : Type} (f : Session → β), (∀ r c, f (.fresh r c) = f (.fresh none default)) →
      ∀ s, f ((w.addSession (.fresh root config)).2.session s) = f (w.session s) := by
    intro β f hf s
    by_cases hs : s.index < w.sessions.size
    · rw [old s hs]
    · obtain ⟨r, c, h₁, h₂⟩ := new s hs
      rw [h₁, h₂, hf]
  refine ⟨?_, ?_, ?_, ?_, ?_, ?_, ?_, ?_, fun _ => rfl⟩
  · exact Nat.le_of_lt (by simp [World.addSession])
  · exact fun s hs => by rw [old s hs]
  · exact fun s hs => by rw [old s hs]
  · exact fun s t ht => by rw [same (·.synthesized) fun _ _ => rfl]; exact ht
  · exact same (·.frame) fun _ _ => rfl
  · exact same (·.topLevel) fun _ _ => rfl
  · exact same (·.lifecycle) fun _ _ => rfl
  · exact same (·.queue) fun _ _ => rfl

end Quiet

end World

/-! ## Guarantees -/

/-- A relation that says what an action may do to the world, and that all changes of a kind keep. -/
structure Guarantee (G : World → World → Prop) (Q : World → World → Prop := World.Quiet) :
    Prop where
  refl : ∀ w, G w w
  trans : ∀ {a b c}, G a b → G b c → G a c
  quiet : ∀ {a b}, Q a b → G a b

theorem World.Quiet.guarantee : Guarantee World.Quiet := ⟨refl, trans, id⟩

namespace Action

/-- However the action ends, the world before and the world after are in the relation. -/
def Keeps {α : Type} (G : World → World → Prop) (x : Action World α) : Prop :=
  ∀ w, G w (x.run w).2

namespace Keeps

variable {α β : Type} {G Q : World → World → Prop} {x : Action World α}

theorem of_run (hx : Keeps G x) {w w' : World} {r : Except Stop α} (h : x.run w = (r, w')) :
    G w w' := by
  have kept := hx w
  rw [h] at kept
  exact kept

/-! ## Actions that touch nothing -/

theorem pure (hG : Guarantee G Q) (a : α) : Keeps G (Pure.pure a : Action World α) := hG.refl

theorem stop (hG : Guarantee G Q) (e : Stop) : Keeps G (Action.stop e : Action World α) := hG.refl

theorem fail (hG : Guarantee G Q) (f : Fault) : Keeps G (Action.fail f : Action World α) := hG.refl

theorem read (hG : Guarantee G Q) : Keeps G Action.read := hG.refl

theorem reads (hG : Guarantee G Q) (f : World → α) : Keeps G (Action.reads f) := hG.refl

theorem ofResult (hG : Guarantee G Q) (r : Except Stop α) : Keeps G (Action.ofResult r) := by
  intro w
  rw [run_ofResult]
  exact hG.refl w

/-! ## Changes and combinators -/

theorem modify {f : World → World} (h : ∀ w, G w (f w)) : Keeps G (Action.modify f) := h

theorem adding {f : World → α × World} (h : ∀ w, G w (f w).2) : Keeps G (Action.adding f) := h

theorem bind (hG : Guarantee G Q) {f : α → Action World β} (hx : Keeps G x)
    (hf : ∀ a, Keeps G (f a)) : Keeps G (x >>= f) := by
  intro w
  have h := hx w
  rw [run_bind]
  cases hr : x.run w with
  | mk r w' =>
    rw [hr] at h
    cases r with
    | ok a => exact hG.trans h (hf a w')
    | error e => exact h

/-- A step that is only taken sometimes, before what follows in any case. -/
theorem sometimes (hG : Guarantee G Q) {p : Prop} [Decidable p] {first : Action World β}
    (hf : Keeps G first) (hx : Keeps G x) : Keeps G (if p then first >>= fun _ => x else x) := by
  split
  · exact .bind hG hf fun _ => hx
  · exact hx

theorem capture (hx : Keeps G x) : Keeps G x.capture := hx

theorem attempt (hx : Keeps G x) : Keeps G x.attempt := by
  intro w
  have h := hx w
  rw [run_attempt]
  cases hr : x.run w with
  | mk r w' =>
    rw [hr] at h
    cases r with
    | ok a => exact h
    | error e => cases e <;> exact h

theorem ensuring (hG : Guarantee G Q) {cleanUp : Except Stop α → World → World} (hx : Keeps G x)
    (hc : ∀ r w, G w (cleanUp r w)) : Keeps G (x.ensuring cleanUp) :=
  fun w => hG.trans (hx w) (hc (x.run w).1 (x.run w).2)

theorem each (hG : Guarantee G Q) {f : β → Action World Unit} (hf : ∀ b, Keeps G (f b)) :
    ∀ xs : List β, Keeps G (Action.each xs f)
  | [] => hG.refl
  | x :: rest => bind hG (hf x) fun _ => each hG hf rest

/-- What only changes the world in the ways that a guarantee allows keeps the guarantee. -/
theorem of_quiet (hG : Guarantee G Q) (h : Keeps Q x) : Keeps G x :=
  fun w => hG.quiet (h w)

end Keeps

end Action

end TargetBuilder
