import TargetBuilder.Proofs.Moment

/-!
# Names in flight

A guarded call marks its name on the target for as long as it takes. The marks are on the target, where
every session sees them, and what runs inside a call may switch targets, use other sessions, guard other
names, fail or unwind. All the same the marks nest like the calls: a call that finds its name marked
leaves the mark to the call that made it, and a call that makes a mark takes it off.

* `World.MarksKept.regime`: whatever code does, it leaves the marks of all targets as they were.
* `World.Moment.isInFlight_iff`: a name is in flight exactly while an activity lasts that has marked it.
* `in_flight_iff_guarded`: guarded calls and the names in flight.
-/

namespace TargetBuilder

open World (Calm Moment)
open Script (runner)

/-! ## Marks -/

namespace World

/-- Whether a name is in flight on a target. -/
def isInFlight (w : World) (t : TargetId) (name : String) : Bool :=
  (w.target t).metadata.isInFlight name

/-- What a change of the metadata of a target does to marks shows on that target. -/
theorem isInFlight_updateMetadata (w : World) (t u : TargetId) (f : Metadata → Metadata)
    (name : String) :
    (w.updateMetadata t f).isInFlight u name =
      if u = t ∧ t.index < w.targets.size then (f (w.target t).metadata).isInFlight name
      else w.isInFlight u name := by
  unfold isInFlight
  rw [metadata_updateMetadata]
  split <;> rfl

/-- Marking a name puts it in flight, if the target is there, and no other name on any target. -/
theorem isInFlight_launched {w : World} {t : TargetId} {name : String} {m : Metadata}
    (h : (w.target t).metadata.launch? name = some m) (u : TargetId) (key : String) :
    (w.updateMetadata t fun _ => m).isInFlight u key =
      (w.isInFlight u key || decide ((u = t ∧ t.index < w.targets.size) ∧ key = name)) := by
  rw [isInFlight_updateMetadata]
  by_cases hu : u = t ∧ t.index < w.targets.size
  · obtain ⟨rfl, there⟩ := hu
    rw [if_pos ⟨rfl, there⟩, Metadata.isInFlight_of_launch? h]
    simp [isInFlight, there]
  · rw [if_neg hu]
    simp [hu]

/-- On a target that is not there nothing is in flight. -/
theorem isInFlight_of_size_le {w : World} {t : TargetId} (h : w.targets.size ≤ t.index)
    (name : String) : w.isInFlight t name = false := by
  unfold isInFlight target Arena.get
  rw [(w.targets.get?_eq_none_iff t.index).mpr h]
  rfl

/-- Taking a mark off takes one name out of flight, on one target. -/
theorem isInFlight_landed (w : World) (t : TargetId) (name : String) (u : TargetId) (key : String) :
    (w.land t name).isInFlight u key =
      (w.isInFlight u key && decide (¬ (u = t ∧ key = name))) := by
  unfold land
  rw [isInFlight_updateMetadata]
  by_cases hu : u = t
  · subst hu
    by_cases there : u.index < w.targets.size
    · rw [if_pos ⟨rfl, there⟩, Metadata.isInFlight_land]
      simp [isInFlight]
    · rw [isInFlight_of_size_le (Nat.le_of_not_lt there), if_neg fun hc => there hc.2]
      rfl
  · rw [if_neg fun hc => hu hc.1]
    simp [hu]

/-! ## Marks nest like calls -/

/-- The same names are in flight on every target. -/
def MarksKept (a b : World) : Prop := ∀ t name, b.isInFlight t name = a.isInFlight t name

namespace MarksKept

theorem guarantee : Guarantee MarksKept Calm where
  refl _ _ _ := rfl
  trans h k t name := (k t name).trans (h t name)
  quiet h t name := congrArg (·.isInFlight name) (h.metadata t)

/-- **A mark is taken off by what made it**, and by nothing else. -/
theorem marking {α : Type} (t : TargetId) (name : String) {x y : Action World α}
    (hx : x.Keeps MarksKept) (hy : y.Keeps MarksKept) :
    (World.marking t name x y).Keeps MarksKept := by
  intro w
  cases hm : (w.target t).metadata.launch? name with
  | some m =>
    rw [run_marking_fresh hm]
    have inside := hx (w.updateMetadata t fun _ => m)
    have fresh : w.isInFlight t name = false := by
      cases hf : w.isInFlight t name with
      | false => rfl
      | true =>
        rw [(Metadata.launch?_eq_none_iff _ name).mpr hf] at hm
        cases hm
    intro u key
    show (World.land _ t name).isInFlight u key = _
    rw [isInFlight_landed, inside u key, isInFlight_launched hm]
    by_cases hu : u = t ∧ key = name
    · rw [hu.1, hu.2, fresh]
      simp
    · by_cases hk : key = name
      · have other : u ≠ t := fun hc => hu ⟨hc, hk⟩
        simp [hk, other]
      · simp [hk]
  | none =>
    rw [run_marking_again hm]
    exact guarantee.trans (guarantee.quiet (Calm.event w fun _ _ h => by cases h)) (hy _)

/-- Storing the key of a provider is no matter of marks. -/
theorem bind (root : SessionId) (t : TargetId) (key : Nat) :
    (Capability.bind root t key).Keeps MarksKept := by
  intro w u name
  show (w.updateMetadata t (·.set root Capability.slotName (.provider key))).isInFlight u name = _
  rw [isInFlight_updateMetadata]
  split
  · next hu => rw [Metadata.isInFlight_set, hu.1]; rfl
  · rfl

/-- **Whatever code does, and however it ends, it leaves the marks of all targets as they were.** -/
theorem regime : Regime MarksKept where
  toGuarantee := guarantee
  holding s _ hx := .holding guarantee (fun _ _ _ _ => rfl) s hx
  defer _ _ _ _ _ := rfl
  context _ _ _ _ _ _ := rfl
  provide _ root t hR := .sessionProvide_of_recording guarantee bind (fun _ _ _ _ _ => rfl) hR root t
  marking t name _ _ hx hy := marking t name hx hy

end MarksKept

end World

/-! ## Names in flight at a moment -/

/-- Whether an activity has marked a name on a target. -/
def Activity.Marks (t : TargetId) (name : String) : Activity → Prop
  | guarded _ u n => u = t ∧ n = name
  | marked u n => u = t ∧ n = name
  | _ => False

theorem exists_marks_cons (a : Activity) (l : List Activity) (t : TargetId) (name : String) :
    (∃ b ∈ a :: l, b.Marks t name) ↔ a.Marks t name ∨ ∃ b ∈ l, b.Marks t name := by
  simp only [List.mem_cons, exists_eq_or_imp]

/-- What makes no marks makes no difference to which are made. -/
theorem exists_marks_cons_of_not {a : Activity} {t : TargetId} {name : String}
    (ha : ¬ a.Marks t name) (l : List Activity) :
    (∃ b ∈ a :: l, b.Marks t name) ↔ ∃ b ∈ l, b.Marks t name := by
  rw [exists_marks_cons]
  exact or_iff_right ha

namespace World.Moment

variable {l : List Activity} {w : World}

/-- An activity that makes a mark puts exactly that name in flight. -/
theorem isInFlight_iff_of_launched {t : TargetId} {name : String} {m : Metadata} {a : Activity}
    (before : ∀ u key, w.isInFlight u key = true ↔ ∃ b ∈ l, b.Marks u key)
    (there : t.index < w.targets.size) (h : (w.target t).metadata.launch? name = some m)
    (ha : ∀ u key, a.Marks u key ↔ t = u ∧ name = key) (u : TargetId) (key : String) :
    (w.updateMetadata t fun _ => m).isInFlight u key = true ↔ ∃ b ∈ a :: l, b.Marks u key := by
  rw [isInFlight_launched h, exists_marks_cons, ha, Bool.or_eq_true, before, decide_eq_true_iff,
    or_comm]
  refine or_congr_left ⟨?_, ?_⟩
  · rintro ⟨⟨rfl, -⟩, rfl⟩
    exact ⟨rfl, rfl⟩
  · rintro ⟨rfl, rfl⟩
    exact ⟨⟨rfl, there⟩, rfl⟩

/-- **A name is in flight exactly while an activity lasts that has marked it.** -/
theorem isInFlight_iff (h : Moment l w) :
    ∀ t name, w.isInFlight t name = true ↔ ∃ a ∈ l, a.Marks t name := by
  induction h with
  | start types =>
    intro t name
    rw [isInFlight_of_size_le (Nat.zero_le _)]
    simp
  | @ran l w fuel α x _ hx ih =>
    intro t name
    rw [MarksKept.regime.keeps_piece hx w t name]
    exact ih t name
  | holding s _ ih => exact fun t name => (ih t name).trans (exists_marks_cons_of_not id _).symm
  | @context l w w' fuel root u provider _ _ _ hp ih =>
    have kept := (MarksKept.regime.keeps_provide fuel root u).of_run hp
    intro t name
    refine Iff.trans ?_ (exists_marks_cons_of_not id _).symm
    rw [← ih t name, ← kept t name]
    exact Iff.rfl
  | @block l w w' root u provider rootTarget parent _ _ henc ih =>
    have kept := MarksKept.guarantee.quiet ((Action.calm_enclosing root).of_run henc)
    intro t name
    refine Iff.trans ?_ (exists_marks_cons_of_not id _).symm
    rw [← ih t name, ← kept t name]
    exact Iff.rfl
  | @guarded l w w' s u key m _ hrec there hm ih =>
    have kept := MarksKept.guarantee.quiet ((Action.calm_receiver s key).of_run hrec)
    refine isInFlight_iff_of_launched (fun t name => ?_) there hm fun _ _ => Iff.rfl
    rw [← ih t name, ← kept t name]
  | marked _ there hm ih => exact isInFlight_iff_of_launched ih there hm fun _ _ => Iff.rfl

end World.Moment

/-! ## Guarded calls -/

namespace SessionId

variable {R : Runner} {s : SessionId} {name : String} {w w' : World} {t : TargetId}

/-- A guarded call of a name that is not in flight is the call itself, with the name marked. -/
theorem run_guardedApply_fresh {m : Metadata} (hrec : (s.receiver name).run w = (.ok t, w'))
    (hm : (w'.target t).metadata.launch? name = some m) (args : List Value) (block : Option Task) :
    (s.guardedApply R name args block).run w =
      match (s.apply R name args block).run (w'.updateMetadata t fun _ => m) with
      | (r, w'') => (r, w''.land t name) := by
  rw [guardedApply_eq, Action.run_bind, hrec]
  exact World.run_marking_fresh hm _ _

/-- A guarded call of a name that is in flight goes past the provider. -/
theorem run_guardedApply_again (hrec : (s.receiver name).run w = (.ok t, w'))
    (hm : w'.isInFlight t name = true) (args : List Value) (block : Option Task) :
    (s.guardedApply R name args block).run w =
      (s.resolveDirect R (fun translated => s.apply R translated args block) t name args block).run
        ((w'.write (.event (.alreadyInFlight name))).write (.event (.bypassing name))) := by
  rw [guardedApply_eq, Action.run_bind, hrec]
  exact World.run_marking_again ((Metadata.launch?_eq_none_iff _ name).mpr hm) _ _

end SessionId

theorem exists_marks_iff (l : List Activity) (t : TargetId) (name : String) :
    (∃ a ∈ l, a.Marks t name) ↔ (∃ s, .guarded s t name ∈ l) ∨ .marked t name ∈ l := by
  constructor
  · rintro ⟨a, ha, hmarks⟩
    cases a with
    | guarded s u n =>
      obtain ⟨rfl, rfl⟩ := hmarks
      exact Or.inl ⟨s, ha⟩
    | marked u n =>
      obtain ⟨rfl, rfl⟩ := hmarks
      exact Or.inr ha
    | _ => exact hmarks.elim
  · rintro (⟨s, ha⟩ | ha)
    · exact ⟨_, ha, rfl, rfl⟩
    · exact ⟨_, ha, rfl, rfl⟩

/--
**The names in flight are exactly those of the guarded calls that are under way.** At every moment of
every run, a name is in flight on a target if and only if a guarded call of it has begun while the
target was the current one, on whatever session, was not bypassed itself, and has not ended; or
something other than a call has marked the name, and holds the mark. So a guarded call leaves the names
in flight on every target as it found them, however it ends; it goes past the provider if its name is
that of such a call on the same target, and is resolved like any call otherwise, with its name marked.
-/
theorem in_flight_iff_guarded {l : List Activity} {w : World} (h : Moment l w) :
    (∀ t name, w.isInFlight t name = true ↔
      (∃ s, .guarded s t name ∈ l) ∨ .marked t name ∈ l) ∧
    (∀ (fuel : Nat) (s : SessionId) (name : String) (args : List Value) (block : Option Task) t key,
      ((s.guardedApply (runner fuel) name args block).run w).2.isInFlight t key =
        w.isInFlight t key) ∧
    ∀ (fuel : Nat) (s : SessionId) (name : String) (args : List Value) (block : Option Task) t w',
      (s.receiver name).run w = (.ok t, w') →
        ((∃ s', .guarded s' t name ∈ l) ∨ .marked t name ∈ l →
          (s.guardedApply (runner fuel) name args block).run w =
            (s.resolveDirect (runner fuel)
              (fun translated => s.apply (runner fuel) translated args block) t name args block).run
              ((w'.write (.event (.alreadyInFlight name))).write (.event (.bypassing name)))) ∧
        (¬ ((∃ s', .guarded s' t name ∈ l) ∨ .marked t name ∈ l) →
          ∃ m, (w'.target t).metadata.launch? name = some m ∧
            (s.guardedApply (runner fuel) name args block).run w =
              match (s.apply (runner fuel) name args block).run (w'.updateMetadata t fun _ => m) with
              | (r, w'') => (r, w''.land t name)) := by
  have marks : ∀ t name, w.isInFlight t name = true ↔
      (∃ s, .guarded s t name ∈ l) ∨ .marked t name ∈ l :=
    fun t name => (h.isInFlight_iff t name).trans (exists_marks_iff l t name)
  refine ⟨marks, ?_, ?_⟩
  · intro fuel s name args block
    exact Script.keeps_orderly World.MarksKept.regime (Orderly.guardedApply s name args block) w
  · intro fuel s name args block t w' hrec
    have asked := World.MarksKept.guarantee.quiet ((Action.calm_receiver s name).of_run hrec) t name
    refine ⟨fun under => ?_, fun free => ?_⟩
    · exact SessionId.run_guardedApply_again hrec (asked.trans ((marks t name).mpr under)) args block
    · cases hm : (w'.target t).metadata.launch? name with
      | some m => exact ⟨m, rfl, SessionId.run_guardedApply_fresh hrec hm args block⟩
      | none =>
        have flying : w'.isInFlight t name = true := (Metadata.launch?_eq_none_iff _ name).mp hm
        exact absurd ((marks t name).mp (asked.symm.trans flying)) free

/-! ## A guarded call in a block of the sample session -/

/-- The world inside a guarded call on the spacer. -/
def inGuardedCall : World := inSpacer.updateMetadata ⟨0⟩ fun _ => ⟨.empty, ["gap"]⟩

theorem moment_inGuardedCall :
    Moment (.guarded ⟨0⟩ ⟨0⟩ "gap" :: spacerActivities none) inGuardedCall := by
  have received : (SessionId.receiver ⟨0⟩ "gap").run inSpacer = (.ok ⟨0⟩, inSpacer) := rfl
  exact .guarded moment_inSpacer received (by decide) rfl

theorem in_flight_iff_guarded_gap :
    Moment (.guarded ⟨0⟩ ⟨0⟩ "gap" :: spacerActivities none) inGuardedCall ∧
      inGuardedCall.isInFlight ⟨0⟩ "gap" = true ∧ inGuardedCall.isInFlight ⟨0⟩ "width" ≠ true ∧
        ((SessionId.guardedApply (runner 2) ⟨0⟩ "gap" [] none).run inGuardedCall).2.isInFlight
          ⟨0⟩ "gap" = true := by
  obtain ⟨marks, kept, -⟩ := in_flight_iff_guarded moment_inGuardedCall
  have flying := (marks ⟨0⟩ "gap").mpr (Or.inl ⟨⟨0⟩, List.mem_cons_self⟩)
  refine ⟨moment_inGuardedCall, flying, ?_, (kept 2 ⟨0⟩ "gap" [] none ⟨0⟩ "gap").trans flying⟩
  rw [ne_eq, marks]
  simp [spacerActivities]

end TargetBuilder
