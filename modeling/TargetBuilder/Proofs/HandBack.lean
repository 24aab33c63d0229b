import TargetBuilder.Proofs.LongForm
import TargetBuilder.Proofs.Unserved

/-!
# Operations that hand their names back

An operation of a provider may do nothing but hand its own name and its arguments back in a guarded call.
That call may come to the provider again: under the long form that the arguments fold to, or, once the
name is in flight, under its translation. It comes to an end all the same, and to one selector at most.

Three things are used up on the way. A guarded call of an operation that is not in flight puts it in
flight; a translated name has no translation; and what is folded leaves a mapping less to fold. The first
two alone would not do, since a long form may be in flight already and word-separated once more. Nor
would the last alone, since most calls fold nothing.

* `World.HandsOn`, `World.SendsAtMostOnce`: what happens apart from sending, and around it.
* `World.EndsWithin`: a call that ends within a bound, having sent one selector at most.
* `World.endsWithin_resolveOnce`, `World.endsWithin_guardedApply`: one step of either kind of call.
* `handed_back_calls_end`: a bound for all calls of such a provider.
-/

namespace TargetBuilder

open Script (runner)

/-! ## Providers that hand everything back -/

/-- Hands a name back, with all the arguments that were received. -/
def handBack (name : String) : Statement := .mk (.guarded name .received .absent) none false

/-- Each operation of the provider only hands its own name back. -/
def Provider.HandsBack (p : Provider) : Prop :=
  ∀ name body, p.operations.get? name = some body → body = [handBack name]

/-! ## What happens between sending -/

/-- Whether a line of the log is one that sending a selector leaves. -/
def Entry.tellsSending : Entry → Bool
  | .sent _ _ _ => true
  | .event (.invoking _ _ _) => true
  | _ => false

namespace World

/--
Nothing was sent: all that happened is that names were marked or had their marks taken off, that blocks
were kept, and that lines were written, none of which tells of sending.
-/
structure HandsOn (a b : World) : Prop where
  others : ∃ targets blocks log, b = { a with targets, blocks, log }
  size : b.targets.size = a.targets.size
  marks : ∀ t, ∃ inFlight,
    b.target t = { a.target t with metadata := { (a.target t).metadata with inFlight } }
  told : ∃ lines, b.log.toList = a.log.toList ++ lines ∧ ∀ e ∈ lines, e.tellsSending = false

namespace HandsOn

variable {a b c : World}

theorem refl (a : World) : a.HandsOn a where
  others := ⟨_, _, _, rfl⟩
  size := rfl
  marks _ := ⟨_, rfl⟩
  told := ⟨[], by simp⟩

theorem trans (h : a.HandsOn b) (k : b.HandsOn c) : a.HandsOn c where
  others := by
    obtain ⟨_, _, _, rfl⟩ := h.others
    obtain ⟨_, _, _, rfl⟩ := k.others
    exact ⟨_, _, _, rfl⟩
  size := k.size.trans h.size
  marks t := by
    obtain ⟨_, before⟩ := h.marks t
    obtain ⟨inFlight, after⟩ := k.marks t
    rw [before] at after
    exact ⟨inFlight, after⟩
  told := by
    obtain ⟨before, hbefore, quiet⟩ := h.told
    obtain ⟨after, hafter, quiet'⟩ := k.told
    refine ⟨before ++ after, by rw [hafter, hbefore, List.append_assoc], fun e he => ?_⟩
    rcases List.mem_append.mp he with he | he
    · exact quiet e he
    · exact quiet' e he

theorem write (w : World) {e : Entry} (h : e.tellsSending = false) : w.HandsOn (w.write e) where
  others := ⟨_, _, _, rfl⟩
  size := rfl
  marks _ := ⟨_, rfl⟩
  told := ⟨[e], by simp [World.write], by simpa using h⟩

theorem addBlock (w : World) (block : Option Task) : w.HandsOn (w.addBlock block).2 where
  others := ⟨_, _, _, rfl⟩
  size := rfl
  marks _ := ⟨_, rfl⟩
  told := ⟨[], by simp [World.addBlock]⟩

/-- Changing the marks of a target, and nothing else of its metadata. -/
theorem remark (w : World) (t : TargetId) {f : Metadata → Metadata}
    (h : ∃ inFlight, f (w.target t).metadata = { (w.target t).metadata with inFlight }) :
    w.HandsOn (w.updateMetadata t f) where
  others := ⟨_, _, _, rfl⟩
  size := w.targets.size_update _ _
  marks u := by
    obtain ⟨inFlight, marked⟩ := h
    unfold updateMetadata
    rw [target_updateTarget]
    split
    · next here => exact ⟨inFlight, by rw [marked, here.1]⟩
    · exact ⟨_, rfl⟩
  told := ⟨[], by simp [updateMetadata, updateTarget]⟩

theorem launched {w : World} {t : TargetId} {name : String} {m : Metadata}
    (h : (w.target t).metadata.launch? name = some m) : w.HandsOn (w.updateMetadata t fun _ => m) := by
  apply remark
  unfold Metadata.launch? at h
  split at h
  · cases h
  · cases h
    exact ⟨_, rfl⟩

theorem landed (w : World) (t : TargetId) (name : String) : w.HandsOn (w.land t name) :=
  remark w t ⟨_, rfl⟩

theorem type_target (h : a.HandsOn b) (t : TargetId) : (b.target t).type = (a.target t).type := by
  obtain ⟨inFlight, marked⟩ := h.marks t
  rw [marked]

end HandsOn

/-- A call from `w` that ended in `x` sent one selector to the target at most, and ended as that ended. -/
inductive SendsAtMostOnce (t : TargetId) (w : World) : Except Stop Value × World → Prop
  /-- The name was empty. -/
  | refused {x : World} : w.HandsOn x →
      SendsAtMostOnce t w (.error (.fault (.apply "" (w.target t).type.name)), x)
  | sent {a b x : World} {selector : String} {args : List Value} {r : Except Stop Value} :
      w.HandsOn a → (World.send t selector args).run a = (r, b) → b.HandsOn x →
      SendsAtMostOnce t w (r, x)

namespace SendsAtMostOnce

variable {t : TargetId} {a w x y : World} {r : Except Stop Value}

theorem before (h : a.HandsOn w) {z : Except Stop Value × World} (k : w.SendsAtMostOnce t z) :
    a.SendsAtMostOnce t z := by
  cases k with
  | refused hx =>
    rw [h.type_target t]
    exact .refused (h.trans hx)
  | sent ha hs hx => exact .sent (h.trans ha) hs hx

theorem after (h : w.SendsAtMostOnce t (r, x)) (k : x.HandsOn y) : w.SendsAtMostOnce t (r, y) := by
  cases h with
  | refused hx => exact .refused (hx.trans k)
  | sent ha hs hx => exact .sent ha hs (hx.trans k)

/-- Such a call ended by itself. -/
theorem ended {z : Except Stop Value × World} (h : w.SendsAtMostOnce t z) :
    z.1 ≠ .error .outOfFuel := by
  cases h with
  | refused => simp
  | @sent a b x selector args r _ hs _ =>
    obtain ⟨_, -, -, sent⟩ := Action.run_send t selector args a
    rw [hs] at sent
    obtain ⟨rfl, -⟩ := Prod.mk.inj sent
    cases ((a.target t).send a.named selector args).1 <;> simp [Reply.result]

end SendsAtMostOnce

/--
A call from `w`, given what it comes to for each bound on the nesting of what runs, *ends within* `n`: from
that bound on it comes to the same, and to one selector that is sent at most.
-/
def EndsWithin (t : TargetId) (n : Nat) (w : World) (call : Nat → Except Stop Value × World) : Prop :=
  ∃ x, w.SendsAtMostOnce t x ∧ ∀ fuel, n ≤ fuel → call fuel = x

namespace EndsWithin

variable {t : TargetId} {n : Nat} {a w : World} {call call' : Nat → Except Stop Value × World}

/-- A call that goes on as another one does, which is made in a later world, perhaps deeper inside. -/
theorem onward (depth : Nat) {f : Except Stop Value × World → Except Stop Value × World}
    (h : a.EndsWithin t n call) (hcall : ∀ fuel, n ≤ fuel → call' (fuel + depth) = f (call fuel))
    (hf : ∀ x, a.SendsAtMostOnce t x → w.SendsAtMostOnce t (f x)) :
    w.EndsWithin t (n + depth) call' := by
  obtain ⟨x, sends, ends⟩ := h
  refine ⟨f x, hf x sends, fun fuel hfuel => ?_⟩
  obtain ⟨rest, rfl⟩ := Nat.exists_eq_add_of_le' (Nat.le_trans (Nat.le_add_left depth n) hfuel)
  have enough : n ≤ rest := Nat.le_of_add_le_add_right hfuel
  rw [hcall rest enough, ends rest enough]

/-- A call that is another one, after something that sends nothing. -/
theorem after (h : a.HandsOn w) (k : w.EndsWithin t n call)
    (same : ∀ fuel, n ≤ fuel → call' fuel = call fuel) : a.EndsWithin t n call' :=
  k.onward 0 (f := id) same fun _ sends => sends.before h

end EndsWithin

/-! ## The context of a provider -/

/-- A session of the hierarchy of a root session, with the default convention. -/
structure Attached (w : World) (root s : SessionId) : Prop where
  root : w.rootOf? s = some root
  naming : (w.session s).config.naming = .camelCased

/--
A provider that hands everything back is bound in the current context of a root session, whose target is
there, and it runs on a session of the same hierarchy.
-/
structure Serves (w : World) (p : ProviderId) (root : SessionId) (t : TargetId) : Prop where
  current : (w.session root).frame.target = some t
  bound : (w.session root).frame.provider = some p
  there : t.index < w.targets.size
  own : w.Attached root (w.provider p).session
  handsBack : (w.provider p).HandsBack

section

variable {w a b : World} {p : ProviderId} {root s : SessionId} {t : TargetId}

theorem HandsOn.attached (h : a.HandsOn b) (k : a.Attached root s) : b.Attached root s := by
  obtain ⟨_, _, _, rfl⟩ := h.others
  exact ⟨k.root, k.naming⟩

theorem HandsOn.serves (h : a.HandsOn b) (k : a.Serves p root t) : b.Serves p root t := by
  have own := h.attached k.own
  have there : t.index < b.targets.size := Nat.lt_of_lt_of_eq k.there h.size.symm
  obtain ⟨_, _, _, rfl⟩ := h.others
  exact ⟨k.current, k.bound, there, own, k.handsBack⟩

/-- In the context of a provider all calls are received by the same target, and nothing happens before. -/
theorem Serves.receiver (h : w.Serves p root t) (hs : w.Attached root s) (name : String) :
    (s.receiver name).run w = (.ok t, w) := by
  unfold SessionId.receiver
  rw [Action.run_bind, Action.run_read]
  dsimp only
  rw [hs.root]
  dsimp only
  rw [Action.run_bind, SessionId.run_enclosing, h.current]
  rfl

theorem Serves.providerOf? (h : w.Serves p root t) (hs : w.Attached root s) :
    w.providerOf? s = some p := by
  unfold World.providerOf?
  rw [hs.root, Option.bind_some, h.bound]

end

end World

/-! ## What is used up -/

namespace Value

mutual

/--
How often calls can be folded, one after the other, that have this as their second argument: a mapping
leaves its first value in that place.
-/
def nesting : Value → Nat
  | map ⟨entries⟩ => nestingOfFirst entries
  | _ => 0

/-- The same for the entries of a mapping. -/
def nestingOfFirst : List (String × Value) → Nat
  | [] => 0
  | (_, v) :: _ => v.nesting + 1

end

end Value

/-- How often a call with these arguments can be folded. -/
def foldsLeft : List Value → Nat
  | [_, second] => second.nesting
  | _ => 0

/-- **A call that was folded can be folded less often.** -/
theorem foldsLeft_lt_of_fold {naming : Naming} {name : String} {args : List Value} {long : LongForm}
    (h : LongForm.fold naming name args = some long) : foldsLeft long.args < foldsLeft args := by
  obtain ⟨first, keywords, rfl, filled, rfl⟩ := LongForm.fold_eq_some_iff.mp h
  -- only a mapping with a single entry leaves two arguments again
  rcases keywords with ⟨_ | ⟨⟨key, v⟩, _ | ⟨e, rest⟩⟩⟩
  · cases filled
  · simp [foldsLeft, OrderedMap.values, Value.nesting, Value.nestingOfFirst]
  · simp [foldsLeft, OrderedMap.values, Value.nesting, Value.nestingOfFirst]

theorem OrderedMap.mem_keys_of_contains {α κ : Type} [DecidableEq κ] {m : OrderedMap κ α} {key : κ}
    (h : m.contains key = true) : key ∈ m.keys := by
  obtain ⟨entries⟩ := m
  induction entries with
  | nil => cases h
  | cons e rest ih =>
    obtain ⟨k, v⟩ := e
    by_cases hk : k = key
    · simp [keys, hk]
    · have later : contains (⟨rest⟩ : OrderedMap κ α) key = true := by
        simpa [contains, get?, find, hk] using h
      exact List.mem_cons_of_mem k (ih later)

namespace World

/-- The operations of a provider that are not in flight on a target. -/
def untried (w : World) (p : ProviderId) (t : TargetId) : List String :=
  (w.provider p).operations.keys.filter fun name => !w.isInFlight t name

/-- What a call needs: two steps for all that is left to try and to fold, and one for a translation. -/
def need (w : World) (p : ProviderId) (t : TargetId) (name : String) (args : List Value) : Nat :=
  2 * ((w.untried p t).length + foldsLeft args) + (Naming.camelCased.isWordSeparated name).toNat

variable {w : World} {p : ProviderId} {t : TargetId} {name : String} {args : List Value}

theorem need_le (w : World) (p : ProviderId) (t : TargetId) (name : String) (args : List Value) :
    w.need p t name args ≤ 2 * ((w.provider p).operations.size + foldsLeft args) + 1 := by
  have fewer : (w.untried p t).length ≤ (w.provider p).operations.keys.length :=
    List.length_filter_le _ _
  have keys : (w.provider p).operations.keys.length = (w.provider p).operations.size := by
    simp [OrderedMap.keys, OrderedMap.size]
  have mark := Bool.toNat_le (Naming.camelCased.isWordSeparated name)
  unfold need
  omega

/-- Under the translation a call needs less. -/
theorem need_translated {native : String} (h : Naming.camelCased.translation? name = some native) :
    w.need p t native args + 1 = w.need p t name args := by
  obtain ⟨-, separated, final⟩ := Naming.of_translation?_camelCased h
  unfold need
  rw [separated, final]
  rfl

/-- Once it is folded a call needs less, though its long form may be word-separated. -/
theorem need_folded {long : String} {args' : List Value} (h : foldsLeft args' < foldsLeft args) :
    w.need p t long args' < w.need p t name args := by
  have mark := Bool.toNat_le (Naming.camelCased.isWordSeparated long)
  unfold need
  omega

/-- What is marked is tried. -/
theorem untried_launched {m : Metadata} (there : t.index < w.targets.size)
    (h : (w.target t).metadata.launch? name = some m) :
    (w.updateMetadata t fun _ => m).untried p t = (w.untried p t).filter (· ≠ name) := by
  unfold untried
  rw [List.filter_filter]
  refine List.filter_congr fun key _ => ?_
  rw [isInFlight_launched h]
  cases w.isInFlight t key <;> by_cases hk : key = name <;> simp [hk, there]

/-- With a name marked a call does not need more, and it needs less if the name is an operation's. -/
theorem need_launched (p : ProviderId) (args : List Value) {m : Metadata}
    (there : t.index < w.targets.size)
    (h : (w.target t).metadata.launch? name = some m) :
    (w.updateMetadata t fun _ => m).need p t name args ≤ w.need p t name args ∧
      ((w.provider p).offers name = true →
        (w.updateMetadata t fun _ => m).need p t name args + 2 ≤ w.need p t name args) := by
  unfold need
  rw [untried_launched there h]
  constructor
  · have fewer := List.length_filter_le (· ≠ name) (w.untried p t)
    omega
  · intro offered
    have fresh : w.isInFlight t name = false := by
      cases flying : w.isInFlight t name with
      | false => rfl
      | true =>
        rw [(Metadata.launch?_eq_none_iff _ name).mpr flying] at h
        cases h
    have tried : name ∈ w.untried p t := by
      simp [untried, fresh, OrderedMap.mem_keys_of_contains offered]
    have fewer : ((w.untried p t).filter (· ≠ name)).length < (w.untried p t).length :=
      List.length_filter_lt_length_iff_exists.mpr ⟨name, tried, by simp⟩
    omega

end World

/-! ## A call of an operation that hands back -/

/-- What a call comes to when it is noted how it ended. -/
def concluded (word : String) : Except Stop Value × World → Except Stop Value × World
  | (.ok v, w) => (.ok v, w.write (.finished word (.ok v)))
  | (.error (.fault f), w) => (.error (.fault f), w.write (.finished word (.error f)))
  | (.error e, w) => (.error e, w)

theorem Script.run_conclude {st : Statement} (h : st.attempt = false) (x : Action World Value)
    (w : World) : (Script.conclude st x).run w = concluded st.verb.word (x.run w) := by
  unfold Script.conclude
  rw [Action.run_bind, Action.run_capture]
  cases x.run w with
  | mk r w' =>
    rcases r with (f | _ | _) | v
    · dsimp only
      rw [h]
      rfl
    · rfl
    · rfl
    · rfl

theorem World.SendsAtMostOnce.concluded {t : TargetId} {w : World} {x : Except Stop Value × World}
    (h : w.SendsAtMostOnce t x) (word : String) : w.SendsAtMostOnce t (concluded word x) := by
  obtain ⟨(f | _ | _) | v, w'⟩ := x
  · exact h.after (.write w' rfl)
  · exact h
  · exact h
  · exact h.after (.write w' rfl)

/-- The world in which an operation of a provider begins that was called without a block. -/
def World.operating (w : World) (name : String) (args : List Value) : World :=
  (((w.write (.event (.providerInvoked name args.length))).write
    (.operationRunning name args false)).addBlock none).2

theorem World.handsOn_operating (w : World) (name : String) (args : List Value) :
    w.HandsOn (w.operating name args) :=
  ((HandsOn.write w rfl).trans (.write _ rfl)).trans (.addBlock _ none)

/-- An operation that hands back is a guarded call, one step deeper, whose end is noted. -/
theorem run_invoke_handBack {w : World} {p : ProviderId} {name : String}
    (handsBack : (w.provider p).HandsBack) (offered : (w.provider p).offers name = true) (fuel : Nat)
    (args : List Value) :
    (Capability.invoke (runner (fuel + 1)) p name args none).run w =
      concluded "guarded" (((w.provider p).session.guardedApply (runner fuel) name args none).run
        (w.operating name args)) := by
  obtain ⟨body, found⟩ := Option.isSome_iff_exists.mp offered
  have whole := handsBack name body found
  subst whole
  unfold Capability.invoke
  rw [Action.run_bind, Action.run_read]
  dsimp only
  rw [found]
  show (Script.conclude (handBack name)
      ((w.provider p).session.guardedApply (runner fuel) name args none) >>= pure).run
    (w.operating name args) = _
  rw [bind_pure, Script.run_conclude rfl]
  rfl

/-! ## One step of a call -/

/-- What a provider answers a call with is an operation that it offers, under the name or folded. -/
theorem ProviderCall.choose_cases {p : ProviderId} {provider : Provider} {naming : Naming}
    {name : String} {args : List Value} {call : ProviderCall}
    (h : choose p provider (LongForm.fold naming name args) name args = some call) :
    call.provider = p ∧ provider.offers call.name = true ∧
      (call.name = name ∧ call.args = args ∨ foldsLeft call.args < foldsLeft args) := by
  unfold choose at h
  split at h
  · next long found =>
    obtain ⟨folded, offered⟩ := Option.filter_eq_some_iff.mp found
    cases h
    exact ⟨rfl, offered, Or.inr (foldsLeft_lt_of_fold folded)⟩
  · split at h
    · next offered =>
      cases h
      exact ⟨rfl, offered, Or.inl ⟨rfl, rfl⟩⟩
    · cases h

theorem ProviderCall.tellsSending_event (call : ProviderCall) :
    (Entry.event call.event).tellsSending = false := by
  unfold event
  split <;> rfl

/-- A call without a block sends one selector past the provider, or goes on under the translation. -/
theorem SessionId.sendPlain_cases (s : SessionId) (t : TargetId) (name : String) (args : List Value)
    (w : World) :
    (∃ e selector args', Entry.tellsSending (.event e) = false ∧ ∀ again,
      (s.sendPlain again t name args).run w = (World.send t selector args').run (w.write (.event e))) ∨
    ∃ native, (w.session s).config.naming.translation? name = some native ∧ ∀ again,
      (s.sendPlain again t name args).run w =
        (again native).run (w.write (.event (.retrying name native))) := by
  unfold SessionId.sendPlain
  simp only [Action.run_bind, Action.run_read, run_naming]
  cases Spelling.choose (w.target t) (Spelling.plain (w.session s).config.naming name args) with
  | some spelling =>
    exact Or.inl ⟨.resolved spelling.convention spelling.selector, _, _, rfl, fun _ => rfl⟩
  | none =>
    cases (w.target t).appliesDeferred with
    | true =>
      exact Or.inl ⟨.resolved .unexposedSetter _, _, _, rfl, fun _ => rfl⟩
    | false =>
      simp only [Bool.false_eq_true, if_false, Action.run_bind, run_retranslation]
      cases (w.session s).config.naming.translation? name with
      | some native => exact Or.inr ⟨native, rfl, fun _ => rfl⟩
      | none => exact Or.inl ⟨.unmatched _ t, _, _, rfl, fun _ => rfl⟩

namespace World

variable {w : World} {p : ProviderId} {root s : SessionId} {t : TargetId} {name : String}
  {args : List Value} {n : Nat}

/-- Past the provider, a call ends if it does under the translation. -/
theorem endsWithin_sendPlain (again : Nat → String → Action World Value)
    (h : ∀ native, (w.session s).config.naming.translation? name = some native →
      (w.write (.event (.retrying name native))).EndsWithin t n fun fuel =>
        (again fuel native).run (w.write (.event (.retrying name native)))) :
    w.EndsWithin t n fun fuel => (s.sendPlain (again fuel) t name args).run w := by
  rcases s.sendPlain_cases t name args w with ⟨e, selector, args', quiet, sends⟩ | ⟨native, other, tries⟩
  · exact ⟨_, .sent (.write w quiet) rfl (.refl _), fun fuel _ => sends (again fuel)⟩
  · exact (h native other).after (.write w rfl) fun fuel _ => tries (again fuel)

/-- Guarded calls of operations end within `n` if that is two more than they need. -/
def GuardedCallsEnd (p : ProviderId) (root : SessionId) (t : TargetId) (n : Nat) : Prop :=
  ∀ {w : World} {s : SessionId} {name : String} {args : List Value}, w.Serves p root t →
    w.Attached root s → (w.provider p).offers name = true → w.need p t name args + 2 ≤ n →
      w.EndsWithin t n fun fuel => (s.guardedApply (runner fuel) name args none).run w

/-- Calls that are not guarded end within `n` if that is three more than they need. -/
def CallsEnd (p : ProviderId) (root : SessionId) (t : TargetId) (n : Nat) : Prop :=
  ∀ {w : World} {s : SessionId} {name : String} {args : List Value}, w.Serves p root t →
    w.Attached root s → w.need p t name args + 3 ≤ n →
      w.EndsWithin t n fun fuel => (s.apply (runner fuel) name args none).run w

theorem endsWithin_invoke (guarded : GuardedCallsEnd p root t n) (serves : w.Serves p root t)
    (offered : (w.provider p).offers name = true) (bound : w.need p t name args + 2 ≤ n) :
    w.EndsWithin t (n + 1) fun fuel => (Capability.invoke (runner fuel) p name args none).run w := by
  have begun := w.handsOn_operating name args
  have inside := guarded (begun.serves serves) (begun.attached serves.own) offered bound
  refine inside.onward 1 (f := concluded "guarded") (fun fuel _ => ?_) fun x sends => ?_
  · exact run_invoke_handBack serves.handsBack offered fuel args
  · exact (sends.before begun).concluded "guarded"

/-- **One round of a call**: what the provider serves is a guarded call, one step deeper. -/
theorem endsWithin_resolveOnce (again : Nat → String → Action World Value)
    (guarded : GuardedCallsEnd p root t n) (serves : w.Serves p root t) (attached : w.Attached root s)
    (bound : w.need p t name args + 2 ≤ n)
    (h : ∀ native, Naming.camelCased.translation? name = some native →
      (w.write (.event (.retrying name native))).EndsWithin t (n + 1) fun fuel =>
        (again fuel native).run (w.write (.event (.retrying name native)))) :
    w.EndsWithin t (n + 1) fun fuel =>
      (s.resolveOnce (runner fuel) (again fuel) name args none).run w := by
  have received := serves.receiver attached name
  by_cases named : name = ""
  · subst named
    have current := SessionId.target_of_receiver received
    exact ⟨_, .refused (.refl w), fun fuel _ => SessionId.run_resolveOnce_nameless _ none current⟩
  have goes := fun fuel =>
    SessionId.run_resolveOnce_of_receiver (R := runner fuel) (again fuel) args none named received
  rw [serves.providerOf? attached, attached.naming] at goes
  simp only [Option.bind_some] at goes
  cases called : ProviderCall.choose p (w.provider p) (LongForm.fold .camelCased name args) name args with
  | none =>
    rw [called] at goes
    rw [← attached.naming] at h
    exact (endsWithin_sendPlain again h).after (.refl w) fun fuel _ => goes fuel
  | some call =>
    rw [called] at goes
    obtain ⟨rfl, offered, cost⟩ := ProviderCall.choose_cases called
    have left : w.need call.provider t call.name call.args + 2 ≤ n := by
      rcases cost with ⟨rfl, rfl⟩ | less
      · exact bound
      · have folded : w.need call.provider t call.name call.args < w.need call.provider t name args :=
          need_folded less
        omega
    have told : w.HandsOn (w.write (.event call.event)) := .write w call.tellsSending_event
    exact (endsWithin_invoke guarded (told.serves serves) offered left).after told fun fuel _ => goes fuel

/-- **A call goes through two rounds at most**: the name that it is translated to has no translation. -/
theorem endsWithin_apply (guarded : GuardedCallsEnd p root t n) : CallsEnd p root t (n + 1) := by
  intro w s name args serves attached bound
  have later : ∀ native, Naming.camelCased.translation? name = some native →
      (w.write (.event (.retrying name native))).EndsWithin t (n + 1) fun fuel =>
        (s.applyWithin (runner fuel) args none (fuel - 2 + 1) native).run
          (w.write (.event (.retrying name native))) := by
    intro native other
    have told : w.HandsOn (w.write (.event (.retrying name native))) := .write w rfl
    have translated : w.need p t native args + 1 = w.need p t name args := need_translated other
    have left : w.need p t native args + 2 ≤ n := by omega
    refine endsWithin_resolveOnce _ guarded (told.serves serves) (told.attached attached) left ?_
    intro further another
    rw [Naming.translation?_eq_none (Naming.of_translation?_camelCased other).2.2] at another
    cases another
  have round := endsWithin_resolveOnce (fun fuel => s.applyWithin (runner fuel) args none (fuel - 2 + 1))
    guarded serves attached (Nat.le_of_succ_le_succ bound) later
  refine round.after (.refl w) fun fuel enough => ?_
  obtain ⟨tries, rfl⟩ : ∃ tries, fuel = tries + 2 := ⟨fuel - 2, by omega⟩
  rfl

/-- **A guarded call** is a call with one operation more in flight, or it goes past the provider. -/
theorem endsWithin_guardedApply (calls : CallsEnd p root t n) (serves : w.Serves p root t)
    (attached : w.Attached root s)
    (bound : w.need p t name args + 3 ≤ n ∨
      (w.provider p).offers name = true ∧ w.need p t name args + 2 ≤ n) :
    w.EndsWithin t n fun fuel => (s.guardedApply (runner fuel) name args none).run w := by
  have received := serves.receiver attached name
  cases hm : (w.target t).metadata.launch? name with
  | some m =>
    have marked := HandsOn.launched hm
    obtain ⟨same, less⟩ := need_launched p args serves.there hm
    have left : (w.updateMetadata t fun _ => m).need p t name args + 3 ≤ n := by
      rcases bound with enough | ⟨offered, enough⟩
      · omega
      · have fewer := less offered
        omega
    refine (calls (marked.serves serves) (marked.attached attached) left).onward 0
      (f := fun x => (x.1, x.2.land t name)) (fun fuel _ => ?_) fun x sends => ?_
    · exact SessionId.run_guardedApply_fresh received hm args none
    · exact (sends.before marked).after (.landed _ t name)
  | none =>
    have flying : w.isInFlight t name = true := (Metadata.launch?_eq_none_iff _ name).mp hm
    let past := (w.write (.event (.alreadyInFlight name))).write (.event (.bypassing name))
    have told : w.HandsOn past := (HandsOn.write w rfl).trans (.write _ rfl)
    have direct : past.EndsWithin t n fun fuel => (s.sendPlain
        (fun native => s.apply (runner fuel) native args none) t name args).run past := by
      refine endsWithin_sendPlain (fun fuel native => s.apply (runner fuel) native args none)
        fun native other => ?_
      rw [show (past.session s).config.naming = .camelCased from attached.naming] at other
      have retried := told.trans (.write past (e := .event (.retrying name native)) rfl)
      -- nothing is put in flight here, but a translation is used up
      have translated : w.need p t native args + 1 = w.need p t name args := need_translated other
      have left : w.need p t native args + 3 ≤ n := by omega
      exact calls (retried.serves serves) (retried.attached attached) left
    exact direct.after told fun fuel _ => SessionId.run_guardedApply_again received flying args none

/-- Guarded calls of operations end within any bound that they do not need more than. -/
theorem guardedCallsEnd (p : ProviderId) (root : SessionId) (t : TargetId) (n : Nat) :
    GuardedCallsEnd p root t n := by
  induction n with
  | zero =>
    intro w s name args serves attached offered bound
    omega
  | succ n ih =>
    intro w s name args serves attached offered bound
    exact endsWithin_guardedApply (endsWithin_apply ih) serves attached (Or.inr ⟨offered, bound⟩)

end World

/--
**With a provider that only hands its operations back, all calls without a block end.** The operations
may have any names, word-separated ones with their translations and long forms among them; the target may
expose anything, have any names in flight and end in any way; and the arguments may hold mappings to any
depth. There is a bound on the nesting from which on a call, guarded or not, always comes to the same: one
selector at most was sent to the target, the call ended as that ended, and nothing else happened but that
marks were set and taken off, blocks were kept and lines were written. The provider is one that is bound
in its own hierarchy, under the default convention; two steps for each operation and each mapping to fold
and four more are enough.
-/
theorem handed_back_calls_end {w : World} {p : ProviderId} {root s : SessionId} {t : TargetId}
    (serves : w.Serves p root t) (attached : w.Attached root s) (name : String) (args : List Value) :
    let bound := 2 * ((w.provider p).operations.size + foldsLeft args) + 4
    let ends (call : Runner → Action World Value) : Prop :=
      ∃ answer, answer.1 ≠ .error .outOfFuel ∧ w.SendsAtMostOnce t answer ∧
        ∀ fuel, bound ≤ fuel → (call (runner fuel)).run w = answer
    ends (s.apply · name args none) ∧ ends (s.guardedApply · name args none) := by
  intro bound ends
  obtain ⟨n, enough⟩ : ∃ n, bound = n + 1 := ⟨_, rfl⟩
  have calls : World.CallsEnd p root t bound := by
    rw [enough]
    exact World.endsWithin_apply (World.guardedCallsEnd p root t n)
  have left : w.need p t name args + 3 ≤ bound := Nat.add_le_add_right (w.need_le p t name args) 3
  obtain ⟨answer, sends, same⟩ := calls serves attached left
  obtain ⟨answer', sends', same'⟩ := World.endsWithin_guardedApply calls serves attached (Or.inl left)
  exact ⟨⟨answer, sends.ended, sends, same⟩, answer', sends'.ended, sends', same'⟩

/-! ## A provider that hands a name and its translation back -/

/-- Operations that hand back, with the given names. -/
def handingBackOf (names : List String) : OrderedMap String (List Statement) :=
  .ofList (names.map fun name => (name, [handBack name]))

theorem handsBack_handingBackOf (session : SessionId) (names : List String) :
    (⟨session, handingBackOf names⟩ : Provider).HandsBack := by
  suffices ∀ m : OrderedMap String (List Statement),
      (⟨session, m⟩ : Provider).HandsBack →
        (⟨session, m.insertAll (names.map fun name => (name, [handBack name]))⟩ : Provider).HandsBack by
    exact this .empty fun name body h => by cases h
  induction names with
  | nil => exact fun m h => h
  | cons first rest ih =>
    intro m h
    refine ih (m.insert first [handBack first]) fun name body found => ?_
    dsimp only at found
    rw [OrderedMap.get?_insert] at found
    split at found
    · next same =>
      cases found
      rw [same]
    · exact h name body found

/-- The world in a block of the spacer, which such a provider serves. -/
def inHandingBackTwice : World :=
  let names := ["corner_radius", "cornerRadius", "cornerRadius:at:"]
  spacerBlock ((openServed ⟨"Spacer", handingBackOf names, []⟩).run (.empty .empty)).2

theorem handed_back_calls_end_corner_radius :
    let w := inHandingBackTwice
    let args : List Value := [.int 4, .map (.ofList [("at", .map (.ofList [("at", .nil)]))])]
    w.Serves ⟨0⟩ ⟨0⟩ ⟨0⟩ ∧ w.Attached ⟨0⟩ ⟨0⟩ ∧
      ∃ answer, w.SendsAtMostOnce ⟨0⟩ answer ∧ ∀ fuel, 14 ≤ fuel →
        (SessionId.apply (runner fuel) ⟨0⟩ "corner_radius" args none).run w = answer := by
  intro w args
  have attached : w.Attached ⟨0⟩ ⟨0⟩ := ⟨by decide +kernel, rfl⟩
  have serves : w.Serves ⟨0⟩ ⟨0⟩ ⟨0⟩ := {
    current := by decide +kernel
    bound := by decide +kernel
    there := by decide +kernel
    own := ⟨by decide +kernel, rfl⟩
    handsBack := handsBack_handingBackOf _ _ }
  obtain ⟨⟨answer, -, sends, same⟩, -⟩ := handed_back_calls_end serves attached "corner_radius" args
  exact ⟨serves, attached, answer, sends, same⟩

end TargetBuilder
