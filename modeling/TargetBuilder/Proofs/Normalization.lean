import Mathlib.Algebra.Group.Int.Defs
import Mathlib.Data.List.Forall2
import Mathlib.Data.List.Lex
import TargetBuilder.Proofs.Widening
import TargetBuilder.Value.Conversion

/-!
# Converting out and back

Reading a value by a conversion and writing the result again brings the value into a normal form. What can
be read is told by shapes alone, and a refusal is about the first place, from left to right, that does
not have its shape. The normal form is the value itself, but for its floating-point numbers: integers
become such numbers, and those of the smaller format are rounded.

* `Conversion.exists_read_eq_ok_iff`, `Conversion.read_eq_error_iff`: what is read, and what is refused.
* `Conversion.settle`: the normal form.
* `Conversion.reading_normalizes`: all of it.
-/

namespace TargetBuilder

open TargetBuilder.Number

namespace Conversion

/-! ## Shapes -/

/-- The conversions that a conversion is built from, itself among them. -/
def parts : Conversion → List Conversion
  | list element => list element :: element.parts
  | option element => option element :: element.parts
  | c => [c]

/-- Whether an integer is one with 32 bits. -/
def IsNarrow (n : Int64) : Prop := -2 ^ 31 ≤ n.toInt ∧ n.toInt < 2 ^ 31

/-- The values that have the shape of a conversion. -/
inductive Fits : Conversion → Value → Prop
  | value (v : Value) : Fits value v
  | bool (b : Bool) : Fits bool (.bool b)
  | int64 (n : Int64) : Fits int64 (.int n)
  | int32 {n : Int64} (narrow : IsNarrow n) : Fits int32 (.int n)
  | float64 (x : Binary64) : Fits float64 (.float x)
  | float64OfInt (n : Int64) : Fits float64 (.int n)
  | float32 (x : Binary64) : Fits float32 (.float x)
  | float32OfInt (n : Int64) : Fits float32 (.int n)
  | text (s : String) : Fits text (.text s)
  | target (t : TargetId) : Fits target (.target t)
  | keywords (m : Keywords) : Fits keywords (.map m)
  | list {element : Conversion} {items : List Value} (all : ∀ v ∈ items, Fits element v) :
      Fits (list element) (.list items)
  | absent (element : Conversion) : Fits (option element) .nil
  | present {element : Conversion} {v : Value} (inner : Fits element v) : Fits (option element) v

/-! ## Offending positions -/

/-- The kind that a conversion reports as expected where it finds a value of another one. -/
def expected? : Conversion → Option String
  | bool => some "bool"
  | int64 | int32 => some "int"
  | float64 | float32 => some "float"
  | text => some "string"
  | target => some "target"
  | keywords => some "map"
  | list _ => some "list"
  | value | option _ => none

/-- Whether a value is read where `kind` is expected: an integer is a floating-point number, too. -/
def IsReadAs (v : Value) (kind : String) : Prop :=
  v.kind = kind ∨ (v.kind = "int" ∧ kind = "float")

/--
The positions of a value that do not have the shape of a conversion, each with the mismatch there. A
position is the list of the places of the elements that lead to it.
-/
inductive Offends : Conversion → Value → List Nat → Mismatch → Prop
  | kind {c : Conversion} {v : Value} {kind : String} (expected : c.expected? = some kind)
      (other : ¬IsReadAs v kind) : Offends c v [] ⟨kind, v.kind⟩
  | range {n : Int64} (wide : ¬IsNarrow n) : Offends int32 (.int n) [] ⟨"i32", "int"⟩
  | element {element : Conversion} {items : List Value} {place : Nat} {v : Value} {position : List Nat}
      {m : Mismatch} (there : items[place]? = some v) (inner : Offends element v position m) :
      Offends (list element) (.list items) (place :: position) m
  | present {element : Conversion} {v : Value} {position : List Nat} {m : Mismatch} (filled : v ≠ .nil)
      (inner : Offends element v position m) : Offends (option element) v position m

/-- The offending position before which, from left to right, there is no other. -/
def OffendsFirst (c : Conversion) (v : Value) (position : List Nat) (m : Mismatch) : Prop :=
  c.Offends v position m ∧ ∀ other n, c.Offends v other n → position ≤ other

/-! ## Normal forms -/

/--
The normal form of a value: where a floating-point number is expected, an integer is replaced by the
number, and where it is one of the smaller format, it is rounded to that.
-/
def settle : Conversion → Value → Value
  | float64, .int n => .float (Binary64.ofInt n.toInt)
  | float32, .int n => .float (Binary64.ofInt n.toInt).toBinary32.toBinary64
  | float32, .float x => .float x.toBinary32.toBinary64
  | list element, .list items => .list (items.map element.settle)
  | option element, v => element.settle v
  | _, v => v

/-! ## Reading lists and options -/

section

variable {α : Type} {read : Value → Except Mismatch α}

theorem forall₂_of_readAll : ∀ {items : List Value} {found : List α}, readAll read items = .ok found →
    List.Forall₂ (fun v a => read v = .ok a) items found
  | [], found, h => by
    cases h
    exact .nil
  | v :: rest, found, h => by
    unfold readAll at h
    split at h
    · cases h
    · next a ha =>
      split at h
      · cases h
      · next more hmore =>
        cases h
        exact .cons ha (forall₂_of_readAll hmore)

/-- Reading a list fails for the first element that is not read. -/
theorem exists_refused_of_readAll : ∀ {items : List Value} {m : Mismatch}, readAll read items = .error m →
    ∃ (place : Nat) (v : Value), items[place]? = some v ∧ read v = .error m ∧
      ∀ earlier < place, ∀ u, items[earlier]? = some u → ∃ a, read u = .ok a
  | [], m, h => by cases h
  | v :: rest, m, h => by
    unfold readAll at h
    split at h
    · next refused =>
      cases h
      exact ⟨0, v, rfl, refused, fun _ before => absurd before (Nat.not_lt_zero _)⟩
    · next a ha =>
      split at h
      · next refused =>
        cases h
        obtain ⟨place, u, there, hu, earlier⟩ := exists_refused_of_readAll refused
        refine ⟨place + 1, u, there, hu, fun i before w hw => ?_⟩
        cases i with
        | zero =>
          cases hw
          exact ⟨a, ha⟩
        | succ i => exact earlier i (by omega) w hw
      · cases h

end

/-! ## What reading comes to -/

theorem offendsFirst_nil {c : Conversion} {v : Value} {m : Mismatch} (h : c.Offends v [] m) :
    c.OffendsFirst v [] m :=
  ⟨h, fun other _ _ => not_lt.mp (List.not_lt_nil other)⟩

theorem isReadAs_of_fits {c : Conversion} {v : Value} {kind : String} (h : c.Fits v)
    (expected : c.expected? = some kind) : IsReadAs v kind := by
  cases h with
  | value | absent | present => cases expected
  | float64OfInt | float32OfInt =>
    cases expected
    exact .inr ⟨rfl, rfl⟩
  | _ =>
    cases expected
    exact .inl rfl

/-- A value of the right shape offends nowhere. -/
theorem not_offends_of_fits {c : Conversion} {v : Value} (h : c.Fits v) (position : List Nat)
    (m : Mismatch) : ¬c.Offends v position m := by
  intro offence
  induction offence with
  | kind expected other => exact other (isReadAs_of_fits h expected)
  | range wide =>
    cases h with
    | int32 narrow => exact wide narrow
  | element there _ ih =>
    cases h with
    | list all => exact ih (all _ (List.mem_of_getElem? there))
  | present filled _ ih =>
    cases h with
    | absent => exact filled rfl
    | present inner => exact ih inner

/-- What reading comes to: the value has the shape, and what is read is written as its normal form, or it
is refused for the first position that offends. -/
inductive Outcome (c : Conversion) (v : Value) : Except Mismatch c.Carrier → Prop
  | read {a : c.Carrier} (fits : c.Fits v) (written : c.write a = c.settle v) : Outcome c v (.ok a)
  | refused {position : List Nat} {m : Mismatch} (first : c.OffendsFirst v position m) :
      Outcome c v (.error m)

theorem Outcome.of_ok {c : Conversion} {v : Value} {a : c.Carrier} (h : Outcome c v (.ok a)) :
    c.Fits v ∧ c.write a = c.settle v := by
  cases h with
  | read fits written => exact ⟨fits, written⟩

theorem Outcome.of_error {c : Conversion} {v : Value} {m : Mismatch} (h : Outcome c v (.error m)) :
    ∃ position, c.OffendsFirst v position m := by
  cases h with
  | refused first => exact ⟨_, first⟩

/-- A value of another kind than the expected one is refused at once. -/
theorem outcome_of_kind {c : Conversion} {v : Value} {kind : String} (expected : c.expected? = some kind)
    (other : ¬IsReadAs v kind) : Outcome c v (.error ⟨kind, v.kind⟩) :=
  .refused (offendsFirst_nil (.kind expected other))

theorem narrow?_of_isNarrow {n : Int64} (h : IsNarrow n) : narrow? n = some (Int32.ofInt n.toInt) :=
  if_pos ⟨h.1, Int.lt_add_one_iff.mp h.2⟩

theorem narrow?_eq_none {n : Int64} (h : ¬IsNarrow n) : narrow? n = none :=
  if_neg fun bounds => h ⟨bounds.1, Int.lt_add_one_iff.mpr bounds.2⟩

theorem read_int32 (n : Int64) :
    int32.read (.int n) =
      match narrow? n with
      | some m => .ok m
      | none => .error ⟨"i32", "int"⟩ := rfl

theorem outcome_int32 (n : Int64) : Outcome int32 (.int n) (int32.read (.int n)) := by
  rw [read_int32]
  by_cases narrow : IsNarrow n
  · rw [narrow?_of_isNarrow narrow]
    have same : (Int32.ofInt n.toInt).toInt64 = n := by
      rw [← Int64.toInt_inj, Int32.toInt_toInt64, Int32.toInt_ofInt_of_le narrow.1 narrow.2]
    exact .read (.int32 narrow) (congrArg Value.int same)
  · rw [narrow?_eq_none narrow]
    exact .refused (offendsFirst_nil (.range narrow))

/-- The first refused element of a list holds the first offending position. -/
theorem offendsFirst_element {element : Conversion} {items : List Value} {place : Nat} {v : Value}
    {position : List Nat} {m : Mismatch} (there : items[place]? = some v)
    (first : element.OffendsFirst v position m)
    (earlier : ∀ i < place, ∀ u, items[i]? = some u → element.Fits u) :
    (list element).OffendsFirst (.list items) (place :: position) m := by
  refine ⟨.element there first.1, fun other n offence => ?_⟩
  cases offence with
  | kind expected other =>
    cases expected
    exact absurd (.inl rfl) other
  | @element _ _ i u rest _ hu inner =>
    rcases Nat.lt_trichotomy place i with before | rfl | after
    · exact le_of_lt (List.Lex.rel before)
    · cases there.symm.trans hu
      exact List.cons_le_cons place (first.2 rest n inner)
    · exact absurd inner (not_offends_of_fits (earlier i after u hu) rest n)

theorem offendsFirst_present {element : Conversion} {v : Value} {position : List Nat} {m : Mismatch}
    (filled : v ≠ .nil) (first : element.OffendsFirst v position m) :
    (option element).OffendsFirst v position m := by
  refine ⟨.present filled first.1, fun other n offence => ?_⟩
  cases offence with
  | kind expected => cases expected
  | present _ inner => exact first.2 other n inner

theorem outcome_list {element : Conversion} (items : List Value)
    (each : ∀ v, Outcome element v (element.read v)) :
    Outcome (list element) (.list items) (readAll element.read items) := by
  cases all : readAll element.read items with
  | ok found =>
    have read := forall₂_of_readAll all
    have shaped : List.Forall₂ (fun v a => element.Fits v ∧ element.write a = element.settle v)
        items found := read.imp fun v a h => (h ▸ each v).of_ok
    have fits : ∀ v ∈ items, element.Fits v := by
      intro v hv
      obtain ⟨i, hi, rfl⟩ := List.mem_iff_getElem.mp hv
      exact (shaped.get hi (shaped.length_eq ▸ hi)).1
    have written : List.Forall₂ (· = ·) (found.map element.write) (items.map element.settle) :=
      List.forall₂_map_left_iff.mpr (List.forall₂_map_right_iff.mpr (shaped.flip.imp fun _ _ h => h.2))
    exact .read (.list fits) (congrArg Value.list (List.forall₂_eq_eq_eq ▸ written))
  | error m =>
    obtain ⟨place, v, there, refused, earlier⟩ := exists_refused_of_readAll all
    obtain ⟨position, first⟩ := (refused ▸ each v).of_error
    refine .refused (offendsFirst_element there first fun i before u hu => ?_)
    obtain ⟨a, ha⟩ := earlier i before u hu
    exact (ha ▸ each u).of_ok.1

/-- Where there is a value, an option is read as its element is. -/
theorem read_option {element : Conversion} {v : Value} (filled : v ≠ .nil) :
    (option element).read v =
      match element.read v with
      | .ok a => .ok (some a)
      | .error m => .error m := by
  cases v with
  | nil => exact absurd rfl filled
  | _ => rfl

theorem outcome_option {element : Conversion} {v : Value} (filled : v ≠ .nil)
    (inner : Outcome element v (element.read v)) :
    Outcome (option element) v ((option element).read v) := by
  rw [read_option filled]
  cases he : element.read v with
  | ok a =>
    obtain ⟨fits, written⟩ := (he ▸ inner).of_ok
    exact .read (.present fits) written
  | error m =>
    obtain ⟨position, first⟩ := (he ▸ inner).of_error
    exact .refused (offendsFirst_present filled first)

theorem settle_nil (c : Conversion) : c.settle .nil = .nil := by
  induction c with
  | option element ih => exact ih
  | _ => rfl

/-- **Reading comes to one of two things, for every conversion and every value.** -/
theorem read_outcome (c : Conversion) (v : Value) : Outcome c v (c.read v) := by
  induction c generalizing v with
  | value => exact .read (.value v) rfl
  | bool =>
    cases v with
    | bool b => exact .read (.bool b) rfl
    | _ => exact outcome_of_kind rfl (by simp [IsReadAs, Value.kind])
  | int64 =>
    cases v with
    | int n => exact .read (.int64 n) rfl
    | _ => exact outcome_of_kind rfl (by simp [IsReadAs, Value.kind])
  | int32 =>
    cases v with
    | int n => exact outcome_int32 n
    | _ => exact outcome_of_kind rfl (by simp [IsReadAs, Value.kind])
  | float64 =>
    cases v with
    | int n => exact .read (.float64OfInt n) rfl
    | float x => exact .read (.float64 x) rfl
    | _ => exact outcome_of_kind rfl (by simp [IsReadAs, Value.kind])
  | float32 =>
    cases v with
    | int n => exact .read (.float32OfInt n) rfl
    | float x => exact .read (.float32 x) rfl
    | _ => exact outcome_of_kind rfl (by simp [IsReadAs, Value.kind])
  | text =>
    cases v with
    | text s => exact .read (.text s) rfl
    | _ => exact outcome_of_kind rfl (by simp [IsReadAs, Value.kind])
  | target =>
    cases v with
    | target t => exact .read (.target t) rfl
    | _ => exact outcome_of_kind rfl (by simp [IsReadAs, Value.kind])
  | keywords =>
    cases v with
    | map m => exact .read (.keywords m) rfl
    | _ => exact outcome_of_kind rfl (by simp [IsReadAs, Value.kind])
  | list element ih =>
    cases v with
    | list items => exact outcome_list items ih
    | _ => exact outcome_of_kind rfl (by simp [IsReadAs, Value.kind])
  | option element ih =>
    by_cases filled : v = .nil
    · subst filled
      exact .read (.absent element) (settle_nil element).symm
    · exact outcome_option filled (ih v)

/-! ## What is read, and what is refused -/

/-- At one position there is one mismatch. -/
theorem Offends.mismatch_eq {c : Conversion} {v : Value} {position : List Nat} {m n : Mismatch}
    (hm : c.Offends v position m) (hn : c.Offends v position n) : m = n := by
  induction hm with
  | kind expected other =>
    cases hn with
    | kind expected' _ =>
      cases expected.symm.trans expected'
      rfl
    | range wide =>
      cases expected
      exact absurd (.inl rfl) other
    | present _ _ => cases expected
  | range wide =>
    cases hn with
    | kind expected other =>
      cases expected
      exact absurd (.inl rfl) other
    | range _ => rfl
  | element there inner ih =>
    cases hn with
    | element there' inner' =>
      cases there.symm.trans there'
      exact ih inner'
  | present filled inner ih =>
    cases hn with
    | kind expected _ => cases expected
    | present _ inner' => exact ih inner'

theorem OffendsFirst.mismatch_eq {c : Conversion} {v : Value} {p q : List Nat} {m n : Mismatch}
    (hm : c.OffendsFirst v p m) (hn : c.OffendsFirst v q n) : m = n := by
  cases le_antisymm (hm.2 q n hn.1) (hn.2 p m hm.1)
  exact hm.1.mismatch_eq hn.1

/-- **A value is read if and only if it has the shape of the conversion.** -/
theorem exists_read_eq_ok_iff (c : Conversion) (v : Value) : (∃ a, c.read v = .ok a) ↔ c.Fits v := by
  constructor
  · rintro ⟨a, ha⟩
    exact (ha ▸ read_outcome c v).of_ok.1
  · intro fits
    cases hr : c.read v with
    | ok a => exact ⟨a, rfl⟩
    | error m =>
      obtain ⟨position, first⟩ := (hr ▸ read_outcome c v).of_error
      exact absurd first.1 (not_offends_of_fits fits position m)

/-- **A refusal is about the first offending position.** -/
theorem read_eq_error_iff (c : Conversion) (v : Value) (m : Mismatch) :
    c.read v = .error m ↔ ∃ position, c.OffendsFirst v position m := by
  constructor
  · intro refused
    exact (refused ▸ read_outcome c v).of_error
  · rintro ⟨position, first⟩
    cases hr : c.read v with
    | ok a =>
      have fits := (exists_read_eq_ok_iff c v).mp ⟨a, hr⟩
      exact absurd first.1 (not_offends_of_fits fits position m)
    | error n =>
      obtain ⟨position', first'⟩ := (hr ▸ read_outcome c v).of_error
      rw [first'.mismatch_eq first]

/-- What is read is written as the normal form of the value. -/
theorem write_of_read {c : Conversion} {v : Value} {a : c.Carrier} (h : c.read v = .ok a) :
    c.write a = c.settle v := (h ▸ read_outcome c v).of_ok.2

/-! ## Normal forms -/

/-- A normal form has the shape that the value has. -/
theorem fits_settle {c : Conversion} {v : Value} (h : c.Fits v) : c.Fits (c.settle v) := by
  induction h with
  | float64OfInt n => exact .float64 _
  | float32OfInt n => exact .float32 _
  | float32 x => exact .float32 _
  | list all ih =>
    refine .list fun v hv => ?_
    obtain ⟨u, hu, rfl⟩ := List.mem_map.mp hv
    exact ih u hu
  | absent element => exact (settle_nil element).symm ▸ .absent element
  | present inner ih => exact .present ih
  | int32 narrow => exact .int32 narrow
  | _ => constructor

/-- **A normal form is its own normal form**, since rounding happens once. -/
theorem settle_settle {c : Conversion} {v : Value} (h : c.Fits v) : c.settle (c.settle v) = c.settle v := by
  induction h with
  | float32OfInt n | float32 x =>
    show Value.float _ = Value.float _
    rw [Binary64.toBinary32_toBinary64_toBinary32]
  | @list element items all ih =>
    have each : (items.map element.settle).map element.settle = items.map element.settle := by
      rw [List.map_map]
      exact List.map_congr_left ih
    exact congrArg Value.list each
  | absent element => rw [settle_nil, settle_nil]
  | present inner ih => exact ih
  | _ => rfl

/-- Where no floating-point number is expected, a value is its own normal form. -/
theorem settle_of_exact {c : Conversion} (no64 : float64 ∉ c.parts) (no32 : float32 ∉ c.parts)
    (v : Value) : c.settle v = v := by
  induction c generalizing v with
  | float64 => exact absurd List.mem_cons_self no64
  | float32 => exact absurd List.mem_cons_self no32
  | list element ih =>
    have each := ih (fun h => no64 (List.mem_cons_of_mem _ h)) (fun h => no32 (List.mem_cons_of_mem _ h))
    cases v with
    | list items =>
      show Value.list (items.map element.settle) = _
      rw [List.map_congr_left fun v _ => each v, List.map_id']
    | _ => rfl
  | option element ih =>
    exact ih (fun h => no64 (List.mem_cons_of_mem _ h)) (fun h => no32 (List.mem_cons_of_mem _ h)) v
  | _ => rfl

/--
**Converting a value out and back is a normalisation**, for every conversion and every value. The value
is read if and only if it has the shape of the conversion. It is refused with a mismatch if and only if
that is the mismatch at its first offending position. And what is read is written as the normal form: it
is the value itself if the conversion is not built from floating-point numbers, and it is read again as
something that is written as the same normal form.
-/
theorem reading_normalizes (c : Conversion) (v : Value) :
    ((∃ a, c.read v = .ok a) ↔ c.Fits v) ∧
      (∀ m, c.read v = .error m ↔ ∃ position, c.OffendsFirst v position m) ∧
      ∀ a, c.read v = .ok a →
        (∃ b, c.read (c.write a) = .ok b ∧ c.write b = c.write a) ∧
          c.write a = c.settle v ∧
          (float64 ∉ c.parts → float32 ∉ c.parts → c.write a = v) := by
  refine ⟨exists_read_eq_ok_iff c v, read_eq_error_iff c v, fun a ha => ?_⟩
  have fits := (exists_read_eq_ok_iff c v).mp ⟨a, ha⟩
  have written := write_of_read ha
  obtain ⟨b, hb⟩ := (exists_read_eq_ok_iff c (c.write a)).mpr (written ▸ fits_settle fits)
  have again : c.write b = c.write a := by
    rw [write_of_read hb, written, settle_settle fits]
  exact ⟨⟨b, hb, again⟩, written, fun no64 no32 => written.trans (settle_of_exact no64 no32 v)⟩

/-- The least integer that the smaller format cannot hold, and integers and no value where integers go. -/
theorem reading_normalizes_rounded :
    (∃ a b, (list (option float32)).read (.list [.nil, .int 16777217]) = .ok a ∧
      (list (option float32)).write a = .list [.nil, .float (Binary64.ofInt 16777216)] ∧
      (list (option float32)).read (.list [.nil, .float (Binary64.ofInt 16777216)]) = .ok b ∧
      (list (option float32)).write b = .list [.nil, .float (Binary64.ofInt 16777216)]) ∧
      ∃ a, (option (list int32)).read (.list [.int (-5)]) = .ok a ∧
        (option (list int32)).write a = .list [.int (-5)] := by
  have rounded : (Binary64.ofInt 16777217).toBinary32.toBinary64 = Binary64.ofInt 16777216 := by
    decide +kernel
  constructor
  · obtain ⟨⟨b, hb, again⟩, written, -⟩ :=
      (reading_normalizes (list (option float32)) (.list [.nil, .int 16777217])).2.2 _ rfl
    have normal : (list (option float32)).settle (.list [.nil, .int 16777217]) =
        .list [.nil, .float (Binary64.ofInt 16777216)] := by
      rw [← rounded]
      rfl
    rw [normal] at written
    rw [written] at hb again
    exact ⟨_, b, rfl, written, hb, again⟩
  · obtain ⟨-, -, exact⟩ := (reading_normalizes (option (list int32)) (.list [.int (-5)])).2.2 _ rfl
    exact ⟨_, rfl, exact (by decide) (by decide)⟩

end Conversion

end TargetBuilder
