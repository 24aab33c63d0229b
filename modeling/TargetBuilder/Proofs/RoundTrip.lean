import TargetBuilder.Proofs.Normalization

/-!
# What survives as a value

Writing something as a value and reading it again gives it back, unless the conversion uses no value for
two things. An option writes an absent element as no value; so where the element is written as no value
itself, because it may be any value or because it is an option, it is read as absent. No other conversion
writes its elements as no value, and whatever is lost inside of a list or an option is lost outside, too.

* `Conversion.round_trip_iff_optionsApart`: which conversions lose nothing.
-/

namespace TargetBuilder

namespace Conversion

/-- Whether no option is applied directly to the values themselves or to another option. -/
def OptionsApart (c : Conversion) : Prop :=
  ∀ element, option element ∈ c.parts → element ≠ value ∧ ∀ inner, element ≠ option inner

/-! ## What is read again -/

theorem readAll_map {α : Type} {read : Value → Except Mismatch α} {write : α → Value} :
    ∀ items : List α, (∀ a ∈ items, read (write a) = .ok a) → readAll read (items.map write) = .ok items
  | [], _ => rfl
  | a :: rest, h => by
    rw [List.map_cons, readAll, h a List.mem_cons_self,
      readAll_map rest fun b hb => h b (List.mem_cons_of_mem _ hb)]

/-- Only the values themselves and options are written as no value. -/
theorem write_ne_nil {c : Conversion} (other : c ≠ value) (plain : ∀ inner, c ≠ option inner)
    (a : c.Carrier) : c.write a ≠ .nil := by
  cases c with
  | value => exact absurd rfl other
  | option inner => exact absurd rfl (plain inner)
  | _ => exact fun h => by cases h

theorem read_write_int32 (n : Int32) : int32.read (int32.write n) = .ok n := by
  have narrow : IsNarrow n.toInt64 := by
    unfold IsNarrow
    rw [Int32.toInt_toInt64]
    exact ⟨n.le_toInt, n.toInt_lt⟩
  show int32.read (.int n.toInt64) = _
  rw [read_int32, narrow?_of_isNarrow narrow, Int32.toInt_toInt64, Int32.ofInt_toInt]

/-- Where options are apart, everything is read again as it was. -/
theorem read_write {c : Conversion} (no32 : float32 ∉ c.parts) (apart : c.OptionsApart)
    (a : c.Carrier) : c.read (c.write a) = .ok a := by
  induction c with
  | int32 => exact read_write_int32 a
  | float32 => exact absurd List.mem_cons_self no32
  | list element ih =>
    have each := ih (fun h => no32 (List.mem_cons_of_mem _ h))
      fun e h => apart e (List.mem_cons_of_mem _ h)
    exact readAll_map a fun b _ => each b
  | option element ih =>
    have inner := ih (fun h => no32 (List.mem_cons_of_mem _ h))
      fun e h => apart e (List.mem_cons_of_mem _ h)
    obtain ⟨other, plain⟩ := apart element List.mem_cons_self
    cases a with
    | none => rfl
    | some b =>
      have written : (option element).write (some b) = element.write b := rfl
      rw [written, read_option (write_ne_nil other plain b), inner b]
  | _ => rfl

/-! ## What is lost -/

/-- Whether something is not read again as it was. -/
def Loses (c : Conversion) : Prop := ∃ a : c.Carrier, c.read (c.write a) ≠ .ok a

theorem loses_option_value : (option value).Loses := ⟨some Value.nil, fun h => by cases h⟩

theorem loses_option_option (inner : Conversion) : (option (option inner)).Loses :=
  ⟨some none, fun h => by cases h⟩

theorem Loses.list {element : Conversion} (h : element.Loses) : (list element).Loses := by
  obtain ⟨a, lost⟩ := h
  refine ⟨[a], fun same => ?_⟩
  have read : readAll element.read [element.write a] = .ok [a] := same
  cases forall₂_of_readAll read with
  | cons first _ => exact lost first

theorem Loses.option {element : Conversion} (h : element.Loses) : (option element).Loses := by
  obtain ⟨a, lost⟩ := h
  refine ⟨some a, fun same => ?_⟩
  have written : (Conversion.option element).write (some a) = element.write a := rfl
  rw [written] at same
  by_cases filled : element.write a = .nil
  · rw [filled] at same
    cases same
  · rw [read_option filled] at same
    cases hr : element.read (element.write a) with
    | ok b =>
      rw [hr] at same
      cases same
      exact lost hr
    | error m =>
      rw [hr] at same
      cases same

/-- An option that is applied directly to the values or to an option loses something wherever it is. -/
theorem loses_of_mem_parts {c element : Conversion} (h : option element ∈ c.parts)
    (close : (option element).Loses) : c.Loses := by
  induction c with
  | list inner ih =>
    rcases List.mem_cons.mp h with same | h
    · cases same
    · exact (ih h).list
  | option inner ih =>
    rcases List.mem_cons.mp h with same | h
    · exact same ▸ close
    · exact (ih h).option
  | _ => cases List.mem_singleton.mp h

/--
**What survives as a value.** For a conversion that is built without the smaller floating-point format,
everything is read again as it was written if and only if no option in the conversion is applied directly
to the values themselves or to another option.
-/
theorem round_trip_iff_optionsApart {c : Conversion} (no32 : float32 ∉ c.parts) :
    (∀ a : c.Carrier, c.read (c.write a) = .ok a) ↔ c.OptionsApart := by
  refine ⟨fun survives element there => ?_, read_write no32⟩
  have kept : ¬(option element).Loses := fun close => by
    obtain ⟨a, lost⟩ := loses_of_mem_parts there close
    exact lost (survives a)
  refine ⟨?_, fun inner => ?_⟩
  · rintro rfl
    exact kept loses_option_value
  · rintro rfl
    exact kept (loses_option_option inner)

/-- A list of texts that may be missing survives; a text that may be missing twice over does not. -/
theorem round_trip_iff_optionsApart_texts :
    (∀ a, (list (option text)).read ((list (option text)).write a) = .ok a) ∧
      ¬∀ a, (list (option (option text))).read ((list (option (option text))).write a) = .ok a := by
  constructor
  · refine (round_trip_iff_optionsApart (by decide)).mpr fun element there => ?_
    have own : element = text := by simpa [parts] using there
    subst own
    exact ⟨by decide, fun inner same => by cases same⟩
  · intro survives
    have apart := (round_trip_iff_optionsApart (by decide)).mp survives
    exact (apart (option text) (by decide)).2 text rfl

end Conversion

end TargetBuilder
