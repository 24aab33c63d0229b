import Mathlib.Data.List.Forall2
import TargetBuilder.Proofs.StyleField

/-!
# Options of style fields

The list of a style attribute is a row of options with commas between them, and perhaps one after the last.
An option makes the field read-only or gives it another name, and a list that holds anything else is
refused.

Of the style attributes of a field the first one counts. If it is a list, it says what there is to say about
the field, and otherwise nothing is said; the attributes after it are not looked at.

* `readOptions_style_iff`: the lists that are read, and what they come to.
* `style_options_of_first`: what the style attributes of a struct come to.
* `later_style_options_lost`: a field that is writable although an attribute makes it read-only.
-/

namespace TargetBuilder.Derive

/-! ## Options and lists of them -/

/-- What a style attribute can say about a field. -/
inductive StyleOption where
  | readOnly
  /-- The selectors are spelled from another name. -/
  | rename (native : String)
  deriving DecidableEq, Repr

namespace StyleOption

/-- The option and the lexemes that it is written with. -/
inductive Written : StyleOption → List Lexeme → Prop
  | readOnly : Written .readOnly [.word "read_only"]
  | rename (native written : String) :
      Written (.rename native) [.word "rename", .mark "=", .literal (.text native) written]

/-- Options and the lexemes of a list of them: there are commas between, and there may be one at the end. -/
inductive Listed : List StyleOption → List Lexeme → Prop
  | nil : Listed [] []
  | last {o : StyleOption} {ls : List Lexeme} : o.Written ls → Listed [o] ls
  | next {o : StyleOption} {os : List StyleOption} {ls rest : List Lexeme} : o.Written ls →
      Listed os rest → Listed (o :: os) (ls ++ .mark "," :: rest)

theorem Listed.eq_nil {os : List StyleOption} {ls : List Lexeme} (h : Listed os ls) (empty : ls = []) :
    os = [] := by
  cases h with
  | nil => rfl
  | last written => cases written <;> cases empty
  | next written _ => simp at empty

/-- The settings after an option was read. -/
def settle (settings : StyleOptions) : StyleOption → StyleOptions
  | readOnly => { settings with readOnly := true }
  | rename native => { settings with rename := some native }

/-- The name that the option gives. -/
def native? : StyleOption → Option String
  | readOnly => none
  | rename native => some native

/-- The last name that is given among options. -/
def lastNative? (os : List StyleOption) : Option String := (os.filterMap native?).getLast?

/-- Of several options the last name counts, and being read-only stays. -/
theorem foldl_settle (os : List StyleOption) (settings : StyleOptions) :
    os.foldl settle settings =
      ⟨(lastNative? os).or settings.rename, settings.readOnly || decide (readOnly ∈ os)⟩ := by
  induction os generalizing settings with
  | nil => simp [lastNative?]
  | cons o rest ih =>
    rw [List.foldl_cons, ih]
    cases o with
    | readOnly => simp [settle, lastNative?, native?]
    | rename native =>
      have last : lastNative? (rename native :: rest) = (lastNative? rest).or (some native) := by
        simp [lastNative?, native?, List.getLast?_cons, Option.or_some]
      simp [settle, last]

end StyleOption

open StyleOption (Written Listed settle lastNative?)

/-! ## Reading one option -/

/-- What may follow an option: nothing, or a comma and then `rest`. -/
inductive Follows : List Lexeme → List Lexeme → Prop
  | nothing : Follows [] []
  | comma (rest : List Lexeme) : Follows (.mark "," :: rest) rest

theorem follows_of_afterOption {ls : List Lexeme} {rest : NoLonger ls} (h : afterOption ls = .ok rest) :
    Follows ls rest.val := by
  unfold afterOption at h
  split at h
  · cases h
    exact .nothing
  · cases h
    exact .comma _
  · cases h

theorem afterOption_of_follows {ls rest : List Lexeme} (h : Follows ls rest) :
    ∃ shorter, afterOption ls = .ok ⟨rest, shorter⟩ := by
  cases h with
  | nothing => exact ⟨_, rfl⟩
  | comma rest => exact ⟨_, rfl⟩

/-- A path goes on only where a double colon does. -/
theorem pathRest_of_follows {ls rest : List Lexeme} (h : Follows ls rest) :
    pathRest ls = .ok ⟨ls, Nat.le_refl _⟩ := by
  cases h with
  | nothing => rfl
  | comma rest => rfl

/-- A path that takes no lexeme away has no more segments. -/
theorem eq_of_pathRest {ls : List Lexeme} {rest : NoLonger ls} (h : pathRest ls = .ok rest)
    (same : rest.val.length = ls.length) : rest.val = ls := by
  unfold pathRest at h
  split at h
  · split at h
    · next after bound _ =>
      cases h
      simp only [List.length_cons] at same
      omega
    · cases h
  · cases h
  · cases h
  · cases h
    rfl

/-- A path that is a name alone is the word for it. -/
theorem eq_of_readPath {ls : List Lexeme} {w : String} {rest : Shorter ls}
    (h : readPath ls = .ok (some w, rest)) : ls = .word w :: rest.val := by
  unfold readPath at h
  split at h
  · next found tail =>
    split at h
    · cases h
    · next after bound read =>
      dsimp only at h
      split at h
      · next alone =>
        cases h
        rw [eq_of_pathRest read alone]
      · cases h
  · split at h
    · cases h
    · cases h
  · cases h
  · cases h

theorem eq_of_valueText {ls : List Lexeme} {s : String} {rest : Shorter ls}
    (h : valueText ls = .ok (s, rest)) :
    ∃ written, ls = .mark "=" :: .literal (.text s) written :: rest.val := by
  unfold valueText at h
  split at h
  · cases h
    exact ⟨_, rfl⟩
  · cases h
  · cases h
  · cases h

/-- The two options that there are. -/
theorem styleSetting_eq_some {w : String} {x : Setting StyleOptions} (h : styleSetting w = some x) :
    (w = "read_only" ∧ x = .flag (settle · .readOnly)) ∨
      w = "rename" ∧ x = .text fun s o => .ok (settle o (.rename s)) := by
  unfold styleSetting at h
  split at h
  · cases h
    exact Or.inl ⟨rfl, rfl⟩
  · cases h
    exact Or.inr ⟨rfl, rfl⟩
  · cases h

/-! ## Reading a list of options -/

theorem readOptions_nil (settings : StyleOptions) :
    readOptions styleSetting .unknownStyleOption settings [] = .ok settings := by
  rw [readOptions]
  rfl

/-- A list that is not empty is an option, what may follow it, and a shorter list. -/
theorem readOptions_style_step {ls : List Lexeme} {settings result : StyleOptions} (more : ls ≠ [])
    (h : readOptions styleSetting .unknownStyleOption settings ls = .ok result) :
    ∃ (o : StyleOption) (written after rest : List Lexeme), o.Written written ∧
      ls = written ++ after ∧ Follows after rest ∧ rest.length < ls.length ∧
        readOptions styleSetting .unknownStyleOption (settle settings o) rest = .ok result := by
  rw [readOptions, if_neg (by simpa using more)] at h
  split at h
  · cases h
  · next name afterPath shorter path =>
    split at h
    · cases h
    · next apply known =>
      obtain ⟨w, rfl, known⟩ := Option.bind_eq_some_iff.mp known
      split at h
      · cases h
      · next rest bound after =>
        rcases styleSetting_eq_some known with ⟨rfl, same⟩ | ⟨-, same⟩
        · cases same
          exact ⟨.readOnly, _, afterPath, rest, .readOnly, eq_of_readPath path,
            follows_of_afterOption after, Nat.lt_of_le_of_lt bound shorter, h⟩
        · cases same
    · next apply known =>
      obtain ⟨w, rfl, known⟩ := Option.bind_eq_some_iff.mp known
      rcases styleSetting_eq_some known with ⟨-, same⟩ | ⟨rfl, same⟩
      · cases same
      cases same
      split at h
      · cases h
      · next native afterValue shorter' value =>
        dsimp only at h
        split at h
        · cases h
        · next rest bound after =>
          obtain ⟨written, hvalue⟩ := eq_of_valueText value
          have spelled := eq_of_readPath path
          dsimp only at spelled hvalue
          rw [hvalue] at spelled
          exact ⟨.rename native, _, afterValue, rest, .rename native written, spelled,
            follows_of_afterOption after,
            Nat.lt_of_le_of_lt bound (Nat.lt_trans shorter' shorter), h⟩

/-- An option at the front of a list is read. -/
theorem readOptions_style_written {o : StyleOption} {written after rest : List Lexeme}
    (h : o.Written written) (follows : Follows after rest) (settings : StyleOptions) :
    readOptions styleSetting .unknownStyleOption settings (written ++ after) =
      readOptions styleSetting .unknownStyleOption (settle settings o) rest := by
  obtain ⟨bound, goes⟩ := afterOption_of_follows follows
  cases h with
  | readOnly =>
    rw [readOptions, if_neg (by simp)]
    simp only [List.cons_append, List.nil_append, readPath, pathRest_of_follows follows]
    simp [styleSetting, goes, settle]
  | rename native written =>
    have alone : pathRest (.mark "=" :: .literal (.text native) written :: after) =
        .ok ⟨_, Nat.le_refl _⟩ := rfl
    rw [readOptions, if_neg (by simp)]
    simp only [List.cons_append, List.nil_append, readPath, alone]
    simp [styleSetting, goes, settle, valueText]

/-- **The lists that are read are lists of options**, and they come to what the options say. -/
theorem readOptions_style_iff (ls : List Lexeme) (settings result : StyleOptions) :
    readOptions styleSetting .unknownStyleOption settings ls = .ok result ↔
      ∃ os, Listed os ls ∧ os.foldl settle settings = result := by
  constructor
  · intro h
    induction hn : ls.length using Nat.strongRecOn generalizing ls settings with
    | ind n ih =>
      subst hn
      cases ls with
      | nil =>
        rw [readOptions_nil] at h
        cases h
        exact ⟨[], .nil, rfl⟩
      | cons l tail =>
        obtain ⟨o, written, after, rest, spelled, same, follows, shorter, read⟩ :=
          readOptions_style_step (List.cons_ne_nil l tail) h
        obtain ⟨os, listed, settled⟩ := ih _ shorter rest (settle settings o) read rfl
        rw [same]
        cases follows with
        | comma rest => exact ⟨o :: os, .next spelled listed, settled⟩
        | nothing =>
          cases listed.eq_nil rfl
          rw [List.append_nil]
          exact ⟨[o], .last spelled, settled⟩
  · rintro ⟨os, listed, rfl⟩
    induction listed generalizing settings with
    | nil => exact readOptions_nil settings
    | @last o ls written =>
      rw [← List.append_nil ls, readOptions_style_written written .nothing]
      exact readOptions_nil _
    | next written _ ih =>
      rw [readOptions_style_written written (.comma _), ih]
      rfl

/-! ## Attributes -/

/-- What a style attribute holds: no option if it stands alone, else a list, which must be one of options. -/
def Attribute.Carries (a : Attribute) (os : List StyleOption) : Prop :=
  match a.form with
  | .bare => os = []
  | .equals _ => False
  | .list options => Listed os (optionLexemes options)

/-- What a style attribute is taken to say: only a list says anything, and it must be one of options. -/
def Attribute.Says (a : Attribute) (os : List StyleOption) : Prop :=
  match a.form with
  | .bare | .equals _ => os = []
  | .list options => Listed os (optionLexemes options)

theorem readStyleAttribute_eq_ok_iff (a : Attribute) (o : StyleOptions) :
    readStyleAttribute a = .ok o ↔
      ∃ os, a.Says os ∧ o = ⟨lastNative? os, decide (StyleOption.readOnly ∈ os)⟩ := by
  have blank : ∀ os : List StyleOption, os.foldl settle ⟨none, false⟩ =
      ⟨lastNative? os, decide (StyleOption.readOnly ∈ os)⟩ := by
    intro os
    rw [StyleOption.foldl_settle, Option.or_none, Bool.false_or]
  obtain ⟨path, form⟩ := a
  unfold readStyleAttribute Attribute.Says
  cases form with
  | bare => simp [lastNative?, eq_comm]
  | equals value => simp [lastNative?, eq_comm]
  | list options =>
    dsimp only
    rw [readOptions_style_iff]
    simp only [blank, eq_comm]

/-- An attribute that carries options is read as what they come to. -/
theorem Attribute.Carries.read {a : Attribute} {os : List StyleOption} (h : a.Carries os) :
    readStyleAttribute a = .ok ⟨lastNative? os, decide (StyleOption.readOnly ∈ os)⟩ := by
  refine (readStyleAttribute_eq_ok_iff a _).mpr ⟨os, ?_, rfl⟩
  obtain ⟨path, form⟩ := a
  cases form with
  | bare => exact h
  | equals value => exact h.elim
  | list options => exact h

/-! ## Fields -/

/-- The style attributes of a field. -/
def Field.styles (f : Field) : List Attribute := f.attributes.filter (·.isNamed "style")

/-- Whether a field has a name and a style attribute. -/
def Field.isStyled (f : Field) : Bool := f.name.isSome && !f.styles.isEmpty

/-- The style field of a given name has what the options say: its native name and its selectors. -/
structure StyleField.SaidBy (f : StyleField) (name : String) (os : List StyleOption) : Prop where
  field : f.field = name
  native : f.native = (lastNative? os).getD (camelCase name)
  selectors : f.selectors =
    if .readOnly ∈ os then [f.native] else [f.native, setterName f.native, f.native ++ "="]

/-- The first style attribute of a field says all that the style field has. -/
def StyleField.SaidByFirst (field : Field) (f : StyleField) : Prop :=
  ∃ name first os, field.name = some name ∧ field.styles.head? = some first ∧ first.Says os ∧
    f.SaidBy name os

/-- The style attributes of a field carry options only, and all of them say what the style field has. -/
def StyleField.SaidByAll (field : Field) (f : StyleField) : Prop :=
  ∃ name carried, field.name = some name ∧ List.Forall₂ Attribute.Carries field.styles carried ∧
    f.SaidBy name carried.flatten

theorem find?_style (field : Field) :
    field.attributes.find? (·.isNamed "style") = field.styles.head? := by
  unfold Field.styles
  rw [List.head?_filter]

/-- What is read off a field. -/
theorem styleField?_cases {field : Field} {found : Option StyleField}
    (h : styleField? field = .ok found) :
    (field.isStyled = false ∧ found = none) ∨
      field.isStyled = true ∧ ∃ f, found = some f ∧ StyleField.SaidByFirst field f := by
  unfold styleField? at h
  rw [find?_style] at h
  split at h
  · next name first named styled =>
    split at h
    · cases h
    · next o read =>
      obtain ⟨os, told, rfl⟩ := (readStyleAttribute_eq_ok_iff first o).mp read
      split at h
      · cases h
      · next type _ =>
        cases h
        refine Or.inr ⟨?_, _, rfl, name, first, os, named, styled, told, rfl, rfl, ?_⟩
        · unfold Field.isStyled
          cases hs : field.styles with
          | nil => rw [hs] at styled; cases styled
          | cons a rest => rw [named]; rfl
        · unfold StyleField.selectors StyleField.setter? StyleField.assignment?
          by_cases mem : StyleOption.readOnly ∈ os <;> simp [mem, StyleField.probe]
  · next other =>
    cases h
    refine Or.inl ⟨?_, rfl⟩
    unfold Field.isStyled
    cases hn : field.name with
    | none => rfl
    | some name =>
      cases hs : field.styles with
      | nil => rfl
      | cons a rest => exact absurd (by rw [hs]; rfl) (other name a hn)

/-- **Style fields are said by the first style attributes** of the fields that have any. -/
theorem styleFields_saidByFirst :
    ∀ {fields : List Field} {found : List StyleField}, styleFields fields = .ok found →
      List.Forall₂ StyleField.SaidByFirst (fields.filter Field.isStyled) found
  | [], _, h => by
    cases h
    exact .nil
  | field :: rest, found, h => by
    unfold styleFields at h
    split at h
    · cases h
    · next first read =>
      split at h
      · cases h
      · next more hmore =>
        cases h
        have later := styleFields_saidByFirst hmore
        rcases styleField?_cases read with ⟨plain, rfl⟩ | ⟨styled, f, rfl, said⟩
        · rw [List.filter_cons_of_neg (by rw [plain]; exact Bool.false_ne_true)]
          exact later
        · rw [List.filter_cons_of_pos styled]
          exact .cons said later

/-! ## What is not looked at -/

/-- The field with its first style attribute and no other attribute. -/
def Field.firstStyle (f : Field) : Field := { f with attributes := f.styles.head?.toList }

/-- The struct without what no style field depends on. -/
def Struct.firstStyles (s : Struct) : Struct := { s with fields := s.fields.map Field.firstStyle }

theorem styleField?_firstStyle (field : Field) : styleField? field.firstStyle = styleField? field := by
  have same : field.firstStyle.attributes.find? (·.isNamed "style") =
      field.attributes.find? (·.isNamed "style") := by
    rw [find?_style field]
    unfold Field.firstStyle
    cases h : field.styles.head? with
    | none => rfl
    | some first =>
      have named : first.isNamed "style" = true := (List.mem_filter.mp (List.mem_of_mem_head? h)).2
      exact List.find?_cons_of_pos named
  unfold styleField?
  rw [same]
  rfl

theorem styleFields_firstStyle (fields : List Field) :
    styleFields (fields.map Field.firstStyle) = styleFields fields := by
  induction fields with
  | nil => rfl
  | cons field rest ih =>
    unfold styleFields
    rw [List.map_cons]
    dsimp only
    rw [styleField?_firstStyle, ih]

/-- Nothing but the first style attributes of the fields makes a difference. -/
theorem derive_firstStyles (s : Struct) : derive s.firstStyles = derive s := by
  have base : s.firstStyles.fields.any (·.name = some "base") = s.fields.any (·.name = some "base") := by
    unfold Struct.firstStyles
    rw [List.any_map]
    rfl
  have fields : styleFields s.firstStyles.fields = styleFields s.fields := styleFields_firstStyle s.fields
  unfold derive
  rw [base, fields]
  rfl

/-! ## Structs -/

/--
**The first style attribute of a field says all that is said about it.** Where it is a list, it must be one
of options: the field is then read-only if the flag is among them, so that it has a probe and nothing
else, and its selectors are spelled from the last name that is given. Where it is no list, it says
nothing. In a struct that is accepted this is so for every field with a style attribute, so a
struct is refused for a first list that holds anything else. The attributes that follow may hold anything,
and it makes no difference.
-/
theorem style_options_of_first (s : Struct) :
    (∀ d, derive s = .ok d →
      List.Forall₂ StyleField.SaidByFirst (s.fields.filter Field.isStyled) d.fields) ∧
      derive s.firstStyles = derive s :=
  ⟨fun _ h => styleFields_saidByFirst (styleFields_of_derive h), derive_firstStyles s⟩

/-! ## A card -/

/-- A struct with one field that has the given attributes. -/
def cardStruct (attributes : List Attribute) : Struct :=
  { name := "Card"
    shape := .named
    parameters := ""
    attributes := []
    fields := [⟨some "base", "TargetBase", []⟩, ⟨some "level", "Property<i64>", attributes⟩] }

/-- The derivation of a card with the given field. -/
def cardDerivation (f : StyleField) : Derivation := ⟨⟨"Card", []⟩, false, none, [f]⟩

theorem style_options_of_first_card :
    let named := Catalogue.given "rename"
    let card := cardStruct
      [⟨"style", .list [named "depth", Catalogue.flag "read_only", named "height"]⟩, ⟨"style", .bare⟩]
    let d := cardDerivation ⟨"level", "height", true, [.word "i64"]⟩
    derive card = .ok d ∧
      List.Forall₂ StyleField.SaidByFirst (card.fields.filter Field.isStyled) d.fields := by
  intro named card d
  have accepted : derive card = .ok d := derive_eq_ok (by decide +kernel)
  exact ⟨accepted, (style_options_of_first card).1 d accepted⟩

/-- The style attributes of a struct that is accepted hold options only, and none of them is lost. -/
def Struct.HonoursAllStyles (s : Struct) : Prop :=
  ∀ d, derive s = .ok d → List.Forall₂ StyleField.SaidByAll (s.fields.filter Field.isStyled) d.fields

/-- The only field of a card is said by all its style attributes, if they are honoured. -/
theorem Struct.HonoursAllStyles.card {attributes : List Attribute} {f : StyleField}
    (h : (cardStruct attributes).HonoursAllStyles)
    (accepted : derive (cardStruct attributes) = .ok (cardDerivation f))
    (styled : Field.isStyled ⟨some "level", "Property<i64>", attributes⟩ = true) :
    StyleField.SaidByAll ⟨some "level", "Property<i64>", attributes⟩ f := by
  have said := h _ accepted
  have only : (cardStruct attributes).fields.filter Field.isStyled =
      [⟨some "level", "Property<i64>", attributes⟩] := by
    unfold cardStruct
    rw [List.filter_cons_of_neg (by decide), List.filter_cons_of_pos styled, List.filter_nil]
  rw [only] at said
  cases said with
  | cons field _ => exact field

/--
What a later style attribute holds is lost, and so is what a style attribute holds that is no list. The
field of a card has all its selectors although its second style attribute says that it is read-only, it
has them with an unknown option in the second style attribute, and with a text for a style
attribute.
-/
theorem later_style_options_lost :
    let bare : Attribute := ⟨"style", .bare⟩
    let listed (key : String) : Attribute := ⟨"style", .list [Catalogue.flag key]⟩
    let text : Attribute := ⟨"style", .equals (.text "wide")⟩
    let f : StyleField := ⟨"level", "level", false, [.word "i64"]⟩
    ∀ attributes ∈ [[bare, listed "read_only"], [bare, listed "bogus"], [text]],
      derive (cardStruct attributes) = .ok (cardDerivation f) ∧
        ¬ (cardStruct attributes).HonoursAllStyles := by
  intro bare listed text f attributes mem
  simp only [List.mem_cons, List.not_mem_nil, or_false] at mem
  rcases mem with rfl | rfl | rfl
  · have accepted : derive (cardStruct [bare, listed "read_only"]) = .ok (cardDerivation f) :=
      derive_eq_ok (by decide +kernel)
    refine ⟨accepted, fun honours => ?_⟩
    obtain ⟨name, carried, -, all, said⟩ := honours.card accepted (by decide +kernel)
    have both : Field.styles ⟨some "level", "Property<i64>", [bare, listed "read_only"]⟩ =
        [bare, listed "read_only"] := by decide +kernel
    rw [both] at all
    obtain ⟨os, carried, carries, more, rfl⟩ := List.forall₂_cons_left_iff.mp all
    obtain ⟨os', carried, carries', none, rfl⟩ := List.forall₂_cons_left_iff.mp more
    have flag : readStyleAttribute (listed "read_only") = .ok ⟨Option.none, true⟩ := by decide +kernel
    have readOnly : StyleOption.readOnly ∈ os' := by
      have read := carries'.read
      rw [flag] at read
      injection read with read
      injection read with _ read
      exact of_decide_eq_true read.symm
    have probe := said.selectors
    rw [if_pos (by simp [readOnly])] at probe
    cases probe
  · have accepted : derive (cardStruct [bare, listed "bogus"]) = .ok (cardDerivation f) :=
      derive_eq_ok (by decide +kernel)
    refine ⟨accepted, fun honours => ?_⟩
    obtain ⟨name, carried, -, all, said⟩ := honours.card accepted (by decide +kernel)
    have both : Field.styles ⟨some "level", "Property<i64>", [bare, listed "bogus"]⟩ =
        [bare, listed "bogus"] := by decide +kernel
    rw [both] at all
    obtain ⟨os, carried, carries, more, rfl⟩ := List.forall₂_cons_left_iff.mp all
    obtain ⟨os', carried, carries', none, rfl⟩ := List.forall₂_cons_left_iff.mp more
    have refused : (readStyleAttribute (listed "bogus")).isOk = false := by decide +kernel
    rw [carries'.read] at refused
    cases refused
  · have accepted : derive (cardStruct [text]) = .ok (cardDerivation f) :=
      derive_eq_ok (by decide +kernel)
    refine ⟨accepted, fun honours => ?_⟩
    obtain ⟨name, carried, -, all, said⟩ := honours.card accepted (by decide +kernel)
    have only : Field.styles ⟨some "level", "Property<i64>", [text]⟩ = [text] := by decide +kernel
    rw [only] at all
    obtain ⟨os, carried, carries, none, rfl⟩ := List.forall₂_cons_left_iff.mp all
    exact carries

end TargetBuilder.Derive
