import TargetBuilder.Naming

/-!
# Camel case

The default convention translates once and for all: whatever the name, its words are run together, and
no underscore is left. Upper-casing brings none back, not even for the characters that become several.
A name without underscores stays as it is, and nothing but underscores is left out.

* `Naming.isWordSeparated_translate_camelCased`: a translated name is not translated again.
* `camelCase_append`: how the translation of a name is put together from those of its parts.
* `camelCase_ne_empty`: a name that is not made of underscores only has a translation.
-/

namespace TargetBuilder

namespace Text

/-- A code point that is an underscore stands for an underscore. -/
theorem toNat_of_ofNat_eq_underscore {n : Nat} (h : Char.ofNat n = '_') : n = 0x5F := by
  by_cases valid : n.isValidChar
  · have same : (Char.ofNat n).toNat = n := by
      unfold Char.ofNat
      rw [dif_pos valid]
      rfl
    rw [← same, h]
    rfl
  · have other : Char.ofNat n = Char.ofNat 0 := by
      unfold Char.ofNat
      rw [dif_neg valid]
      rfl
    rw [other] at h
    cases h

theorem upperExpansions_ne_underscore :
    ∀ e ∈ upperExpansions, ∀ n ∈ e.2, n ≠ 0x5F := by decide +kernel

theorem upperRuns_ne_underscore :
    ∀ r ∈ upperRuns, r.covers (Int.toNat (0x5F - r.shift)) = false := by decide +kernel

/-- No other character has an underscore in its upper-case form. -/
theorem underscore_not_mem_upper {c : Char} (h : c ≠ '_') : '_' ∉ upper c := by
  intro hmem
  unfold upper at hmem
  split at hmem
  · next codes hcodes =>
    obtain ⟨n, hn, hu⟩ := List.mem_map.mp hmem
    obtain ⟨before, after, he, -⟩ := List.lookup_eq_some_iff.mp hcodes
    have there : (c.toNat, codes) ∈ upperExpansions := by rw [he]; simp
    exact upperExpansions_ne_underscore _ there n hn (toNat_of_ofNat_eq_underscore hu)
  · split at hmem
    · next run hrun =>
      -- the run that covers the character would have to cover what the underscore comes from
      have moved := toNat_of_ofNat_eq_underscore (List.mem_singleton.mp hmem).symm
      have origin : Int.toNat (0x5F - run.shift) = c.toNat := by omega
      have covered : run.covers c.toNat = true := by simpa using List.find?_some hrun
      have clear := upperRuns_ne_underscore run (List.mem_of_find?_eq_some hrun)
      rw [origin, covered] at clear
      cases clear
    · exact h (List.mem_singleton.mp hmem).symm

end Text

/-- The separator is in none of the pieces. -/
theorem not_mem_of_mem_splitOn {separator : Char} {cs piece : List Char}
    (h : piece ∈ cs.splitOn separator) : separator ∉ piece := by
  induction cs generalizing piece with
  | nil =>
    rw [List.splitOn_nil, List.mem_singleton] at h
    simp [h]
  | cons c rest ih =>
    rw [List.splitOn_cons_eq_if_modifyHead] at h
    by_cases hc : c = separator
    · rw [if_pos (by simp [hc])] at h
      rcases List.mem_cons.mp h with rfl | later
      · exact List.not_mem_nil
      · exact ih later
    · obtain ⟨first, pieces, hs⟩ := List.exists_cons_of_ne_nil (List.splitOn_ne_nil separator rest)
      rw [if_neg (by simp [hc]), hs, List.modifyHead_cons] at h
      rw [hs] at ih
      rcases List.mem_cons.mp h with rfl | later
      · have kept : separator ∉ first := ih List.mem_cons_self
        simp [kept, Ne.symm hc]
      · exact ih (List.mem_cons_of_mem _ later)

theorem underscore_not_mem_word {name word : String} (h : word ∈ words name) :
    '_' ∉ word.toList := by
  obtain ⟨piece, hp, rfl⟩ := List.mem_map.mp h
  rw [String.toList_ofList]
  exact not_mem_of_mem_splitOn hp

theorem underscore_not_mem_capitalize {s : String} (h : '_' ∉ s.toList) :
    '_' ∉ (capitalize s).toList := by
  unfold capitalize
  split
  · simp
  · next c rest hs =>
    rw [hs, List.mem_cons, not_or] at h
    rw [String.toList_ofList, List.mem_append, not_or]
    exact ⟨Text.underscore_not_mem_upper (Ne.symm h.1), h.2⟩

theorem not_mem_join (c : Char) :
    ∀ parts : List String, (∀ part ∈ parts, c ∉ part.toList) → c ∉ (String.join parts).toList
  | [], _ => by simp
  | part :: rest, h => by
    have ih := not_mem_join c rest fun p hp => h p (List.mem_cons_of_mem _ hp)
    rw [String.join_cons, String.toList_append, List.mem_append, not_or]
    exact ⟨h part List.mem_cons_self, ih⟩

theorem underscore_not_mem_camelCase (name : String) : '_' ∉ (camelCase name).toList := by
  unfold camelCase
  split
  · simp
  · next first rest hw =>
    have plain : ∀ word ∈ first :: rest, '_' ∉ word.toList := by
      intro word h
      rw [← hw] at h
      exact underscore_not_mem_word h
    rw [String.toList_append, List.mem_append, not_or]
    refine ⟨plain first List.mem_cons_self, not_mem_join '_' _ ?_⟩
    intro part h
    obtain ⟨word, hword, rfl⟩ := List.mem_map.mp h
    exact underscore_not_mem_capitalize (plain word (List.mem_cons_of_mem _ hword))

/-- **The default convention translates into names that are not word-separated.** -/
theorem Naming.isWordSeparated_translate_camelCased (name : String) :
    camelCased.isWordSeparated (camelCased.translate name) = false := by
  show (camelCase name).toList.contains '_' = false
  simpa using underscore_not_mem_camelCase name

/-- Where a name is translated, it is word-separated, and its translation, in camel case, is not. -/
theorem Naming.of_translation?_camelCased {name native : String}
    (h : camelCased.translation? name = some native) :
    native = camelCase name ∧
      camelCased.isWordSeparated name = true ∧ camelCased.isWordSeparated native = false := by
  unfold translation? at h
  split at h
  · next changes =>
    cases h
    simp only [Bool.and_eq_true] at changes
    exact ⟨rfl, changes.1, isWordSeparated_translate_camelCased name⟩
  · cases h

/-! ## Which names are empty, and which are as they were -/

namespace Text

theorem upperExpansions_ne_nil : ∀ e ∈ upperExpansions, e.2 ≠ [] := by decide +kernel

theorem upper_ne_nil (c : Char) : upper c ≠ [] := by
  unfold upper
  split
  · next codes hcodes =>
    obtain ⟨before, after, he, -⟩ := List.lookup_eq_some_iff.mp hcodes
    have there : (c.toNat, codes) ∈ upperExpansions := by rw [he]; simp
    simpa using upperExpansions_ne_nil _ there
  · split <;> simp

end Text

theorem capitalize_ne_empty {s : String} (h : s ≠ "") : capitalize s ≠ "" := by
  unfold capitalize
  split
  · next hs => exact fun _ => h (String.toList_eq_nil_iff.mp hs)
  · next c rest hs =>
    intro empty
    have chars := congrArg String.toList empty
    rw [String.toList_ofList] at chars
    exact Text.upper_ne_nil c (List.append_eq_nil_iff.mp chars).1

/-- Every other character is in one of the pieces. -/
theorem exists_mem_splitOn {separator c : Char} (other : c ≠ separator) {cs : List Char} (h : c ∈ cs) :
    ∃ piece ∈ cs.splitOn separator, c ∈ piece := by
  induction cs with
  | nil => cases h
  | cons d rest ih =>
    rw [List.splitOn_cons_eq_if_modifyHead]
    by_cases hd : d = separator
    · rw [if_pos (by simp [hd])]
      rcases List.mem_cons.mp h with rfl | later
      · exact absurd hd other
      · obtain ⟨piece, there, hc⟩ := ih later
        exact ⟨piece, List.mem_cons_of_mem _ there, hc⟩
    · obtain ⟨first, pieces, hs⟩ := List.exists_cons_of_ne_nil (List.splitOn_ne_nil separator rest)
      rw [if_neg (by simp [hd]), hs, List.modifyHead_cons]
      rw [hs] at ih
      rcases List.mem_cons.mp h with rfl | later
      · exact ⟨_, List.mem_cons_self, List.mem_cons_self⟩
      · obtain ⟨piece, there, hc⟩ := ih later
        rcases List.mem_cons.mp there with rfl | there
        · exact ⟨_, List.mem_cons_self, List.mem_cons_of_mem _ hc⟩
        · exact ⟨piece, List.mem_cons_of_mem _ there, hc⟩

theorem join_ne_empty : ∀ {parts : List String} {part : String}, part ∈ parts → part ≠ "" →
    String.join parts ≠ ""
  | [], _, h, _ => by cases h
  | first :: rest, part, h, filled => by
    rw [String.join_cons, Ne, String.append_eq_empty_iff, not_and]
    rintro rfl
    rcases List.mem_cons.mp h with rfl | h
    · exact absurd rfl filled
    · exact join_ne_empty h filled

/-- A name that is not made of underscores only is a name in camel case, too. -/
theorem camelCase_ne_empty {name : String} (h : ∃ c ∈ name.toList, c ≠ '_') : camelCase name ≠ "" := by
  obtain ⟨c, hc, other⟩ := h
  obtain ⟨piece, there, hp⟩ := exists_mem_splitOn other hc
  have word : String.ofList piece ∈ words name := List.mem_map_of_mem there
  have filled : String.ofList piece ≠ "" := by
    intro empty
    rw [String.ofList_eq_empty_iff.mp empty] at hp
    cases hp
  unfold camelCase
  split
  · next hw =>
    rw [hw] at word
    cases word
  · next first rest hw =>
    rw [hw] at word
    rw [Ne, String.append_eq_empty_iff, not_and]
    rintro rfl
    rcases List.mem_cons.mp word with empty | later
    · exact absurd empty filled
    · exact join_ne_empty (List.mem_map_of_mem later) (capitalize_ne_empty filled)

/-- A name without underscores is in camel case as it is. -/
theorem camelCase_of_not_separated {name : String} (h : '_' ∉ name.toList) :
    camelCase name = name := by
  unfold camelCase words
  rw [List.splitOn_eq_singleton h]
  simp

theorem camelCase_camelCase (name : String) : camelCase (camelCase name) = camelCase name :=
  camelCase_of_not_separated (underscore_not_mem_camelCase name)

/-! ## Camel case word by word -/

theorem words_append_underscore (a b : String) : words (a ++ "_" ++ b) = words a ++ words b := by
  have chars : (a ++ "_" ++ b).toList = a.toList ++ '_' :: b.toList := by simp
  unfold words
  rw [chars, List.splitOn_append_cons_self, List.map_append]

/-- The words after an underscore are capitalized, whatever comes before it. -/
theorem camelCase_append_underscore (a b : String) :
    camelCase (a ++ "_" ++ b) = camelCase a ++ String.join ((words b).map capitalize) := by
  unfold camelCase
  rw [words_append_underscore]
  cases pieces : words a with
  | nil => exact absurd (List.map_eq_nil_iff.mp pieces) (List.splitOn_ne_nil '_' a.toList)
  | cons first rest =>
    rw [List.cons_append]
    dsimp only
    rw [List.map_append, String.join_append, String.append_assoc]

/-- **A name can be translated in parts that are cut before an underscore.** -/
theorem camelCase_append (a b : String) :
    camelCase (a ++ "_" ++ b) = camelCase a ++ camelCase ("_" ++ b) := by
  have after : camelCase ("_" ++ b) = String.join ((words b).map capitalize) := by
    have nothing := camelCase_append_underscore "" b
    simpa [camelCase_of_not_separated] using nothing
  rw [after, camelCase_append_underscore]

/-! ## Setters and assignments are other names -/

theorem length_le_length_capitalize (s : String) : s.length ≤ (capitalize s).length + 1 := by
  unfold capitalize
  rw [← String.length_toList]
  split
  · next h => rw [h]; simp
  · next c rest h =>
    rw [h, String.length_ofList, List.length_append, List.length_cons]
    omega

/-- A setter is longer than the name that it is for. -/
theorem setterName_ne (name : String) : setterName name ≠ name := by
  intro same
  have longer := congrArg String.length same
  have kept := length_le_length_capitalize name
  unfold setterName at longer
  have set : "set".length = 3 := rfl
  rw [String.length_append, set] at longer
  omega

theorem assignment_ne (name : String) : name ++ "=" ≠ name := by
  intro same
  have longer := congrArg String.length same
  rw [String.length_append] at longer
  have mark : "=".length = 1 := rfl
  omega

theorem underscore_mem_setterName {name : String} (h : '_' ∈ name.toList) :
    '_' ∈ (setterName name).toList := by
  unfold setterName capitalize
  rw [String.toList_append, List.mem_append]
  right
  cases hname : name.toList with
  | nil => rw [hname] at h; cases h
  | cons c rest =>
    rw [hname] at h
    rw [String.toList_ofList, List.mem_append]
    rcases List.mem_cons.mp h with rfl | h
    · left
      decide +kernel
    · exact Or.inr h

end TargetBuilder
