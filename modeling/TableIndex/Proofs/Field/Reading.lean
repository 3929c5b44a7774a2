import TableIndex.Proofs.Field.Properties

/-!
# Objects that are read as fields

What is read from an object is written again as that object, but for flags that it says in words
(`get?_toProperties_of_ofProperties`). Setting a property in a definition and in its object comes to the same,
flags in words apart again (`same_withProperty_iff`).
-/

namespace TableIndex.Field

variable {f g : Field} {k : String} {v : Json} {o : Json.Object}

/-! ## What an object says -/

/-- What a flag is written as once it was read: a truth value also where it was a text. -/
def flagValue : Json → Json
  | .string "true" => .bool true
  | .string "false" => .bool false
  | v => v

theorem eq_of_flagValue {b : Bool} (h : flagValue v = .bool b) : v = .bool b ∨ v = .string (toString b) := by
  unfold flagValue at h
  split at h
  · obtain rfl := Json.bool.inj h
    exact .inr rfl
  · obtain rfl := Json.bool.inj h
    exact .inr rfl
  · exact .inl h

/-- What a property is written as once it was read. -/
def rewritten (k : String) (v : Json) : Json := if k = indexedKey ∨ k = storedKey then flagValue v else v

theorem nameOf_eq_ok {n : String} (h : nameOf o = .ok n) :
    o.get? nameKey = some (.string n) ∧ Text.isBlank n = false := by
  unfold nameOf at h
  split at h
  · next s hs =>
    split at h
    · cases h
    · next hblank =>
      cases h
      exact ⟨hs, by simpa using hblank⟩
  · cases h

theorem typeOf_eq_ok {n : String} {t : Option FieldType} (h : typeOf n o = .ok t) :
    o.get? typeKey = t.map (fun t => .string t.name) ∧
      ∀ t', t = some t' → Text.isBlank t'.name = false ∧ FieldType.ofName t'.name = t' := by
  unfold typeOf at h
  split at h
  · next hnone =>
    cases h
    exact ⟨hnone, nofun⟩
  · next s hs =>
    split at h
    · cases h
    · next hblank =>
      cases h
      rw [Option.map_some, FieldType.name_ofName]
      refine ⟨hs, fun t' ht => ?_⟩
      obtain rfl := Option.some.inj ht
      rw [FieldType.name_ofName]
      exact ⟨by simpa using hblank, rfl⟩
  · cases h

theorem flagOf_eq_ok {n key : String} {flag : Option Bool} (h : flagOf n key o = .ok flag) :
    (o.get? key).map flagValue = flag.map .bool := by
  unfold flagOf at h
  split at h
  · next hv => cases h; rw [hv]; rfl
  · next hv => cases h; rw [hv]; rfl
  · next hv => cases h; rw [hv]; rfl
  · next hv => cases h; rw [hv]; rfl
  · cases h

/-- What is read from an object is written as that object, but for flags that it says in words. -/
theorem get?_toProperties_of_ofProperties (h : ofProperties o = .ok f) (k : String) :
    f.toProperties.get? k = (o.get? k).map (rewritten k) := by
  obtain ⟨hname, htype, hindexed, hstored, hextras⟩ := ofProperties_eq_ok_iff.mp h
  have hsame : k ≠ indexedKey → k ≠ storedKey → (o.get? k).map (rewritten k) = o.get? k := fun h3 h4 => by
    have hid : rewritten k = id := funext fun v => if_neg (not_or.mpr ⟨h3, h4⟩)
    rw [hid, Option.map_id, id]
  rw [get?_toProperties (.ofProperties h)]
  by_cases h1 : k = nameKey
  · subst h1
    rw [if_pos rfl, hsame (by decide) (by decide), (nameOf_eq_ok hname).1]
  by_cases h2 : k = typeKey
  · subst h2
    rw [if_neg h1, if_pos rfl, hsame (by decide) (by decide), (typeOf_eq_ok htype).1]
  by_cases h3 : k = indexedKey
  · subst h3
    rw [if_neg h1, if_neg h2, if_pos rfl, ← flagOf_eq_ok hindexed]
    exact congrArg (Option.map · _) (funext fun v => (if_pos (.inl rfl)).symm)
  by_cases h4 : k = storedKey
  · subst h4
    rw [if_neg h1, if_neg h2, if_neg h3, if_pos rfl, ← flagOf_eq_ok hstored]
    exact congrArg (Option.map · _) (funext fun v => (if_pos (.inr rfl)).symm)
  · have hk : k ∉ reservedKeys := by simp [reservedKeys, h1, h2, h3, h4]
    rw [if_neg h1, if_neg h2, if_neg h3, if_neg h4, hsame h3 h4, property?, hextras, get?_extrasOf, if_neg hk]

/-! ## Setting a property -/

/-- The values that a property can be set to without loss: texts for the name and the type, truth values for
the flags, and anything for any other property. -/
structure Admits (k : String) (v : Json) : Prop where
  text : k = nameKey ∨ k = typeKey → ∃ s, v = .string s
  flag : k = indexedKey ∨ k = storedKey → ∃ b, v = .bool b

theorem withProperty_name (f : Field) (s : String) : f.withProperty nameKey (.string s) = { f with name := s } := rfl

theorem withProperty_type (f : Field) (s : String) :
    f.withProperty typeKey (.string s) = { f with type := some (.ofName s) } := rfl

theorem withProperty_indexed (f : Field) (v : Json) :
    f.withProperty indexedKey v = { f with indexed := v.asBool? } := rfl

theorem withProperty_stored (f : Field) (v : Json) :
    f.withProperty storedKey v = { f with stored := v.asBool? } := rfl

theorem withProperty_of_not_reserved (hk : k ∉ reservedKeys) (f : Field) (v : Json) :
    f.withProperty k v = { f with extras := f.extras.insert k v } := by
  simp only [reservedKeys, List.mem_cons, List.not_mem_nil, or_false, not_or] at hk
  obtain ⟨h1, h2, h3, h4⟩ := hk
  simp only [withProperty, if_neg h1, if_neg h2, if_neg h3, if_neg h4]

/-- Setting a property in a definition sets it in the definition's object. -/
theorem toProperties_withProperty (hf : f.Built) (hv : Admits k v) :
    (f.withProperty k v).toProperties = f.toProperties.insert k v := by
  refine SortedMap.ext_get? fun k' => ?_
  rw [get?_toProperties (.withProperty k v hf), SortedMap.get?_insert, get?_toProperties hf]
  by_cases hk : k ∈ reservedKeys
  · simp only [reservedKeys, List.mem_cons, List.not_mem_nil, or_false] at hk
    rcases hk with rfl | rfl | rfl | rfl
    · obtain ⟨s, rfl⟩ := hv.text (.inl rfl)
      rw [withProperty_name]
      by_cases hk' : k' = nameKey
      · simp only [hk', ↓reduceIte]
      · simp only [hk', Ne.symm hk', ↓reduceIte, property?]
    · obtain ⟨s, rfl⟩ := hv.text (.inr rfl)
      rw [withProperty_type]
      by_cases hk' : k' = typeKey
      · simp [hk', typeKey, nameKey, FieldType.name_ofName]
      · simp only [hk', Ne.symm hk', ↓reduceIte, property?]
    · obtain ⟨b, rfl⟩ := hv.flag (.inl rfl)
      rw [withProperty_indexed]
      by_cases hk' : k' = indexedKey
      · simp [hk', typeKey, nameKey, indexedKey, Json.asBool?]
      · simp only [hk', Ne.symm hk', ↓reduceIte, property?]
    · obtain ⟨b, rfl⟩ := hv.flag (.inr rfl)
      rw [withProperty_stored]
      by_cases hk' : k' = storedKey
      · simp [hk', typeKey, nameKey, indexedKey, storedKey, Json.asBool?]
      · simp only [hk', Ne.symm hk', ↓reduceIte, property?]
  · rw [withProperty_of_not_reserved hk, property?, OrderedMap.get?_insert]
    by_cases hk' : k = k'
    · subst hk'
      simp only [reservedKeys, List.mem_cons, List.not_mem_nil, or_false, not_or] at hk
      obtain ⟨h1, h2, h3, h4⟩ := hk
      simp only [if_neg h1, if_neg h2, if_neg h3, if_neg h4, ↓reduceIte]
    · simp only [if_neg hk', property?]

/-- The value of a property in an object that is read can be set in a definition, or is a flag in words. -/
theorem admits_or_flag (h : ofProperties (o.insert k v) = .ok g) :
    Admits k v ∨ (k = indexedKey ∨ k = storedKey) ∧ ∃ b : Bool, v = .string (toString b) := by
  obtain ⟨hname, htype, hindexed, hstored, -⟩ := ofProperties_eq_ok_iff.mp h
  have hflag : ∀ {key flag}, k = key → (key = indexedKey ∨ key = storedKey) → flagOf g.name key (o.insert k v) = .ok flag →
      Admits k v ∨ (k = indexedKey ∨ k = storedKey) ∧ ∃ b : Bool, v = .string (toString b) := by
    rintro key flag rfl hk hflag
    have hv := flagOf_eq_ok hflag
    rw [SortedMap.get?_insert_self, Option.map_some] at hv
    obtain ⟨b, -, hb⟩ := Option.map_eq_some_iff.mp hv.symm
    rcases eq_of_flagValue hb.symm with rfl | rfl
    · refine .inl ⟨fun htext => absurd htext ?_, fun _ => ⟨b, rfl⟩⟩
      rcases hk with rfl | rfl <;> decide
    · exact .inr ⟨hk, b, rfl⟩
  by_cases h1 : k = nameKey
  · subst h1
    have hv := (nameOf_eq_ok hname).1
    rw [SortedMap.get?_insert_self] at hv
    exact .inl ⟨fun _ => ⟨g.name, Option.some.inj hv⟩, fun hk => absurd hk (by decide)⟩
  by_cases h2 : k = typeKey
  · subst h2
    have hv := (typeOf_eq_ok htype).1
    rw [SortedMap.get?_insert_self] at hv
    obtain ⟨t, -, ht⟩ := Option.map_eq_some_iff.mp hv.symm
    exact .inl ⟨fun _ => ⟨t.name, ht.symm⟩, fun hk => absurd hk (by decide)⟩
  by_cases h3 : k = indexedKey
  · exact hflag h3 (.inl rfl) hindexed
  by_cases h4 : k = storedKey
  · exact hflag h4 (.inr rfl) hstored
  · exact .inl ⟨fun hk => absurd hk (not_or.mpr ⟨h1, h2⟩), fun hk => absurd hk (not_or.mpr ⟨h3, h4⟩)⟩

theorem type_withProperty {t : FieldType} (h : (f.withProperty k v).type = some t) :
    f.type = some t ∨ ∃ n, t = .ofName n := by
  by_cases hk : k ∈ reservedKeys
  · simp only [reservedKeys, List.mem_cons, List.not_mem_nil, or_false] at hk
    rcases hk with rfl | rfl | rfl | rfl
    · cases v <;> exact .inl h
    · cases v with
      | string s => exact .inr ⟨s, (Option.some.inj h).symm⟩
      | _ => exact .inl h
    · exact .inl h
    · exact .inl h
  · rw [withProperty_of_not_reserved hk] at h
    exact .inl h

/-- A built field that can be read is legible if its type is the one of its name. -/
theorem Built.legible (hb : f.Built) (h : f.read = .ok g)
    (htype : ∀ t, f.type = some t → FieldType.ofName t.name = t) : f.Legible := by
  obtain ⟨hname, hread, -⟩ := ofProperties_eq_ok_iff.mp h
  refine ⟨hb, ?_, fun t ht => ⟨?_, htype t ht⟩⟩
  · rw [← name_of_read hb h]
    exact (nameOf_eq_ok hname).2
  · have hname := (typeOf_eq_ok hread).1
    rw [get?_toProperties hb, if_neg (by decide), if_pos rfl, ht, Option.map_some] at hname
    obtain ⟨t', ht', hnames⟩ := Option.map_eq_some_iff.mp hname.symm
    rw [← Json.string.inj hnames]
    exact ((typeOf_eq_ok hread).2 t' ht').1

/-- Where a property can be set to a value, the definition with the property is what is read from the object with
the property. -/
theorem alike_withProperty (hf : f.Legible) (hv : Admits k v)
    (h : ofProperties (f.toProperties.insert k v) = .ok g) : (f.withProperty k v).Alike g := by
  have hbuilt : (f.withProperty k v).Built := .withProperty k v hf.built
  have hread : (f.withProperty k v).read = .ok g := by rw [read, toProperties_withProperty hf.built hv, h]
  have hlegible : (f.withProperty k v).Legible := hbuilt.legible hread fun t ht => by
    rcases type_withProperty ht with ht | ⟨n, rfl⟩
    · exact (hf.type t ht).2
    · rw [FieldType.name_ofName]
  obtain rfl := Except.ok.inj ((ofProperties_toProperties hlegible).symm.trans hread)
  exact hbuilt.alike_readBack

/-- A flag in words is read as the truth value that it says, and unsets the flag of a definition. -/
theorem not_same_withProperty {b : Bool} (hk : k = indexedKey ∨ k = storedKey)
    (h : ofProperties (o.insert k (.string (toString b))) = .ok g) :
    (f.withProperty k (.string (toString b))).same g = false := by
  have hvalue : flagValue (.string (toString b)) = .bool b := by cases b <;> rfl
  obtain ⟨-, -, hindexed, hstored, -⟩ := ofProperties_eq_ok_iff.mp h
  rcases hk with rfl | rfl
  · have hflag := flagOf_eq_ok hindexed
    rw [SortedMap.get?_insert_self, Option.map_some, hvalue] at hflag
    obtain ⟨b', hb', -⟩ := Option.map_eq_some_iff.mp hflag.symm
    simp [same, withProperty_indexed, Json.asBool?, hb']
  · have hflag := flagOf_eq_ok hstored
    rw [SortedMap.get?_insert_self, Option.map_some, hvalue] at hflag
    obtain ⟨b', hb', -⟩ := Option.map_eq_some_iff.mp hflag.symm
    simp [same, withProperty_stored, Json.asBool?, hb']

/-- Setting a property in a definition and in its object comes to the same exactly if it is no flag in words. -/
theorem same_withProperty_iff (hf : f.Legible) (h : ofProperties (f.toProperties.insert k v) = .ok g) :
    (f.withProperty k v).same g = true ↔ (k = indexedKey ∨ k = storedKey → ∃ b, v = .bool b) := by
  constructor
  · intro hsame hk
    rcases admits_or_flag h with hv | ⟨-, b, rfl⟩
    · exact hv.flag hk
    · cases (not_same_withProperty hk h).symm.trans hsame
  · intro hflag
    rcases admits_or_flag h with hv | ⟨hk, b, rfl⟩
    · exact (alike_withProperty hf hv h).same
    · obtain ⟨b', hb'⟩ := hflag hk
      cases hb'

theorem same_withProperty_total :
    (typed "total" .double).Legible ∧
    ofProperties ((typed "total" .double).toProperties.insert "stored" (.bool false)) =
      .ok ((typed "total" .double).withStored false) ∧
    ((typed "total" .double).withProperty "stored" (.bool false)).same ((typed "total" .double).withStored false) = true := by
  have hf : (typed "total" .double).Legible := .typed (by decide) (by decide) rfl
  have hread : ofProperties ((typed "total" .double).toProperties.insert "stored" (.bool false)) =
      .ok ((typed "total" .double).withStored false) := rfl
  exact ⟨hf, hread, (same_withProperty_iff hf hread).mpr fun _ => ⟨false, rfl⟩⟩

/-- Setting the flag `indexed` to the word `true` unsets it in a definition and sets it in an object. -/
theorem not_same_of_flag_in_words :
    (untyped "a").Legible ∧
    ofProperties ((untyped "a").toProperties.insert "indexed" (.string "true")) = .ok ((untyped "a").withIndexed true) ∧
    ((untyped "a").withProperty "indexed" (.string "true")).same ((untyped "a").withIndexed true) = false :=
  ⟨⟨.untyped "a", by decide, nofun⟩, rfl, rfl⟩

end TableIndex.Field
