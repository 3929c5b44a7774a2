import TableIndex.Proofs.Number.Digits
import TableIndex.Proofs.Schema.Exchange
import TableIndex.Proofs.Schema.Text

/-!
# Schemas written as text again

A schema that was parsed can be written as text, and is parsed from that text as it was (`parse_text`): no value that
a text stood for is written as a text that stands for another one.
-/

namespace TableIndex

namespace Schema

open TableIndex.Field (nameKey typeKey indexedKey storedKey)

variable {s t : Schema} {f : Field} {fs : List Field} {k : String} {v : Json} {cs : List Char} {o o' : Json.Object}
  {tokens : List (List Char)} {token : List Char} {position : Nat}

/-! ## Writing -/

/-- A value as it stands in a declaration: a text as it is, any other value as JSON. -/
def valueText : Json → List Char
  | .string s => s.toList
  | v => v.compactChars

/-- The tokens that declare a field, one for each of its properties. -/
def fieldTokens (f : Field) : List (List Char) :=
  f.toProperties.entries.map fun e => e.1.toList ++ ':' :: valueText e.2

/-- A schema as text: its fields with commas between them, the properties of each with blanks between them. -/
def text (s : Schema) : String :=
  String.ofList (Text.joined [','] (s.toList.map fun f => Text.joined [' '] (fieldTokens f)))

/-! ## Values -/

/-- The values that texts stand for. -/
inductive Plain : Json → Prop where
  | flag (b : Bool) : Plain (.bool b)
  | whole (i : Int) : Plain (.number (.int i))
  | text (s : String) : Plain (.string s)

theorem Scalar.plain {s : String} (h : Scalar s v) : Plain v := by
  cases h with
  | flag b => exact .flag b
  | number _ _ => exact .whole _
  | text _ _ => exact .text _

theorem plain_propertyValue (k : String) (cs : List Char) : Plain (propertyValue k cs) := by
  rw [propertyValue]
  split
  · exact .text _
  · exact Scalar.plain (s := String.ofList cs) (scalar_iff.mpr (by rw [String.toList_ofList]))

theorem magnitude_toDigits (n : Nat) : magnitude (Nat.toDigits 10 n) = n :=
  (foldl_digits _).symm.trans (Json.digitsValue_toDigits n)

theorem numeral_intText (i : Int) : Numeral (Json.intText i) i := by
  have hne : Nat.toDigits 10 i.natAbs ≠ [] := Nat.toDigits_ne_nil
  have hdigits : ∀ d ∈ Nat.toDigits 10 i.natAbs, d.isDigit = true := fun d => Json.isDigit_of_mem_toDigits
  rw [Json.intText]
  split
  · next hi =>
    have h := Numeral.minus hne hdigits
    rw [magnitude_toDigits, show -(i.natAbs : Int) = i by omega] at h
    exact h
  · next hi =>
    have h := Numeral.unsigned hne hdigits
    rw [magnitude_toDigits, show (i.natAbs : Int) = i by omega] at h
    exact h

/-- What a text stands for is written as a text that stands for the same. -/
theorem Scalar.written {s : String} (h : Scalar s v) : scalar (valueText v) = v := by
  cases h with
  | flag b => cases b <;> rfl
  | @number _ i _ hfits =>
      have h : Scalar (String.ofList (Json.intText i)) (.number (.int i)) :=
        .number (by rw [String.toList_ofList]; exact numeral_intText i) hfits
      have hscalar := scalar_iff.mp h
      rwa [String.toList_ofList] at hscalar
  | text hflag hno => exact scalar_iff.mp (.text hflag hno)

theorem propertyValue_valueText (k : String) (cs : List Char) :
    propertyValue k (valueText (propertyValue k cs)) = propertyValue k cs := by
  have hcs : Scalar (String.ofList cs) (scalar cs) := scalar_iff.mpr (by rw [String.toList_ofList])
  by_cases hk : k = nameKey ∨ k = typeKey
  · simp only [propertyValue, if_pos hk, valueText, String.ofList_toList]
  · simp only [propertyValue, if_neg hk]
    exact hcs.written

/-! ## Characters -/

/-- Texts without blanks and commas. -/
def Unbroken (cs : List Char) : Prop := ∀ c ∈ cs, Text.isSpace c = false ∧ c ≠ ','

theorem unbroken_digit {d : Char} (h : d.isDigit = true) : Text.isSpace d = false ∧ d ≠ ',' := by
  simp only [Char.isDigit, Bool.and_eq_true, decide_eq_true_eq, ge_iff_le, UInt32.le_iff_toNat_le] at h
  have hlow : 48 ≤ d.toNat := h.1
  have hhigh : d.toNat ≤ 57 := h.2
  constructor
  · simp only [Text.isSpace, Bool.or_eq_false_iff, Bool.and_eq_false_iff, decide_eq_false_iff_not, beq_eq_false_iff_ne]
    omega
  · rintro rfl
    exact absurd hlow (by decide)

theorem unbroken_intText (i : Int) : Unbroken (Json.intText i) := fun c hc => by
  rcases List.mem_append.mp hc with hc | hc
  · split at hc
    · rw [List.mem_singleton.mp hc]
      decide
    · cases hc
  · exact unbroken_digit (Json.isDigit_of_mem_toDigits hc)

theorem Scalar.unbroken {s : String} (h : Scalar s v) (hs : Unbroken s.toList) : Unbroken (valueText v) := by
  cases h with
  | flag b =>
      have hword : (valueText (.bool b)).all (fun c => !Text.isSpace c && c != ',') = true := by cases b <;> decide
      exact fun c hc => by simpa using List.all_eq_true.mp hword c hc
  | @number _ i _ _ => exact unbroken_intText i
  | text _ _ => exact hs

theorem unbroken_valueText (h : Unbroken cs) : Unbroken (valueText (propertyValue k cs)) := by
  have hcs : (String.ofList cs).toList = cs := String.toList_ofList
  rw [propertyValue]
  split
  · rwa [valueText, hcs]
  · have hscalar : Scalar (String.ofList cs) (scalar cs) := scalar_iff.mpr (by rw [hcs])
    exact hscalar.unbroken (by rwa [hcs])

/-! ## Objects that declarations are read as -/

/-- A property that can be declared: it is written as one token, from which it is read as it was. -/
structure Declarable (k : String) (v : Json) : Prop where
  unbroken : Unbroken (k.toList ++ ':' :: valueText v)
  key : k ≠ ""
  first : ':' ∉ k.toList
  value : propertyValue k (valueText v) = v

theorem Declarable.writes (h : Declarable k v) :
    Writes (k.toList ++ ':' :: valueText v) (k, String.ofList (valueText v)) :=
  ⟨by rw [String.toList_ofList], h.key, h.first⟩

theorem Scalar.not_isFlag {s t : String} (h : Scalar s (.string t)) : ¬IsFlag t := by
  cases h with
  | text hflag _ => exact hflag

/-- No declared flag is a text, so it is written as it was declared. -/
theorem Declarable.rewritten (h : Declarable k v) : Field.rewritten k v = v := by
  rw [Field.rewritten]
  split
  · next hk =>
    have hvalue := h.value
    rw [propertyValue, if_neg (by rcases hk with rfl | rfl <;> decide)] at hvalue
    have hscalar : Scalar (String.ofList (valueText v)) v := scalar_iff.mpr (by rw [String.toList_ofList, hvalue])
    unfold Field.flagValue
    split
    · exact absurd (.inl rfl) hscalar.not_isFlag
    · exact absurd (.inr rfl) hscalar.not_isFlag
    · rfl
  · rfl

theorem readPair_eq_ok (h : readPair position o token = .ok o') :
    ∃ k v, Writes token (k, v) ∧ o' = o.insert k (propertyValue k v.toList) := by
  unfold readPair at h
  split at h
  · cases h
  · next a b hsplit =>
    obtain ⟨htoken, hfirst⟩ := Text.splitFirst_eq_some_iff.mp hsplit
    simp only at h
    split at h
    · cases h
    · next hkey =>
      split at h
      · cases h
      · cases h
        exact ⟨String.ofList a, String.ofList b, ⟨by simpa using htoken, hkey, by simpa using hfirst⟩,
          by rw [String.toList_ofList]⟩

theorem declarable_of_writes {w : String} (h : Writes token (k, w)) (ht : Unbroken token) :
    Declarable k (propertyValue k w.toList) := by
  obtain ⟨htext, hkey, hfirst⟩ := h
  subst htext
  obtain ⟨hk, hw⟩ := List.forall_mem_append.mp ht
  obtain ⟨hcolon, hw⟩ := List.forall_mem_cons.mp hw
  refine ⟨?_, hkey, hfirst, propertyValue_valueText k w.toList⟩
  exact List.forall_mem_append.mpr ⟨hk, List.forall_mem_cons.mpr ⟨hcolon, unbroken_valueText hw⟩⟩

/-- What unbroken tokens are read as can be declared again. -/
theorem declarable_of_foldlM (ho : ∀ k v, o.get? k = some v → Declarable k v) (ht : ∀ token ∈ tokens, Unbroken token)
    (h : tokens.foldlM (readPair position) o = .ok o') : ∀ k v, o'.get? k = some v → Declarable k v := by
  induction tokens generalizing o with
  | nil => exact Except.ok.inj h ▸ ho
  | cons token tokens ih =>
      obtain ⟨ht, hts⟩ := List.forall_mem_cons.mp ht
      rw [List.foldlM_cons] at h
      cases hpair : readPair position o token with
      | error e => rw [hpair] at h; cases h
      | ok o₁ =>
          rw [hpair] at h
          obtain ⟨k₁, w, hw, rfl⟩ := readPair_eq_ok hpair
          refine ih (fun k v hv => ?_) hts h
          rw [SortedMap.get?_insert] at hv
          split at hv
          · next hk =>
            subst hk
            exact Option.some.inj hv ▸ declarable_of_writes hw ht
          · exact ho k v hv

/-- A field that was declared: every property in its object can be declared, and it is what that object is read as. -/
structure Spelled (f : Field) : Prop where
  declarable : ∀ k v, f.toProperties.get? k = some v → Declarable k v
  read : Field.ofProperties f.toProperties = .ok f

theorem spelled_of_readField (ht : ∀ token ∈ tokens, Unbroken token) (h : readField position tokens = .ok f) :
    Spelled f := by
  obtain ⟨o, ho, hf⟩ := readField_eq_ok h
  have hdeclarable := declarable_of_foldlM (fun _ _ hv => by cases hv) ht ho
  have hsame : f.toProperties = o := SortedMap.ext_get? fun k => by
    rw [Field.get?_toProperties_of_ofProperties hf]
    cases hv : o.get? k with
    | none => rfl
    | some v => rw [Option.map_some, (hdeclarable k v hv).rewritten]
  exact ⟨hsame ▸ hdeclarable, hsame ▸ hf⟩

theorem Spelled.paired (h : Spelled f) :
    Paired (fieldTokens f) (f.toProperties.entries.map fun e => (e.1, String.ofList (valueText e.2))) := by
  refine ⟨?_, ?_⟩
  · rw [fieldTokens, List.forall₂_map_left_iff, List.forall₂_map_right_iff, List.forall₂_same]
    exact fun e he => (h.declarable e.1 e.2 (SortedMap.get?_eq_some_iff.mpr he)).writes
  · rw [List.map_map]
    exact f.toProperties.keys_nodup

/-- A declared field is read from its own tokens. -/
theorem Spelled.readField (h : Spelled f) (position : Nat) : readField position (fieldTokens f) = .ok f := by
  obtain ⟨o, ho, hholds⟩ := h.paired.foldlM position
  have hsame : o = f.toProperties := SortedMap.ext_get? fun k => by
    rw [hholds, SortedMap.lookup_map_entries _ fun v => String.ofList (valueText v)]
    cases hv : f.toProperties.get? k with
    | none => rfl
    | some v => rw [Option.map_some, Option.map_some, String.toList_ofList, (h.declarable k v hv).value]
  have hname := (Field.nameOf_eq_ok (Field.ofProperties_eq_ok_iff.mp h.read).1).1
  rw [Schema.readField, ho, hsame]
  simp [bind, Except.bind, SortedMap.contains, hname, h.read, Except.mapError]

theorem Spelled.unbroken (h : Spelled f) : ∀ token ∈ fieldTokens f, Unbroken token := fun token htoken => by
  obtain ⟨e, he, rfl⟩ := List.mem_map.mp htoken
  exact (h.declarable e.1 e.2 (SortedMap.get?_eq_some_iff.mpr he)).unbroken

theorem Spelled.fieldTokens_ne_nil (h : Spelled f) : fieldTokens f ≠ [] := fun hnil => by
  have hname := (Field.nameOf_eq_ok (Field.ofProperties_eq_ok_iff.mp h.read).1).1
  rw [SortedMap.get?, List.map_eq_nil_iff.mp hnil] at hname
  cases hname

/-! ## Texts of schemas -/

/-- The declarations in the text of declared fields are their tokens. -/
theorem declarations_text (h : ∀ f ∈ s.toList, Spelled f) : declarations s.text = s.toList.map fieldTokens := by
  have hwords : ∀ f ∈ s.toList, Text.words (Text.joined [' '] (fieldTokens f)) = fieldTokens f := fun f hf => by
    refine Text.words_joined fun token htoken => ⟨?_, fun c hc => ((h f hf).unbroken token htoken c hc).1⟩
    obtain ⟨e, -, rfl⟩ := List.mem_map.mp htoken
    simp
  have hmap : s.toList.map (Text.words ∘ fun f => Text.joined [' '] (fieldTokens f)) = s.toList.map fieldTokens :=
    List.map_congr_left hwords
  have hsplit : ((Text.splitAt ',' s.text.toList).map Text.words).filter (!·.isEmpty) =
      (s.toList.map fieldTokens).filter (!·.isEmpty) := by
    rw [text, String.toList_ofList]
    cases hs : s.toList with
    | nil => rfl
    | cons f fs =>
        rw [← hs, Text.Pieces.eq ⟨by simp [hs], rfl, fun w hw hcomma => ?_⟩, List.map_map, hmap]
        obtain ⟨g, hg, rfl⟩ := List.mem_map.mp hw
        rcases Text.mem_joined hcomma with hc | ⟨token, htoken, hc⟩
        · exact absurd hc (by decide)
        · exact ((h g hg).unbroken token htoken _ hc).2 rfl
  rw [declarations, hsplit]
  refine List.filter_eq_self.mpr fun tokens htokens => ?_
  obtain ⟨f, hf, rfl⟩ := List.mem_map.mp htokens
  simpa using (h f hf).fieldTokens_ne_nil

theorem unbroken_of_declarations {input : String} (h : tokens ∈ declarations input) :
    ∀ token ∈ tokens, Unbroken token := fun token htoken c hc => by
  obtain ⟨part, hpart, rfl⟩ := List.mem_map.mp (List.mem_filter.mp h).1
  have hwords := Text.words_spec part
  refine ⟨(hwords.free token htoken).2 c hc, ?_⟩
  rintro rfl
  exact (Text.pieces_splitAt ',' input.toList).free part hpart (hwords.subset token htoken hc)

theorem spelled_of_parse {primaryKey : Option String} {input : String} (h : parse primaryKey input = .ok s) :
    ∀ f ∈ s.toList, Spelled f :=
  forall_of_readFields (List.forall_mem_nil _)
    (fun _ hpiece _ _ hf => spelled_of_readField (unbroken_of_declarations hpiece) hf) h

/-- Declared fields with new names are added when their tokens are read. -/
theorem readFields_fieldTokens (h : ∀ f ∈ fs, Spelled f) (hd : (s.names ++ fs.map Field.name).Nodup) :
    readFields s position (fs.map fieldTokens) = .ok { s with fields := s.fields.upsertAll fs } := by
  induction fs generalizing s position with
  | nil => rfl
  | cons f fs ih =>
      obtain ⟨hf, hfs⟩ := List.forall_mem_cons.mp h
      have hno : f.name ∉ s.names := fun hmem => (List.nodup_append.mp hd).2.2 _ hmem _ List.mem_cons_self rfl
      rw [List.map_cons, List.append_cons, ← names_add hno] at hd
      rw [List.map_cons, readFields_cons (hf.readField position) hno, ih hfs hd]
      rfl

/-- A schema that was parsed is written as text, and parsed from that text as it was. -/
theorem parse_text {primaryKey : Option String} {input : String} (h : parse primaryKey input = .ok s) :
    (∀ f ∈ s.toList, ∀ e ∈ f.toProperties.entries, Plain e.2) ∧ parse (some s.uniqueKey) s.text = .ok s := by
  have hspelled := spelled_of_parse h
  refine ⟨fun f hf e he => ?_, ?_⟩
  · rw [← ((hspelled f hf).declarable e.1 e.2 (SortedMap.get?_eq_some_iff.mpr he)).value]
    exact plain_propertyValue _ _
  · have hfields : (KeyedList.empty : KeyedList Field.name).upsertAll s.toList = s.fields :=
      KeyedList.ext (KeyedList.items_ofList_of_nodup s.names_toList_nodup)
    have hkey : (ofFields s.uniqueKey []).uniqueKey = s.uniqueKey := by
      rw [ofFields, (Made.parse h).built.uniqueKey]
      rfl
    have hd : ((ofFields s.uniqueKey []).names ++ s.toList.map Field.name).Nodup := s.names_toList_nodup
    rw [parse, declarations_text hspelled, Option.getD_some, readFields_fieldTokens hspelled hd]
    exact congrArg Except.ok (congrArg₂ Schema.mk hkey hfields)

/-- A number with a sign and leading zeros, a number that no longer fits, a value with a colon, and none; and a second
field with a type and a flag. -/
def boosted : Schema :=
  .ofFields "sku" [((((Field.untyped "price").withProperty "boost" (.number (.int 7))).withProperty
    "limit" (.string "9223372036854775808")).withProperty "note" (.string "")).withProperty "url" (.string "a:b"),
    (Field.typed "total" .int).withStored false]

theorem parse_text_boosted :
    parse (some "sku")
      "name:price url:a:b boost:+007 note: limit:9223372036854775808, type:int stored:false name:total" =
        .ok boosted ∧
    boosted.text =
      "boost:7 limit:9223372036854775808 name:price note: url:a:b,name:total stored:false type:int" ∧
    parse (some "sku") boosted.text = .ok boosted := by
  have h : parse (some "sku")
      "name:price url:a:b boost:+007 note: limit:9223372036854775808, type:int stored:false name:total" =
        .ok boosted := rfl
  exact ⟨h, by decide +kernel, (parse_text h).2⟩

end Schema

end TableIndex
