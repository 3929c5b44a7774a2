import Mathlib.Data.List.Forall2
import Mathlib.Data.List.Induction
import Mathlib.Data.List.Nodup
import Mathlib.Data.Nat.Digits.Defs
import TableIndex.Proofs.Field.Properties
import TableIndex.Proofs.Text.Cutting
import TableIndex.Schema.Text

/-!
# The grammar of declarations

What the tokens that declare a field must be like, and which of their faults comes first, is said without
reading them. Every declaration is well-formed or has a first fault (`formed_or_fault`), and what is read is
the field (`readField_of_formed`) or the fault (`readField_of_fault`).
-/

namespace TableIndex

namespace Schema

open TableIndex.Field (nameKey typeKey indexedKey storedKey reservedKeys)

variable {tokens : List (List Char)} {token cs ds : List Char} {pairs done : List (String × String)}
  {k v name : String} {o : Json.Object} {e : SchemaTextError} {position : Nat} {i : Int}

/-- A property that lists have holds of a list, or it is lost at a first element. -/
theorem all_or_first {α : Type} {P : List α → Prop} {Q : List α → α → Prop} (hnil : P [])
    (hstep : ∀ as a, P as → P (as ++ [a]) ∨ Q as a) (as : List α) :
    P as ∨ ∃ before a after, as = before ++ a :: after ∧ Q before a := by
  induction as using List.reverseRecOn with
  | nil => exact .inl hnil
  | append_singleton as a ih =>
      rcases ih with has | ⟨before, b, after, rfl, hb⟩
      · exact (hstep as a has).imp id fun ha => ⟨as, a, [], rfl, ha⟩
      · exact .inr ⟨before, b, after ++ [a], by rw [List.append_assoc, List.cons_append], hb⟩

/-! ## Values -/

/-- The number that decimal digits write. -/
def magnitude (ds : List Char) : Nat := Nat.ofDigits 10 (ds.reverse.map fun d => d.toNat - '0'.toNat)

/-- The whole numbers that texts write: digits after an optional sign. -/
inductive Numeral : List Char → Int → Prop where
  | unsigned {ds : List Char} : ds ≠ [] → (∀ d ∈ ds, d.isDigit = true) → Numeral ds (magnitude ds)
  | plus {ds : List Char} : ds ≠ [] → (∀ d ∈ ds, d.isDigit = true) → Numeral ('+' :: ds) (magnitude ds)
  | minus {ds : List Char} : ds ≠ [] → (∀ d ∈ ds, d.isDigit = true) → Numeral ('-' :: ds) (-magnitude ds)

/-- The numbers of 64 bits with a sign. -/
def Fits (i : Int) : Prop := -2 ^ 63 ≤ i ∧ i < 2 ^ 63

/-- The two texts that stand for truth values. -/
def IsFlag (v : String) : Prop := v = "true" ∨ v = "false"

/-- What a text stands for as the value of a further property. -/
inductive Scalar : String → Json → Prop where
  | flag (b : Bool) : Scalar (toString b) (.bool b)
  | number {v : String} {i : Int} : Numeral v.toList i → Fits i → Scalar v (.number (.int i))
  | text {v : String} : ¬IsFlag v → (∀ i, Numeral v.toList i → ¬Fits i) → Scalar v (.string v)

theorem isFlag_toString (b : Bool) : IsFlag (toString b) := by
  cases b
  · exact .inr rfl
  · exact .inl rfl

theorem foldl_digits (ds : List Char) : ds.foldl (fun n c => n * 10 + (c.toNat - '0'.toNat)) 0 = magnitude ds := by
  rw [magnitude, List.foldl_eq_foldr_reverse]
  induction ds.reverse with
  | nil => rfl
  | cons d rs ih =>
      rw [List.foldr_cons, ih, List.map_cons, Nat.ofDigits_cons]
      exact (Nat.add_comm ..).trans (congrArg _ (Nat.mul_comm ..))

theorem signed?_eq_some_iff {negative : Bool} : signed? negative ds = some i ↔
    (ds ≠ [] ∧ ∀ d ∈ ds, d.isDigit = true) ∧ (if negative then -magnitude ds else magnitude ds : Int) = i ∧ Fits i := by
  have hdigits : (ds.isEmpty || !ds.all Char.isDigit) = false ↔ ds ≠ [] ∧ ∀ d ∈ ds, d.isDigit = true := by
    simp [List.all_eq_true]
  rw [signed?, foldl_digits, ← hdigits]
  cases ds.isEmpty || !ds.all Char.isDigit with
  | true => simp
  | false =>
      simp only [Bool.false_eq_true, ↓reduceIte, true_and, Option.ite_none_right_eq_some, Option.some.injEq]
      exact ⟨fun ⟨hfits, hi⟩ => ⟨hi, hi ▸ hfits⟩, fun ⟨hi, hfits⟩ => ⟨hi ▸ hfits, hi⟩⟩

theorem int64?_eq_some_iff : int64? cs = some i ↔ Numeral cs i ∧ Fits i := by
  constructor
  · intro h
    unfold int64? at h
    split at h
    · obtain ⟨⟨hne, hds⟩, rfl, hfits⟩ := signed?_eq_some_iff.mp h
      exact ⟨.minus hne hds, hfits⟩
    · obtain ⟨⟨hne, hds⟩, rfl, hfits⟩ := signed?_eq_some_iff.mp h
      exact ⟨.plus hne hds, hfits⟩
    · obtain ⟨⟨hne, hds⟩, rfl, hfits⟩ := signed?_eq_some_iff.mp h
      exact ⟨.unsigned hne hds, hfits⟩
  · rintro ⟨hnumeral, hfits⟩
    cases hnumeral with
    | unsigned hne hds =>
        unfold int64?
        split
        -- A sign is no digit.
        · exact absurd (hds '-' List.mem_cons_self) (by decide)
        · exact absurd (hds '+' List.mem_cons_self) (by decide)
        · exact signed?_eq_some_iff.mpr ⟨⟨hne, hds⟩, rfl, hfits⟩
    | plus hne hds => exact signed?_eq_some_iff.mpr ⟨⟨hne, hds⟩, rfl, hfits⟩
    | minus hne hds => exact signed?_eq_some_iff.mpr ⟨⟨hne, hds⟩, rfl, hfits⟩

theorem int64?_of_isFlag (h : IsFlag v) : int64? v.toList = none := by
  rcases h with rfl | rfl <;> decide

theorem scalar_of_not_isFlag (h : ¬IsFlag v) :
    scalar v.toList = (int64? v.toList).elim (.string v) fun i => .number (.int i) := by
  obtain ⟨htrue, hfalse⟩ := not_or.mp h
  rw [scalar, if_neg fun he => htrue (String.toList_inj.mp he), if_neg fun he => hfalse (String.toList_inj.mp he),
    String.ofList_toList]
  cases int64? v.toList <;> rfl

theorem scalar_iff {value : Json} : Scalar v value ↔ scalar v.toList = value := by
  constructor
  · intro h
    cases h with
    | flag b => cases b <;> rfl
    | number hnumeral hfits =>
        have hi := int64?_eq_some_iff.mpr ⟨hnumeral, hfits⟩
        have hflag : ¬IsFlag v := fun hflag => by cases (int64?_of_isFlag hflag).symm.trans hi
        rw [scalar_of_not_isFlag hflag, hi, Option.elim_some]
    | text hflag hno =>
        have hnone : int64? v.toList = none := Option.eq_none_iff_forall_ne_some.mpr fun i hi =>
          hno i (int64?_eq_some_iff.mp hi).1 (int64?_eq_some_iff.mp hi).2
        rw [scalar_of_not_isFlag hflag, hnone, Option.elim_none]
  · rintro rfl
    by_cases hflag : IsFlag v
    · rcases hflag with rfl | rfl
      · exact .flag true
      · exact .flag false
    · rw [scalar_of_not_isFlag hflag]
      cases hi : int64? v.toList with
      | some i => exact .number (int64?_eq_some_iff.mp hi).1 (int64?_eq_some_iff.mp hi).2
      | none =>
          refine .text hflag fun i hnumeral hfits => ?_
          cases hi.symm.trans (int64?_eq_some_iff.mpr ⟨hnumeral, hfits⟩)

/-! ## Pairs -/

/-- A token writes a pair: what stands before its first colon, which is not nothing, and what stands after it. -/
structure Writes (token : List Char) (pair : String × String) : Prop where
  text : token = pair.1.toList ++ ':' :: pair.2.toList
  key : pair.1 ≠ ""
  first : ':' ∉ pair.1.toList

/-- Tokens that write pairs with distinct keys. -/
structure Paired (tokens : List (List Char)) (pairs : List (String × String)) : Prop where
  written : List.Forall₂ Writes tokens pairs
  distinct : (pairs.map Prod.fst).Nodup

/-- What is wrong with a token after tokens with the given keys. -/
inductive BadToken (position : Nat) (keys : List String) (token : List Char) : SchemaTextError → Prop where
  | noColon : ':' ∉ token → BadToken position keys token (.missingSeparator position (String.ofList token))
  | noKey {value : List Char} : token = ':' :: value → BadToken position keys token (.emptyKey position)
  | repeated {k v : String} : Writes token (k, v) → k ∈ keys → BadToken position keys token (.duplicateProperty position k)

/-- The object in which the pairs are kept. -/
def Holds (pairs : List (String × String)) (o : Json.Object) : Prop :=
  ∀ k, o.get? k = (pairs.lookup k).map fun v => propertyValue k v.toList

theorem lookup_eq_none_iff_not_mem : pairs.lookup k = none ↔ k ∉ pairs.map Prod.fst := by
  simp only [List.lookup_eq_none_iff, bne_iff_ne, List.mem_map, not_exists, not_and]
  exact forall_congr' fun pair => forall_congr' fun _ => ne_comm

theorem Holds.contains_eq (h : Holds pairs o) (k : String) : o.contains k = (pairs.lookup k).isSome := by
  rw [SortedMap.contains, h, Option.isSome_map]

theorem Holds.contains_iff (h : Holds pairs o) : o.contains k = true ↔ k ∈ pairs.map Prod.fst := by
  rw [h.contains_eq, Option.isSome_iff_ne_none, ne_eq, lookup_eq_none_iff_not_mem, Decidable.not_not]

theorem Holds.snoc (h : Holds pairs o) (hk : k ∉ pairs.map Prod.fst) :
    Holds (pairs ++ [(k, v)]) (o.insert k (propertyValue k v.toList)) := fun k' => by
  rw [SortedMap.get?_insert, List.lookup_append, h]
  by_cases hkk : k = k'
  · obtain rfl := hkk
    rw [if_pos rfl, lookup_eq_none_iff_not_mem.mpr hk, Option.none_or, List.lookup_cons_self]
    rfl
  · have hnone : [(k, v)].lookup k' = none :=
      lookup_eq_none_iff_not_mem.mpr fun hk' => hkk (List.mem_singleton.mp hk').symm
    rw [if_neg hkk, hnone, Option.or_none]

theorem Writes.splitFirst (h : Writes token (k, v)) : Text.splitFirst ':' token = some (k.toList, v.toList) :=
  Text.splitFirst_eq_some_iff.mpr ⟨h.text, h.first⟩

theorem readPair_of_writes (h : Writes token (k, v)) (ho : Holds pairs o) (hk : k ∉ pairs.map Prod.fst) :
    readPair position o token = .ok (o.insert k (propertyValue k v.toList)) := by
  have hno : ¬o.contains k = true := fun hc => hk (ho.contains_iff.mp hc)
  rw [readPair, h.splitFirst]
  simp only [String.ofList_toList, if_neg h.key, if_neg hno]

theorem readPair_of_bad (ho : Holds pairs o) (h : BadToken position (pairs.map Prod.fst) token e) :
    readPair position o token = .error e := by
  cases h with
  | noColon hno => rw [readPair, Text.splitFirst_eq_none_iff.mpr hno]
  | noKey htoken =>
      rw [readPair, Text.splitFirst_eq_some_iff.mpr ⟨htoken, List.not_mem_nil⟩]
      rfl
  | repeated hw hk =>
      rw [readPair, hw.splitFirst]
      simp only [String.ofList_toList, if_neg hw.key, if_pos (ho.contains_iff.mpr hk)]

theorem writes_or_bad (position : Nat) (keys : List String) (token : List Char) :
    (∃ k v, Writes token (k, v) ∧ k ∉ keys) ∨ ∃ e, BadToken position keys token e := by
  cases hs : Text.splitFirst ':' token with
  | none => exact .inr ⟨_, .noColon (Text.splitFirst_eq_none_iff.mp hs)⟩
  | some ab =>
      obtain ⟨a, b⟩ := ab
      obtain ⟨htoken, hfirst⟩ := Text.splitFirst_eq_some_iff.mp hs
      by_cases ha : a = []
      · exact .inr ⟨_, .noKey (ha ▸ htoken)⟩
      · have hw : Writes token (String.ofList a, String.ofList b) :=
          ⟨by simpa using htoken, by simpa using ha, by simpa using hfirst⟩
        by_cases hk : String.ofList a ∈ keys
        · exact .inr ⟨_, .repeated hw hk⟩
        · exact .inl ⟨_, _, hw, hk⟩

theorem Paired.snoc (h : Paired tokens pairs) (hw : Writes token (k, v)) (hk : k ∉ pairs.map Prod.fst) :
    Paired (tokens ++ [token]) (pairs ++ [(k, v)]) := by
  refine ⟨List.rel_append h.written (.cons hw .nil), ?_⟩
  rw [List.map_append]
  exact List.concat_eq_append ▸ h.distinct.concat hk

/-- The tokens write pairs, or there is a first one that does not. -/
theorem paired_or_bad (position : Nat) (tokens : List (List Char)) : (∃ pairs, Paired tokens pairs) ∨
    ∃ before token after, tokens = before ++ token :: after ∧
      ∃ pairs e, Paired before pairs ∧ BadToken position (pairs.map Prod.fst) token e := by
  refine all_or_first (P := fun tokens => ∃ pairs, Paired tokens pairs) ?_ ?_ tokens
  · exact ⟨[], .nil, .nil⟩
  · rintro tokens token ⟨pairs, hpairs⟩
    rcases writes_or_bad position (pairs.map Prod.fst) token with ⟨k, v, hw, hk⟩ | ⟨e, hbad⟩
    · exact .inl ⟨pairs ++ [(k, v)], hpairs.snoc hw hk⟩
    · exact .inr ⟨pairs, e, hpairs, hbad⟩

theorem foldlM_readPair (position : Nat) (hw : List.Forall₂ Writes tokens pairs)
    (hd : ((done ++ pairs).map Prod.fst).Nodup) (ho : Holds done o) :
    ∃ o', tokens.foldlM (readPair position) o = .ok o' ∧ Holds (done ++ pairs) o' := by
  induction hw generalizing done o with
  | nil => exact ⟨o, rfl, by rwa [List.append_nil]⟩
  | @cons token pair tokens pairs hw _ ih =>
      obtain ⟨k, v⟩ := pair
      have hk : k ∉ done.map Prod.fst := fun hk => by
        rw [List.map_append, List.nodup_append] at hd
        exact hd.2.2 k hk k List.mem_cons_self rfl
      rw [List.append_cons] at hd ⊢
      obtain ⟨o', ho', hholds⟩ := ih hd (ho.snoc hk)
      exact ⟨o', by rw [List.foldlM_cons, readPair_of_writes hw ho hk]; exact ho', hholds⟩

theorem Paired.foldlM (h : Paired tokens pairs) (position : Nat) :
    ∃ o, tokens.foldlM (readPair position) .empty = .ok o ∧ Holds pairs o := by
  rw [← List.nil_append pairs]
  exact foldlM_readPair position h.written h.distinct fun _ => rfl

/-! ## Declarations -/

/-- Tokens that write pairs and name a field. -/
structure Named (tokens : List (List Char)) (pairs : List (String × String)) (name : String) : Prop where
  paired : Paired tokens pairs
  named : pairs.lookup nameKey = some name
  nonempty : name ≠ ""

/-- Under a key there is nothing, or a truth value. -/
def Flagged (pairs : List (String × String)) (key : String) : Prop := ∀ v, pairs.lookup key = some v → IsFlag v

/-- Well-formed declarations. -/
structure Formed (tokens : List (List Char)) (pairs : List (String × String)) (name : String) : Prop
    extends Named tokens pairs name where
  type : pairs.lookup typeKey ≠ some ""
  indexed : Flagged pairs indexedKey
  stored : Flagged pairs storedKey

/-- What is wrong with a declaration: the first fault in the order of reading. -/
inductive Fault (position : Nat) : List (List Char) → SchemaTextError → Prop where
  | token {before after : List (List Char)} {token : List Char} {pairs : List (String × String)}
      {e : SchemaTextError} : Paired before pairs → BadToken position (pairs.map Prod.fst) token e →
      Fault position (before ++ token :: after) e
  | noName {tokens : List (List Char)} {pairs : List (String × String)} : Paired tokens pairs →
      pairs.lookup nameKey = none → Fault position tokens (.missingName position)
  | emptyName {tokens : List (List Char)} {pairs : List (String × String)} : Paired tokens pairs →
      pairs.lookup nameKey = some "" → Fault position tokens (.invalidField .missingName)
  | type {tokens : List (List Char)} {pairs : List (String × String)} {name : String} :
      Named tokens pairs name → pairs.lookup typeKey = some "" →
      Fault position tokens (.invalidField (.invalidProperty name typeKey (.string "")))
  | indexed {tokens : List (List Char)} {pairs : List (String × String)} {name v : String} {value : Json} :
      Named tokens pairs name → pairs.lookup typeKey ≠ some "" → pairs.lookup indexedKey = some v → ¬IsFlag v →
      Scalar v value → Fault position tokens (.invalidField (.invalidProperty name indexedKey value))
  | stored {tokens : List (List Char)} {pairs : List (String × String)} {name v : String} {value : Json} :
      Named tokens pairs name → pairs.lookup typeKey ≠ some "" → Flagged pairs indexedKey →
      pairs.lookup storedKey = some v → ¬IsFlag v → Scalar v value →
      Fault position tokens (.invalidField (.invalidProperty name storedKey value))

/-- What the field is like that pairs declare, its name apart. -/
structure Declares (pairs : List (String × String)) (f : Field) : Prop where
  type : f.type = (pairs.lookup typeKey).map .ofName
  typeName : f.type.map FieldType.name = pairs.lookup typeKey
  indexed : pairs.lookup indexedKey = f.indexed.map toString
  stored : pairs.lookup storedKey = f.stored.map toString
  property : ∀ k, k ∉ reservedKeys → Option.Rel Scalar (pairs.lookup k) (f.property? k)
  reserved : ∀ k ∈ reservedKeys, f.property? k = none

theorem exists_of_not_flagged (h : ¬Flagged pairs k) : ∃ v, pairs.lookup k = some v ∧ ¬IsFlag v := by
  simpa [Flagged] using h

/-- A declaration is well-formed or has a first fault. -/
theorem formed_or_fault (position : Nat) (tokens : List (List Char)) :
    (∃ pairs name, Formed tokens pairs name) ∨ ∃ e, Fault position tokens e := by
  rcases paired_or_bad position tokens with ⟨pairs, hpairs⟩ | ⟨before, token, after, rfl, pairs, e, hpairs, hbad⟩
  · cases hname : pairs.lookup nameKey with
    | none => exact .inr ⟨_, .noName hpairs hname⟩
    | some name =>
        by_cases hne : name = ""
        · exact .inr ⟨_, .emptyName hpairs (hne ▸ hname)⟩
        · have hnamed : Named tokens pairs name := ⟨hpairs, hname, hne⟩
          by_cases htype : pairs.lookup typeKey = some ""
          · exact .inr ⟨_, .type hnamed htype⟩
          · by_cases hindexed : Flagged pairs indexedKey
            · by_cases hstored : Flagged pairs storedKey
              · exact .inl ⟨pairs, name, hnamed, htype, hindexed, hstored⟩
              · obtain ⟨v, hv, hflag⟩ := exists_of_not_flagged hstored
                exact .inr ⟨_, .stored hnamed htype hindexed hv hflag (scalar_iff.mpr rfl)⟩
            · obtain ⟨v, hv, hflag⟩ := exists_of_not_flagged hindexed
              exact .inr ⟨_, .indexed hnamed htype hv hflag (scalar_iff.mpr rfl)⟩
  · exact .inr ⟨e, .token hpairs hbad⟩

/-! ## Reading declarations -/

/-- No token holds a blank. -/
def Solid (tokens : List (List Char)) : Prop := ∀ token ∈ tokens, ∀ c ∈ token, Text.isSpace c = false

theorem exists_token {pair : String × String} (h : List.Forall₂ Writes tokens pairs) (hp : pair ∈ pairs) :
    ∃ token ∈ tokens, Writes token pair := by
  induction h with
  | nil => cases hp
  | cons hw _ ih =>
      rcases List.mem_cons.mp hp with rfl | hp
      · exact ⟨_, List.mem_cons_self, hw⟩
      · obtain ⟨token, htoken, hw⟩ := ih hp
        exact ⟨token, List.mem_cons_of_mem _ htoken, hw⟩

/-- In tokens without blanks only the empty value is blank. -/
theorem Paired.isBlank_eq_false (h : Paired tokens pairs) (hsolid : Solid tokens) (hv : pairs.lookup k = some v)
    (hne : v ≠ "") : Text.isBlank v = false := by
  obtain ⟨before, after, rfl, -⟩ := List.lookup_eq_some_iff.mp hv
  obtain ⟨token, htoken, hw⟩ := exists_token h.written (List.mem_append_right _ List.mem_cons_self)
  obtain ⟨c, hc⟩ := List.exists_mem_of_ne_nil v.toList (by simpa using hne)
  have hspace : Text.isSpace c = false := hsolid token htoken c (by simp [hw.text, hc])
  exact Bool.eq_false_iff.mpr fun hb => by simp [(Text.isBlank_iff v).mp hb c hc] at hspace

theorem Holds.get?_text (h : Holds pairs o) (hk : k = nameKey ∨ k = typeKey) :
    o.get? k = (pairs.lookup k).map .string := by
  rw [h]
  exact congrArg (Option.map · _) (funext fun v => by rw [propertyValue, if_pos hk, String.ofList_toList])

theorem Holds.get?_scalar (h : Holds pairs o) (hk : ¬(k = nameKey ∨ k = typeKey)) :
    o.get? k = (pairs.lookup k).map fun v => scalar v.toList := by
  rw [h]
  exact congrArg (Option.map · _) (funext fun v => by rw [propertyValue, if_neg hk])

theorem Holds.nameOf (h : Holds pairs o) (hname : pairs.lookup nameKey = some name)
    (hblank : Text.isBlank name = false) : Field.nameOf o = .ok name := by
  rw [Field.nameOf, h.get?_text (.inl rfl), hname, Option.map_some]
  exact if_neg (by simp [hblank])

theorem Holds.nameOf_empty (h : Holds pairs o) (hname : pairs.lookup nameKey = some "") :
    Field.nameOf o = .error .missingName := by
  rw [Field.nameOf, h.get?_text (.inl rfl), hname]
  rfl

theorem Holds.typeOf (h : Holds pairs o) (hblank : ∀ t, pairs.lookup typeKey = some t → Text.isBlank t = false)
    (name : String) : Field.typeOf name o = .ok ((pairs.lookup typeKey).map .ofName) := by
  rw [Field.typeOf, h.get?_text (.inr rfl)]
  cases htype : pairs.lookup typeKey with
  | none => rfl
  | some t => exact if_neg (by simp [hblank t htype])

theorem Holds.typeOf_empty (h : Holds pairs o) (htype : pairs.lookup typeKey = some "") (name : String) :
    Field.typeOf name o = .error (.invalidProperty name typeKey (.string "")) := by
  rw [Field.typeOf, h.get?_text (.inr rfl), htype]
  rfl

theorem Holds.flagOf (h : Holds pairs o) (hk : ¬(k = nameKey ∨ k = typeKey)) (hflag : Flagged pairs k)
    (name : String) : ∃ flag, Field.flagOf name k o = .ok flag ∧ pairs.lookup k = flag.map toString := by
  rw [Field.flagOf, h.get?_scalar hk]
  cases hv : pairs.lookup k with
  | none => exact ⟨none, rfl, rfl⟩
  | some v =>
      rcases hflag v hv with rfl | rfl
      · exact ⟨some true, rfl, rfl⟩
      · exact ⟨some false, rfl, rfl⟩

theorem Holds.flagOf_scalar {value : Json} (h : Holds pairs o) (hk : ¬(k = nameKey ∨ k = typeKey))
    (hv : pairs.lookup k = some v) (hflag : ¬IsFlag v) (hvalue : Scalar v value) (name : String) :
    Field.flagOf name k o = .error (.invalidProperty name k value) := by
  rw [Field.flagOf, h.get?_scalar hk, hv, Option.map_some, scalar_iff.mp hvalue]
  cases hvalue with
  | flag b => exact absurd (isFlag_toString b) hflag
  | number _ _ => rfl
  | text _ _ =>
      split <;> simp_all [IsFlag]

theorem Named.exists_holds (h : Named tokens pairs name) (hsolid : Solid tokens) (position : Nat) :
    ∃ o, Holds pairs o ∧ Field.nameOf o = .ok name ∧
      readField position tokens = (Field.ofProperties o).mapError .invalidField := by
  obtain ⟨o, ho, hholds⟩ := h.paired.foldlM position
  refine ⟨o, hholds, hholds.nameOf h.named (h.paired.isBlank_eq_false hsolid h.named h.nonempty), ?_⟩
  rw [readField, ho]
  simp [bind, Except.bind, hholds.contains_eq, h.named]

theorem Named.typeOf (h : Named tokens pairs name) (hsolid : Solid tokens) (ho : Holds pairs o)
    (htype : pairs.lookup typeKey ≠ some "") : Field.typeOf name o = .ok ((pairs.lookup typeKey).map .ofName) :=
  ho.typeOf (fun _ ht => h.paired.isBlank_eq_false hsolid ht fun he => htype (he ▸ ht)) name

theorem readField_eq_ok {f : Field} (h : readField position tokens = .ok f) :
    ∃ o, tokens.foldlM (readPair position) .empty = .ok o ∧ Field.ofProperties o = .ok f := by
  simp only [readField, bind, Except.bind] at h
  split at h
  · cases h
  · next o ho =>
    split at h
    · cases h
    · refine ⟨o, ho, ?_⟩
      cases hf : Field.ofProperties o with
      | error e => rw [hf] at h; cases h
      | ok g => rw [hf] at h; cases h; rfl

theorem readField_of_formed (hsolid : Solid tokens) (h : Formed tokens pairs name) (position : Nat) :
    ∃ f, readField position tokens = .ok f ∧ f.name = name ∧ Declares pairs f := by
  obtain ⟨o, ho, hname, hread⟩ := h.exists_holds hsolid position
  have htype := h.toNamed.typeOf hsolid ho h.type
  obtain ⟨indexed, hindexed, hindexed'⟩ := ho.flagOf (k := indexedKey) (by decide) h.indexed name
  obtain ⟨stored, hstored, hstored'⟩ := ho.flagOf (k := storedKey) (by decide) h.stored name
  let f : Field :=
    { name, type := (pairs.lookup typeKey).map .ofName, indexed, stored, extras := Field.extrasOf o }
  have hf : Field.ofProperties o = .ok f :=
    Field.ofProperties_eq_ok_iff.mpr ⟨hname, htype, hindexed, hstored, rfl⟩
  have htypeName : f.type.map FieldType.name = pairs.lookup typeKey := by
    have hname : FieldType.name ∘ FieldType.ofName = id := funext FieldType.name_ofName
    rw [Option.map_map, hname, Option.map_id_apply]
  refine ⟨f, by rw [hread, hf]; rfl, rfl, rfl, htypeName, hindexed', hstored', fun k hk => ?_, fun k hk => ?_⟩
  · have hkey : ¬(k = nameKey ∨ k = typeKey) := by
      rintro (rfl | rfl) <;> simp [reservedKeys] at hk
    rw [Field.property?, Field.get?_extrasOf, if_neg hk, ho.get?_scalar hkey]
    cases pairs.lookup k with
    | none => exact .none
    | some v => exact .some (scalar_iff.mpr rfl)
  · rw [Field.property?, Field.get?_extrasOf, if_pos hk]

theorem readField_of_fault (hsolid : Solid tokens) (h : Fault position tokens e) :
    readField position tokens = .error e := by
  cases h with
  | token hpairs hbad =>
      obtain ⟨o, ho, hholds⟩ := hpairs.foldlM position
      rw [readField, List.foldlM_append, ho]
      simp only [List.foldlM_cons, bind, Except.bind, readPair_of_bad hholds hbad]
  | noName hpairs hname =>
      obtain ⟨o, ho, hholds⟩ := hpairs.foldlM position
      rw [readField, ho]
      simp [bind, Except.bind, hholds.contains_eq, hname, throw, throwThe, MonadExceptOf.throw]
  | emptyName hpairs hname =>
      obtain ⟨o, ho, hholds⟩ := hpairs.foldlM position
      rw [readField, ho]
      simp [bind, Except.bind, hholds.contains_eq, hname, Field.ofProperties, hholds.nameOf_empty hname,
        Except.mapError]
  | type hnamed htype =>
      obtain ⟨o, ho, hname, hread⟩ := hnamed.exists_holds hsolid position
      simp only [hread, Field.ofProperties, bind, Except.bind, hname, ho.typeOf_empty htype, Except.mapError]
  | indexed hnamed htype hv hflag hvalue =>
      obtain ⟨o, ho, hname, hread⟩ := hnamed.exists_holds hsolid position
      simp only [hread, Field.ofProperties, bind, Except.bind, hname, hnamed.typeOf hsolid ho htype,
        ho.flagOf_scalar (by decide) hv hflag hvalue, Except.mapError]
  | @stored _ _ name _ _ hnamed htype hindexed hv hflag hvalue =>
      obtain ⟨o, ho, hname, hread⟩ := hnamed.exists_holds hsolid position
      obtain ⟨flag, hok, -⟩ := ho.flagOf (by decide) hindexed name
      simp only [hread, Field.ofProperties, bind, Except.bind, hname, hnamed.typeOf hsolid ho htype, hok,
        ho.flagOf_scalar (by decide) hv hflag hvalue, Except.mapError]

end Schema

end TableIndex
