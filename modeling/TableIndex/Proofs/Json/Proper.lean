import TableIndex.Json.Reader
import TableIndex.Proofs.Map.Sorted
import TableIndex.Proofs.Number.Rounding

/-!
# Values with proper doubles

The doubles in a value are those that exist. Whatever is read from a text is such a value.
-/

namespace TableIndex.Decimal

variable {x y : Binary64} {e : Int} {negative : Bool}

theorem powerOfTen_pos {e : Nat} (he : e ≤ 308) : 0 < (powerOfTen e).mantissa := by
  have hone : (1 : ℚ) ≤ 10 ^ e := one_le_pow₀ (by norm_num)
  have hq : ((Nat.pow 10 e : Nat) / (1 : Nat) : ℚ) = 10 ^ e := by
    push_cast [Nat.pow_eq]
    exact div_one _
  have hgreatest : (10 : ℚ) ^ e ≤ (2 * Binary64.leastNormal - 1) * 2 ^ Binary64.greatestExponent :=
    calc (10 : ℚ) ^ e ≤ 10 ^ 308 := pow_le_pow_right₀ (by norm_num) he
      _ = (10 ^ 77) ^ 4 := pow_mul 10 77 4
      _ ≤ (2 * Binary64.leastNormal - 1) * ((2 ^ 194) ^ 5 * 2) := by norm_num [Binary64.leastNormal]
      _ = (2 * Binary64.leastNormal - 1) * 2 ^ Binary64.greatestExponent := by
        rw [← pow_mul, ← pow_succ, Binary64.pow_eq_zpow (e := Binary64.greatestExponent) (by decide)]
  obtain ⟨x, hx⟩ := Binary64.exists_ofRatio false (Nat.pow_pos (by decide)) one_pos (hq.le.trans hgreatest)
  have hpos := Binary64.ofRatio_pos one_pos (hone.trans hq.ge) hx
  rwa [powerOfTen, Binary64.ofNat, Nat.pow_eq, hx]

-- Without this, the step below is found by computing `10 ^ 308`.
attribute [local irreducible] powerOfTen

theorem scale_succ (x : Binary64) (e : Int) (steps : Nat) : scale x e (steps + 1) =
    if e.natAbs ≤ 308 then
      if 0 ≤ e then x.mul (powerOfTen e.natAbs) else x.div (powerOfTen e.natAbs)
    else if x.isZero then some x
    else if 0 ≤ e then none
    else match x.div (powerOfTen 308) with
      | some y => scale y (e + 308) steps
      | none => none := rfl

theorem scale_proper (hx : x.Proper) {steps : Nat} (h : scale x e steps = some y) : y.Proper := by
  induction steps generalizing x e with
  | zero => exact Option.some.inj h ▸ hx
  | succ steps ih =>
      rw [scale_succ] at h
      split at h
      case isTrue he =>
        split at h
        · exact Binary64.mul_proper h
        · exact Binary64.div_proper (powerOfTen_pos he) h
      case isFalse =>
        split at h
        · exact Option.some.inj h ▸ hx
        · split at h
          · cases h
          · split at h
            case h_1 z hz => exact ih (Binary64.div_proper (powerOfTen_pos (Nat.le_refl 308)) hz) h
            case h_2 => cases h

theorem Digits.toBinary64?_proper {d : Digits} (h : d.toBinary64? negative = some y) : y.Proper := by
  obtain ⟨x, hx, h⟩ := Option.bind_eq_some_iff.mp h
  obtain ⟨z, hz, h⟩ := Option.bind_eq_some_iff.mp h
  have hz := scale_proper (Binary64.ofRatio_proper one_pos hx) hz
  cases h
  split
  · exact hz.neg
  · exact hz

end TableIndex.Decimal

namespace TableIndex.Json

/-- Whole numbers have no bound here; a double is one of those that exist. -/
def Number.Proper : Number → Prop
  | .int _ => True
  | .float x => x.Proper

mutual

/-- The doubles in a value are proper. -/
def Proper : Json → Prop
  | .number n => n.Proper
  | .array items => ProperItems items
  | .object members => ProperMembers members
  | _ => True

/-- The doubles in the items of an array are proper. -/
def ProperItems : List Json → Prop
  | [] => True
  | v :: vs => v.Proper ∧ ProperItems vs

/-- The doubles in the members of an object are proper. -/
def ProperMembers : List (String × Json) → Prop
  | [] => True
  | (_, v) :: vs => v.Proper ∧ ProperMembers vs

end

theorem properMembers_iff {members : List (String × Json)} :
    ProperMembers members ↔ ∀ m ∈ members, m.2.Proper := by
  induction members with
  | nil => exact ⟨fun _ => nofun, fun _ => trivial⟩
  | cons m ms ih => rw [ProperMembers, ih, List.forall_mem_cons]

theorem proper_ofObject_iff {o : Object} : (ofObject o).Proper ↔ ∀ k v, o.get? k = some v → v.Proper := by
  simp only [ofObject, Proper, properMembers_iff, SortedMap.get?_eq_some_iff]
  exact ⟨fun h k v hmem => h (k, v) hmem, fun h m hmem => h m.1 m.2 hmem⟩

theorem proper_insert {o : Object} {k : String} {v : Json} (ho : (ofObject o).Proper) (hv : v.Proper) :
    (ofObject (o.insert k v)).Proper := by
  rw [proper_ofObject_iff] at ho ⊢
  intro l w hget
  rw [SortedMap.get?_insert] at hget
  split at hget
  · cases hget
    exact hv
  · exact ho l w hget

theorem proper_foldl_insert {members : List (String × Json)} (h : ProperMembers members) {o : Object}
    (ho : (ofObject o).Proper) : (ofObject (members.foldl (fun o m => o.insert m.1 m.2) o)).Proper := by
  induction members generalizing o with
  | nil => exact ho
  | cons m ms ih => exact ih h.2 (proper_insert ho h.1)

/-! ## Values that are read -/

theorem toNumber?_proper {t : NumberText} {n : Number} (h : t.toNumber? = some n) : n.Proper := by
  have hdouble (h : t.toBinary64?.map Number.float = some n) : n.Proper := by
    obtain ⟨x, hx, rfl⟩ := Option.map_eq_some_iff.mp h
    rw [NumberText.toBinary64?] at hx
    split at hx
    · exact Decimal.Digits.toBinary64?_proper hx
    · obtain ⟨ds, -, hx⟩ := Option.bind_eq_some_iff.mp hx
      exact Decimal.Digits.toBinary64?_proper hx
  rw [NumberText.toNumber?] at h
  split at h
  · dsimp only at h
    split at h
    · cases h
      trivial
    · split at h
      · cases h
        trivial
      · exact hdouble h
  · exact hdouble h

mutual

/-- The doubles in a value that is read are proper. -/
theorem toJson?_proper (f : Form) {depth : Nat} {v : Json} (h : f.toJson? depth = some v) : v.Proper := by
  match f with
  | .null =>
      cases h
      trivial
  | .bool b =>
      cases h
      trivial
  | .number t =>
      obtain ⟨n, hn, rfl⟩ := Option.map_eq_some_iff.mp (by rwa [Form.toJson?] at h)
      exact toNumber?_proper hn
  | .string ps =>
      obtain ⟨s, -, rfl⟩ := Option.map_eq_some_iff.mp (by rwa [Form.toJson?] at h)
      trivial
  | .array items =>
      rw [Form.toJson?] at h
      split at h
      · cases h
      · obtain ⟨vs, hvs, rfl⟩ := Option.map_eq_some_iff.mp h
        exact itemsToJson?_proper items hvs
  | .object members =>
      rw [Form.toJson?] at h
      split at h
      · cases h
      · obtain ⟨ms, hms, rfl⟩ := Option.map_eq_some_iff.mp h
        exact proper_foldl_insert (membersToJson?_proper members hms) trivial

theorem itemsToJson?_proper (fs : List Form) {depth : Nat} {vs : List Json} (h : itemsToJson? depth fs = some vs) :
    ProperItems vs := by
  match fs with
  | [] =>
      cases h
      trivial
  | f :: fs =>
      rw [itemsToJson?] at h
      obtain ⟨v, hv, h⟩ := Option.bind_eq_some_iff.mp h
      obtain ⟨ws, hws, h⟩ := Option.bind_eq_some_iff.mp h
      cases h
      exact ⟨toJson?_proper f hv, itemsToJson?_proper fs hws⟩

theorem membersToJson?_proper (fs : List (List Piece × Form)) {depth : Nat} {ms : List (String × Json)}
    (h : membersToJson? depth fs = some ms) : ProperMembers ms := by
  match fs with
  | [] =>
      cases h
      trivial
  | (ps, f) :: fs =>
      rw [membersToJson?] at h
      obtain ⟨k, -, h⟩ := Option.bind_eq_some_iff.mp h
      obtain ⟨v, hv, h⟩ := Option.bind_eq_some_iff.mp h
      obtain ⟨ws, hws, h⟩ := Option.bind_eq_some_iff.mp h
      cases h
      exact ⟨toJson?_proper f hv, membersToJson?_proper fs hws⟩

end

/-- A value that is read from a text has no doubles but those that exist. -/
theorem parse?_proper {text : String} {v : Json} (h : parse? text = some v) : v.Proper := by
  obtain ⟨f, -, h⟩ := Option.bind_eq_some_iff.mp h
  exact toJson?_proper f h

end TableIndex.Json
