import TableIndex.Naming
import TableIndex.Proofs.Text.Cutting

/-!
# Which tables share a physical name

Domain and table are joined by a bar that either of them may hold. Two names are the same exactly if domains and
tables are, or if one domain continues the other one behind a bar, and the tables make up for it
(`qualify_eq_iff`).
-/

namespace TableIndex.NamingPolicy

variable {p r : NamingPolicy} {s t q : String}

theorem eq_of_qualify (h : p.qualify t = some q) : q = p.tenantDomain ++ "_" ++ t := by
  rw [qualify] at h
  split at h
  · cases h
  · exact (Option.some.inj h).symm

theorem qualify_of_not_blank (p : NamingPolicy) (h : Text.isBlank t = false) :
    p.qualify t = some (p.tenantDomain ++ "_" ++ t) := by
  rw [qualify, if_neg (by simp [h])]

/-- Two tables have different physical names. -/
theorem qualify_injective (hs : p.qualify s = some q) (ht : p.qualify t = some q) : s = t :=
  (String.append_right_inj _).mp ((eq_of_qualify hs).symm.trans (eq_of_qualify ht))

/-- A physical name is not that of the table. -/
theorem qualify_ne (h : p.qualify t = some q) : q ≠ t := by
  intro he
  have hlength := congrArg String.length ((eq_of_qualify h).symm.trans he)
  have hbar : "_".length = 1 := rfl
  simp only [String.length_append, hbar] at hlength
  omega

/-! ## Names around a bar -/

theorem eq_around_bar_iff {q a b : String} : q = a ++ "_" ++ b ↔ q.toList = a.toList ++ '_' :: b.toList := by
  rw [← String.toList_inj, String.toList_append, String.toList_append, List.append_assoc]
  rfl

theorem around_bar_eq_iff {a b a' b' : String} : a ++ "_" ++ b = a' ++ "_" ++ b' ↔
    (a = a' ∧ b = b') ∨ (∃ w, a' = a ++ "_" ++ w ∧ b = w ++ "_" ++ b') ∨
      ∃ w, a = a' ++ "_" ++ w ∧ b' = w ++ "_" ++ b := by
  simp only [eq_around_bar_iff, String.toList_append, List.append_assoc]
  rw [show "_".toList ++ b.toList = '_' :: b.toList from rfl, Text.append_cons_eq_iff]
  have hword : ∀ P : List Char → Prop, (∃ w, P w) ↔ ∃ w : String, P w.toList := fun P =>
    ⟨fun ⟨w, h⟩ => ⟨.ofList w, String.toList_ofList.symm ▸ h⟩, fun ⟨w, h⟩ => ⟨w.toList, h⟩⟩
  rw [hword, hword, String.toList_inj, String.toList_inj]

/-- The domain of `r` continues that of `p` behind a bar, and the table `s` starts with what is left of it. -/
def Continues (p r : NamingPolicy) (s t : String) : Prop :=
  ∃ w, r.tenantDomain = p.tenantDomain ++ "_" ++ w ∧ s = w ++ "_" ++ t

theorem Continues.ne (h : Continues p r s t) : p.tenantDomain ≠ r.tenantDomain ∧ s ≠ t := by
  obtain ⟨w, hdomain, htable⟩ := h
  have hbar : "_".length = 1 := rfl
  refine ⟨fun he => ?_, fun he => ?_⟩
  · have hlength := congrArg String.length (he.trans hdomain)
    simp only [String.length_append, hbar] at hlength
    omega
  · have hlength := congrArg String.length (he.symm.trans htable)
    simp only [String.length_append, hbar] at hlength
    omega

/-- Two tables have the same physical name exactly if they are one table of one domain, or if the domain of one of
them continues the other one behind a bar and the table of the other one starts with what is left of it. So within a
domain no two tables share a name, and no table has the same name in two domains. -/
theorem qualify_eq_iff (hs : Text.isBlank s = false) (ht : Text.isBlank t = false) :
    (p.qualify s = r.qualify t ↔
      (p.tenantDomain = r.tenantDomain ∧ s = t) ∨ Continues p r s t ∨ Continues r p t s) ∧
    (p.qualify s = r.qualify t → (p.tenantDomain = r.tenantDomain ↔ s = t)) := by
  have hiff : p.qualify s = r.qualify t ↔
      (p.tenantDomain = r.tenantDomain ∧ s = t) ∨ Continues p r s t ∨ Continues r p t s := by
    rw [qualify_of_not_blank p hs, qualify_of_not_blank r ht, Option.some_inj, around_bar_eq_iff]
    rfl
  refine ⟨hiff, fun h => ?_⟩
  rcases hiff.mp h with ⟨hdomain, htable⟩ | h | h
  · exact iff_of_true hdomain htable
  · exact iff_of_false h.ne.1 h.ne.2
  · exact iff_of_false h.ne.1.symm h.ne.2.symm

theorem qualify_eq_iff_continued :
    Text.isBlank "EU_orders" = false ∧ Text.isBlank "orders" = false ∧
    Continues (.ofDomain "acme") (.ofDomain "acme_eu") "EU_orders" "orders" ∧
    (ofDomain "acme").qualify "EU_orders" = (ofDomain "acme_eu").qualify "orders" ∧
    (ofDomain "acme").qualify "orders" ≠ (ofDomain "acme_eu").qualify "orders" := by
  have heu : Text.isBlank "EU_orders" = false := by decide
  have horders : Text.isBlank "orders" = false := by decide
  have hcontinues : Continues (.ofDomain "acme") (.ofDomain "acme_eu") "EU_orders" "orders" :=
    ⟨"EU", by decide, by decide⟩
  refine ⟨heu, horders, hcontinues, (qualify_eq_iff heu horders).1.mpr (.inr (.inl hcontinues)), fun h => ?_⟩
  have hdomain := ((qualify_eq_iff horders horders).2 h).mpr rfl
  exact absurd hdomain (by decide)

/-- Two tables of two domains with one physical name. -/
theorem not_collision_free :
    (ofDomain "acme").qualify "EU_orders" = (ofDomain "acme_eu").qualify "orders" ∧
    Text.isBlank "EU_orders" = false ∧ Text.isBlank "orders" = false ∧
    (ofDomain "acme").tenantDomain ≠ (ofDomain "acme_eu").tenantDomain ∧ "EU_orders" ≠ "orders" := by
  decide

end TableIndex.NamingPolicy
