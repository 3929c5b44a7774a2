import TableIndex.Proofs.Cluster.Programs
import TableIndex.Proofs.Naming
import TableIndex.Proofs.Schema.Reconcile

/-!
# Clusters in order

Where only services of one tenant change a cluster, every collection is on the config-set of its own name. A
table whose name does not start with the domain is then served by the collection that its name qualifies to.
-/

namespace TableIndex

/-- The name of a table does not start with the domain. -/
def NamingPolicy.IsPlain (p : NamingPolicy) (table : String) : Prop :=
  ∀ rest, table ≠ p.tenantDomain ++ "_" ++ rest

theorem NamingPolicy.isPlain_orders : IsPlain ⟨"DEFAULT"⟩ "orders" := by
  intro rest he
  have he := congrArg String.toList he
  simp at he

namespace Cluster

/-- A cluster that serves every call, with collections of one tenant on config-sets of their own, and with
legible schemas under the unique key `id`. -/
structure Tidy (p : NamingPolicy) (c : Cluster) : Prop where
  healthy : c.Healthy
  naming : c.naming = p
  own : ∀ name configSet, c.collections.get? name = some configSet → configSet = name
  there : ∀ name, c.collections.contains name = true → c.configSets.contains name = true
  domain : ∀ name, c.collections.contains name = true → ∃ rest, name = p.tenantDomain ++ "_" ++ rest
  schemas : ∀ name s, c.configSets.get? name = some s → s.Legible ∧ s.uniqueKey = Schema.idKey

variable {p : NamingPolicy} {c d : Cluster} {q table : String}

/-- Where all collections are named by the tenant, a plain table is resolved to the collection of its physical name. -/
theorem resolve?_of_plain (hnaming : c.naming = p)
    (hdomain : ∀ name, c.collections.contains name = true → ∃ rest, name = p.tenantDomain ++ "_" ++ rest)
    (hplain : p.IsPlain table) (hq : p.qualify table = some q) :
    c.resolve? table = if c.collections.contains q then some q else none := by
  have hno : ¬ c.collections.contains table = true := fun hthere => by
    obtain ⟨rest, he⟩ := hdomain table hthere
    exact hplain rest he
  rw [resolve?, if_neg hno, hnaming, hq]
  rfl

theorem tidy_fresh (p : NamingPolicy) : (fresh p).Tidy p := by
  refine ⟨⟨rfl, rfl⟩, rfl, fun _ _ h => (by cases h), fun _ h => (by cases h),
    fun _ h => (by cases h), fun name s hs => ?_⟩
  simp only [fresh, SortedMap.get?_insert, SortedMap.get?_empty] at hs
  split at hs
  · cases hs
    exact ⟨Schema.legible_baseSchema, rfl⟩
  · cases hs

namespace Tidy

theorem layout (h : c.Tidy p) (hd : c.SameLayout d) : d.Tidy p := by
  refine ⟨h.healthy.congr hd.closed hd.failures,
    hd.naming.trans h.naming, ?_, ?_, ?_, ?_⟩
  · rw [hd.collections]
    exact h.own
  · rw [hd.collections, hd.configSets]
    exact h.there
  · rw [hd.collections]
    exact h.domain
  · rw [hd.configSets]
    exact h.schemas

theorem extended (h : c.Tidy p) (hq : p.qualify table = some q) (hd : Extends q c d) : d.Tidy p := by
  have hcollection : ∀ name, d.collections.contains name = true →
      c.collections.contains name = true ∨ name = q ∧ d.configSets.contains q = true := by
    intro name hn
    rcases hd.collections name with hsame | ⟨rfl, -, -, hset⟩
    · exact .inl (by rwa [SortedMap.contains, ← hsame])
    · exact .inr ⟨rfl, hset⟩
  refine ⟨h.healthy.congr hd.closed hd.failures,
    hd.naming.trans h.naming, fun name configSet hn => ?_, fun name hn => ?_, fun name hn => ?_,
    fun name s hs => ?_⟩
  · rcases hd.collections name with hsame | ⟨rfl, -, hnew, -⟩
    · exact h.own name configSet (hsame ▸ hn)
    · exact Option.some.inj (hn.symm.trans hnew)
  · rcases hcollection name hn with hold | ⟨rfl, hset⟩
    · obtain ⟨s, hs⟩ := SortedMap.contains_iff.mp (h.there name hold)
      rcases hd.configSets name with hsame | ⟨rfl, hno, -⟩
      · exact SortedMap.contains_iff.mpr ⟨s, hsame.trans hs⟩
      · cases hno.symm.trans hs
    · exact hset
  · rcases hcollection name hn with hold | ⟨rfl, -⟩
    · exact h.domain name hold
    · exact ⟨table, NamingPolicy.eq_of_qualify hq⟩
  · rcases hd.configSets name with hsame | ⟨rfl, -, base, t, hbase, ht⟩
    · exact h.schemas name s (hsame.symm.trans hs)
    · obtain rfl : s = t := Option.some.inj (hs.symm.trans ht)
      exact h.schemas base s hbase

theorem without (h : c.Tidy p) (q : String) : (c.without q).Tidy p := by
  have hcollection : ∀ name, (c.without q).collections.contains name = true →
      q ≠ name ∧ c.collections.contains name = true := by
    intro name hn
    simpa [Cluster.without, SortedMap.contains_erase] using hn
  refine ⟨⟨h.healthy.opened, h.healthy.failures⟩, h.naming, fun name configSet hn => ?_,
    fun name hn => ?_, fun name hn => ?_, fun name s hs => ?_⟩
  · simp only [Cluster.without, SortedMap.get?_erase] at hn
    split at hn
    · cases hn
    · exact h.own name configSet hn
  · obtain ⟨hne, hold⟩ := hcollection name hn
    simpa [Cluster.without, SortedMap.contains_erase, hne] using h.there name hold
  · exact h.domain name (hcollection name hn).2
  · simp only [Cluster.without, SortedMap.get?_erase] at hs
    split at hs
    · cases hs
    · exact h.schemas name s hs

theorem rewritten {s : Schema} (h : c.Tidy p) (hs : s.Legible) (hkey : s.uniqueKey = Schema.idKey)
    (hd : Rewritten table s c d) : d.Tidy p := by
  refine ⟨h.healthy.congr hd.closed hd.failures,
    hd.naming.trans h.naming, ?_, ?_, ?_, fun name t ht => ?_⟩
  · rw [hd.collections]
    exact h.own
  · rw [hd.collections]
    exact fun name hn => hd.contains_configSets (h.there name hn)
  · rw [hd.collections]
    exact h.domain
  · rcases hd.configSets name with hsame | hnew
    · exact h.schemas name t (hsame.symm.trans ht)
    · obtain rfl : t = s := Option.some.inj (ht.symm.trans hnew)
      exact ⟨hs, hkey⟩

/-! ## What is served for a table -/

theorem collection (h : c.Tidy p) (hq : c.collections.contains q = true) :
    c.collections.get? q = some q := by
  obtain ⟨configSet, hset⟩ := SortedMap.contains_iff.mp hq
  rw [hset, h.own q configSet hset]

theorem resolve?_eq (h : c.Tidy p) (hplain : p.IsPlain table) (hq : p.qualify table = some q) :
    c.resolve? table = if c.collections.contains q then some q else none :=
  resolve?_of_plain h.naming h.domain hplain hq

/-- A table that has a collection is served the schema of the config-set of its name. -/
theorem served_eq (h : c.Tidy p) (hplain : p.IsPlain table) (hq : p.qualify table = some q)
    (hthere : c.collections.contains q = true) :
    ∃ s, c.configSets.get? q = some s ∧ c.served table = some s := by
  obtain ⟨s, hs⟩ := SortedMap.contains_iff.mp (h.there q hthere)
  refine ⟨s, hs, ?_⟩
  simp [Cluster.served, h.resolve?_eq hplain hq, hthere, schemaOfCollection?, h.collection hthere, hs]

theorem contains_of_served {s : Schema} (h : c.Tidy p) (hplain : p.IsPlain table)
    (hq : p.qualify table = some q) (hs : c.served table = some s) :
    c.collections.contains q = true := by
  obtain ⟨collection, -, hres, -⟩ := served_eq_some hs
  rw [h.resolve?_eq hplain hq] at hres
  split at hres
  · assumption
  · cases hres

/-- What a change leaves where it is applied: only the config-set of the table may differ. -/
theorem data_of_rewritten {s : Schema} (h : c.Tidy p) (hplain : p.IsPlain table)
    (hq : p.qualify table = some q) (hthere : c.collections.contains q = true)
    (hd : Rewritten table s c d) :
    d.data = ({ c with configSets := c.configSets.insert q s } : Cluster).data := by
  have hres : c.resolve? table = some q := by rw [h.resolve?_eq hplain hq, if_pos hthere]
  cases hd with
  | written hset hd =>
      obtain ⟨collection, configSet, hres', hset', rfl⟩ := setSchema?_eq_some hset
      obtain rfl : q = collection := Option.some.inj (hres.symm.trans hres')
      obtain rfl := h.own q configSet hset'
      exact hd
  | untouched hs hd =>
      obtain ⟨s', hset, hs'⟩ := h.served_eq hplain hq hthere
      obtain rfl : s = s' := Option.some.inj (hs.symm.trans hs')
      rw [SortedMap.insert_of_get? hset]
      exact hd

end Tidy

/-! ## Caches that are up to date -/

/-- Every cached schema is, up to order, the one of its collection's config-set. -/
def Reflects (c : Cluster) (cache : SchemaCache) : Prop :=
  ∀ q known, cache.lookup q = some known → c.collections.contains q = true ∧
    ∃ s, c.configSets.get? q = some s ∧ known.Alike s

variable {cache : SchemaCache}

namespace Reflects

theorem layout (h : c.Reflects cache) (hd : c.SameLayout d) : d.Reflects cache := by
  rw [Reflects, hd.collections, hd.configSets]
  exact h

theorem extended (h : c.Reflects cache) (hd : Extends q c d) : d.Reflects cache := by
  intro q' known hl
  obtain ⟨hthere, s, hs, halike⟩ := h q' known hl
  obtain ⟨configSet, hset⟩ := SortedMap.contains_iff.mp hthere
  refine ⟨?_, s, ?_, halike⟩
  · rcases hd.collections q' with hsame | ⟨rfl, hno, -⟩
    · exact SortedMap.contains_iff.mpr ⟨configSet, hsame.trans hset⟩
    · cases hno.symm.trans hset
  · rcases hd.configSets q' with hsame | ⟨rfl, hno, -⟩
    · exact hsame.trans hs
    · cases hno.symm.trans hs

theorem remove (h : c.Reflects cache) (q : String) : c.Reflects (cache.remove q) := fun q' known hl =>
  h q' known (Store.lookup_remove_eq_some hl).2

theorem without (h : c.Reflects cache) (q : String) : (c.without q).Reflects (cache.remove q) := by
  intro q' known hl
  obtain ⟨hne, hl⟩ := Store.lookup_remove_eq_some hl
  obtain ⟨hthere, s, hs, halike⟩ := h q' known hl
  refine ⟨?_, s, ?_, halike⟩
  · simp [Cluster.without, SortedMap.contains_erase, hne, hthere]
  · simp [Cluster.without, SortedMap.get?_erase, hne, hs]

theorem insert {s known : Schema} (h : c.Reflects cache) (hthere : c.collections.contains q = true)
    (hs : c.configSets.get? q = some s) (halike : known.Alike s) :
    c.Reflects (cache.insert q known) := by
  intro q' known' hl
  rcases Store.lookup_insert_eq_some hl with ⟨rfl, rfl⟩ | ⟨-, hl⟩
  · exact ⟨hthere, s, hs, halike⟩
  · exact h q' known' hl

/-- A cache stays up to date when a schema is written, if its entry is written, too. -/
theorem written {s known : Schema} (h : c.Reflects cache) (hthere : c.collections.contains q = true)
    (halike : known.Alike s) :
    ({ c with configSets := c.configSets.insert q s } : Cluster).Reflects (cache.insert q known) := by
  intro q' known' hl
  rcases Store.lookup_insert_eq_some hl with ⟨rfl, rfl⟩ | ⟨hne, hl⟩
  · exact ⟨hthere, s, by simp [SortedMap.get?_insert], halike⟩
  · obtain ⟨hthere', s', hs', halike'⟩ := h q' known' hl
    exact ⟨hthere', s', by simpa [SortedMap.get?_insert, hne] using hs', halike'⟩

end Reflects

end Cluster

end TableIndex
