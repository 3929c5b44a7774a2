import TableIndex.Proofs.Cluster.Perform

/-!
# What a call leaves alone

As long as every collection is on the config-set of its own name, a call changes nothing that belongs to a
collection unless it names it, or names a table that the cluster resolves to it.
-/

namespace TableIndex

namespace Call

/-- The collection that a call creates or deletes. -/
def places? : {α : Type} → Call α → Option String
  | _, createCollection name _ _ _ => some name
  | _, deleteCollection name => some name
  | _, _ => none

/-- A call that makes no collection on a config-set of another name. -/
def IsOwn : {α : Type} → Call α → Prop
  | _, createCollection name configSet _ _ => configSet = name
  | _, _ => True

/-- A call that neither names the collection or config-set `q`, nor a table that the cluster resolves to it. -/
def Spares (c : Cluster) (q : String) : {α : Type} → Call α → Prop
  | _, createConfig _ name => name ≠ q
  | _, createCollection name _ _ _ => name ≠ q
  | _, deleteCollection name => name ≠ q
  | _, deleteConfig name => name ≠ q
  | _, submitSchemaUpdates table _ => c.resolve? table ≠ some q
  | _, addDocuments table _ => c.resolve? table ≠ some q
  | _, deleteByIds table _ => c.resolve? table ≠ some q
  | _, deleteByQuery table _ => c.resolve? table ≠ some q
  | _, commit table => c.resolve? table ≠ some q
  | _, _ => True

variable {α : Type} {c : Cluster} {k : Call α} {name table q : String}

theorem Asks.spares (h : k.Asks) : k.Spares c q := by
  cases k with
  | collectionExists _ => exact trivial
  | configExists _ => exact trivial
  | listFields _ => exact trivial
  | uniqueKey _ => exact trivial
  | _ => cases h

theorem Creates.spares (h : k.Creates name) (hne : name ≠ q) : k.Spares c q := by
  cases k with
  | createConfig base name' =>
      obtain rfl : name' = name := h
      exact hne
  | createCollection name' configSet shards replicas =>
      obtain rfl : name' = name := h.1
      exact hne
  | _ => cases h

theorem Deletes.spares (h : k.Deletes name) (hne : name ≠ q) : k.Spares c q := by
  cases k with
  | deleteCollection name' =>
      obtain rfl : name' = name := h
      exact hne
  | deleteConfig name' =>
      obtain rfl : name' = name := h
      exact hne
  | _ => cases h

theorem Revises.spares (h : k.Revises table) (hq : c.resolve? table ≠ some q) : k.Spares c q := by
  cases k with
  | submitSchemaUpdates table' updates =>
      obtain rfl : table' = table := h.1
      exact hq
  | _ => cases h

theorem Writes.spares (h : k.Writes table) (hq : c.resolve? table ≠ some q) : k.Spares c q := by
  cases k with
  | addDocuments table' docs =>
      obtain rfl : table' = table := h
      exact hq
  | deleteByIds table' ids =>
      obtain rfl : table' = table := h
      exact hq
  | deleteByQuery table' query =>
      obtain rfl : table' = table := h
      exact hq
  | commit table' =>
      obtain rfl : table' = table := h
      exact hq
  | _ => cases h

end Call

namespace Cluster

variable {α : Type} {n : NamingPolicy} {q table collection : String} {c d e : Cluster}

/-- Every collection is on the config-set of its own name. -/
structure Settled (n : NamingPolicy) (c : Cluster) : Prop where
  naming : c.naming = n
  own : ∀ name configSet, c.collections.get? name = some configSet → configSet = name

theorem Settled.withAccount (h : c.Settled n) (failures : List (Operation × Int)) (closed : Bool)
    (calls : Nat) : (c.withAccount failures closed calls).Settled n := ⟨h.naming, h.own⟩

/-- What belongs to the collection `q` is the same. -/
structure SameAt (q : String) (c d : Cluster) : Prop where
  collection : d.collections.get? q = c.collections.get? q
  configSet : d.configSets.get? q = c.configSets.get? q
  pending : d.pending.get? q = c.pending.get? q
  pendingDeletes : d.pendingDeletes.get? q = c.pendingDeletes.get? q
  committed : d.committed.get? q = c.committed.get? q

namespace SameAt

theorem refl (q : String) (c : Cluster) : c.SameAt q c := ⟨rfl, rfl, rfl, rfl, rfl⟩

theorem trans (h : c.SameAt q d) (h' : d.SameAt q e) : c.SameAt q e :=
  ⟨h'.collection.trans h.collection, h'.configSet.trans h.configSet, h'.pending.trans h.pending,
    h'.pendingDeletes.trans h.pendingDeletes, h'.committed.trans h.committed⟩

theorem withAccount (h : c.SameAt q d) (failures : List (Operation × Int)) (closed : Bool) (calls : Nat) :
    c.SameAt q (d.withAccount failures closed calls) :=
  h.trans ⟨rfl, rfl, rfl, rfl, rfl⟩

theorem contains (h : c.SameAt q d) : d.collections.contains q = c.collections.contains q := by
  rw [SortedMap.contains, SortedMap.contains, h.collection]

theorem committedOf (h : c.SameAt q d) : d.committedOf q = c.committedOf q := by
  rw [Cluster.committedOf, Cluster.committedOf, h.committed]

/-- The schema of a collection is the one of its config-set. -/
theorem schemaOfCollection? (h : c.SameAt q d) (hc : c.Settled n) :
    d.schemaOfCollection? q = c.schemaOfCollection? q := by
  rw [Cluster.schemaOfCollection?, Cluster.schemaOfCollection?, h.collection]
  cases hset : c.collections.get? q with
  | none => rfl
  | some configSet =>
      rw [hc.own q configSet hset]
      exact h.configSet

end SameAt

/-- Whether a table is resolved to `q` depends on what belongs to `q` and on whether its own name is that of a
collection. -/
theorem SameAt.resolve?_eq_some_iff (h : c.SameAt q d) (hn : d.naming = c.naming)
    (ht : d.collections.contains table = c.collections.contains table) :
    d.resolve? table = some q ↔ c.resolve? table = some q := by
  rw [resolve?, resolve?, ht, hn]
  split
  · exact Iff.rfl
  · rw [Option.filter_eq_some_iff, Option.filter_eq_some_iff, h.contains]

theorem eq_or_qualify_of_resolve? (h : c.resolve? table = some q) :
    table = q ∨ c.naming.qualify table = some q := by
  rw [resolve?] at h
  split at h
  · exact .inl (Option.some.inj h)
  · exact .inr (Option.filter_eq_some_iff.mp h).1

theorem eq_of_resolve? (hthere : c.collections.contains table = true) (h : c.resolve? table = some q) :
    table = q := by
  rw [resolve?, if_pos hthere] at h
  exact Option.some.inj h

/-- What the cluster serves for a table does not change as long as nothing that it may resolve its name to
does. -/
theorem served_of_sameAt (hc : c.Settled n) (hn : d.naming = n) (ht : c.SameAt table d)
    (hq : ∀ q, n.qualify table = some q → c.SameAt q d) :
    d.schemaOf? table = c.schemaOf? table ∧ d.documents table = c.documents table := by
  have hres : d.resolve? table = c.resolve? table := by
    rw [resolve?, resolve?, ht.contains, hn, hc.naming]
    cases hqualify : n.qualify table with
    | none => rfl
    | some q => simp [Option.filter, (hq q hqualify).contains]
  rw [schemaOf?, schemaOf?, documents, documents, hres]
  cases hcollection : c.resolve? table with
  | none => exact ⟨rfl, rfl⟩
  | some collection =>
      have hsame : c.SameAt collection d := by
        rcases eq_or_qualify_of_resolve? hcollection with rfl | he
        · exact ht
        · exact hq collection (hc.naming ▸ he)
      exact ⟨hsame.schemaOfCollection? hc, congrArg SortedMap.values hsame.committedOf⟩

/-! ## Single calls -/

/-- A call that spares a collection leaves it as it was. -/
theorem sameAt_serve (hc : c.Settled n) {call : Call α} (hk : call.Spares c q) :
    c.SameAt q (stateAfter (serve call c)) := by
  refine stateAfter_serve (.refl q c) fun d hd => ?_
  -- What changes belongs to the collection that the call names, or that its table is resolved to.
  have hother : ∀ {table collection : String}, c.resolve? table ≠ some q →
      c.resolve? table = some collection → collection ≠ q := fun hne hres he => hne (he ▸ hres)
  cases call with
  | createConfig base name =>
      obtain ⟨-, s, -, rfl⟩ := hd
      exact ⟨rfl, SortedMap.get?_insert_of_ne hk _ _, rfl, rfl, rfl⟩
  | createCollection name configSet shards replicas =>
      obtain ⟨-, -, -, rfl⟩ := hd
      exact ⟨SortedMap.get?_insert_of_ne hk _ _, rfl, rfl, rfl, rfl⟩
  | deleteCollection name =>
      obtain ⟨-, rfl⟩ := hd
      exact ⟨SortedMap.get?_erase_of_ne hk _, rfl, SortedMap.get?_erase_of_ne hk _,
        SortedMap.get?_erase_of_ne hk _, SortedMap.get?_erase_of_ne hk _⟩
  | deleteConfig name =>
      obtain ⟨-, -, rfl⟩ := hd
      exact ⟨rfl, SortedMap.get?_erase_of_ne hk _, rfl, rfl, rfl⟩
  | submitSchemaUpdates table updates =>
      obtain ⟨collection, configSet, s, hres, hset, -, rfl⟩ := hd
      obtain rfl := hc.own collection configSet hset
      exact ⟨rfl, SortedMap.get?_insert_of_ne (hother hk hres) _ _, rfl, rfl, rfl⟩
  | addDocuments table docs =>
      obtain ⟨collection, staged, hres, -, rfl⟩ := hd
      exact ⟨rfl, rfl, SortedMap.get?_insert_of_ne (hother hk hres) _ _, rfl, rfl⟩
  | deleteByIds table ids =>
      obtain ⟨collection, hres, rfl⟩ := hd
      exact ⟨rfl, rfl, rfl, SortedMap.get?_insert_of_ne (hother hk hres) _ _, rfl⟩
  | deleteByQuery table query =>
      obtain ⟨collection, selection, hres, -, rfl⟩ := hd
      exact ⟨rfl, rfl, rfl, SortedMap.get?_insert_of_ne (hother hk hres) _ _, rfl⟩
  | commit table =>
      obtain ⟨collection, hres, rfl⟩ := hd
      exact ⟨rfl, rfl, SortedMap.get?_erase_of_ne (hother hk hres) _,
        SortedMap.get?_erase_of_ne (hother hk hres) _, SortedMap.get?_insert_of_ne (hother hk hres) _ _⟩
  | _ => exact hd.elim

/-- The collections are the same but for the one that was placed. -/
structure SameCollections (placed? : Option String) (c d : Cluster) : Prop where
  naming : d.naming = c.naming
  collection : ∀ name, placed? ≠ some name → d.collections.get? name = c.collections.get? name

theorem SameCollections.of_eq {placed? : Option String} (hn : d.naming = c.naming)
    (hd : d.collections = c.collections) : c.SameCollections placed? d :=
  ⟨hn, fun _ _ => by rw [hd]⟩

/-- A call leaves every collection as it is but the one that it creates or deletes. -/
theorem Becomes.sameCollections {call : Call α} (hd : c.Becomes call d) :
    c.SameCollections call.places? d := by
  cases call with
  | createCollection name configSet shards replicas =>
      obtain ⟨-, -, -, rfl⟩ := hd
      exact ⟨rfl, fun other hne => SortedMap.get?_insert_of_ne (fun he => hne (congrArg some he)) _ _⟩
  | deleteCollection name =>
      obtain ⟨-, rfl⟩ := hd
      exact ⟨rfl, fun other hne => SortedMap.get?_erase_of_ne (fun he => hne (congrArg some he)) _⟩
  | createConfig base name =>
      obtain ⟨-, s, -, rfl⟩ := hd
      exact .of_eq rfl rfl
  | deleteConfig name =>
      obtain ⟨-, -, rfl⟩ := hd
      exact .of_eq rfl rfl
  | submitSchemaUpdates table updates =>
      obtain ⟨collection, configSet, s, -, -, -, rfl⟩ := hd
      exact .of_eq rfl rfl
  | addDocuments table docs =>
      obtain ⟨collection, staged, -, -, rfl⟩ := hd
      exact .of_eq rfl rfl
  | deleteByIds table ids =>
      obtain ⟨collection, -, rfl⟩ := hd
      exact .of_eq rfl rfl
  | deleteByQuery table query =>
      obtain ⟨collection, selection, -, -, rfl⟩ := hd
      exact .of_eq rfl rfl
  | commit table =>
      obtain ⟨collection, -, rfl⟩ := hd
      exact .of_eq rfl rfl
  | _ => exact hd.elim

theorem collection_serve {call : Call α} (hk : call.places? ≠ some q) (c : Cluster) :
    (stateAfter (serve call c)).collections.get? q = c.collections.get? q :=
  stateAfter_serve (I := fun d => d.collections.get? q = c.collections.get? q) rfl fun _ hd =>
    hd.sameCollections.collection q hk

theorem contains_serve {call : Call α} (hk : call.places? ≠ some table) (c : Cluster) :
    (stateAfter (serve call c)).collections.contains table = c.collections.contains table := by
  rw [SortedMap.contains, SortedMap.contains, collection_serve hk]

theorem settled_serve (hc : c.Settled n) {call : Call α} (hk : call.IsOwn) :
    (stateAfter (serve call c)).Settled n := by
  refine stateAfter_serve hc fun d hd => ?_
  have hsame := hd.sameCollections
  refine ⟨hsame.naming.trans hc.naming, fun name configSet hset => ?_⟩
  by_cases hplace : call.places? = some name
  · cases call with
    | createCollection name' configSet' shards replicas =>
        obtain ⟨-, -, -, rfl⟩ := hd
        obtain rfl : name' = name := Option.some.inj hplace
        obtain rfl : configSet' = name' := hk
        simp only [SortedMap.get?_insert, ↓reduceIte] at hset
        exact (Option.some.inj hset).symm
    | deleteCollection name' =>
        obtain ⟨-, rfl⟩ := hd
        obtain rfl : name' = name := Option.some.inj hplace
        simp [dropped, SortedMap.get?_erase] at hset
    | _ => cases hplace
  · exact hc.own name configSet ((hsame.collection name hplace).symm.trans hset)

theorem keeps_settled {call : Call α} (hk : call.IsOwn) : Keeps (Settled n) (perform call) :=
  keeps_perform (fun _ _ h => h.withAccount ..) fun _ h => settled_serve h hk

/-- What belongs to the collection `q` is as it was in `c`, and so is which of the tables `p` are names of
collections. -/
structure Apart (n : NamingPolicy) (p : String → Prop) (q : String) (c d : Cluster) : Prop where
  settled : d.Settled n
  same : c.SameAt q d
  named : ∀ table, p table → d.collections.contains table = c.collections.contains table

namespace Apart

variable {p : String → Prop}

theorem refl (p : String → Prop) (q : String) (h : c.Settled n) : c.Apart n p q c :=
  ⟨h, .refl q c, fun _ _ => rfl⟩

theorem withAccount (h : c.Apart n p q d) (failures : List (Operation × Int)) (closed : Bool) (calls : Nat) :
    c.Apart n p q (d.withAccount failures closed calls) :=
  ⟨h.settled.withAccount .., h.same.withAccount .., h.named⟩

theorem resolve?_ne (h : c.Apart n p q d) (hn : c.naming = n) (hp : p table)
    (hne : c.resolve? table ≠ some q) : d.resolve? table ≠ some q := fun he =>
  hne ((h.same.resolve?_eq_some_iff (h.settled.naming.trans hn.symm) (h.named table hp)).mp he)

/-- What is apart stays apart under a call that spares the collection and creates or deletes no collection
that is named like one of the tables. -/
theorem keeps_perform {call : Call α} (hown : call.IsOwn) (hp : ∀ table, p table → call.places? ≠ some table)
    (hk : ∀ d, c.Apart n p q d → call.Spares d q) : Keeps (c.Apart n p q) (perform call) :=
  Cluster.keeps_perform (fun _ _ h => h.withAccount ..) fun d h =>
    ⟨settled_serve h.settled hown, h.same.trans (sameAt_serve h.settled (hk d h)),
      fun table ht => (contains_serve (hp table ht) d).trans (h.named table ht)⟩

end Apart

end Cluster

end TableIndex
