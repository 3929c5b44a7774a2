import TableIndex.Proofs.Cluster.Isolation
import TableIndex.Proofs.Cluster.Tidy
import TableIndex.Proofs.Service.Calls

/-!
# Tables that leave each other alone

Collections and config-sets are named by a service, while the cluster itself resolves the names of tables
whose schemas and documents change. An operation leaves a collection alone that neither of them makes of the
name of its table.
-/

namespace TableIndex

/-! ## Reachable clusters -/

/-- What a cluster of a naming policy becomes under the operations of services, of whatever tenants and in
whatever state, while calls are made to fail and to succeed again. -/
inductive Cluster.Reachable (n : NamingPolicy) : Cluster → Prop where
  | fresh : Reachable n (.fresh n)
  | answer {c : Cluster} (naming : NamingPolicy) (base : String) (call : ServiceCall)
    (handle : Option Unit) (cache : SchemaCache) : Reachable n c →
      Reachable n ((Service.inMemory naming base).answer call ⟨handle, cache, c⟩).2.remote
  | fail {c : Cluster} (op : Operation) (status : Int) : Reachable n c → Reachable n (c.fail op status)
  | clearFailure {c : Cluster} (op : Operation) : Reachable n c → Reachable n (c.clearFailure op)

namespace ServiceCall

variable {α : Type} {p : NamingPolicy} {call : ServiceCall} {k : Call α} {c : Cluster} {table q : String}

theorem Makes.isOwn (h : call.Makes p k) : k.IsOwn := by
  cases k with
  | createCollection name configSet shards replicas =>
      cases h with
      | asks hk => cases hk
      | creates _ _ hk => exact hk.2.trans hk.1.symm
      | deletes _ _ hk => cases hk
      | revises _ _ hk => cases hk
      | writes _ _ hk => cases hk
  | _ => exact trivial

/-- What an operation creates or deletes has the physical name of its table. -/
theorem Makes.qualify_places? (h : call.Makes p k) (hplace : k.places? = some q) :
    ∃ table, call.table? = some table ∧ p.qualify table = some q := by
  cases k with
  | createCollection name configSet shards replicas =>
      obtain rfl : name = q := Option.some.inj hplace
      cases h with
      | asks hk => cases hk
      | creates hs hq hk => exact ⟨_, hs, hk.1 ▸ hq⟩
      | deletes _ _ hk => cases hk
      | revises _ _ hk => cases hk
      | writes _ _ hk => cases hk
  | deleteCollection name =>
      obtain rfl : name = q := Option.some.inj hplace
      cases h with
      | asks hk => cases hk
      | creates _ _ hk => cases hk
      | deletes hs hq hk => exact ⟨_, hs, (show name = _ from hk) ▸ hq⟩
      | revises _ _ hk => cases hk
      | writes _ _ hk => cases hk
  | _ => cases hplace

/-- That is not the name of the table itself. -/
theorem Makes.places?_ne (h : call.Makes p k) (ht : call.table? = some table) :
    k.places? ≠ some table := by
  intro hplace
  obtain ⟨s, hs, hq⟩ := h.qualify_places? hplace
  exact NamingPolicy.qualify_ne hq (Option.some.inj (ht.symm.trans hs))

theorem Makes.places?_ne_of_qualify (h : call.Makes p k)
    (hphysical : ∀ table, call.table? = some table → p.qualify table ≠ some q) : k.places? ≠ some q := by
  intro hplace
  obtain ⟨table, ht, hq⟩ := h.qualify_places? hplace
  exact hphysical table ht hq

/-- An operation spares what is not named like its table, neither by its service nor by the cluster. -/
theorem Makes.spares (h : call.Makes p k)
    (hphysical : ∀ table, call.table? = some table → p.qualify table ≠ some q)
    (hresolved : call.alters = true → ∀ table, call.table? = some table → c.resolve? table ≠ some q) :
    k.Spares c q := by
  cases h with
  | asks hk => exact hk.spares
  | creates ht hq hk => exact hk.spares fun he => hphysical _ ht (he ▸ hq)
  | deletes ht hq hk => exact hk.spares fun he => hphysical _ ht (he ▸ hq)
  | revises ht ha hk => exact hk.spares (hresolved ha _ ht)
  | writes ht ha hk => exact hk.spares (hresolved ha _ ht)

end ServiceCall

namespace Service

variable {naming n : NamingPolicy} {call : ServiceCall} {s t q : String} {st : ServiceState Cluster Unit}

theorem settled_answer (naming : NamingPolicy) (base : String) (call : ServiceCall)
    (h : st.remote.Settled n) : ((inMemory naming base).answer call st).2.remote.Settled n := by
  have hpreserves : Preserves naming call (Cluster.Settled n) fun _ => True :=
    ⟨fun _ _ _ _ h => h.withAccount .., fun _ hk => Cluster.keeps_settled hk.isOwn,
      fun _ _ _ _ => id, fun _ _ _ => id⟩
  exact (hpreserves.answer base ⟨h, trivial⟩).1

theorem settled_of_reachable {c : Cluster} (h : c.Reachable n) : c.Settled n := by
  induction h with
  | fresh => exact ⟨rfl, fun _ _ hset => by cases hset⟩
  | answer naming base call handle cache _ ih => exact settled_answer naming base call ih
  | fail op status _ ih => exact ih.withAccount ..
  | clearFailure op _ ih => exact ih.withAccount ..

theorem reachable_run (base : String) (calls : List ServiceCall) {st : ServiceState Cluster Unit}
    (h : st.remote.Reachable n) : ((inMemory naming base).run calls st).2.remote.Reachable n := by
  induction calls generalizing st with
  | nil => exact h
  | cons call calls ih =>
      rw [run_cons]
      exact ih (.answer naming base call st.handle st.cache h)

/-- An operation does not reach the collection `q`, nor the schema cached for it, if its service does not make `q`
of the name of its table. -/
theorem entry_answer (base : String)
    (hphysical : ∀ table, call.table? = some table → naming.qualify table ≠ some q) :
    ((inMemory naming base).answer call st).2.remote.collections.get? q = st.remote.collections.get? q ∧
      ((inMemory naming base).answer call st).2.cache.lookup q = st.cache.lookup q := by
  have hne : ∀ {table q'}, call.table? = some table → naming.qualify table = some q' → q' ≠ q :=
    fun ht hq he => hphysical _ ht (he ▸ hq)
  have hpreserves : Preserves naming call (fun c => c.collections.get? q = st.remote.collections.get? q)
      fun cache => cache.lookup q = st.cache.lookup q :=
    ⟨fun _ _ _ _ h => h,
      fun _ hk => Cluster.keeps_perform (fun _ _ h => h) fun c h =>
        (Cluster.collection_serve (hk.places?_ne_of_qualify hphysical) c).trans h,
      fun ht hq cache schema h => (cache.lookup_insert_of_ne (hne ht hq) schema).trans h,
      fun ht hq cache h => (cache.lookup_remove_of_ne (hne ht hq)).trans h⟩
  exact hpreserves.answer base ⟨rfl, rfl⟩

/-- An operation leaves what belongs to `q` as it was, if neither its service nor the cluster makes `q` of the
name of its table. -/
theorem sameAt_answer (base : String) (hc : st.remote.Settled n)
    (hphysical : ∀ table, call.table? = some table → naming.qualify table ≠ some q)
    (hresolved : call.alters = true → ∀ table, call.table? = some table →
      st.remote.resolve? table ≠ some q) :
    st.remote.SameAt q ((inMemory naming base).answer call st).2.remote := by
  -- What the cluster resolves the name of the table to does not change while the operation runs.
  have hpreserves : Preserves naming call (st.remote.Apart n (call.table? = some ·) q) fun _ => True :=
    ⟨fun _ _ _ _ h => h.withAccount ..,
      fun _ hk => Cluster.Apart.keeps_perform hk.isOwn (fun _ ht => hk.places?_ne ht) fun _ hd =>
        hk.spares hphysical fun ha table ht => hd.resolve?_ne hc.naming ht (hresolved ha table ht),
      fun _ _ _ _ => id, fun _ _ _ => id⟩
  exact (hpreserves.answer base ⟨.refl _ q hc, trivial⟩).1.same

/-! ## Tables of one tenant -/

/-- An operation on the table `s` does not reach the collection of another table `t` of the tenant, nor the schema
cached for it. It leaves all that belongs to `t` as it was, unless it changes a schema or documents, `t` has a
collection and `s` is the very name of it. Where `s` has not the collection `t` either, the cluster then also serves
the same schema and the same documents for `t`. -/
theorem table_isolated (base : String) (hreach : st.remote.Reachable naming)
    (hs : call.table? = some s) (hne : s ≠ t) (hq : naming.qualify t = some q) :
    let st' := ((inMemory naming base).answer call st).2
    st'.remote.collections.get? q = st.remote.collections.get? q ∧
      st'.cache.lookup q = st.cache.lookup q ∧
      ((call.alters = true → st.remote.collections.contains q = true → s ≠ q) →
        st.remote.SameAt q st'.remote ∧
        st'.remote.schemaOfCollection? q = st.remote.schemaOfCollection? q ∧
        (naming.qualify s ≠ some t →
          st'.remote.schemaOf? t = st.remote.schemaOf? t ∧ st'.remote.documents t = st.remote.documents t)) := by
  intro st'
  have hsettled := settled_of_reachable hreach
  have htable : ∀ {q'}, naming.qualify s ≠ some q' →
      ∀ table, call.table? = some table → naming.qualify table ≠ some q' := by
    intro q' hq' table ht
    obtain rfl : s = table := Option.some.inj (hs.symm.trans ht)
    exact hq'
  have hown : naming.qualify s ≠ some q := fun he => hne (NamingPolicy.qualify_injective he hq)
  -- The service and the cluster qualify alike, so that what holds of the one holds of the other.
  have hisolated : ∀ q', naming.qualify s ≠ some q' →
      (call.alters = true → st.remote.collections.contains q' = true → s ≠ q') →
        st.remote.SameAt q' st'.remote := by
    intro q' hq' hs'
    refine sameAt_answer base hsettled (htable hq') fun ha table ht hres => ?_
    obtain rfl : s = table := Option.some.inj (hs.symm.trans ht)
    rcases Cluster.eq_or_qualify_of_resolve? hres with he | he
    · exact hs' ha (Cluster.contains_of_resolve? hres) he
    · exact hq' (hsettled.naming ▸ he)
  have hentry : st'.remote.collections.get? q = st.remote.collections.get? q ∧
      st'.cache.lookup q = st.cache.lookup q := entry_answer base (htable hown)
  refine ⟨hentry.1, hentry.2, fun hphysical => ?_⟩
  have hsame := hisolated q hown hphysical
  refine ⟨hsame, hsame.schemaOfCollection? hsettled, fun ht => ?_⟩
  refine Cluster.served_of_sameAt hsettled (settled_answer naming base call hsettled).naming
    (hisolated t ht fun _ _ => hne) fun q' hq' => ?_
  obtain rfl : q = q' := Option.some.inj (hq.symm.trans hq')
  exact hsame

/-- A service that has created the table `orders` and another one in a fresh cluster. -/
def besideOrders (table : String) : ServiceState Cluster Unit :=
  ((inMemory ⟨"DEFAULT"⟩ Cluster.baseConfigSet).run
    [.create ⟨"orders", none, 1, 1, none, none⟩, .create ⟨table, none, 1, 1, none, none⟩]
      { remote := .fresh ⟨"DEFAULT"⟩ }).2

theorem reachable_besideOrders (table : String) : (besideOrders table).remote.Reachable ⟨"DEFAULT"⟩ :=
  reachable_run _ _ .fresh

/-- Documents that are added to `items` do not appear in `orders`. -/
theorem table_isolated_items :
    let call := ServiceCall.index "items" [.ofList [("id", .string "1")]]
    let st' := ((inMemory ⟨"DEFAULT"⟩ Cluster.baseConfigSet).answer call (besideOrders "items")).2
    (besideOrders "items").remote.Reachable ⟨"DEFAULT"⟩ ∧ call.alters = true ∧
      (besideOrders "items").remote.SameAt "DEFAULT_orders" st'.remote ∧
      st'.remote.documents "orders" = (besideOrders "items").remote.documents "orders" := by
  intro call st'
  have hreach := reachable_besideOrders "items"
  have htable : call.table? = some "items" := rfl
  have hne : "items" ≠ "orders" := by decide
  have hq : NamingPolicy.qualify ⟨"DEFAULT"⟩ "orders" = some "DEFAULT_orders" := by decide
  obtain ⟨-, -, hisolated⟩ := table_isolated Cluster.baseConfigSet hreach htable hne hq
  obtain ⟨hsame, -, hserved⟩ := hisolated fun _ _ => by decide
  exact ⟨hreach, rfl, hsame, (hserved (by decide)).2⟩

/-- The table whose name is the physical name of `orders` has a collection of its own, but a document that is
added to it appears in `orders`. -/
theorem not_isolated_physical :
    let st := besideOrders "DEFAULT_orders"
    let call := ServiceCall.index "DEFAULT_orders" [.ofList [("id", .string "1")]]
    let st' := ((inMemory ⟨"DEFAULT"⟩ Cluster.baseConfigSet).answer call st).2
    st.remote.Reachable ⟨"DEFAULT"⟩ ∧ "DEFAULT_orders" ≠ "orders" ∧
      NamingPolicy.qualify ⟨"DEFAULT"⟩ "orders" = some "DEFAULT_orders" ∧
      st.remote.documents "orders" = [] ∧ (st'.remote.documents "orders").length = 1 := by
  intro st call st'
  exact ⟨reachable_besideOrders _, by decide, by decide, rfl, by decide +kernel⟩

/-! ## Tables of two tenants -/

/-- An operation of a service of the tenant `p` does not reach the collection of the table `t` of another tenant `r`
as long as the physical name of its own table is another one. It then leaves all that belongs to `t` as it was if it
changes neither a schema nor documents, or if the cluster does not resolve the name of its table to the collection of
`t`: as its very name, or, if no collection is named `t`, because the cluster qualifies names like `r`. -/
theorem tenant_isolated {p r : NamingPolicy} (base : String) (hreach : st.remote.Reachable n)
    (hn : n = p ∨ n = r) (hq : r.qualify t = some q)
    (hphysical : ∀ s, call.table? = some s → p.qualify s ≠ some q) :
    let d := ((inMemory p base).answer call st).2.remote
    d.collections.get? q = st.remote.collections.get? q ∧
      ((call.alters = true → st.remote.collections.contains q = true →
          ∀ s, call.table? = some s → s ≠ q ∧ (n = r → s = t → st.remote.collections.contains t = true)) →
        st.remote.SameAt q d ∧ d.schemaOfCollection? q = st.remote.schemaOfCollection? q) := by
  intro d
  have hsettled := settled_of_reachable hreach
  refine ⟨(entry_answer base hphysical).1, fun hresolved => ?_⟩
  have hsame : st.remote.SameAt q d := by
    refine sameAt_answer base hsettled hphysical fun ha s hs hres => ?_
    obtain ⟨hname, htable⟩ := hresolved ha (Cluster.contains_of_resolve? hres) s hs
    by_cases hthere : st.remote.collections.contains s = true
    · exact hname (Cluster.eq_of_resolve? hthere hres)
    · have hqualify : n.qualify s = some q :=
        hsettled.naming ▸ (Cluster.eq_or_qualify_of_resolve? hres).resolve_left hname
      rcases hn with rfl | rfl
      · exact hphysical s hs hqualify
      · obtain rfl : s = t := NamingPolicy.qualify_injective hqualify hq
        exact hthere (htable rfl rfl)
  exact ⟨hsame, hsame.schemaOfCollection? hsettled⟩

/-- A service of a second tenant that has created its table `orders`, too, in a cluster that qualifies names
like the first tenant. -/
def ordersOf (first second : NamingPolicy) : ServiceState Cluster Unit :=
  let orders := ServiceCall.create ⟨"orders", none, 1, 1, none, none⟩
  let st := ((inMemory first Cluster.baseConfigSet).run [orders] { remote := .fresh first }).2
  ((inMemory second Cluster.baseConfigSet).run [orders] { remote := st.remote }).2

theorem reachable_ordersOf (first second : NamingPolicy) : (ordersOf first second).remote.Reachable first :=
  reachable_run _ _ (reachable_run _ _ .fresh)

/-- Documents that one tenant adds to `items` do not appear in the collection `orders` of the other one. -/
theorem tenant_isolated_items :
    let st := ordersOf ⟨"ACME"⟩ ⟨"GLOBEX"⟩
    let call := ServiceCall.index "items" [.ofList [("id", .string "1")]]
    let d := ((inMemory ⟨"GLOBEX"⟩ Cluster.baseConfigSet).answer call st).2.remote
    st.remote.Reachable ⟨"ACME"⟩ ∧ call.alters = true ∧ st.remote.SameAt "ACME_orders" d := by
  intro st call d
  have hreach : st.remote.Reachable ⟨"ACME"⟩ := reachable_ordersOf ..
  have htable : ∀ s, call.table? = some s → s = "items" := fun s hs => (Option.some.inj hs).symm
  have hq : NamingPolicy.qualify ⟨"ACME"⟩ "orders" = some "ACME_orders" := by decide
  refine ⟨hreach, rfl, ((tenant_isolated Cluster.baseConfigSet hreach (.inr rfl) hq fun s hs => ?_).2
    fun _ _ s hs => ?_).1⟩
  · rw [htable s hs]
    decide
  · rw [htable s hs]
    exact ⟨by decide, fun _ he => absurd he (by decide)⟩

/-- A document that one tenant adds to its table `orders` appears in that of the tenant whose policy is the
one of the cluster; and a tenant deletes the collection of another one that has the same physical name. -/
theorem not_isolated_tenant :
    (let st := ordersOf ⟨"ACME"⟩ ⟨"GLOBEX"⟩
      let call := ServiceCall.index "orders" [.ofList [("id", .string "1")]]
      let d := ((inMemory ⟨"GLOBEX"⟩ Cluster.baseConfigSet).answer call st).2.remote
      st.remote.Reachable ⟨"ACME"⟩ ∧
        NamingPolicy.qualify ⟨"ACME"⟩ "orders" = some "ACME_orders" ∧
        NamingPolicy.qualify ⟨"GLOBEX"⟩ "orders" = some "GLOBEX_orders" ∧
        st.remote.documents "ACME_orders" = [] ∧ (d.documents "ACME_orders").length = 1 ∧
        (d.documents "GLOBEX_orders").length = 0) ∧
    (let st := ordersOf ⟨"ACME"⟩ ⟨"ACME_EU"⟩
      let d := ((inMemory ⟨"ACME"⟩ Cluster.baseConfigSet).answer (.delete "EU_orders") st).2.remote
      st.remote.Reachable ⟨"ACME"⟩ ∧
        NamingPolicy.qualify ⟨"ACME_EU"⟩ "orders" = NamingPolicy.qualify ⟨"ACME"⟩ "EU_orders" ∧
        st.remote.collections.contains "ACME_EU_orders" = true ∧
        d.collections.contains "ACME_EU_orders" = false) := by
  refine ⟨?written, ?deleted⟩
  case written =>
    intro st call d
    exact ⟨reachable_ordersOf .., by decide, by decide, rfl, by decide +kernel, by decide +kernel⟩
  case deleted =>
    intro st d
    exact ⟨reachable_ordersOf .., by decide, by decide +kernel, by decide +kernel⟩

end Service

end TableIndex
