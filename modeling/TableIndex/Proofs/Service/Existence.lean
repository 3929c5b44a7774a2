import TableIndex.Proofs.Cluster.Whole
import TableIndex.Proofs.Service.Memory
import TableIndex.Proofs.Service.Partial

/-!
# Tables that are not there

Whether a table is there to be read is asked of its config-set, while its schema is that of its collection. Under
the operations of one service the two go together, unless one that was done in part has left the config-set behind.
-/

namespace TableIndex

variable {p : NamingPolicy} {base table q : String}

/-! ## Clusters of one tenant -/

/-- All collections have names that the tenant makes. -/
def Cluster.NamedBy (p : NamingPolicy) (c : Cluster) : Prop :=
  ∀ name, c.collections.contains name = true → ∃ rest, name = p.tenantDomain ++ "_" ++ rest

/-- A cluster whose collections are all of one tenant, on config-sets of their own names. -/
structure Cluster.Tenanted (p : NamingPolicy) (c : Cluster) : Prop where
  consistent : c.Consistent
  settled : c.Settled p
  domain : c.NamedBy p

namespace Cluster.Tenanted

variable {α : Type} {c d : Cluster} {call : ServiceCall} {k : Call α}

theorem fresh (p : NamingPolicy) : (Cluster.fresh p).Tenanted p :=
  ⟨consistent_fresh p, ⟨rfl, nofun⟩, nofun⟩

theorem withAccount (h : c.Tenanted p) (failures : List (Operation × Int)) (closed : Bool) (calls : Nat) :
    (c.withAccount failures closed calls).Tenanted p :=
  ⟨h.consistent.withAccount .., h.settled.withAccount .., h.domain⟩

theorem contains_configSets (h : c.Tenanted p) (hthere : c.collections.contains q = true) :
    c.configSets.contains q = true := by
  obtain ⟨configSet, hset⟩ := SortedMap.contains_iff.mp hthere
  exact h.settled.own q configSet hset ▸ h.consistent.configSet q configSet hset

theorem served_eq_none (h : c.Tenanted p) (hplain : p.IsPlain table) (hq : p.qualify table = some q)
    (hno : c.collections.contains q = false) : c.served table = none := by
  rw [served, resolve?_of_plain h.settled.naming h.domain hplain hq, hno]
  rfl

theorem serve (h : c.Tenanted p) (hk : call.Makes p k) : (stateAfter (Cluster.serve k c)).Tenanted p := by
  refine ⟨stateAfter_serve h.consistent fun _ hd => hd.consistent h.consistent,
    settled_serve h.settled hk.isOwn, ?_⟩
  refine stateAfter_serve (I := NamedBy p) h.domain fun d hd name hthere => ?_
  by_cases hplace : k.places? = some name
  · obtain ⟨table, -, hq⟩ := hk.qualify_places? hplace
    exact ⟨table, NamingPolicy.eq_of_qualify hq⟩
  · rw [SortedMap.contains, hd.sameCollections.collection name hplace] at hthere
    exact h.domain name hthere

end Cluster.Tenanted

/-- An answer after which the config-set of a table may be there without its collection: creating or deleting it was
done in part. -/
def ServiceCall.Leaves (table : String) : ServiceCall → ServiceAnswer → Prop
  | .create config, .created (.error e) => config.collectionName = table ∧ e.effect = .partially
  | .ensure config, .ensured (.error (.create e)) => config.collectionName = table ∧ e.effect = .partially
  | .delete name, .deleted (.error e) => name = table ∧ e.effect = .partially
  | _, _ => False

namespace Service

variable {st : ServiceState Cluster Unit} {call : ServiceCall}

theorem tenanted_answer (base : String) (call : ServiceCall) (h : st.remote.Tenanted p) :
    ((inMemory p base).answer call st).2.remote.Tenanted p := by
  have hpreserves : Preserves p call (Cluster.Tenanted p) fun _ => True :=
    ⟨fun _ _ _ _ h => h.withAccount .., fun _ hk => Cluster.keeps_perform (fun _ _ h => h.withAccount ..)
      fun _ h => h.serve hk, fun _ _ _ _ => id, fun _ _ _ => id⟩
  exact (hpreserves.answer base ⟨h, trivial⟩).1

/-- A service that holds a handle has not closed the cluster: it gives up the handle before. -/
theorem held_answer (base : String) (call : ServiceCall) (h : st.handle = some () → st.remote.closed = false)
    (hheld : ((inMemory p base).answer call st).2.handle = some ()) :
    ((inMemory p base).answer call st).2.remote.closed = false := by
  cases hneeds : call.needsCluster with
  | true =>
      rw [answer_of_needsCluster _ hneeds, client_run]
      have hkeeps : ∀ {β} (k : Call β), Keeps (fun c => c.closed = false) (Cluster.gateway.perform k) :=
        fun k => Cluster.keeps_perform (fun _ _ h => h) fun c h => (Cluster.closed_serve k c).trans h
      exact (kept_act hkeeps hneeds (closed_opened h)).2
  | false =>
      by_cases hd : call = .destroy
      · subst hd
        obtain ⟨handle, cache, remote⟩ := st
        cases handle <;> cases hheld
      · obtain ⟨hhandle, hremote⟩ := remote_of_not_needsCluster (inMemory p base) hneeds hd st
        rw [hremote]
        exact h (hhandle ▸ hheld)

/-! ## What was done in part -/

theorem whole_tell {ε α : Type} {f : Except ε α → ServiceAnswer} {x : EStateM ε (Cached Cluster) α}
    (h : (stateAfter (x ⟨st.cache, st.remote⟩)).remote.Whole q ∨
      ∃ e t, x ⟨st.cache, st.remote⟩ = .error e t ∧ call.Leaves table (f (.error e))) :
    (tell f (onCached x st)).2.remote.Whole q ∨ call.Leaves table (tell f (onCached x st)).1 := by
  rcases h with hwhole | ⟨e, t, hrun, hleaves⟩
  · rw [snd_tell, stateAfter_onCached]
    exact .inl hwhole
  · rw [onCached_of_error hrun]
    exact .inr hleaves

/-- An operation that neither makes nor removes collections keeps the config-set of every table whole. -/
theorem whole_act_of_not_provisions {s : Service Cluster Unit} (hneeds : call.needsCluster = true)
    (hcall : call.provisions = false) (h : st.remote.Whole q) :
    (s.act Cluster.gateway call st).2.remote.Whole q := by
  have hasks : ∀ {α : Type} (k : Call α), k.Asks → Keeps (Cluster.Whole q) (Cluster.gateway.perform k) :=
    fun k hk => Cluster.keeps_whole hk.parts?
  have hwrites : ∀ {table} {α : Type} (k : Call α), k.Writes table →
      Keeps (Cluster.Whole q) (Cluster.gateway.perform k) := fun k hk => Cluster.keeps_whole hk.parts?
  have hcached : ∀ {ε α : Type} {x : EStateM ε (Cached Cluster) α} (f : Except ε α → ServiceAnswer),
      Keeps (fun c => c.remote.Whole q ∧ True) x → (tell f (onCached x st)).2.remote.Whole q :=
    fun f hx => (kept_onCached f hx h).2
  have hremote : ∀ {ε α : Type} {x : EStateM ε Cluster α} (f : Except ε α → ServiceAnswer),
      Keeps (Cluster.Whole q) x → (tell f (onRemote x st)).2.remote.Whole q :=
    fun f hx => hcached f (hx.onRemote fun _ => True)
  cases call with
  | collectionExists name => exact hremote _ (Keeps.compositional.collectionExists _ name hasks)
  | configSetExists name => exact hremote _ (Keeps.compositional.configSetExists _ name hasks)
  | getSchema name =>
      exact hcached _ ((Keeps.compositional (I := Cluster.Whole q)).get Keeps.compositional
        (.onRemote fun _ => True) hasks (fun _ _ _ hs => hs) fun _ _ _ _ _ hs => hs)
  | updateSchema name desired merge => exact hcached _ (Schema.keeps_whole_update q s.naming name desired merge)
  | index name docs => exact hremote _ (Keeps.compositional.index docs hwrites)
  | deleteIds name ids => exact hremote _ (Keeps.compositional.deleteIds ids hwrites)
  | deleteQuery name query => exact hremote _ (Keeps.compositional.deleteQuery query hwrites)
  | create config => cases hcall
  | ensure config => cases hcall
  | delete name => cases hcall
  | invalidate name => cases hneeds
  | destroy => cases hneeds

theorem whole_act {k : Connector Cluster Unit} (hq : p.qualify table = some q) (hneeds : call.needsCluster = true)
    (h : st.remote.Whole q) :
    let r := act ⟨p, base, k⟩ Cluster.gateway call st
    r.2.remote.Whole q ∨ call.Leaves table r.1 := by
  intro r
  have htable : ∀ {name}, p.qualify name = some q → name = table := fun hname =>
    NamingPolicy.qualify_injective hname hq
  cases hcall : call.provisions with
  | false => exact .inl (whole_act_of_not_provisions hneeds hcall h)
  | true =>
      cases call with
      | create config =>
          refine whole_tell ?_
          rw [stateAfter_onRemote]
          exact (Provisioner.whole_create h).imp id fun ⟨hname, e, d, hrun, he⟩ =>
            ⟨e, _, Cached.onRemote_of_error hrun, htable hname, he⟩
      | ensure config =>
          exact whole_tell ((Provisioner.whole_ensure h).imp id fun ⟨hname, e, t, hrun, he⟩ =>
            ⟨.create e, t, hrun, htable hname, he⟩)
      | delete name =>
          exact whole_tell ((Provisioner.whole_delete h).imp id fun ⟨hname, e, t, hrun, he⟩ =>
            ⟨e, t, hrun, htable hname, he⟩)
      | _ => cases hcall

theorem whole_answer (base : String) (call : ServiceCall) (hq : p.qualify table = some q) (h : st.remote.Whole q) :
    ((inMemory p base).answer call st).2.remote.Whole q ∨
      call.Leaves table ((inMemory p base).answer call st).1 := by
  cases hneeds : call.needsCluster with
  | true =>
      rw [answer_of_needsCluster _ hneeds, client_run]
      have hopened : (opened st).remote.Whole q := by
        rw [remote_opened]
        exact h.withAccount ..
      exact whole_act hq hneeds hopened
  | false =>
      left
      by_cases hd : call = .destroy
      · subst hd
        obtain ⟨handle, cache, remote⟩ := st
        cases handle with
        | none => exact h
        | some u => exact h.withAccount ..
      · rw [(remote_of_not_needsCluster (inMemory p base) hneeds hd st).2]
        exact h

/-! ## Under the operations of one service -/

/-- What a service of the tenant `p` and a fresh cluster of that tenant come to under operations of the service, with
the answers to them from the last one on, while calls are made to fail and to succeed again. -/
inductive Operated (p : NamingPolicy) (base : String) :
    List (ServiceCall × ServiceAnswer) → ServiceState Cluster Unit → Prop where
  | fresh (cache : SchemaCache) : Operated p base [] ⟨none, cache, .fresh p⟩
  | answer {history : List (ServiceCall × ServiceAnswer)} {st : ServiceState Cluster Unit} (call : ServiceCall) :
    Operated p base history st →
      Operated p base ((call, ((inMemory p base).answer call st).1) :: history) ((inMemory p base).answer call st).2
  | fail {history : List (ServiceCall × ServiceAnswer)} {st : ServiceState Cluster Unit} (op : Operation)
    (status : Int) : Operated p base history st →
      Operated p base history { st with remote := st.remote.fail op status }
  | clearFailure {history : List (ServiceCall × ServiceAnswer)} {st : ServiceState Cluster Unit} (op : Operation) :
    Operated p base history st → Operated p base history { st with remote := st.remote.clearFailure op }

namespace Operated

variable {history : List (ServiceCall × ServiceAnswer)}

theorem tenanted (h : Operated p base history st) : st.remote.Tenanted p := by
  induction h with
  | fresh cache => exact .fresh p
  | answer call _ ih => exact tenanted_answer base call ih
  | fail op status _ ih => exact ih.withAccount ..
  | clearFailure op _ ih => exact ih.withAccount ..

theorem held (h : Operated p base history st) : st.handle = some () → st.remote.closed = false := by
  induction h with
  | fresh cache => nofun
  | answer call _ ih => exact held_answer base call ih
  | fail op status _ ih => exact ih
  | clearFailure op _ ih => exact ih

/-- A config-set is whole, unless it is the one that the cluster started with or an operation has left it. -/
theorem whole (h : Operated p base history st) (hq : p.qualify table = some q) (hbase : q ≠ Cluster.baseConfigSet)
    (hleft : ∀ e ∈ history, ¬ e.1.Leaves table e.2) : st.remote.Whole q := by
  induction h with
  | fresh cache =>
      refine .of_gone (Cluster.consistent_fresh p) ?_
      rw [Cluster.fresh, SortedMap.contains_insert, beq_false_of_ne hbase.symm]
      rfl
  | answer call _ ih =>
      have hold := ih fun e he => hleft e (List.mem_cons_of_mem _ he)
      exact (whole_answer base call hq hold).resolve_right (hleft _ List.mem_cons_self)
  | fail op status _ ih => exact (ih hleft).withAccount ..
  | clearFailure op _ ih => exact (ih hleft).withAccount ..

end Operated

/-- While no call fails, a table that is not cached is not found exactly if its config-set is not there, and then its
collection is not there either. Without its collection a config-set is there only if creating or deleting the table
was done in part, and then fetching fails for the collection. -/
theorem schemaNotFound_iff {history : List (ServiceCall × ServiceAnswer)} (h : Operated p base history st)
    (hfail : st.remote.failures = []) (hplain : p.IsPlain table) (hq : p.qualify table = some q)
    (hl : st.cache.lookup q = none) :
    let answer := ((inMemory p base).answer (.getSchema table) st).1
    (answer = .schema (.error (.schemaNotFound table)) ↔ st.remote.configSets.contains q = false) ∧
      (st.remote.configSets.contains q = false → st.remote.collections.contains q = false) ∧
      (st.remote.configSets.contains q = true → st.remote.collections.contains q = false →
        answer = .schema (.error (.remote table (Cluster.noCollection table))) ∧
          (q = Cluster.baseConfigSet ∨ ∃ e ∈ history, e.1.Leaves table e.2)) := by
  intro answer
  have hserves := serves_opened h.held hfail
  have hsets : (opened st).remote.configSets = st.remote.configSets := by rw [remote_opened]
  have hl : (opened st).cache.lookup q = none := hl
  have hfailed : ∀ {e r}, Schema.fetch Cluster.gateway q table (opened st).remote = .error e r →
      answer = .schema (.error e) := fun {e r} hf => by
    have hget := Schema.get_of_fetch_error (s := ⟨(opened st).cache, (opened st).remote⟩) hq hl hf
    show (tell .schema ((inMemory p base).getSchema table st)).1 = _
    rw [getSchema_run, onCached_of_error hget]
    rfl
  refine ⟨⟨fun hnot => ?unset, fun hno => ?notFound⟩, fun hno => ?gone, fun hset hno => ⟨?unserved, ?left⟩⟩
  case unset =>
    cases hf : Schema.fetch Cluster.gateway q table (opened st).remote with
    | ok known r =>
        have hget := Schema.get_of_fetch (s := ⟨(opened st).cache, (opened st).remote⟩) hq hl hf
        have hfound : (tell .schema ((inMemory p base).getSchema table st)).1 = _ := hnot
        rw [getSchema_run, onCached_of_ok hget] at hfound
        cases hfound
    | error e r =>
        obtain rfl : e = .schemaNotFound table := by
          rw [hfailed hf] at hnot
          cases hnot
          rfl
        exact hsets ▸ Schema.unset_of_fetch hf
  case notFound => exact hfailed (Schema.fetch_of_unset table (hserves _) (hsets.symm ▸ hno))
  case gone =>
    cases hthere : st.remote.collections.contains q with
    | false => rfl
    | true => exact (h.tenanted.contains_configSets hthere).symm.trans hno
  case unserved =>
    have hserved := h.tenanted.served_eq_none hplain hq hno
    exact hfailed (Schema.fetch_of_unserved (hserves _) (hserves _) (hsets.symm ▸ hset)
      ((served_seen st table).trans hserved))
  case left =>
    by_cases hbase : q = Cluster.baseConfigSet
    · exact .inl hbase
    by_cases hleft : ∃ e ∈ history, e.1.Leaves table e.2
    · exact .inr hleft
    have hwhole := h.whole hq hbase fun e he hleaves => hleft ⟨e, he, hleaves⟩
    exact absurd (hwhole.whole hset) (Bool.eq_false_iff.mp hno)

/-- A service that could not create the collection of `orders` in a fresh cluster, when it could again. -/
def ordersLeft : ServiceState Cluster Unit :=
  let st := ⟨none, .ofKind .unbounded, (Cluster.fresh ⟨"DEFAULT"⟩).fail .createCollection 500⟩
  let st := ((inMemory ⟨"DEFAULT"⟩ Cluster.baseConfigSet).answer (.create ⟨"orders", none, 1, 1, none, none⟩) st).2
  { st with remote := st.remote.clearFailure .createCollection }

theorem operated_ordersLeft : ∃ history, Operated ⟨"DEFAULT"⟩ Cluster.baseConfigSet history ordersLeft :=
  ⟨_, .clearFailure _ (.answer _ (.fail _ _ (.fresh _)))⟩

/-- The attempt was one that leaves a config-set. -/
theorem leaves_ordersLeft :
    ∃ history, Operated ⟨"DEFAULT"⟩ Cluster.baseConfigSet history ordersLeft ∧
      ordersLeft.remote.configSets.contains "DEFAULT_orders" = true ∧
      ordersLeft.remote.collections.contains "DEFAULT_orders" = false ∧
      ∃ e ∈ history, e.1.Leaves "orders" e.2 := by
  obtain ⟨history, h⟩ := operated_ordersLeft
  have hq : NamingPolicy.qualify ⟨"DEFAULT"⟩ "orders" = some "DEFAULT_orders" := by decide
  have hset : ordersLeft.remote.configSets.contains "DEFAULT_orders" = true := by decide +kernel
  have hno : ordersLeft.remote.collections.contains "DEFAULT_orders" = false := by decide +kernel
  have hfetched := (schemaNotFound_iff h rfl NamingPolicy.isPlain_orders hq rfl).2.2 hset hno
  exact ⟨history, h, hset, hno, hfetched.2.resolve_left (by decide)⟩

/-- The collection of `orders` is not there, but its schema is looked for. -/
theorem looked_for_although_missing :
    (∃ history, Operated ⟨"DEFAULT"⟩ Cluster.baseConfigSet history ordersLeft) ∧
      ordersLeft.remote.failures = [] ∧ NamingPolicy.IsPlain ⟨"DEFAULT"⟩ "orders" ∧
      NamingPolicy.qualify ⟨"DEFAULT"⟩ "orders" = some "DEFAULT_orders" ∧
      ordersLeft.cache.lookup "DEFAULT_orders" = none ∧
      ordersLeft.remote.collections.contains "DEFAULT_orders" = false ∧
      ((inMemory ⟨"DEFAULT"⟩ Cluster.baseConfigSet).answer (.getSchema "orders") ordersLeft).1 =
        .schema (.error (.remote "orders" (Cluster.noCollection "orders"))) :=
  ⟨operated_ordersLeft, rfl, NamingPolicy.isPlain_orders, by decide, rfl, by decide +kernel, rfl⟩

end Service

end TableIndex
