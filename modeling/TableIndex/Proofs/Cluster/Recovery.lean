import TableIndex.Proofs.Cluster.Provision
import TableIndex.Service.Basic

/-!
# Programs that are run again

A program that failed on a cluster may have done a part of its work. Creating a collection and writing
documents find that part again and complete it; deleting a collection does not, since it asks for the
collection first.
-/

namespace TableIndex

variable {p : Provisioner} {config : CollectionConfig} {q table : String} {c d : Cluster}

/-! ## Creating -/

/-- The configuration asks for a collection that can be made. -/
structure CollectionConfig.Sized (config : CollectionConfig) : Prop where
  shards : config.shards ≠ 0
  replicas : config.replicas ≠ 0

namespace Provisioner

theorem persists_create (p : Provisioner) (config : CollectionConfig) :
    Persists Cluster.recovered (p.create Cluster.gateway config) :=
  Persists.compositional.create (fun _ _ => Cluster.persists_perform _) fun _ _ _ _ _ =>
    Cluster.persists_perform _

theorem create_of_there (hq : p.naming.qualify config.collectionName = some q)
    (hc : c.Serves .collectionExists) (hthere : c.collections.contains q = true) :
    p.create Cluster.gateway config c = .ok .alreadyExisted (c.withCalls (c.calls + 1)) := by
  have hask := Cluster.perform_collectionExists q hc
  simp only [create, hq]
  refine (bind_of_ok (adaptExcept_of_ok hask)).trans ?_
  rw [hthere]
  rfl

/-- With nothing in its way a collection that is missing is made on the config-set of its name. -/
theorem create_of_configSet (hq : p.naming.qualify config.collectionName = some q) (hc : c.Healthy)
    (hsized : config.Sized) (hno : c.collections.contains q = false)
    (hset : c.configSets.contains q = true) :
    p.create Cluster.gateway config c = .ok .created
      { c with collections := c.collections.insert q q, calls := c.calls + 3 } := by
  let c₁ := c.withCalls (c.calls + 1)
  let c₂ := c.withCalls (c.calls + 2)
  have hserves : ∀ n op, (c.withCalls n).Serves op := fun n op => (hc.serves op).of_data rfl
  have hask := Cluster.perform_collectionExists q (hc.serves .collectionExists)
  have hconfig : Cluster.gateway.perform (.configExists q) c₁ = .ok true c₂ := by
    refine (Cluster.perform_configExists (c := c₁) q (hserves _ _)).trans ?_
    rw [show c₁.configSets.contains q = true from hset]
    rfl
  have hmake := Cluster.change_createCollection (c := c₂) (hserves _ _) hno hset hsized.shards
    hsized.replicas
  simp only [create, hq]
  refine (bind_of_ok (adaptExcept_of_ok hask)).trans ?_
  simp only [hno, Bool.false_eq_true, ↓reduceIte]
  refine (bind_of_ok (adaptExcept_of_ok hconfig)).trans ?_
  simp only [Bool.not_true, Bool.false_eq_true, ↓reduceIte]
  exact bind_of_ok (adaptExcept_of_ok hmake)

/-- A config-set that is missing, too, is made first, as a copy. -/
theorem create_of_base {s : Schema} (hq : p.naming.qualify config.collectionName = some q)
    (hc : c.Healthy) (hsized : config.Sized) (hno : c.collections.contains q = false)
    (hset : c.configSets.contains q = false)
    (hbase : c.configSets.get? (config.requestedConfigSet.getD p.baseConfigSet) = some s) :
    p.create Cluster.gateway config c = .ok .created
      { c with
        configSets := c.configSets.insert q s
        collections := c.collections.insert q q
        calls := c.calls + 4 } := by
  let c₁ := c.withCalls (c.calls + 1)
  let c₂ := c.withCalls (c.calls + 2)
  let c₃ : Cluster := { c with configSets := c.configSets.insert q s, calls := c.calls + 3 }
  have hserves : ∀ n op, (c.withCalls n).Serves op := fun n op => (hc.serves op).of_data rfl
  have hask := Cluster.perform_collectionExists q (hc.serves .collectionExists)
  have hconfig : Cluster.gateway.perform (.configExists q) c₁ = .ok false c₂ := by
    refine (Cluster.perform_configExists (c := c₁) q (hserves _ _)).trans ?_
    rw [show c₁.configSets.contains q = false from hset]
    rfl
  have hcopy := Cluster.change_createConfig (c := c₂) (hserves _ _) hset hbase
  have hthere : c₃.configSets.contains q = true := by simp [c₃, SortedMap.contains_insert]
  have hmake := Cluster.change_createCollection (c := c₃)
    ⟨hc.opened, (hc.serves .createCollection).succeeds⟩ hno hthere hsized.shards hsized.replicas
  simp only [create, hq]
  refine (bind_of_ok (adaptExcept_of_ok hask)).trans ?_
  simp only [hno, Bool.false_eq_true, ↓reduceIte]
  refine (bind_of_ok (adaptExcept_of_ok hconfig)).trans ?_
  simp only [Bool.not_false, ↓reduceIte]
  exact (bind_of_ok (adaptExcept_of_ok hcopy)).trans (bind_of_ok (adaptExcept_of_ok hmake))

/-- A collection that could not be created is created by the second attempt as by a first one. -/
theorem resumes_create (p : Provisioner) (hsized : config.Sized) :
    Resumes Cluster.recovered Eq Cluster.SameData (p.create Cluster.gateway config) := by
  intro c e d h
  rcases create_eq_error h with hsame | ⟨name, q, cause, rfl⟩
  · exact respects_create p config _ _ (Cluster.data_recovered hsame)
  · obtain ⟨hq, hserves, hno, hset, s, hbase, hdata⟩ := create_eq_left h
    have hc : c.recovered.Healthy := ⟨hserves.opened, rfl⟩
    -- The second attempt finds the config-set that the first one made.
    let made : Cluster := { c with configSets := c.configSets.insert q s }
    have hmade := create_of_configSet (p := p) (c := made.recovered) hq ⟨hserves.opened, rfl⟩ hsized hno
      (by simp [made, Cluster.recovered, SortedMap.contains_insert])
    have hagree := respects_create p config _ _ (Cluster.data_recovered hdata)
    rw [show Cluster.recovered _ = made.recovered from rfl, hmade] at hagree
    rw [create_of_base hq hc hsized hno hset hbase]
    exact hagree.trans Cluster.sameData_equivalence (fun _ _ _ => Eq.trans) (.ok rfl rfl)

end Provisioner

/-! ## Writing documents -/

namespace Cluster

theorem stageAdds_stageAdds (c : Cluster) (collection : String) (docs : List (String × Document)) :
    (c.stageAdds collection docs).stageAdds collection docs = c.stageAdds collection docs := by
  simp [stageAdds, SortedMap.get?_insert, SortedMap.foldl_insert_foldl_insert, SortedMap.insert_insert]

theorem stageDeletes_stageDeletes (c : Cluster) (collection : String) (ids : List String) :
    (c.stageDeletes collection ids).stageDeletes collection ids = c.stageDeletes collection ids := by
  have hfold : ∀ m : SortedMap Unit, ids.foldl (fun m id => m.insert id ()) m =
      (ids.map fun id => (id, ())).foldl (fun m e => m.insert e.1 e.2) m := fun m => by
    rw [List.foldl_map]
  simp [stageDeletes, hfold, SortedMap.get?_insert, SortedMap.foldl_insert_foldl_insert,
    SortedMap.insert_insert]

/-- A write that succeeded succeeds once more and changes nothing then. -/
def Repeats (write : Call AdminResponse) : Prop :=
  ∀ c d r, serve write c = .ok r d → r.isSuccess = true → serve write d = .ok r d

theorem repeats_addDocuments (table : String) (docs : List Document) :
    Repeats (.addDocuments table docs) := by
  intro c d r h hr
  rw [serve] at h ⊢
  obtain ⟨collection, hres, h⟩ := onCollection_eq_ok h
  rw [addDocuments] at h
  cases hids : identified? docs with
  | none =>
      rw [hids] at h
      cases h
      cases hr
  | some docs' =>
      rw [hids] at h
      cases h
      have hres : (c.stageAdds collection docs').resolve? table = some collection := hres
      rw [onCollection, hres]
      simp only [addDocuments, hids, stageAdds_stageAdds]

theorem repeats_deleteByIds (table : String) (ids : List String) : Repeats (.deleteByIds table ids) := by
  intro c d r h _
  rw [serve] at h ⊢
  obtain ⟨collection, hres, h⟩ := onCollection_eq_ok h
  cases h
  have hres : (c.stageDeletes collection ids).resolve? table = some collection := hres
  rw [onCollection, hres]
  simp only [stageDeletes_stageDeletes]

theorem repeats_deleteByQuery (table query : String) : Repeats (.deleteByQuery table query) := by
  intro c d r h hr
  rw [serve] at h ⊢
  obtain ⟨collection, hres, h⟩ := onCollection_eq_ok h
  simp only [deleteByQuery] at h
  split at h
  · cases h
    cases hr
  · next q hquery =>
      cases h
      -- What is visible, and so what the query selects, is the same until the next commit.
      let ids := ((c.committedOf collection).entries.filter fun e => q.selects e.2).map Prod.fst
      have hres : (c.stageDeletes collection ids).resolve? table = some collection := hres
      have hagain : (c.stageDeletes collection ids).deleteByQuery collection query =
          ({}, (c.stageDeletes collection ids).stageDeletes collection ids) := by
        simp only [deleteByQuery, hquery]
        rfl
      rw [onCollection, hres]
      simp only [hagain, stageDeletes_stageDeletes, ids]

theorem Repeats.change {write : Call AdminResponse} (hw : Repeats write)
    (h : gateway.change write c = .ok () d) :
    gateway.change write d = .ok () (d.withCalls (d.calls + 1)) := by
  obtain ⟨r, hperform, hr⟩ := change_eq_ok h
  have hserves := serves_of_perform hperform
  obtain ⟨u, hserve, rfl⟩ := perform_eq_ok hperform
  have hserves' : (u.withCalls (c.calls + 1)).Serves write.operation :=
    (hserves.of_serve hserve).of_data rfl
  refine change_of_success (a := r) ((perform_of_serves hserves').trans ?_) hr
  rw [serve_withCalls, hw c u r hserve hr]
  rfl

end Cluster

namespace Document

/-- Documents whose commit failed are staged once more without effect. -/
theorem resumes_writeAndCommit (table : String) {write : Call AdminResponse}
    (hw : Cluster.Repeats write) (hcall : ∀ a, Cluster.accepts write a = a.isSuccess) :
    Resumes Cluster.recovered Eq Cluster.SameData (writeAndCommit Cluster.gateway table write) := by
  have hchange : Respects Cluster.SameData (Cluster.gateway.change write) :=
    Respects.compositional.change (Cluster.respects_perform _)
  have hcommit : Respects Cluster.SameData (Cluster.gateway.change (.commit table)) :=
    Respects.compositional.change (Cluster.respects_perform _)
  have hfailed : ∀ {call : Call AdminResponse}, (∀ a, Cluster.accepts call a = a.isSuccess) →
      ∀ c e d, Cluster.gateway.change call c = .error e d → Cluster.SameData d.recovered c.recovered :=
    fun hcall c e d h => Cluster.data_recovered (Cluster.data_of_change_error hcall h)
  have hpersists : Persists Cluster.recovered (Cluster.gateway.change write) :=
    Persists.compositional.change (Cluster.persists_perform _)
  refine .bind (Q := Eq) Cluster.sameData_equivalence (fun _ _ _ => Eq.trans)
    (.adaptExcept _ (.of_respects hchange (hfailed hcall))) (.adaptExcept _ hpersists)
    (fun c _ d e u hwrite hfail => ?_)
    (fun _ => .adaptExcept _ (.of_respects hcommit (hfailed fun _ => rfl)))
    (fun _ _ c d _ h => .adaptExcept _ (hcommit c d h))
  -- The commit that failed left what was staged, so that staging it again changes nothing.
  obtain ⟨e, hfail, -⟩ := adaptExcept_eq_error hfail
  have hdata : Cluster.SameData u.recovered d.recovered := hfailed (fun _ => rfl) d e u hfail
  have hagree := hchange u.recovered d.recovered hdata
  rw [hw.change (hpersists c () d (adaptExcept_eq_ok hwrite))] at hagree
  obtain ⟨_, v, hrun, -, hv⟩ := hagree.eq_ok
  exact ⟨(), v, adaptExcept_of_ok hrun, rfl, Eq.trans hv hdata.symm⟩

theorem resumes_index (table : String) (docs : List Document) :
    Resumes Cluster.recovered Eq Cluster.SameData (index Cluster.gateway table docs) :=
  .ite (.pure ()) (resumes_writeAndCommit table (Cluster.repeats_addDocuments table docs) fun _ => rfl)

theorem resumes_deleteIds (table : String) (ids : List String) :
    Resumes Cluster.recovered Eq Cluster.SameData (deleteIds Cluster.gateway table ids) :=
  .ite (.pure ()) (resumes_writeAndCommit table (Cluster.repeats_deleteByIds table ids) fun _ => rfl)

theorem resumes_deleteQuery (table query : String) :
    Resumes Cluster.recovered Eq Cluster.SameData (deleteQuery Cluster.gateway table query) :=
  .ite (.pure ()) (resumes_writeAndCommit table (Cluster.repeats_deleteByQuery table query) fun _ => rfl)

end Document

/-! ## Changing schemas -/

namespace Schema

variable {naming : NamingPolicy} {s t : Cached Cluster} {current : Schema}

theorem respects_get (naming : NamingPolicy) (table : String) :
    Respects (Cached.Same Cluster.SameData) (get naming Cluster.gateway table) :=
  Respects.compositional.get Respects.compositional .onRemote (fun _ _ => Cluster.respects_perform _)
    (fun q => .lookup q) fun q _ schema => .put q schema

theorem persists_get (naming : NamingPolicy) (table : String) :
    Persists (Cached.recover Cluster.recovered) (get naming Cluster.gateway table) :=
  Persists.compositional.get Persists.compositional .onRemote (fun _ _ => Cluster.persists_perform _)
    (fun q => .lookup q) fun q _ schema => .put q schema

theorem keeps_get (naming : NamingPolicy) (table : String) (c : Cluster) :
    Keeps (fun s => s.remote.data = c.data ∧ True) (get naming Cluster.gateway table) :=
  (Keeps.compositional (I := fun d => d.data = c.data)).get Keeps.compositional (.onRemote fun _ => True)
    (fun _ h => Cluster.keeps_asks (fun _ _ h => h) h) (fun _ _ _ h => h) fun _ _ _ _ _ h => h

theorem data_of_get (h : get naming Cluster.gateway table s = .ok current t) :
    t.remote.data = s.remote.data := by
  have hkeeps := keeps_get naming table s.remote s ⟨rfl, trivial⟩
  rw [h] at hkeeps
  exact hkeeps.1

/-- A schema that was read is read again. -/
theorem get_again (h : get naming Cluster.gateway table s = .ok current t) :
    ∃ u, get naming Cluster.gateway table t = .ok current u ∧ u.Same Cluster.SameData t := by
  obtain ⟨q, hq, ⟨-, rfl⟩ | ⟨hl, hf, hcache⟩⟩ := get_eq_ok h
  · exact ⟨t, h, rfl, rfl⟩
  by_cases hu : s.cache.IsUnbounded
  · have hl : t.cache.lookup q = some current := by
      rw [hcache]
      exact hu.lookup_insert q current
    exact ⟨t, get_of_cached hq hl, rfl, rfl⟩
  · -- A store that keeps nothing has the schema fetched anew.
    have hagree := respects_fetch q table t.remote s.remote (data_of_get h)
    rw [hf] at hagree
    obtain ⟨_, r, hr, rfl, hsame⟩ := hagree.eq_ok
    rw [Store.insert_of_not_unbounded hu] at hcache
    refine ⟨_, get_of_fetch hq (hcache ▸ hl) hr, ?_, hsame⟩
    rw [hcache]
    exact Store.insert_of_not_unbounded hu q _

theorem get_eq_error {e : GetSchemaError} (h : get naming Cluster.gateway table s = .error e t) :
    t.Same Cluster.SameData s := by
  have hread := reading naming Cluster.gateway table s
  rw [h] at hread
  cases hread with
  | blank hq => exact ⟨rfl, rfl⟩
  | @failed q _ r hq hl hf =>
      have hkeeps := keeps_fetch s.remote q table s.remote rfl
      rw [hf] at hkeeps
      exact ⟨rfl, hkeeps⟩

theorem respects_submit (naming : NamingPolicy) (table : String) (merge : Bool)
    (plan : SchemaUpdate.Plan) :
    Respects (Cached.Same Cluster.SameData) (submit naming Cluster.gateway table merge plan) :=
  Respects.compositional.submit Respects.compositional .onRemote merge plan
    (Cluster.respects_perform _) fun q _ schema => .put q schema

theorem cacheUpdated_ne_error {ε : Type} {e : ε} {schema : Schema} :
    cacheUpdated naming table schema s ≠ .error e t := by
  rw [cacheUpdated]
  cases naming.qualify table with
  | none => rintro ⟨⟩
  | some q => rintro ⟨⟩

/-- Only the cluster can refuse a plan, and then it changes nothing. -/
theorem submit_eq_error {merge : Bool} {plan : SchemaUpdate.Plan} {e : UpdateSchemaError}
    (h : submit naming Cluster.gateway table merge plan s = .error e t) :
    t.Same Cluster.SameData s := by
  rw [submit] at h
  split at h
  · split at h
    · exact absurd h cacheUpdated_ne_error
    · cases h
  · rcases bind_eq_error h with h | ⟨_, u, -, h⟩
    · obtain ⟨⟨cause, h, -⟩, hcache⟩ := Cached.onRemoteOr_eq_error h
      exact ⟨hcache, Cluster.data_of_change_error (fun _ => rfl) h⟩
    · exact absurd h cacheUpdated_ne_error

theorem respects_update (naming : NamingPolicy) (table : String) (desired : Schema) (merge : Bool) :
    Respects (Cached.Same Cluster.SameData) (update naming Cluster.gateway table desired merge) :=
  Respects.compositional.update Respects.compositional .onRemote
    (fun _ _ => Cluster.respects_perform _) (fun _ _ => Cluster.respects_perform _)
    (fun q => .lookup q) (fun q _ schema => .put q schema) desired merge

theorem data_of_update_error {desired : Schema} {merge : Bool} {e : UpdateSchemaError}
    (h : update naming Cluster.gateway table desired merge s = .error e t) :
    t.remote.data = s.remote.data := by
  rw [update_eq] at h
  rcases bind_eq_error h with h | ⟨current, u, hget, h⟩
  · obtain ⟨e, h, -⟩ := adaptExcept_eq_error h
    exact (get_eq_error h).remote
  · exact (submit_eq_error h).remote.trans (data_of_get (adaptExcept_eq_ok hget))

/-- A change of a schema that was refused is planned again from the schema that was read. -/
theorem resumes_update (naming : NamingPolicy) (table : String) (desired : Schema) (merge : Bool) :
    Resumes (Cached.recover Cluster.recovered) Eq (Cached.Same Cluster.SameData)
      (update naming Cluster.gateway table desired merge) := by
  have hequiv := Cached.same_equivalence Cluster.sameData_equivalence
  have hrecovered : ∀ {s t : Cached Cluster}, t.Same Cluster.SameData s →
      (t.recover Cluster.recovered).Same Cluster.SameData (s.recover Cluster.recovered) := fun h =>
    ⟨h.cache, Cluster.data_recovered h.remote⟩
  have hget := respects_get naming table
  rw [update_eq]
  refine .bind (Q := Eq) hequiv (fun _ _ _ => Eq.trans)
    (.adaptExcept _ (.of_respects hget fun _ _ _ h => hrecovered (get_eq_error h)))
    (.adaptExcept _ (persists_get naming table)) (fun s current t e u hread hfail => ?_)
    (fun current => .of_respects (respects_submit naming table merge _) fun _ _ _ h =>
      hrecovered (submit_eq_error h)) ?_
  · have hsame := hrecovered (submit_eq_error hfail)
    obtain ⟨v, hv, hvt⟩ := get_again (persists_get naming table s current t (adaptExcept_eq_ok hread))
    have hagree := hget _ _ hsame
    rw [hv] at hagree
    obtain ⟨known, w, hw, rfl, hwv⟩ := hagree.eq_ok
    exact ⟨known, w, adaptExcept_of_ok hw, rfl,
      hequiv.trans hwv (hequiv.trans hvt (hequiv.symm hsame))⟩
  · rintro current _ s t rfl hst
    exact respects_submit naming table merge _ s t hst

end Schema

/-! ## Creating with a schema -/

namespace Provisioner

/-- Creates the collection of a table if it is missing, and merges the declared schema into it. -/
def ensure {σ : Type} (p : Provisioner) (g : Gateway σ) (config : CollectionConfig) :
    EStateM EnsureError (Cached σ) CreateOutcome := do
  let outcome ← Cached.onRemoteOr EnsureError.create (p.create g config)
  if let some schema := config.schema then
    (Schema.update p.naming g config.collectionName schema true).adaptExcept EnsureError.schema
  return outcome

theorem persists_ensure_create (p : Provisioner) (config : CollectionConfig) :
    Persists (Cached.recover Cluster.recovered)
      (Cached.onRemoteOr EnsureError.create (p.create Cluster.gateway config)) :=
  .onRemote (.adaptExcept _ (persists_create p config))

/-- Once the collection is there, the schema is merged into it as if it had been created just now. -/
theorem resumes_ensure (p : Provisioner) (hsized : config.Sized) :
    Resumes (Cached.recover Cluster.recovered) (fun _ _ => True) (Cached.Same Cluster.SameData)
      (p.ensure Cluster.gateway config) := by
  have hequiv := Cached.same_equivalence Cluster.sameData_equivalence
  have hupdate := Schema.resumes_update p.naming config.collectionName
  have hrespects := Schema.respects_update p.naming config.collectionName
  refine .bind (Q := fun _ _ => True) hequiv (fun _ _ _ _ _ => trivial)
    (.imp (.onRemote (.adaptExcept _ (resumes_create p hsized))) fun _ _ _ => trivial)
    (persists_ensure_create p config) (fun s o t e u hcreate hfail => ?_) (fun o => ?_) ?_
  · obtain ⟨hcreate, -⟩ := Cached.onRemoteOr_eq_ok hcreate
    obtain ⟨q, hq, hserves, hthere⟩ := create_eq_ok hcreate
    have hdata : u.remote.data = t.remote.data := by
      cases hschema : config.schema with
      | none =>
          simp only [hschema] at hfail
          cases hfail
      | some desired =>
          simp only [hschema] at hfail
          rcases bind_eq_error hfail with hfail | ⟨_, v, -, hfail⟩
          · obtain ⟨e, hfail, -⟩ := adaptExcept_eq_error hfail
            exact Schema.data_of_update_error hfail
          · cases hfail
    have hclosed : u.remote.closed = t.remote.closed := congrArg (·.closed) hdata
    have hcollections : u.remote.collections = t.remote.collections := congrArg (·.collections) hdata
    have hfound := create_of_there (p := p) (c := u.remote.recovered) hq ⟨hclosed.trans hserves.opened, rfl⟩
      (hcollections ▸ hthere)
    exact ⟨.alreadyExisted, _, Cached.onRemoteOr_of_ok (s := u.recover _) hfound, trivial, rfl, rfl⟩
  · cases config.schema with
    | none => exact .pure o
    | some desired => exact .map _ (.adaptExcept _ (hupdate desired true)) fun _ _ _ => trivial
  · intro o o' s t _ hst
    cases config.schema with
    | none => exact .ok trivial hst
    | some desired =>
        refine ((hrespects desired true s t hst).adaptExcept EnsureError.schema).bind fun _ _ _ _ _ h => ?_
        exact .ok trivial h

end Provisioner

/-! ## Deleting -/

/-- The attempt after one that was done in part finds no collection, and so it does not get to the config-set,
which an attempt without failure removes. -/
theorem Provisioner.delete_again {s t : Cached Cluster} {e : DeleteError}
    (h : p.delete Cluster.gateway table s = .error e t) (he : e.effect = .partially) :
    ∃ q again, p.naming.qualify table = some q ∧
      p.delete Cluster.gateway table (t.recover Cluster.recovered) = .ok .notFound again ∧
      again.remote.collections.contains q = false ∧
      again.remote.configSets = s.remote.configSets ∧
      ((∀ name, s.remote.collections.get? name = some q → name = q) →
        ∃ outcome once,
          p.delete Cluster.gateway table (s.recover Cluster.recovered) = .ok outcome once ∧
          once.remote.collections.contains q = false ∧ once.remote.configSets.contains q = false ∧
          (again.remote.data = once.remote.data ↔ s.remote.configSets.contains q = false)) := by
  obtain ⟨name, q, cause, rfl⟩ : ∃ name q cause, e = .configSet name q cause := by
    cases e with
    | configSet name q cause => exact ⟨name, q, cause, rfl⟩
    | _ => cases he
  obtain ⟨hq, hserves, hthere, hdata⟩ := delete_eq_left h
  have hremote := Cluster.eq_withCalls hdata.symm
  have herased : (s.remote.collections.erase q).contains q = false := by simp [SortedMap.contains_erase]
  have hgone : t.remote.collections.contains q = false := by
    rw [hremote]
    exact herased
  have hkept : t.remote.configSets = s.remote.configSets := congrArg (·.configSets) hremote
  have hclosed : t.remote.closed = false := (congrArg (·.closed) hremote).trans hserves.opened
  have hagain := delete_of_missing (c := t.remote.recovered) hq ⟨hclosed, rfl⟩ hgone t.cache
  refine ⟨q, _, hq, hagain, hgone, hkept, fun hunused => ?_⟩
  have honce := delete_of_unused (c := s.remote.recovered) hq ⟨hserves.opened, rfl⟩ hthere hunused s.cache
  rw [show s.remote.recovered.configSets = s.remote.configSets from rfl] at honce
  cases hset : s.remote.configSets.contains q with
  | false =>
      rw [hset] at honce
      have hsame := Cluster.data_recovered hdata
      exact ⟨_, _, honce, herased, hset, iff_of_true hsame rfl⟩
  | true =>
      rw [hset] at honce
      have hmissing : (s.remote.configSets.erase q).contains q = false := by
        simp [SortedMap.contains_erase]
      refine ⟨_, _, honce, herased, hmissing, iff_of_false (fun hsame => ?_) (by simp)⟩
      -- The config-set that the second attempt leaves tells them apart.
      have hsets : t.remote.configSets = s.remote.configSets.erase q := congrArg (·.configSets) hsame
      rw [← hkept, hsets, hmissing] at hset
      cases hset

end TableIndex
