import TableIndex.Proofs.Cluster.Programs
import TableIndex.Proofs.Schema.Reconcile

/-!
# What creating and deleting a collection comes to

Both stop at the first call that fails or is refused. `Creation` and `Deletion` list the ways in which they can
end, with the calls that were accepted until then; what a result says of the cluster is read off from there.
-/

namespace TableIndex

namespace Provisioner

variable {p : Provisioner} {config : CollectionConfig} {table : String} {c d : Cluster} {s t : Cached Cluster}

/-! ## Creating -/

inductive Creation (p : Provisioner) (config : CollectionConfig) (c : Cluster) :
    EStateM.Result CreateError Cluster CreateOutcome → Prop where
  | failed {e : CreateError} (n : Nat) : e.effect = .none → Creation p config c (.error e (c.withCalls n))
  | found {q : String} (n : Nat) : p.naming.qualify config.collectionName = some q →
      c.Serves .collectionExists → c.collections.contains q = true →
        Creation p config c (.ok .alreadyExisted (c.withCalls n))
  | created {q : String} {d : Cluster} (n : Nat) : p.naming.qualify config.collectionName = some q →
      c.Serves .collectionExists → c.Becomes (.createCollection q q config.shards config.replicas) d →
        Creation p config c (.ok .created (d.withCalls n))
  | copied {q : String} {d e : Cluster} (n : Nat) : p.naming.qualify config.collectionName = some q →
      c.Serves .collectionExists →
      c.Becomes (.createConfig (config.requestedConfigSet.getD p.baseConfigSet) q) d →
      d.Becomes (.createCollection q q config.shards config.replicas) e →
        Creation p config c (.ok .created (e.withCalls n))
  /-- The config-set was copied, but the collection was not made. -/
  | left {q : String} {d : Cluster} (cause : ClientError) (n : Nat) :
      p.naming.qualify config.collectionName = some q → c.Serves .collectionExists →
      c.collections.contains q = false →
      c.Becomes (.createConfig (config.requestedConfigSet.getD p.baseConfigSet) q) d →
        Creation p config c (.error (.collection config.collectionName q true cause) (d.withCalls n))

theorem creation (p : Provisioner) (config : CollectionConfig) (c : Cluster) :
    Creation p config c (p.create Cluster.gateway config c) := by
  cases hq : p.naming.qualify config.collectionName with
  | none =>
      rw [create_of_blank hq]
      exact .failed c.calls rfl
  | some q =>
      simp only [create, hq]
      rcases @Cluster.perform_cases Bool c (.collectionExists q) _ rfl c.calls with
        ⟨cause, n, hask⟩ | ⟨hserves, n, hask⟩
      · rw [bind_of_error (s := c) (adaptExcept_of_error hask)]
        exact .failed n rfl
      rw [bind_of_ok (s := c) (adaptExcept_of_ok hask)]
      cases hthere : c.collections.contains q with
      | true => exact .found n hq hserves hthere
      | false =>
          simp only [Bool.false_eq_true, ↓reduceIte]
          rcases @Cluster.perform_cases Bool c (.configExists q) _ rfl n with
            ⟨cause, n, hconfig⟩ | ⟨-, n, hconfig⟩
          · rw [bind_of_error (adaptExcept_of_error hconfig)]
            exact .failed n rfl
          rw [bind_of_ok (adaptExcept_of_ok hconfig)]
          have hmake := @Cluster.changeCollection_cases
            (.createCollection q q config.shards config.replicas) fun _ => rfl
          cases hset : c.configSets.contains q with
          | true =>
              simp only [Bool.not_true, Bool.false_eq_true, ↓reduceIte]
              rcases hmake c n with ⟨cause, n, hmake⟩ | ⟨d, n, hd, hmake⟩
              · rw [bind_of_error (adaptExcept_of_error hmake)]
                exact .failed n rfl
              · rw [bind_of_ok (adaptExcept_of_ok hmake)]
                exact .created n hq hserves hd
          | false =>
              simp only [Bool.not_false, ↓reduceIte]
              rcases @Cluster.change_cases
                (.createConfig (config.requestedConfigSet.getD p.baseConfigSet) q) (fun _ => rfl) c n with
                  ⟨cause, n, hcopy⟩ | ⟨d, n, hd, hcopy⟩
              · rw [bind_of_error (adaptExcept_of_error hcopy)]
                exact .failed n rfl
              rw [bind_of_ok (adaptExcept_of_ok hcopy)]
              rcases hmake d n with ⟨cause, n, hmake⟩ | ⟨e, n, he, hmake⟩
              · rw [bind_of_error (adaptExcept_of_error hmake)]
                exact .left cause n hq hserves hthere hd
              · rw [bind_of_ok (adaptExcept_of_ok hmake)]
                exact .copied n hq hserves hd he

theorem create_eq_alreadyExisted (h : p.create Cluster.gateway config c = .ok .alreadyExisted d) :
    ∃ q, p.naming.qualify config.collectionName = some q ∧ c.collections.contains q = true ∧
      d.data = c.data := by
  have hc := creation p config c
  rw [h] at hc
  cases hc with
  | found n hq _ hthere => exact ⟨_, hq, hthere, rfl⟩

theorem create_eq_created (h : p.create Cluster.gateway config c = .ok .created d) :
    ∃ q configSets, p.naming.qualify config.collectionName = some q ∧
      c.collections.contains q = false ∧ d.collections.get? q = some q ∧ d.configSets.contains q = true ∧
      (configSets = c.configSets ∨ c.configSets.contains q = false ∧ ∃ schema,
        c.configSets.get? (config.requestedConfigSet.getD p.baseConfigSet) = some schema ∧
        configSets = c.configSets.insert q schema) ∧
      d.data = ({ c with configSets, collections := c.collections.insert q q } : Cluster).data := by
  have hc := creation p config c
  rw [h] at hc
  cases hc with
  | created n hq _ hd =>
      obtain ⟨hno, hset, -, rfl⟩ := hd
      exact ⟨_, _, hq, hno, SortedMap.get?_insert_self .., hset, .inl rfl, rfl⟩
  | copied n hq _ hd he =>
      obtain ⟨hset, schema, hbase, rfl⟩ := hd
      obtain ⟨hno, hset', -, rfl⟩ := he
      exact ⟨_, _, hq, hno, SortedMap.get?_insert_self .., hset', .inr ⟨hset, schema, hbase, rfl⟩, rfl⟩

/-- A collection that was created, or was there, is found by the next attempt. -/
theorem create_eq_ok {o : CreateOutcome} (h : p.create Cluster.gateway config c = .ok o d) :
    ∃ q, p.naming.qualify config.collectionName = some q ∧ d.Serves .collectionExists ∧
      d.collections.contains q = true := by
  have hc := creation p config c
  rw [h] at hc
  cases hc with
  | found n hq hserves hthere => exact ⟨_, hq, hserves.of_data rfl, hthere⟩
  | created n hq hserves hd =>
      obtain ⟨-, -, -, rfl⟩ := hd
      exact ⟨_, hq, ⟨hserves.opened, hserves.succeeds⟩, SortedMap.contains_insert_self ..⟩
  | copied n hq hserves hd he =>
      obtain ⟨-, schema, -, rfl⟩ := hd
      obtain ⟨-, -, -, rfl⟩ := he
      exact ⟨_, hq, ⟨hserves.opened, hserves.succeeds⟩, SortedMap.contains_insert_self ..⟩

theorem create_eq_left {name q : String} {cause : ClientError}
    (h : p.create Cluster.gateway config c = .error (.collection name q true cause) d) :
    p.naming.qualify config.collectionName = some q ∧ c.Serves .collectionExists ∧
      c.collections.contains q = false ∧ c.configSets.contains q = false ∧ ∃ schema,
        c.configSets.get? (config.requestedConfigSet.getD p.baseConfigSet) = some schema ∧
        d.data = ({ c with configSets := c.configSets.insert q schema } : Cluster).data := by
  have hc := creation p config c
  rw [h] at hc
  cases hc with
  | failed n he => cases he
  | left cause n hq hserves hno hd =>
      obtain ⟨hset, schema, hbase, rfl⟩ := hd
      exact ⟨hq, hserves, hno, hset, schema, hbase, rfl⟩

/-- What an attempt that failed can leave behind: a config-set, made where neither it nor the collection was. -/
theorem create_eq_error {e : CreateError} (h : p.create Cluster.gateway config c = .error e d) :
    d.data = c.data ∨ ∃ name q cause, e = .collection name q true cause := by
  have hc := creation p config c
  rw [h] at hc
  cases hc with
  | failed n _ => exact .inl rfl
  | left cause n _ _ _ _ => exact .inr ⟨_, _, cause, rfl⟩

/-! ## Deleting -/

inductive Deletion (p : Provisioner) (table : String) (s : Cached Cluster) :
    EStateM.Result DeleteError (Cached Cluster) DeleteOutcome → Prop where
  | failed {e : DeleteError} (n : Nat) : e.effect = .none →
      Deletion p table s (.error e ⟨s.cache, s.remote.withCalls n⟩)
  | missing (n : Nat) :
      (∀ q, p.naming.qualify table = some q → s.remote.collections.contains q = false) →
        Deletion p table s (.ok .notFound ⟨s.cache, s.remote.withCalls n⟩)
  | kept {q : String} {d : Cluster} (n : Nat) : p.naming.qualify table = some q →
      s.remote.Becomes (.deleteCollection q) d → d.configSets.contains q = false →
        Deletion p table s (.ok .deletedKeepingConfigSet ⟨s.cache.remove q, d.withCalls n⟩)
  | deleted {q : String} {d e : Cluster} (n : Nat) : p.naming.qualify table = some q →
      s.remote.Becomes (.deleteCollection q) d → d.Becomes (.deleteConfig q) e →
        Deletion p table s (.ok .deleted ⟨s.cache.remove q, e.withCalls n⟩)
  /-- The collection was deleted, but its config-set was not. -/
  | left {q : String} {d : Cluster} (cause : ClientError) (n : Nat) : p.naming.qualify table = some q →
      s.remote.Serves .collectionExists → s.remote.Becomes (.deleteCollection q) d →
        Deletion p table s (.error (.configSet table q cause) ⟨s.cache.remove q, d.withCalls n⟩)

theorem deletion (p : Provisioner) (table : String) (s : Cached Cluster) :
    Deletion p table s (p.delete Cluster.gateway table s) := by
  obtain ⟨cache, c⟩ := s
  cases hq : p.naming.qualify table with
  | none =>
      rw [delete_of_blank hq]
      exact .missing c.calls fun q hq' => absurd (hq.symm.trans hq') nofun
  | some q =>
      simp only [delete, hq]
      rcases @Cluster.perform_cases Bool c (.collectionExists q) _ rfl c.calls with
        ⟨cause, n, hask⟩ | ⟨hserves, n, hask⟩
      · rw [bind_of_error (Cached.onRemoteOr_of_error (s := ⟨cache, c⟩) hask)]
        exact .failed n rfl
      rw [bind_of_ok (Cached.onRemoteOr_of_ok (s := ⟨cache, c⟩) hask)]
      cases hthere : c.collections.contains q with
      | false =>
          refine .missing n fun q' hq' => ?_
          obtain rfl : q = q' := Option.some.inj (hq.symm.trans hq')
          exact hthere
      | true =>
          simp only [Bool.not_true, Bool.false_eq_true, ↓reduceIte]
          rcases @Cluster.changeCollection_cases (.deleteCollection q) (fun _ => rfl) c n with
            ⟨cause, n, hdrop⟩ | ⟨d, n, hd, hdrop⟩
          · rw [bind_of_error (Cached.onRemoteOr_of_error (s := ⟨cache, c.withCalls _⟩) hdrop)]
            exact .failed n rfl
          rw [bind_of_ok (Cached.onRemoteOr_of_ok (s := ⟨cache, c.withCalls _⟩) hdrop),
            bind_of_ok (show Cached.forget q _ = .ok () _ from rfl)]
          rcases @Cluster.perform_cases Bool d (.configExists q) _ rfl n with
            ⟨cause, n, hconfig⟩ | ⟨-, n, hconfig⟩
          · rw [bind_of_error (Cached.onRemoteOr_of_error hconfig)]
            exact .left cause n hq hserves hd
          rw [bind_of_ok (Cached.onRemoteOr_of_ok hconfig)]
          cases hset : d.configSets.contains q with
          | false => exact .kept n hq hd hset
          | true =>
              simp only [Bool.not_true, Bool.false_eq_true, ↓reduceIte]
              rcases @Cluster.change_cases (.deleteConfig q) (fun _ => rfl) d n with
                ⟨cause, n, hgone⟩ | ⟨e, n, he, hgone⟩
              · rw [bind_of_error (Cached.onRemoteOr_of_error hgone)]
                exact .left cause n hq hserves hd
              · rw [bind_of_ok (Cached.onRemoteOr_of_ok hgone)]
                exact .deleted n hq hd he

theorem delete_eq_notFound (h : p.delete Cluster.gateway table s = .ok .notFound t) :
    (∀ q, p.naming.qualify table = some q → s.remote.collections.contains q = false) ∧
      t.cache = s.cache ∧ t.remote.data = s.remote.data := by
  have hs := deletion p table s
  rw [h] at hs
  cases hs with
  | missing n hno => exact ⟨hno, rfl, rfl⟩

theorem delete_eq_deleted (h : p.delete Cluster.gateway table s = .ok .deleted t) :
    ∃ q, p.naming.qualify table = some q ∧ s.remote.collections.contains q = true ∧
      t.remote.data = (s.remote.without q).data := by
  have hs := deletion p table s
  rw [h] at hs
  cases hs with
  | deleted n hq hd he =>
      obtain ⟨hthere, rfl⟩ := hd
      obtain ⟨-, -, rfl⟩ := he
      exact ⟨_, hq, hthere, rfl⟩

theorem delete_eq_deletedKeepingConfigSet
    (h : p.delete Cluster.gateway table s = .ok .deletedKeepingConfigSet t) :
    ∃ q, p.naming.qualify table = some q ∧ s.remote.collections.contains q = true ∧
      s.remote.configSets.contains q = false ∧ t.remote.data = (s.remote.dropped q).data := by
  have hs := deletion p table s
  rw [h] at hs
  cases hs with
  | kept n hq hd hset =>
      obtain ⟨hthere, rfl⟩ := hd
      exact ⟨_, hq, hthere, hset, rfl⟩

/-- A deletion that was done in part has taken away the collection and left the config-set as it was. -/
theorem delete_eq_left {name q : String} {cause : ClientError}
    (h : p.delete Cluster.gateway table s = .error (.configSet name q cause) t) :
    p.naming.qualify table = some q ∧ s.remote.Serves .collectionExists ∧
      s.remote.collections.contains q = true ∧ t.remote.data = (s.remote.dropped q).data := by
  have hs := deletion p table s
  rw [h] at hs
  cases hs with
  | failed n he => cases he
  | left cause n hq hserves hd =>
      obtain ⟨hthere, rfl⟩ := hd
      exact ⟨hq, hserves, hthere, rfl⟩

theorem delete_eq_error {e : DeleteError} (h : p.delete Cluster.gateway table s = .error e t) :
    (t.cache = s.cache ∧ t.remote.data = s.remote.data) ∨ ∃ name q cause, e = .configSet name q cause := by
  have hs := deletion p table s
  rw [h] at hs
  cases hs with
  | failed n _ => exact .inl ⟨rfl, rfl⟩
  | left cause n _ _ _ => exact .inr ⟨_, _, cause, rfl⟩

/-- The cached schema goes with the collection, however the deletion ends. -/
theorem cache_of_delete {q : String} (hq : p.naming.qualify table = some q)
    (hthere : s.remote.collections.contains q = true)
    (hgone : (stateAfter (p.delete Cluster.gateway table s)).remote.collections.contains q = false) :
    (stateAfter (p.delete Cluster.gateway table s)).cache = s.cache.remove q := by
  have hs := deletion p table s
  have hsame : ∀ {q'}, p.naming.qualify table = some q' → q' = q := fun hq' =>
    Option.some.inj (hq'.symm.trans hq)
  generalize p.delete Cluster.gateway table s = r at hs hgone ⊢
  cases hs with
  | failed n _ => exact absurd hthere (Bool.eq_false_iff.mp hgone)
  | missing n hno => exact absurd hthere (Bool.eq_false_iff.mp hgone)
  | kept n hq' _ _ =>
      rw [hsame hq']
      rfl
  | deleted n hq' _ _ =>
      rw [hsame hq']
      rfl
  | left cause n hq' _ _ =>
      rw [hsame hq']
      rfl

theorem cache_of_delete_ok {q : String} {outcome : DeleteOutcome} (hq : p.naming.qualify table = some q)
    (h : p.delete Cluster.gateway table s = .ok outcome t) :
    t.remote.collections.contains q = false ∧
      t.cache = if outcome = .notFound then s.cache else s.cache.remove q := by
  have hs := deletion p table s
  rw [h] at hs
  cases hs with
  | missing n hno => exact ⟨hno q hq, rfl⟩
  | kept n hq' hd hset =>
      cases hq.symm.trans hq'
      obtain ⟨-, rfl⟩ := hd
      exact ⟨by simp [Cluster.withCalls, Cluster.dropped, SortedMap.contains_erase], rfl⟩
  | deleted n hq' hd he =>
      cases hq.symm.trans hq'
      obtain ⟨-, rfl⟩ := hd
      obtain ⟨-, -, rfl⟩ := he
      exact ⟨by simp [Cluster.withCalls, Cluster.dropped, SortedMap.contains_erase], rfl⟩

/-! ## What the outcomes tell -/

/-- What creating and deleting a collection give tells exactly what they did to the cluster: which entries they
made or took away, and that nothing else was changed. -/
theorem outcomes_exact (p : Provisioner) (config : CollectionConfig) (table : String) (c d : Cluster)
    (s t : Cached Cluster) :
    let create := p.create Cluster.gateway config c
    let delete := p.delete Cluster.gateway table s
    let base := config.requestedConfigSet.getD p.baseConfigSet
    (create = .ok .alreadyExisted d →
      ∃ q, p.naming.qualify config.collectionName = some q ∧ c.collections.contains q = true ∧
        d.data = c.data) ∧
    (create = .ok .created d →
      ∃ q configSets, p.naming.qualify config.collectionName = some q ∧
        c.collections.contains q = false ∧ d.collections.get? q = some q ∧ d.configSets.contains q = true ∧
        (configSets = c.configSets ∨ c.configSets.contains q = false ∧ ∃ schema,
          c.configSets.get? base = some schema ∧ configSets = c.configSets.insert q schema) ∧
        d.data = ({ c with configSets, collections := c.collections.insert q q } : Cluster).data) ∧
    (∀ name q cause, create = .error (.collection name q true cause) d →
      p.naming.qualify config.collectionName = some q ∧ c.configSets.contains q = false ∧ ∃ schema,
        c.configSets.get? base = some schema ∧
        d.data = ({ c with configSets := c.configSets.insert q schema } : Cluster).data) ∧
    (∀ e, create = .error e d → (∀ name q cause, e ≠ .collection name q true cause) → d.data = c.data) ∧
    (delete = .ok .notFound t →
      (∀ q, p.naming.qualify table = some q → s.remote.collections.contains q = false) ∧
        t.cache = s.cache ∧ t.remote.data = s.remote.data) ∧
    (delete = .ok .deleted t →
      ∃ q, p.naming.qualify table = some q ∧ s.remote.collections.contains q = true ∧
        t.remote.data = (s.remote.without q).data) ∧
    (delete = .ok .deletedKeepingConfigSet t →
      ∃ q, p.naming.qualify table = some q ∧ s.remote.collections.contains q = true ∧
        s.remote.configSets.contains q = false ∧ t.remote.data = (s.remote.dropped q).data) ∧
    (∀ name q cause, delete = .error (.configSet name q cause) t →
      p.naming.qualify table = some q ∧ s.remote.collections.contains q = true ∧
        t.remote.data = (s.remote.dropped q).data) ∧
    (∀ e, delete = .error e t → (∀ name q cause, e ≠ .configSet name q cause) →
      t.cache = s.cache ∧ t.remote.data = s.remote.data) ∧
    (∀ q, p.naming.qualify table = some q → stateAfter delete = t →
      s.remote.collections.contains q = true → t.remote.collections.contains q = false →
        t.cache.lookup q = none ∧ ∀ name, name ≠ q → t.cache.lookup name = s.cache.lookup name) := by
  intro create delete base
  refine ⟨create_eq_alreadyExisted, create_eq_created, fun name q cause h => ?left, fun e h he => ?failed,
    delete_eq_notFound, delete_eq_deleted, delete_eq_deletedKeepingConfigSet, fun name q cause h => ?half,
    fun e h he => ?kept, fun q hq ht hthere hgone => ?cache⟩
  case left =>
    obtain ⟨hq, -, -, hcopied⟩ := create_eq_left h
    exact ⟨hq, hcopied⟩
  case failed =>
    exact (create_eq_error h).resolve_right fun ⟨name, q, cause, hleft⟩ => he name q cause hleft
  case half =>
    obtain ⟨hq, -, hdropped⟩ := delete_eq_left h
    exact ⟨hq, hdropped⟩
  case kept =>
    exact (delete_eq_error h).resolve_right fun ⟨name, q, cause, hleft⟩ => he name q cause hleft
  case cache =>
    subst ht
    have hcache : (stateAfter delete).cache = s.cache.remove q := cache_of_delete hq hthere hgone
    rw [hcache]
    exact ⟨s.cache.lookup_remove q, fun name hne => s.cache.lookup_remove_of_ne (Ne.symm hne)⟩

/-- A cluster with the collection `orders`, which does not delete config-sets. -/
def ordersMade : Cluster :=
  (stateAfter (create ⟨⟨"DEFAULT"⟩, Cluster.baseConfigSet⟩ Cluster.gateway ⟨"orders", none, 1, 1, none, none⟩
    (.fresh ⟨"DEFAULT"⟩))).fail .deleteConfig 500

/-- The collection `orders` is made; it is not made where collections cannot be, and its config-set stays; and
it is deleted in part. -/
theorem outcomes_exact_orders :
    let p : Provisioner := ⟨⟨"DEFAULT"⟩, Cluster.baseConfigSet⟩
    let c := Cluster.fresh ⟨"DEFAULT"⟩
    let refused := c.fail .createCollection 500
    let s : Cached Cluster := ⟨.nop, ordersMade⟩
    let orders : CollectionConfig := ⟨"orders", none, 1, 1, none, none⟩
    (∃ d, p.create Cluster.gateway orders c = .ok .created d ∧
      d.collections.get? "DEFAULT_orders" = some "DEFAULT_orders") ∧
    (∃ name q cause d schema, p.create Cluster.gateway orders refused =
        .error (.collection name q true cause) d ∧
      d.data = ({ refused with configSets := refused.configSets.insert q schema } : Cluster).data) ∧
    ∃ name q cause t, p.delete Cluster.gateway "orders" s = .error (.configSet name q cause) t ∧
      t.remote.data = (s.remote.dropped q).data := by
  intro p c refused s orders
  refine ⟨?created, ?left, ?half⟩
  case created =>
    have hq : p.naming.qualify "orders" = some "DEFAULT_orders" := by decide
    obtain ⟨d, h⟩ := exists_of_value?
      (show value? (p.create Cluster.gateway orders c) = some .created by decide +kernel)
    obtain ⟨q, -, hq', -, hmade, -⟩ := (outcomes_exact p orders "orders" c d s s).2.1 h
    obtain rfl : "DEFAULT_orders" = q := Option.some.inj (hq.symm.trans hq')
    exact ⟨d, h, hmade⟩
  case left =>
    have heffect : (error? (p.create Cluster.gateway orders refused)).map CreateError.effect =
        some .partially := by decide +kernel
    obtain ⟨e, he, heffect⟩ := Option.map_eq_some_iff.mp heffect
    obtain ⟨d, h⟩ := exists_of_error? he
    cases e with
    | collection name q copied cause =>
        cases copied with
        | true =>
            obtain ⟨-, -, schema, -, hdata⟩ :=
              (outcomes_exact p orders "orders" refused d s s).2.2.1 name q cause h
            exact ⟨name, q, cause, d, schema, h, hdata⟩
        | false => cases heffect
    | _ => cases heffect
  case half =>
    have heffect : (error? (p.delete Cluster.gateway "orders" s)).map DeleteError.effect =
        some .partially := by decide +kernel
    obtain ⟨e, he, heffect⟩ := Option.map_eq_some_iff.mp heffect
    obtain ⟨t, h⟩ := exists_of_error? he
    cases e with
    | configSet name q cause =>
        have hhalf := (outcomes_exact p orders "orders" c c s t).2.2.2.2.2.2.2.1
        obtain ⟨-, -, hdata⟩ := hhalf name q cause h
        exact ⟨name, q, cause, t, h, hdata⟩
    | _ => cases heffect

end Provisioner

end TableIndex
