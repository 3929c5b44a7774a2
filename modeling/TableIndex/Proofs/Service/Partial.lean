import TableIndex.Proofs.Service.Failure
import TableIndex.Proofs.Service.View

/-!
# Operations that fail in part

Creating and deleting a collection report a partial effect only after a change was made. Ensuring one reports it
whenever the schema cannot be merged, also where the collection was there before and nothing was changed.
-/

namespace TableIndex

theorem Watched.projects_onRemote {σ ε α : Type} {x : EStateM ε σ α} :
    Projects Watched.remote (Watched.onRemote x) x := by
  intro w
  rw [Watched.onRemote]
  cases x w.remote <;> rfl

/-! ## What a failed attempt changed -/

namespace Cluster

variable {c d : Cluster} {q : String}

theorem not_sameContents_of_configSets (h : c.configSets.contains q ≠ d.configSets.contains q) :
    ¬ c.SameContents d :=
  fun hsame => h (congrArg (·.contains q) hsame.configSets)

theorem not_sameContents_of_collections (h : c.collections.contains q ≠ d.collections.contains q) :
    ¬ c.SameContents d :=
  fun hsame => h (congrArg (·.contains q) hsame.collections)

theorem SameContents.congr_left {e : Cluster} (h : c.SameContents d) : c.SameContents e ↔ d.SameContents e :=
  ⟨sameContents_equivalence.trans (sameContents_equivalence.symm h), sameContents_equivalence.trans h⟩

/-- The number of calls is not part of the contents. -/
theorem SameContents.congr_data {e : Cluster} (h : e.data = d.data) : c.SameContents e ↔ c.SameContents d :=
  ⟨fun hc => sameContents_equivalence.trans hc (.of_data h.symm),
    fun hc => sameContents_equivalence.trans hc (.of_data h)⟩

end Cluster

namespace Provisioner

variable {p : Provisioner} {config : CollectionConfig} {table : String} {c d : Cluster} {s t : Cached Cluster}

/-- A collection that could not be created although its config-set was made is not there, and the config-set is. -/
theorem changed_of_create_error {e : CreateError} (h : p.create Cluster.gateway config c = .error e d)
    (he : e.effect = .partially) :
    (∀ q, p.naming.qualify config.collectionName = some q → c.collections.contains q = false) ∧
      ¬ c.SameContents d := by
  obtain ⟨name, q, cause, rfl⟩ : ∃ name q cause, e = .collection name q true cause := by
    cases e with
    | collection name q made cause =>
        cases made with
        | true => exact ⟨name, q, cause, rfl⟩
        | false => cases he
    | _ => cases he
  obtain ⟨hq, -, hno, hset, schema, -, hdata⟩ := create_eq_left h
  refine ⟨fun q' hq' => Option.some.inj (hq.symm.trans hq') ▸ hno, ?_⟩
  rw [Cluster.SameContents.congr_data hdata]
  refine Cluster.not_sameContents_of_configSets (q := q) ?_
  rw [hset, SortedMap.contains_insert_self]
  exact Bool.false_ne_true

theorem changed_of_delete_error {e : DeleteError} (h : p.delete Cluster.gateway table s = .error e t)
    (he : e.effect = .partially) : ¬ s.remote.SameContents t.remote := by
  obtain ⟨name, q, cause, rfl⟩ : ∃ name q cause, e = .configSet name q cause := by
    cases e with
    | configSet name q cause => exact ⟨name, q, cause, rfl⟩
    | _ => cases he
  obtain ⟨-, -, hthere, hdata⟩ := delete_eq_left h
  rw [Cluster.SameContents.congr_data hdata]
  refine Cluster.not_sameContents_of_collections (q := q) ?_
  simp [hthere, Cluster.dropped, SortedMap.contains_erase]

/-- Creating changes the contents exactly if the collection was not there. -/
theorem sameContents_of_create {outcome : CreateOutcome}
    (h : p.create Cluster.gateway config c = .ok outcome d) :
    c.SameContents d ↔ ∃ q, p.naming.qualify config.collectionName = some q ∧ c.collections.contains q = true := by
  cases outcome with
  | alreadyExisted =>
      obtain ⟨q, hq, hthere, hdata⟩ := create_eq_alreadyExisted h
      exact iff_of_true (.of_data hdata) ⟨q, hq, hthere⟩
  | created =>
      obtain ⟨q, configSets, hq, hno, hmade, -⟩ := create_eq_created h
      refine iff_of_false (Cluster.not_sameContents_of_collections (q := q) ?_) ?_
      · rw [hno, SortedMap.contains_iff.mpr ⟨q, hmade⟩]
        exact Bool.false_ne_true
      · rintro ⟨q', hq', hthere⟩
        cases hq.symm.trans hq'
        cases hno.symm.trans hthere

/-- Ensuring fails before there is a collection, or after, when merging the schema has changed nothing. -/
theorem ensure_eq_error {e : EnsureError} (h : p.ensure Cluster.gateway config s = .error e t) :
    (∃ cause, e = .create cause ∧ p.create Cluster.gateway config s.remote = .error cause t.remote) ∨
      ∃ cause outcome d, e = .schema cause ∧
        p.create Cluster.gateway config s.remote = .ok outcome d ∧ t.remote.data = d.data := by
  rcases bind_eq_error h with hcreate | ⟨outcome, u, hcreate, hrest⟩
  · obtain ⟨⟨cause, hfailed, rfl⟩, -⟩ := Cached.onRemoteOr_eq_error hcreate
    exact .inl ⟨cause, rfl, hfailed⟩
  · obtain ⟨hdone, -⟩ := Cached.onRemoteOr_eq_ok hcreate
    cases hschema : config.schema with
    | none =>
        rw [hschema] at hrest
        cases hrest
    | some desired =>
        rw [hschema] at hrest
        rcases bind_eq_error hrest with hmerge | ⟨_, v, -, hpure⟩
        · obtain ⟨cause, hupdate, rfl⟩ := adaptExcept_eq_error hmerge
          exact .inr ⟨cause, outcome, u.remote, rfl, hdone, Schema.data_of_update_error hupdate⟩
        · cases hpure

theorem sameContents_of_ensure_error {e : EnsureError} (h : p.ensure Cluster.gateway config s = .error e t)
    (he : e.effect = .partially) :
    s.remote.SameContents t.remote ↔
      ∃ q, p.naming.qualify config.collectionName = some q ∧ s.remote.collections.contains q = true := by
  rcases ensure_eq_error h with ⟨cause, rfl, hcreate⟩ | ⟨cause, outcome, d, rfl, hcreate, hdata⟩
  · obtain ⟨hno, hchanged⟩ := changed_of_create_error hcreate he
    refine iff_of_false hchanged ?_
    rintro ⟨q, hq, hthere⟩
    cases (hno q hq).symm.trans hthere
  · rw [Cluster.SameContents.congr_data hdata]
    exact sameContents_of_create hcreate

end Provisioner

/-! ## Services -/

namespace ServiceCall

/-- Whether an operation makes or removes collections. -/
def provisions : ServiceCall → Bool
  | create _ => true
  | ensure _ => true
  | delete _ => true
  | _ => false

/-- Whether an operation is to ensure a collection that is there. -/
def Finds (naming : NamingPolicy) (c : Cluster) : ServiceCall → Prop
  | ensure config => ∃ q, naming.qualify config.collectionName = some q ∧ c.collections.contains q = true
  | _ => False

theorem finds_congr {naming : NamingPolicy} {c d : Cluster} {call : ServiceCall} (h : c.SameContents d) :
    call.Finds naming c ↔ call.Finds naming d := by
  cases call with
  | ensure config => simp only [Finds, h.collections]
  | _ => exact Iff.rfl

theorem needsCluster_of_provisions {call : ServiceCall} (h : call.provisions = true) :
    call.needsCluster = true := by
  cases call with
  | create config => rfl
  | ensure config => rfl
  | delete table => rfl
  | _ => cases h

end ServiceCall

namespace Service

variable {naming : NamingPolicy} {base : String} {call : ServiceCall}

theorem sameContents_act {k : Connector Cluster Unit} {st : ServiceState Cluster Unit}
    (hcall : call.provisions = true)
    (h : (act ⟨naming, base, k⟩ Cluster.gateway call st).1.effect? = some .partially) :
    st.remote.SameContents (act ⟨naming, base, k⟩ Cluster.gateway call st).2.remote ↔
      call.Finds naming st.remote := by
  cases call with
  | create config =>
      obtain ⟨e, hrun, he⟩ := eq_error_of_tell (fun _ => rfl) (fun _ => rfl) h
      obtain ⟨hrun, -⟩ := onCached_eq_error hrun
      obtain ⟨hrun, -⟩ := Cached.onRemote_eq_error hrun
      exact iff_of_false (Provisioner.changed_of_create_error hrun he).2 id
  | ensure config =>
      obtain ⟨e, hrun, he⟩ := eq_error_of_tell (fun _ => rfl) (fun _ => rfl) h
      obtain ⟨hrun, -⟩ := onCached_eq_error hrun
      exact Provisioner.sameContents_of_ensure_error hrun he
  | delete table =>
      obtain ⟨e, hrun, he⟩ := eq_error_of_tell (fun _ => rfl) (fun _ => rfl) h
      obtain ⟨hrun, -⟩ := onCached_eq_error hrun
      exact iff_of_false (Provisioner.changed_of_delete_error hrun he) id
  | _ => cases hcall

theorem effect?_unconnected (call : ServiceCall) (e : ConnectError) :
    (call.unconnected e).effect? ≠ some .partially := by
  cases call <;> nofun

/-- Creating and deleting a collection report a partial effect only if they changed config-sets, collections or
documents. Ensuring one reports it also if the collection was there, and then nothing was changed. -/
theorem sameContents_iff_of_effect_partially {st : ServiceState (Watched Cluster) Unit}
    (hcall : call.provisions = true)
    (h : ((inMemory naming base).watched.answer call st).1.effect? = some .partially) :
    st.remote.remote.SameContents ((inMemory naming base).watched.answer call st).2.remote.remote ↔
      call.Finds naming st.remote.remote := by
  have hneeds := ServiceCall.needsCluster_of_provisions hcall
  have hequiv := Cluster.sameContents_equivalence
  rw [answer_of_needsCluster _ hneeds] at h ⊢
  cases hclient : (inMemory naming base).watched.client st with
  | error e st' =>
      rw [hclient] at h
      exact absurd h (effect?_unconnected call e)
  | ok handle st' =>
      rw [hclient] at h
      have hconnect : st.remote.remote.SameContents st'.remote.remote :=
        (inert_client (R := fun w w' : Watched Cluster => w.remote.SameContents w'.remote)
          ⟨fun w => hequiv.refl w.remote, hequiv.symm, hequiv.trans⟩
          (Cluster.careful_connector.watched hequiv)).of_ok hclient
      have hact : act ⟨naming, base, Cluster.connector⟩ Cluster.gateway call (st'.through Watched.remote id) =
          ((act (inMemory naming base).watched Cluster.gateway.watched call st').1,
            (act (inMemory naming base).watched Cluster.gateway.watched call st').2.through Watched.remote id) :=
        act_through (fun _ => Watched.projects_onRemote) hneeds st'
      have hcontents := sameContents_act hcall ((congrArg (·.1.effect?) hact).trans h)
      rw [hact] at hcontents
      exact hconnect.congr_left.trans (hcontents.trans (ServiceCall.finds_congr hconnect).symm)

/-- The watched service on a cluster where calls of one kind fail. -/
def failing (op : Operation) (st : ServiceState (Watched Cluster) Unit) : ServiceState (Watched Cluster) Unit :=
  { st with remote := { st.remote with remote := st.remote.remote.fail op 500 } }

/-- The table `orders` with the field `total`. -/
def ordersWithTotal : CollectionConfig := ⟨"orders", none, 1, 1, none, some (.ofFields "id" [.typed "total" .double])⟩

/-- In a fresh cluster, a collection that cannot be made leaves its config-set. -/
theorem changed_of_ensure_orders :
    let s := (inMemory ⟨"DEFAULT"⟩ Cluster.baseConfigSet).watched
    let st := failing .createCollection { remote := { remote := .fresh ⟨"DEFAULT"⟩ } }
    (s.answer (.ensure ordersWithTotal) st).1.effect? = some .partially ∧
      ¬ st.remote.remote.SameContents (s.answer (.ensure ordersWithTotal) st).2.remote.remote := by
  intro s st
  have hpartial : (s.answer (.ensure ordersWithTotal) st).1.effect? = some .partially := by decide +kernel
  refine ⟨hpartial, fun hsame => ?_⟩
  obtain ⟨q, -, hthere⟩ := (sameContents_iff_of_effect_partially rfl hpartial).mp hsame
  exact Bool.false_ne_true hthere

/-- Ensuring the table `orders`, which is there, reports a partial effect and changes nothing when its fields
cannot be listed. -/
theorem partial_although_unchanged :
    let s := (inMemory ⟨"DEFAULT"⟩ Cluster.baseConfigSet).watched
    let st := failing .listFields ordersWatched
    (s.answer (.ensure ordersWithTotal) st).1.effect? = some .partially ∧
      st.remote.remote.SameContents (s.answer (.ensure ordersWithTotal) st).2.remote.remote := by
  intro s st
  exact ⟨by decide +kernel, .of_data rfl⟩

end Service

end TableIndex
