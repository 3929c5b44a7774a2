import TableIndex.Proofs.Json.Printed
import TableIndex.Schema.Update

/-!
# The body of several commands

The body is one object, and what is read in it are the commands with their arguments, in order.
-/

namespace TableIndex

/-- The properties of a field are as proper as those it has besides its own. -/
theorem Field.proper_toProperties {f : Field} (h : ∀ e ∈ f.extras.items, e.2.Proper) :
    (Json.ofObject f.toProperties).Proper := by
  obtain ⟨name, type, indexed, stored, extras⟩ := f
  refine Json.proper_foldl_insert (Json.properMembers_iff.mpr h) ?_
  have hname : (Json.ofObject (SortedMap.empty.insert nameKey (.string name))).Proper :=
    Json.proper_insert trivial trivial
  -- The type and the flags are a text and booleans, where they are there.
  cases type <;> cases indexed <;> cases stored <;>
    repeat first
      | exact hname
      | refine Json.proper_insert ?_ trivial

namespace SchemaUpdate

variable {updates : List SchemaUpdate}

/-- The member that a command becomes. -/
def member (u : SchemaUpdate) : String × Json := (u.command, u.payload)

theorem read?_body (h : ∀ u ∈ updates, u.payload.Proper) : ∃ members,
    Json.Form.read? (body updates) = some (.object members) ∧
      Json.memberValues? members = some (updates.map member) := by
  have hproper : (Json.object (updates.map member)).Proper :=
    Json.properMembers_iff.mpr (List.forall_mem_map.mpr h)
  obtain ⟨f, hread, hvalue⟩ := Json.read?_compact hproper
  obtain ⟨members, rfl, hmembers⟩ := Json.Form.eq_object hvalue
  exact ⟨members, hread, hmembers⟩

/-- The body is one object that has the commands with their arguments as its members, in order and with repeats; two
lists with different ones have different bodies. The doubles in the arguments are such as exist, which those in values
that are read always are (`Json.parse?_proper`). -/
theorem body_unambiguous (updates : List SchemaUpdate) (h : ∀ u ∈ updates, u.payload.Proper) :
    (∃ members, Json.Form.read? (body updates) = some (.object members) ∧
      Json.memberValues? members = some (updates.map member)) ∧
    ∀ others : List SchemaUpdate, (∀ u ∈ others, u.payload.Proper) → body others = body updates →
      others.map member = updates.map member := by
  have hread := read?_body h
  refine ⟨hread, fun others hothers heq => ?_⟩
  obtain ⟨members, hmembers, hvalue⟩ := hread
  obtain ⟨members', hmembers', hvalue'⟩ := read?_body hothers
  rw [heq, hmembers] at hmembers'
  cases hmembers'
  exact Option.some.inj (hvalue'.symm.trans hvalue)

/-- Two commands of one name; the names and values hold quotes, braces and commas. -/
def quoted : List SchemaUpdate :=
  [.deleteField "price\"", .addField ((Field.untyped "price").withProperty "boost" (.array
    [.number (.float ⟨false, 5629499534213120, -51⟩), .string "\x7d,\x7b\n"])), .deleteField "price"]

theorem body_unambiguous_quoted : (∀ u ∈ quoted, u.payload.Proper) ∧
    body quoted = "\x7b\"delete-field\":\x7b\"name\":\"price\\\"\"\x7d," ++
      "\"add-field\":\x7b\"boost\":[2.5,\"\x7d,\x7b\\n\"],\"name\":\"price\"\x7d," ++
      "\"delete-field\":\x7b\"name\":\"price\"\x7d\x7d" ∧
    (∃ members, Json.Form.read? (body quoted) = some (.object members) ∧
      Json.memberValues? members = some (quoted.map member)) ∧
    body quoted.reverse ≠ body quoted := by
  have hboost : (Json.Number.float ⟨false, 5629499534213120, -51⟩).Proper :=
    ⟨by decide, by decide, by decide, .inl (by decide)⟩
  have h : ∀ u ∈ quoted, u.payload.Proper := by
    refine List.forall_mem_cons.mpr ⟨⟨trivial, trivial⟩, List.forall_mem_cons.mpr ⟨?_,
      List.forall_mem_singleton.mpr ⟨trivial, trivial⟩⟩⟩
    exact Field.proper_toProperties (List.forall_mem_singleton.mpr ⟨hboost, trivial, trivial⟩)
  have hreverse : ∀ u ∈ quoted.reverse, u.payload.Proper := fun u hu => h u (List.mem_reverse.mp hu)
  refine ⟨h, by decide +kernel, (body_unambiguous quoted h).1, fun heq => ?_⟩
  have hmap := (body_unambiguous quoted h).2 quoted.reverse hreverse heq
  have hnames := congrArg (List.map fun m => (m.2.get? "name").bind Json.asString?) hmap
  revert hnames
  decide

end SchemaUpdate

end TableIndex
