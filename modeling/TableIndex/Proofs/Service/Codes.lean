import TableIndex.Proofs.Service.Partial

/-!
# The codes of errors

Only a partial effect is told by the code `aborted`: no error of a client, of connecting or of a schema has it. An
operation that fails in part has it, too, but for ensuring a collection whose schema cannot be merged.
-/

namespace TableIndex

variable {cause : ErrorCode}

/-! ## Codes of causes -/

theorem ClientError.codeOfStatus_ne_aborted (status : Int) : codeOfStatus status ≠ .aborted := by
  have hne := ErrorCode.ofHttpStatus_ne_aborted status.toNat
  unfold codeOfStatus
  split
  · split
    · nofun
    · nofun
    · exact hne
  · nofun

theorem ClientError.code_ne_aborted (e : ClientError) : e.code ≠ .aborted := by
  cases e with
  | api status errors => exact codeOfStatus_ne_aborted status
  | _ => nofun

theorem ConnectError.code_ne_aborted (e : ConnectError) : e.code ≠ .aborted := by
  unfold code
  split <;> nofun

theorem GetSchemaError.code_ne_aborted (e : GetSchemaError) : e.code ≠ .aborted := by
  cases e with
  | connect cause => exact cause.code_ne_aborted
  | remote table cause => exact cause.code_ne_aborted
  | _ => nofun

theorem UpdateSchemaError.code_ne_aborted (e : UpdateSchemaError) : e.code ≠ .aborted := by
  cases e with
  | connect cause => exact cause.code_ne_aborted
  | schemaNotFound table => nofun
  | getSchema cause => exact cause.code_ne_aborted
  | rejected table cause => exact cause.code_ne_aborted

/-! ## Codes and effects -/

theorem RemoteEffect.code_eq_aborted_iff {effect : RemoteEffect} (h : cause ≠ .aborted) :
    effect.code cause = .aborted ↔ effect = .partially := by
  cases effect with
  | none => exact iff_of_false h nofun
  | partially => exact iff_of_true rfl rfl

theorem CreateError.code_eq_aborted_iff (e : CreateError) : e.code = .aborted ↔ e.effect = .partially := by
  apply RemoteEffect.code_eq_aborted_iff
  cases e with
  | connect cause => exact cause.code_ne_aborted
  | invalidName table => nofun
  | lookup table cause => exact cause.code_ne_aborted
  | configSet table name cause => exact cause.code_ne_aborted
  | collection table name made cause => exact cause.code_ne_aborted

theorem DeleteError.code_eq_aborted_iff (e : DeleteError) : e.code = .aborted ↔ e.effect = .partially := by
  apply RemoteEffect.code_eq_aborted_iff
  cases e with
  | connect cause => exact cause.code_ne_aborted
  | lookup table cause => exact cause.code_ne_aborted
  | collection table name cause => exact cause.code_ne_aborted
  | configSet table name cause => exact cause.code_ne_aborted

theorem DocumentError.code_eq_aborted_iff (e : DocumentError) : e.code = .aborted ↔ e.effect = .partially := by
  apply RemoteEffect.code_eq_aborted_iff
  cases e with
  | connect cause => exact cause.code_ne_aborted
  | submit table cause => exact cause.code_ne_aborted
  | commit table cause => exact cause.code_ne_aborted

theorem EnsureError.code_schema_ne_aborted (cause : UpdateSchemaError) : (schema cause).code ≠ .aborted :=
  cause.code_ne_aborted

/-- The code is `aborted` exactly if the effect is partial, whatever the causes are; but an error about merging a schema
always has a partial effect and never that code. -/
theorem aborted_iff_partially (create : CreateError) (delete : DeleteError) (document : DocumentError)
    (ensure : EnsureError) :
    (create.code = .aborted ↔ create.effect = .partially) ∧
    (delete.code = .aborted ↔ delete.effect = .partially) ∧
    (document.code = .aborted ↔ document.effect = .partially) ∧
    (ensure.code = .aborted ↔ ensure.effect = .partially ∧ ∀ cause, ensure ≠ .schema cause) ∧
    ∀ cause, (EnsureError.schema cause).effect = .partially ∧ (EnsureError.schema cause).code ≠ .aborted := by
  refine ⟨create.code_eq_aborted_iff, delete.code_eq_aborted_iff, document.code_eq_aborted_iff, ?_, ?_⟩
  · cases ensure with
    | create cause => exact cause.code_eq_aborted_iff.trans (and_iff_left nofun).symm
    | schema cause => exact iff_of_false (EnsureError.code_schema_ne_aborted cause) fun h => h.2 cause rfl
  · intro cause
    exact ⟨rfl, EnsureError.code_schema_ne_aborted cause⟩

/-- The error of an operation that ensures a collection, if it has one. -/
def ServiceAnswer.ensureError? : ServiceAnswer → Option EnsureError
  | ensured (.error e) => some e
  | _ => none

/-- In a fresh cluster that takes no changes of schemas, the table `orders` is made without its field. The error has a
partial effect, and the code is that of the answer. -/
theorem partial_but_not_aborted :
    let st := Service.failing .submitSchemaUpdates { remote := { remote := .fresh ⟨"DEFAULT"⟩ } }
    let s := (Service.inMemory ⟨"DEFAULT"⟩ Cluster.baseConfigSet).watched
    let answer := (s.answer (.ensure Service.ordersWithTotal) st).1
    answer.ensureError?.map (fun e => (e.effect, e.code)) = some (.partially, .internal) := by
  decide +kernel

end TableIndex
