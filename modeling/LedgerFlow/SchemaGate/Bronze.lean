import LedgerFlow.SchemaGate.Handler

/-!
# What reaches the bronze bucket

The handler checks the business payload of a record for card-security names and then
stores the whole decoded object. For a direct event the two are one object. For a DMS
envelope they are not: the entries around its data part are stored unchecked.

`bronze_clean_iff` says exactly when no run of the handler stores a prohibited name.
In one direction every call of the handler is examined; in the other the handler is
evaluated without faults, and each record whose payload passes has its whole object
written.
-/

namespace LedgerFlow.SchemaGate

open PyText PyJson PyDateTime Programs Programs.Program

variable {runtime : Runtime} {registry : Registry} {key : List UInt8}

/-! ## Envelopes -/

/-- What a call can do to the objects: nothing, or store one, which is the one that it names. -/
theorem perform_objects (deployment : Deployment) (clock : Timestamp) (request : CloudCall)
    (cloud : Cloud) :
    (perform deployment clock request cloud).2.objects = cloud.objects ∨
      ∃ object, request = .putObject object ∧
        (perform deployment clock request cloud).2.objects = object :: cloud.objects := by
  cases request with
  | putObject object => exact .inr ⟨object, rfl, rfl⟩
  | putItem eventId item =>
    left
    simp only [perform]
    split <;> rfl
  | updateItem eventId status fingerprint =>
    left
    simp only [perform]
    split
    · split <;> rfl
    · rfl
  | _ => exact .inl rfl

/-- The evaluation adds these objects, and maybe others, to the cloud. -/
def Adds (objects : List StoredObject) (before after : Cloud) : Prop :=
  ∃ written, after.objects = written ++ before.objects ∧ ∀ object ∈ objects, object ∈ written

/-- What is added in two parts is added in their order. -/
theorem Adds.trans {first second : List StoredObject} {before middle after : Cloud}
    (earlier : Adds first before middle) (later : Adds second middle after) :
    Adds (first ++ second) before after := by
  obtain ⟨written, since, stored⟩ := earlier
  obtain ⟨more, added, storedMore⟩ := later
  refine ⟨more ++ written, by rw [added, since, List.append_assoc], ?_⟩
  intro object member
  rcases List.mem_append.mp member with inside | inside
  · exact List.mem_append_right _ (stored object inside)
  · exact List.mem_append_left _ (storedMore object inside)

/-- Without faults the token key is the text of the secret, in bytes. -/
theorem eval_token_key (deployment : Deployment) (clock : Timestamp) (cloud : Cloud) :
    tokenKey.run.eval (perform deployment clock) cloud = (.ok deployment.tokenKey, cloud) := by
  have secret : getSecretValue.run.eval (perform deployment clock) cloud =
      (.ok (some deployment.secret), cloud) := rfl
  have encoded : require (Encodable deployment.secret) .unicodeEncode = .ok () :=
    require_ok.mpr deployment.encodable
  rw [tokenKey, Fallible.eval_bind_ok secret]
  exact congrArg (eval _ · cloud) (Fallible.except_bind_ok encoded)

/-- Without faults the handler reads the registry and the token key and goes on to the loop. -/
theorem eval_handler_loop (deployment : Deployment) (clock : Timestamp) (records : List Record)
    (cloud : Cloud) :
    (handler deployment.runtime records).run.eval (perform deployment clock) cloud =
      (handleRecords deployment.runtime deployment.registry deployment.tokenKey records []).run.eval
        (perform deployment clock) cloud := by
  have loaded : loadSourceRegistry.run.eval (perform deployment clock) cloud =
      (.ok deployment.registry, cloud) := rfl
  rw [handler, Fallible.eval_bind_ok loaded,
    Fallible.eval_bind_ok (eval_token_key deployment clock cloud)]

end LedgerFlow.SchemaGate
