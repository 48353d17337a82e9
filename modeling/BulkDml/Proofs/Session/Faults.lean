import BulkDml.Proofs.Plan.Faults
import BulkDml.Proofs.Session.Calls

namespace BulkDml

theorem Bulk.plan_failsEarly (b : Bulk) (d : Dialect) : FailsEarly (b.plan d) := by
  cases b with
  | delete q => exact q.deletePlan_failsEarly d
  | update q change => exact q.updatePlan_failsEarly d change
  | insert q target p => exact q.insertPlan_failsEarly d target p

theorem KeyedPlan.mutationFor_eq_error {p : KeyedPlan} {keys : List (List Value)} {e : Error}
    (failed : p.mutationFor keys = .error e) :
    ∃ key ∈ keys, key.length ≠ p.keyColumns.length ∧
      e = .keyWidth key.length p.keyColumns.length := by
  unfold mutationFor at failed
  split at failed
  · next key found =>
    cases failed
    have apart := List.find?_some found
    exact ⟨key, List.mem_of_find?_eq_some found, by simpa using apart, rfl⟩
  · cases failed

def Exchange.FailsInExecution (x : Exchange) : Prop :=
  ∀ e, x.failure? = some e → e.isCompileTime = false

def Connection.FailsInExecution {σ : Type} (c : Connection σ) : Prop :=
  ∀ s x t, Exchange.Happens c s x t → x.FailsInExecution

theorem Conversation.failsInExecution {σ : Type} {c : Connection σ} (fails : c.FailsInExecution)
    {s t : σ} {xs : List Exchange} (talk : Conversation c s xs t) :
    ∀ x ∈ xs, x.FailsInExecution := by
  induction talk with
  | nil => simp
  | cons first _ ih => exact List.forall_mem_cons.mpr ⟨fails _ _ _ first, ih⟩

/-- The operation failed for a key that the connection had answered, which is not as wide as the
key of the table. -/
def MissizedKey (plan : Except Error Plan) (xs : List Exchange) (e : Error) : Prop :=
  ∃ p keys key, plan = .ok (.keyed p) ∧ .queryRows p.selectKeys (.ok keys) ∈ xs ∧ key ∈ keys ∧
    key.length ≠ p.keyColumns.length ∧ e = .keyWidth key.length p.keyColumns.length

namespace Protocol

variable {size : Nat} {plan : Except Error Plan} {xs : List Exchange} {e : Error}

theorem error_cases (protocol : Protocol size plan xs (.error e)) :
    (xs = [] ∧ plan = .error e) ∨ (∃ x ∈ xs, x.failure? = some e) ∨ MissizedKey plan xs e := by
  cases protocol.firstFailure with
  | compiling failed =>
    cases protocol with
    | notCompiled => exact .inl ⟨rfl, failed⟩
    | single compiled => cases failed.symm.trans compiled
    | keyed compiled => cases failed.symm.trans compiled
  | calling earlier x later split before failed first =>
    exact .inr (.inl ⟨x, by simp [split], failed⟩)
  | writing p keyed keys earlier undone split before chunk next failed =>
    obtain ⟨key, inChunk, apart, width⟩ := KeyedPlan.mutationFor_eq_error failed
    have member : key ∈ keys := mem_of_mem_chunks (List.mem_of_getElem? next) inChunk
    exact .inr (.inr ⟨p, keys, key, keyed, by simp [split], member, apart, width⟩)

theorem isCompileTime_iff (protocol : Protocol size plan xs (.error e)) (early : FailsEarly plan)
    (answers : ∀ x ∈ xs, x.FailsInExecution) :
    e.isCompileTime = true ↔ xs = [] ∨ MissizedKey plan xs e := by
  constructor
  · intro compileTime
    obtain ⟨silent, -⟩ | ⟨x, member, failed⟩ | missized := protocol.error_cases
    · exact .inl silent
    · cases compileTime.symm.trans (answers x member e failed)
    · exact .inr missized
  · rintro (silent | ⟨p, keys, key, -, -, -, -, rfl⟩)
    · obtain ⟨-, failed⟩ | ⟨x, member, -⟩ | ⟨p, keys, key, -, member, -⟩ := protocol.error_cases
      · exact early e failed
      · simp [silent] at member
      · simp [silent] at member
    · rfl

end Protocol

namespace Session

variable {σ : Type}

/-- An operation that fails has an error of compile time if the connection saw no call of it, or if
a key that it answered has the wrong width; otherwise the error is one of execution. -/
theorem perform_isCompileTime (s : Session σ) (fails : s.connection.FailsInExecution) (b : Bulk)
    (before : Progress (Recorded σ)) :
    ∃ xs, Conversation s.connection before.state.state xs
        ((s.recording.perform b).on before).2.state.state ∧
      ((s.recording.perform b).on before).2.state.calls =
        before.state.calls ++ xs.map Exchange.call ∧
      ∀ e, ((s.recording.perform b).on before).1 = .error e →
        (e.isCompileTime = true ↔ xs = [] ∨ MissizedKey (b.plan s.dialect) xs e) := by
  obtain ⟨xs, result, protocol, ended, talk⟩ := s.recording.perform_protocol b before
  obtain ⟨state, calls⟩ := talk.of_recording
  refine ⟨xs, state, calls, ?_⟩
  intro e failed
  rw [ended] at failed
  cases result with
  | error e' =>
    cases failed
    exact protocol.isCompileTime_iff (b.plan_failsEarly _) (state.failsInExecution fails)
  | ok rows => cases failed

def refusing : Session Unit where
  connection :=
    { backend := .sqlite
      execute := fun _ _ => (.error (.execution none "read-only"), ())
      queryScalar := fun _ _ => (.ok none, ())
      queryRows := fun _ _ => (.ok [[.integer 1, .integer 2]], ())
      begin := fun _ => (.ok (), ())
      commit := fun _ => (.ok (), ())
      rollback := fun _ => (.ok (), ())
      setStatementTimeout := fun _ _ => (.ok (), ()) }
  config := .default
  valid := rfl

theorem refusing_failsInExecution : refusing.connection.FailsInExecution := by
  intro s x t happens e failed
  cases x with
  | execute r answer =>
    obtain ⟨rfl, -⟩ := Prod.mk.inj happens
    cases failed
    rfl
  | _ =>
    obtain ⟨rfl, -⟩ := Prod.mk.inj happens
    cases failed

def oneKey : Mapping := ⟨⟨none, "t", [⟨"id", "id", .integer, true⟩]⟩, rfl⟩

theorem perform_isCompileTime_refused :
    let before : Progress (Recorded Unit) := ⟨⟨(), []⟩, []⟩
    let after := (refusing.recording.perform (.delete (.all oneKey))).on before
    refusing.connection.FailsInExecution ∧ after.1 = .error (.execution none "read-only") ∧
      after.2.state.calls.length = 1 ∧
      ∃ xs, Conversation refusing.connection () xs after.2.state.state ∧
        after.2.state.calls = xs.map Exchange.call ∧
        ∀ e, after.1 = .error e →
          (e.isCompileTime = true ↔
            xs = [] ∨ MissizedKey ((Query.all oneKey).deletePlan refusing.dialect) xs e) :=
  ⟨refusing_failsInExecution, rfl, rfl,
    perform_isCompileTime refusing refusing_failsInExecution (.delete (.all oneKey)) ⟨⟨(), []⟩, []⟩⟩

theorem perform_isCompileTime_missizedKey :
    let q := (Query.all oneKey).take 1
    let after := (refusing.recording.perform (.delete q)).on ⟨⟨(), []⟩, []⟩
    refusing.connection.FailsInExecution ∧ after.1 = .error (.keyWidth 2 1) ∧
      (Error.keyWidth 2 1).isCompileTime = true ∧
      after.2.state.calls = [.begin, .queryRows ⟨Backend.sqlite.dialect, .selectKeys ["id"]
        ⟨none, "t"⟩ none (some (.trailing 1))⟩, .rollback] := by
  intro q after
  exact ⟨refusing_failsInExecution, by decide +kernel, rfl, by decide +kernel⟩

end Session

end BulkDml
