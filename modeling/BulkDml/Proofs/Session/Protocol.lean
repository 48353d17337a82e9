import BulkDml.Proofs.Session.Exchange
import BulkDml.Session.Basic

namespace BulkDml

inductive Bulk where
  | delete (q : Query)
  | update (q : Query) (change : Mutation)
  | insert (q : Query) (target : Mapping) (p : Projection)

namespace Bulk

def plan (d : Dialect) : Bulk → Except Error Plan
  | delete q => q.deletePlan d
  | update q change => q.updatePlan d change
  | insert q target p => q.insertPlan d target p

def report : Bulk → UInt64 → Option UInt64
  | delete _, rows => some rows
  | update _ _, rows => some rows
  | insert _ _ _, _ => none

def verb : Bulk → String
  | delete _ => "delete"
  | update _ _ => "update"
  | insert _ _ _ => "insert"

def table : Bulk → String
  | delete q => q.mapping.table
  | update q _ => q.mapping.table
  | insert q _ _ => q.mapping.table

def closing : Bulk → UInt64 → LogLine
  | delete q, rows => .affected "delete" q.mapping.table rows
  | update q _, rows => .affected "update" q.mapping.table rows
  | insert q target _, rows => .copied q.mapping.table target.table rows

end Bulk

namespace Session

variable {σ : Type}

def perform (s : Session σ) : Bulk → Run σ (Option UInt64)
  | .delete q => do return some (← s.delete q)
  | .update q change => do return some (← s.update q change)
  | .insert q target p => do
    s.insert q target p
    return none

def performAll (s : Session σ) :
    List Bulk → Progress σ → List (Except Error (Option UInt64)) × Progress σ
  | [], p => ([], p)
  | b :: bs, p =>
    let (outcome, q) := (s.perform b).on p
    let (outcomes, r) := s.performAll bs q
    (outcome :: outcomes, r)

end Session

structure Sent where
  keys : List (List Value)
  request : Request
  rows : UInt64

namespace Sent

def exchange (x : Sent) : Exchange := .execute x.request (.ok x.rows)

def total : List Sent → UInt64
  | [] => 0
  | x :: sent => x.rows + total sent

end Sent

/-- Mutating chunk after chunk, up to the first that cannot be written or is refused. -/
inductive ChunkProtocol (p : KeyedPlan) :
    List (List (List Value)) → List Exchange → Except Error UInt64 → Prop where
  | done (sent : List Sent) (written : ∀ x ∈ sent, p.mutationFor x.keys = .ok x.request) :
      ChunkProtocol p (sent.map Sent.keys) (sent.map Sent.exchange) (.ok (Sent.total sent))
  | notWritten (sent : List Sent) (written : ∀ x ∈ sent, p.mutationFor x.keys = .ok x.request)
      (chunk : List (List Value)) (later : List (List (List Value))) (e : Error)
      (failed : p.mutationFor chunk = .error e) :
      ChunkProtocol p (sent.map Sent.keys ++ chunk :: later) (sent.map Sent.exchange) (.error e)
  | notExecuted (sent : List Sent) (written : ∀ x ∈ sent, p.mutationFor x.keys = .ok x.request)
      (chunk : List (List Value)) (later : List (List (List Value))) (request : Request)
      (last : p.mutationFor chunk = .ok request) (e : Error) :
      ChunkProtocol p (sent.map Sent.keys ++ chunk :: later)
        (sent.map Sent.exchange ++ [.execute request (.error e)]) (.error e)

/-- A keyed plan inside its transaction, with chunks of `size` keys. -/
inductive KeyedProtocol (p : KeyedPlan) (size : Nat) :
    List Exchange → Except Error UInt64 → Prop where
  | notBegun (e : Error) : KeyedProtocol p size [.begin (.error e)] (.error e)
  | notSelected (e : Error) (undone : Except Error Unit) :
      KeyedProtocol p size
        [.begin (.ok ()), .queryRows p.selectKeys (.error e), .rollback undone] (.error e)
  | notMutated {keys : List (List Value)} {xs : List Exchange} {e : Error}
      (mutated : ChunkProtocol p (chunks size keys) xs (.error e)) (undone : Except Error Unit) :
      KeyedProtocol p size (.begin (.ok ()) :: .queryRows p.selectKeys (.ok keys) ::
        (xs ++ [.rollback undone])) (.error e)
  | notCommitted {keys : List (List Value)} {xs : List Exchange} {rows : UInt64}
      (mutated : ChunkProtocol p (chunks size keys) xs (.ok rows)) (e : Error)
      (undone : Except Error Unit) :
      KeyedProtocol p size (.begin (.ok ()) :: .queryRows p.selectKeys (.ok keys) ::
        (xs ++ [.commit (.error e), .rollback undone])) (.error e)
  | committed {keys : List (List Value)} {xs : List Exchange} {rows : UInt64}
      (mutated : ChunkProtocol p (chunks size keys) xs (.ok rows)) :
      KeyedProtocol p size (.begin (.ok ()) :: .queryRows p.selectKeys (.ok keys) ::
        (xs ++ [.commit (.ok ())])) (.ok rows)

/-- A bulk operation whose compilation gave `plan`, with the number of rows or the error that it
ends with. -/
inductive Protocol (size : Nat) (plan : Except Error Plan) :
    List Exchange → Except Error UInt64 → Prop where
  | notCompiled {e : Error} (failed : plan = .error e) : Protocol size plan [] (.error e)
  | single {r : Request} (compiled : plan = .ok (.single r)) (answer : Except Error UInt64) :
      Protocol size plan [.execute r answer] answer
  | keyed {p : KeyedPlan} (compiled : plan = .ok (.keyed p)) {xs : List Exchange}
      {result : Except Error UInt64} (inside : KeyedProtocol p size xs result) :
      Protocol size plan xs result

namespace ChunkProtocol

variable {p : KeyedPlan} {pieces : List (List (List Value))} {xs : List Exchange}
  {result : Except Error UInt64}

theorem cons {chunk : List (List Value)} {request : Request}
    (written : p.mutationFor chunk = .ok request) (rows : UInt64)
    (rest : ChunkProtocol p pieces xs result) :
    ChunkProtocol p (chunk :: pieces) (.execute request (.ok rows) :: xs)
      (result.map (rows + ·)) := by
  have extended {sent : List Sent} (all : ∀ x ∈ sent, p.mutationFor x.keys = .ok x.request) :
      ∀ x ∈ (⟨chunk, request, rows⟩ : Sent) :: sent, p.mutationFor x.keys = .ok x.request :=
    List.forall_mem_cons.mpr ⟨written, all⟩
  cases rest with
  | done sent all => exact .done (⟨chunk, request, rows⟩ :: sent) (extended all)
  | notWritten sent all bad later e failed =>
    exact .notWritten (⟨chunk, request, rows⟩ :: sent) (extended all) bad later e failed
  | notExecuted sent all bad later r last e =>
    exact .notExecuted (⟨chunk, request, rows⟩ :: sent) (extended all) bad later r last e

end ChunkProtocol

namespace Session

variable {σ : Type} (s : Session σ)

theorem execute_on (r : Request) (before : Progress σ) :
    ((s.execute r).on before).1 = (s.connection.execute r before.state).1 ∧
      ((s.execute r).on before).2.state = (s.connection.execute r before.state).2 := by
  simp [execute, logRequest, Run.on_bind]

theorem rollback_on (before : Progress σ) :
    (s.rollback.on before).1 = .ok () ∧
      (s.rollback.on before).2.state = (s.connection.rollback before.state).2 := by
  rw [rollback, Run.on_tryCatch, Run.on_call]
  cases undone : s.connection.rollback before.state with
  | mk answer state => cases answer <;> simp

theorem mutateChunks_protocol (p : KeyedPlan) (pieces : List (List (List Value))) (total : UInt64)
    (before : Progress σ) :
    ∃ xs rows, ChunkProtocol p pieces xs rows ∧
      ((s.mutateChunks p total pieces).on before).1 = rows.map (total + ·) ∧
      Conversation s.connection before.state xs
        ((s.mutateChunks p total pieces).on before).2.state := by
  -- The answers do not depend on the total so far, which is only added to.
  induction pieces generalizing total before with
  | nil => exact ⟨[], .ok 0, .done [] (by simp), by simp [mutateChunks, Except.map], .nil _⟩
  | cons chunk rest ih =>
    rw [mutateChunks, Run.on_bind, Run.on_ofExcept]
    cases written : p.mutationFor chunk with
    | error e => exact ⟨[], .error e, .notWritten [] (by simp) chunk rest e written, rfl, .nil _⟩
    | ok request =>
      obtain ⟨answered, moved⟩ := s.execute_on request before
      simp only [Run.on_bind]
      cases executed : (s.execute request).on before with
      | mk answer after =>
        rw [executed] at answered moved
        have happens : (Exchange.execute request answer).Happens s.connection before.state
            after.state := Prod.ext answered.symm moved.symm
        cases answer with
        | error e =>
          exact ⟨[.execute request (.error e)], .error e,
            .notExecuted [] (by simp) chunk rest request written e, rfl, .single happens⟩
        | ok n =>
          obtain ⟨xs, rows, protocol, ended, talk⟩ := ih (total + n) after
          refine ⟨.execute request (.ok n) :: xs, rows.map (n + ·), protocol.cons written n, ?_,
            .cons happens talk⟩
          rw [ended]
          cases rows <;> simp [Except.map, UInt64.add_assoc]

theorem mutateSelected_protocol (p : KeyedPlan) (before : Progress σ) :
    (∃ e, ((s.mutateSelected p).on before).1 = .error e ∧
      Conversation s.connection before.state [.queryRows p.selectKeys (.error e)]
        ((s.mutateSelected p).on before).2.state) ∨
    ∃ keys xs, ChunkProtocol p (chunks s.config.maxKeysPerStatement.toNat keys) xs
        ((s.mutateSelected p).on before).1 ∧
      Conversation s.connection before.state (.queryRows p.selectKeys (.ok keys) :: xs)
        ((s.mutateSelected p).on before).2.state := by
  simp only [mutateSelected, logRequest, Run.on_bind, Run.on_log, Run.on_call]
  cases selected : s.connection.queryRows p.selectKeys before.state with
  | mk answer state =>
    cases answer with
    | error e => exact .inl ⟨e, rfl, .single selected⟩
    | ok keys =>
      right
      cases keys with
      | nil => exact ⟨[], [], by rw [chunks]; exact .done [] (by simp), .single selected⟩
      | cons key keys =>
        obtain ⟨xs, rows, protocol, ended, talk⟩ := s.mutateChunks_protocol p
          (chunks s.config.maxKeysPerStatement.toNat (key :: keys)) 0
          ⟨state, before.log ++ [.executing s.config.logParameters p.selectKeys.statement]⟩
        refine ⟨key :: keys, xs, ?_, .cons selected talk⟩
        have total : rows.map (0 + ·) = rows := by cases rows <;> simp [Except.map]
        simp only [List.isEmpty_cons, Bool.false_eq_true, if_false]
        rw [ended, total]
        exact protocol

def undo (p : KeyedPlan) (e : Error) : Run σ UInt64 := do
  Run.log (.rollingBack p.statementName e)
  s.rollback
  throw e

theorem undo_on (p : KeyedPlan) (e : Error) (before : Progress σ) :
    ((s.undo p e).on before).1 = .error e ∧
      ((s.undo p e).on before).2.state = (s.connection.rollback before.state).2 := by
  obtain ⟨ignored, undone⟩ := s.rollback_on
    ⟨before.state, before.log ++ [.rollingBack p.statementName e]⟩
  simp only [undo, Run.on_bind, Run.on_log]
  cases rolled : s.rollback.on ⟨before.state, before.log ++ [.rollingBack p.statementName e]⟩ with
  | mk answer after =>
    rw [rolled] at ignored undone
    cases ignored
    exact ⟨rfl, undone⟩

theorem undo_happens (p : KeyedPlan) (e : Error) (before : Progress σ) :
    ∃ undone, Conversation s.connection before.state [.rollback undone]
      ((s.undo p e).on before).2.state := by
  rw [(s.undo_on p e before).2]
  exact ⟨_, .single rfl⟩

theorem runKeyed_on (p : KeyedPlan) (before : Progress σ) :
    (s.runKeyed p).on before = match s.connection.begin before.state with
      | (.error e, state) => (.error e, ⟨state, before.log⟩)
      | (.ok (), state) => match (s.mutateSelected p).on ⟨state, before.log⟩ with
        | (.error e, mutated) => (s.undo p e).on mutated
        | (.ok rows, mutated) => match s.connection.commit mutated.state with
          | (.error e, state) => (s.undo p e).on ⟨state, mutated.log⟩
          | (.ok (), state) => (.ok rows, ⟨state, mutated.log⟩) := by
  rw [runKeyed, Run.on_bind, Run.on_call]
  rcases s.connection.begin before.state with ⟨_ | _, started⟩
  · rfl
  simp only [undo, Run.on_tryCatch, Run.on_bind, Run.on_call]
  rcases (s.mutateSelected p).on ⟨started, before.log⟩ with ⟨_ | rows, mutated⟩
  · rfl
  simp only [Run.on_pure]
  rcases s.connection.commit mutated.state with ⟨_ | _, final⟩ <;> rfl

theorem runKeyed_protocol (p : KeyedPlan) (before : Progress σ) :
    ∃ xs, KeyedProtocol p s.config.maxKeysPerStatement.toNat xs ((s.runKeyed p).on before).1 ∧
      Conversation s.connection before.state xs ((s.runKeyed p).on before).2.state := by
  rw [runKeyed_on]
  rcases begun : s.connection.begin before.state with ⟨e | _, started⟩
  · exact ⟨_, .notBegun e, .single begun⟩
  have begins : (Exchange.begin (.ok ())).Happens s.connection before.state started := begun
  have selection := s.mutateSelected_protocol p ⟨started, before.log⟩
  dsimp only
  generalize (s.mutateSelected p).on ⟨started, before.log⟩ = selected at selection ⊢
  obtain ⟨e | rows, mutated⟩ := selected
  · obtain ⟨undone, rolled⟩ := s.undo_happens p e mutated
    dsimp only
    rw [(s.undo_on p e mutated).1]
    rcases selection with ⟨_, same, talk⟩ | ⟨keys, xs, protocol, talk⟩
    · cases same
      exact ⟨_, .notSelected e undone, .cons begins (talk.append rolled)⟩
    · exact ⟨_, .notMutated protocol undone, .cons begins (talk.append rolled)⟩
  · rcases selection with ⟨_, same, _⟩ | ⟨keys, xs, protocol, talk⟩
    · cases same
    rcases committed : s.connection.commit mutated.state with ⟨e | _, final⟩
    · obtain ⟨undone, rolled⟩ := s.undo_happens p e ⟨final, mutated.log⟩
      have commits : (Exchange.commit (.error e)).Happens s.connection mutated.state final :=
        committed
      simp only [committed, (s.undo_on p e ⟨final, mutated.log⟩).1]
      exact ⟨_, .notCommitted protocol e undone,
        .cons begins (talk.append (.cons commits rolled))⟩
    · have commits : (Exchange.commit (.ok ())).Happens s.connection mutated.state final :=
        committed
      simp only [committed]
      exact ⟨_, .committed protocol, .cons begins (talk.append (.single commits))⟩

theorem run_protocol (plan : Plan) (before : Progress σ) :
    ∃ xs, Protocol s.config.maxKeysPerStatement.toNat (.ok plan) xs ((s.run plan).on before).1 ∧
      Conversation s.connection before.state xs ((s.run plan).on before).2.state := by
  cases plan with
  | single r =>
    obtain ⟨answered, moved⟩ := s.execute_on r before
    exact ⟨[.execute r _], .single rfl _, .single (Prod.ext answered.symm moved.symm)⟩
  | keyed p =>
    obtain ⟨xs, protocol, talk⟩ := s.runKeyed_protocol p before
    exact ⟨xs, .keyed rfl protocol, talk⟩

/-- Every operation compiles a plan, runs it, and then logs and reports what it did. -/
theorem perform_eq (b : Bulk) :
    s.perform b = compiled b.verb b.table (b.plan s.dialect) >>= s.run >>= fun rows => do
      Run.log (b.closing rows)
      return b.report rows := by
  cases b with
  | delete q =>
    simp only [perform, delete, compileDelete, bind_assoc, pure_bind]
    rfl
  | update q change =>
    simp only [perform, update, compileUpdate, bind_assoc, pure_bind]
    rfl
  | insert q target p =>
    simp only [perform, insert, compileInsert, bind_assoc]
    rfl

theorem perform_protocol (b : Bulk) (before : Progress σ) :
    ∃ xs result, Protocol s.config.maxKeysPerStatement.toNat (b.plan s.dialect) xs result ∧
      ((s.perform b).on before).1 = result.map b.report ∧
      Conversation s.connection before.state xs ((s.perform b).on before).2.state := by
  simp only [s.perform_eq b, compiled, Run.on_bind, Run.on_ofExcept]
  cases b.plan s.dialect with
  | error e => exact ⟨[], .error e, .notCompiled rfl, rfl, .nil _⟩
  | ok plan =>
    simp only [Run.on_log, Run.on_pure]
    obtain ⟨xs, protocol, talk⟩ :=
      s.run_protocol plan ⟨before.state, before.log ++ [.compiled b.verb b.table plan]⟩
    generalize (s.run plan).on _ = ran at protocol talk ⊢
    obtain ⟨e | rows, after⟩ := ran
    · exact ⟨xs, .error e, protocol, rfl, talk⟩
    · exact ⟨xs, .ok rows, protocol, rfl, talk⟩

end Session

end BulkDml
