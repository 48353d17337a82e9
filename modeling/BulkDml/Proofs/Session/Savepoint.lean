import BulkDml.Proofs.Plan.Compiled
import BulkDml.Proofs.Session.Protocol
import BulkDml.Session.Savepoint

namespace BulkDml

/-- The transaction that is open on a database: the tables at its start, if it was begun as such,
and the open savepoints, the newest first, with the tables when they were made. -/
structure Transaction (τ : Type) where
  began : Option τ
  savepoints : List (String × τ)
deriving DecidableEq

namespace Transaction

variable {τ : Type}

def closed : Transaction τ := ⟨none, []⟩

def start? (t : Transaction τ) : Option τ := t.began.or (t.savepoints.getLast?.map Prod.snd)

end Transaction

structure Visible (τ : Type) where
  tables : τ
  transaction : Transaction τ
deriving DecidableEq

namespace Visible

variable {τ : Type}

def push (v : Visible τ) (name : String) : Visible τ :=
  { v with transaction := { v.transaction with
      savepoints := (name, v.tables) :: v.transaction.savepoints } }

end Visible

/-- How an engine handles transactions, in terms of what is visible of its state. A statement of the
library's own never touches the transaction, and changes nothing if it fails. Releasing the
savepoint that opened the transaction commits it, which may fail and leave it open. -/
structure SavepointLaws {σ τ : Type} (e : Engine σ) (view : σ → Visible τ) : Prop where
  autocommit_iff : ∀ s, e.autocommit s = true ↔ (view s).transaction = .closed
  execute_transaction : ∀ r s, r.command.isRaw = false →
    (view (e.execute r s).2).transaction = (view s).transaction
  execute_failed : ∀ r s t f, r.command.isRaw = false → e.execute r s = (.error f, t) →
    view t = view s
  query_view : ∀ d columns table condition limit s,
    view (e.query ⟨d, .selectKeys columns table condition limit⟩ s).2 = view s
  savepoint_made : ∀ name s t, e.savepoint name s = (.ok (), t) → view t = (view s).push name
  savepoint_failed : ∀ name s t f, e.savepoint name s = (.error f, t) → view t = view s
  released : ∀ name s t began saved older,
    (view s).transaction = ⟨began, (name, saved) :: older⟩ → e.release name s = (.ok (), t) →
      view t = ⟨(view s).tables, ⟨began, older⟩⟩
  release_failed : ∀ name s t f, e.release name s = (.error f, t) → view t = view s
  release_inner : ∀ name s began saved older,
    (view s).transaction = ⟨began, (name, saved) :: older⟩ →
      (⟨began, older⟩ : Transaction τ) ≠ .closed → (e.release name s).1 = .ok ()
  rolledBackTo : ∀ name s began saved older,
    (view s).transaction = ⟨began, (name, saved) :: older⟩ →
      (e.rollbackTo name s).1 = .ok () ∧
        view (e.rollbackTo name s).2 = ⟨saved, (view s).transaction⟩
  rolledBack : ∀ s start, (view s).transaction.start? = some start →
    (e.rollback s).1 = .ok () ∧ view (e.rollback s).2 = ⟨start, .closed⟩

/-- A keyed mutation is under way that began when `start` was visible: its savepoint is the newest,
and the connection knows whether it opened the transaction. -/
structure Pending {σ τ : Type} (view : σ → Visible τ) (start : Visible τ) (h : Handle σ) :
    Prop where
  transaction : (view h.engine).transaction = (start.push Handle.savepointName).transaction
  outermost_iff : h.outermost = true ↔ start.transaction = .closed

namespace Pending

variable {σ τ : Type} {view : σ → Visible τ} {start : Visible τ} {h k : Handle σ}

theorem of_same (pending : Pending view start h)
    (same : (view k.engine).transaction = (view h.engine).transaction ∧ k.outermost = h.outermost) :
    Pending view start k := by
  obtain ⟨transaction, flag⟩ := same
  exact ⟨transaction.trans pending.transaction, by rw [flag]; exact pending.outermost_iff⟩

end Pending

theorem ChunkProtocol.requests_isRaw {p : KeyedPlan} {pieces : List (List (List Value))}
    {xs : List Exchange} {rows : Except Error UInt64} (mutated : ChunkProtocol p pieces xs rows) :
    ∀ x ∈ xs, ∃ r answer, x = .execute r answer ∧ r.command.isRaw = false := by
  have own {sent : List Sent} (written : ∀ x ∈ sent, p.mutationFor x.keys = .ok x.request) :
      ∀ x ∈ sent.map Sent.exchange, ∃ r answer, x = .execute r answer ∧
        r.command.isRaw = false := by
    intro x member
    obtain ⟨y, sends, rfl⟩ := List.mem_map.mp member
    exact ⟨y.request, .ok y.rows, rfl, KeyedPlan.mutationFor_isRaw (written y sends)⟩
  cases mutated with
  | done sent written => exact own written
  | notWritten sent written => exact own written
  | notExecuted sent written chunk later r last e =>
    intro x member
    rcases List.mem_append.mp member with earlier | final
    · exact own written x earlier
    · rw [List.mem_singleton.mp final]
      exact ⟨r, .error e, rfl, KeyedPlan.mutationFor_isRaw last⟩

theorem Bulk.single_isRaw {b : Bulk} {d : Dialect} {r : Request}
    (compiled : b.plan d = .ok (.single r)) : r.command.isRaw = false := by
  cases b with
  | delete q =>
    obtain ⟨_, _, built⟩ := Query.deletePlan_eq_ok compiled
    exact Plan.mutation_isRaw built
  | update q change =>
    obtain ⟨_, _, _, _, built⟩ := Query.updatePlan_eq_ok compiled
    exact Plan.mutation_isRaw built
  | insert q target p =>
    obtain ⟨_, single, written⟩ := Query.insertPlan_single compiled
    cases single
    exact written

namespace SavepointLaws

variable {σ τ : Type} {e : Engine σ} {view : σ → Visible τ} {start : Visible τ} {h k : Handle σ}

theorem begin_pending (laws : SavepointLaws e view)
    (happens : (Exchange.begin (.ok ())).Happens e.connection h k) :
    Pending view (view h.engine) k := by
  change Handle.begin e h = (.ok (), k) at happens
  unfold Handle.begin at happens
  split at happens
  · next engine made =>
    cases happens
    refine ⟨?_, laws.autocommit_iff h.engine⟩
    rw [laws.savepoint_made _ _ _ made]
  · cases happens

theorem begin_failed (laws : SavepointLaws e view) {f : Error}
    (happens : (Exchange.begin (.error f)).Happens e.connection h k) :
    view k.engine = view h.engine ∧ k.outermost = h.outermost := by
  change Handle.begin e h = (.error f, k) at happens
  unfold Handle.begin at happens
  split at happens
  · cases happens
  · next g engine failed =>
    cases happens
    exact ⟨laws.savepoint_failed _ _ _ _ failed, rfl⟩

theorem executed_transaction (laws : SavepointLaws e view) {r : Request}
    (written : r.command.isRaw = false) {answer : Except Error UInt64}
    (happens : (Exchange.execute r answer).Happens e.connection h k) :
    (view k.engine).transaction = (view h.engine).transaction ∧ k.outermost = h.outermost := by
  change (_, _) = (answer, k) at happens
  cases happens
  exact ⟨laws.execute_transaction r h.engine written, rfl⟩

theorem not_executed (laws : SavepointLaws e view) {r : Request}
    (written : r.command.isRaw = false) {f : Error}
    (happens : (Exchange.execute r (.error f)).Happens e.connection h k) :
    view k.engine = view h.engine ∧ k.outermost = h.outermost := by
  change (_, _) = (Except.error f, k) at happens
  obtain ⟨failed, rfl⟩ := Prod.mk.inj happens
  exact ⟨laws.execute_failed r h.engine _ f written (Prod.ext failed rfl), rfl⟩

theorem selected (laws : SavepointLaws e view) {p : KeyedPlan}
    {answer : Except Error (List (List Value))}
    (happens : (Exchange.queryRows p.selectKeys answer).Happens e.connection h k) :
    view k.engine = view h.engine ∧ k.outermost = h.outermost := by
  change (_, _) = (answer, k) at happens
  cases happens
  exact ⟨laws.query_view _ _ _ _ _ h.engine, rfl⟩

theorem committed (laws : SavepointLaws e view) (pending : Pending view start h)
    (happens : (Exchange.commit (.ok ())).Happens e.connection h k) :
    (view k.engine).transaction = start.transaction ∧ k.outermost = false := by
  change Handle.commit e h = (.ok (), k) at happens
  unfold Handle.commit at happens
  split at happens
  · next engine released =>
    cases happens
    rw [laws.released _ _ _ _ _ _ pending.transaction released]
    exact ⟨rfl, rfl⟩
  · cases happens

theorem not_committed (laws : SavepointLaws e view) {f : Error}
    (happens : (Exchange.commit (.error f)).Happens e.connection h k) :
    view k.engine = view h.engine ∧ k.outermost = h.outermost := by
  change Handle.commit e h = (.error f, k) at happens
  unfold Handle.commit at happens
  split at happens
  · cases happens
  · next g engine failed =>
    cases happens
    exact ⟨laws.release_failed _ _ _ _ failed, rfl⟩

/-- Taking back the newest savepoint and closing it, inside a transaction that stays open. -/
theorem undone (laws : SavepointLaws e view) (pending : Pending view start h)
    (inner : start.transaction ≠ .closed) : view (Handle.undo e h.engine).2 = start := by
  obtain ⟨answered, restored⟩ := laws.rolledBackTo _ _ _ _ _ pending.transaction
  unfold Handle.undo
  cases taken : e.rollbackTo Handle.savepointName h.engine with
  | mk answer engine =>
    rw [taken] at answered restored
    cases answered
    have newest : (view engine).transaction = (start.push Handle.savepointName).transaction := by
      rw [restored]
      exact pending.transaction
    have closes := laws.release_inner _ engine _ _ _ newest inner
    have closed := laws.released _ engine _ _ _ _ newest (Prod.ext closes rfl)
    dsimp only
    rw [closed, restored]

theorem rolled_back (laws : SavepointLaws e view) (pending : Pending view start h)
    {answer : Except Error Unit} (happens : (Exchange.rollback answer).Happens e.connection h k) :
    view k.engine = start ∧ k.outermost = false := by
  change Handle.rollback e h = (answer, k) at happens
  unfold Handle.rollback at happens
  cases flag : h.outermost with
  | true =>
    -- The savepoint is the only one, so the transaction began with what was visible then.
    have opened : start.transaction = .closed := pending.outermost_iff.mp flag
    have began : (view h.engine).transaction.start? = some start.tables := by
      rw [pending.transaction, Visible.push, opened]
      rfl
    obtain ⟨_, restored⟩ := laws.rolledBack h.engine start.tables began
    rw [flag] at happens
    cases happens
    exact ⟨restored.trans (by rw [← opened]), rfl⟩
  | false =>
    have inner : start.transaction ≠ .closed := fun opened =>
      Bool.false_ne_true (flag.symm.trans (pending.outermost_iff.mpr opened))
    rw [flag] at happens
    cases happens
    exact ⟨laws.undone pending inner, rfl⟩

theorem mutated_transaction (laws : SavepointLaws e view) {p : KeyedPlan}
    {pieces : List (List (List Value))} {xs : List Exchange} {rows : Except Error UInt64}
    (mutated : ChunkProtocol p pieces xs rows) (talk : Conversation e.connection h xs k) :
    (view k.engine).transaction = (view h.engine).transaction ∧ k.outermost = h.outermost := by
  have requests := mutated.requests_isRaw
  clear mutated
  induction talk with
  | nil => exact ⟨rfl, rfl⟩
  | cons first _ ih =>
    obtain ⟨⟨r, answer, rfl, written⟩, later⟩ := List.forall_mem_cons.mp requests
    obtain ⟨transaction, flag⟩ := laws.executed_transaction written first
    obtain ⟨laterTransaction, laterFlag⟩ := ih later
    exact ⟨laterTransaction.trans transaction, laterFlag.trans flag⟩

theorem selected_pending (laws : SavepointLaws e view) {p : KeyedPlan}
    {answer : Except Error (List (List Value))} {xs : List Exchange}
    (talk : Conversation e.connection h
      (.begin (.ok ()) :: .queryRows p.selectKeys answer :: xs) k) :
    ∃ m, Pending view (view h.engine) m ∧ Conversation e.connection m xs k := by
  obtain ⟨_, begins, talk⟩ := talk.of_cons
  obtain ⟨m, selects, talk⟩ := talk.of_cons
  obtain ⟨same, flag⟩ := laws.selected selects
  exact ⟨m, (laws.begin_pending begins).of_same ⟨congrArg _ same, flag⟩, talk⟩

theorem mutated_pending (laws : SavepointLaws e view) (pending : Pending view start h)
    {p : KeyedPlan} {pieces : List (List (List Value))} {xs later : List Exchange}
    {rows : Except Error UInt64} (mutated : ChunkProtocol p pieces xs rows)
    (talk : Conversation e.connection h (xs ++ later) k) :
    ∃ m, Pending view start m ∧ Conversation e.connection m later k := by
  obtain ⟨m, mutates, talk⟩ := talk.of_append
  exact ⟨m, pending.of_same (laws.mutated_transaction mutated mutates), talk⟩

theorem keyed_atomic (laws : SavepointLaws e view) {p : KeyedPlan} {size : Nat}
    {xs : List Exchange} {result : Except Error UInt64} (inside : KeyedProtocol p size xs result)
    (talk : Conversation e.connection h xs k) (down : h.outermost = false) :
    (view k.engine).transaction = (view h.engine).transaction ∧ k.outermost = false ∧
      ∀ f, result = .error f → view k.engine = view h.engine := by
  -- Once the transaction has begun, a failure ends with a rollback.
  have failed {m : Handle σ} {undone : Except Error Unit} {f : Error}
      (pending : Pending view (view h.engine) m)
      (last : Conversation e.connection m [.rollback undone] k) :
      (view k.engine).transaction = (view h.engine).transaction ∧ k.outermost = false ∧
        ∀ g, (Except.error f : Except Error UInt64) = .error g → view k.engine = view h.engine := by
    obtain ⟨restored, flag⟩ := laws.rolled_back pending last.of_single
    exact ⟨congrArg _ restored, flag, fun _ _ => restored⟩
  cases inside with
  | notBegun f =>
    obtain ⟨same, flag⟩ := laws.begin_failed talk.of_single
    exact ⟨congrArg _ same, flag.trans down, fun _ _ => same⟩
  | notSelected f undone =>
    obtain ⟨m, pending, last⟩ := laws.selected_pending talk
    exact failed pending last
  | notMutated mutated undone =>
    obtain ⟨m, selected, talk⟩ := laws.selected_pending talk
    obtain ⟨n, pending, last⟩ := laws.mutated_pending selected mutated talk
    exact failed pending last
  | notCommitted mutated f undone =>
    obtain ⟨m, selected, talk⟩ := laws.selected_pending talk
    obtain ⟨n, pending, talk⟩ := laws.mutated_pending selected mutated talk
    obtain ⟨_, commits, last⟩ := talk.of_cons
    obtain ⟨same, flag⟩ := laws.not_committed commits
    exact failed (pending.of_same ⟨congrArg _ same, flag⟩) last
  | committed mutated =>
    obtain ⟨m, selected, talk⟩ := laws.selected_pending talk
    obtain ⟨n, pending, last⟩ := laws.mutated_pending selected mutated talk
    obtain ⟨transaction, lowered⟩ := laws.committed pending last.of_single
    exact ⟨transaction, lowered, fun _ failure => nomatch failure⟩

theorem protocol_atomic (laws : SavepointLaws e view) {b : Bulk} {d : Dialect} {size : Nat}
    {xs : List Exchange} {result : Except Error UInt64}
    (protocol : Protocol size (b.plan d) xs result) (talk : Conversation e.connection h xs k)
    (down : h.outermost = false) :
    (view k.engine).transaction = (view h.engine).transaction ∧ k.outermost = false ∧
      ∀ f, result = .error f → view k.engine = view h.engine := by
  cases protocol with
  | notCompiled failed =>
    cases talk
    exact ⟨rfl, down, fun _ _ => rfl⟩
  | single compiled answer =>
    have executes := talk.of_single
    have written := Bulk.single_isRaw compiled
    obtain ⟨transaction, flag⟩ := laws.executed_transaction written executes
    refine ⟨transaction, flag.trans down, ?_⟩
    rintro f rfl
    exact (laws.not_executed written executes).1
  | keyed compiled inside => exact laws.keyed_atomic inside talk down

end SavepointLaws

end BulkDml
