import BulkDml.Proofs.Store.Savepoint

namespace BulkDml

/-- What happens to a database under a session: bulk operations, and whatever the caller itself has
the engine do in between, such as opening and closing transactions and savepoints. -/
inductive Step (σ : Type) where
  | bulk (b : Bulk)
  | own (action : σ → σ)

namespace Session

variable {σ τ : Type} {e : Engine σ} {view : σ → Visible τ}

def step (s : Session (Handle σ)) (p : Progress (Handle σ)) : Step σ → Progress (Handle σ)
  | .bulk b => ((s.perform b).on p).2
  | .own action => { p with state := { p.state with engine := action p.state.engine } }

def play (s : Session (Handle σ)) (steps : List (Step σ)) (p : Progress (Handle σ)) :
    Progress (Handle σ) :=
  steps.foldl s.step p

theorem perform_kept (laws : SavepointLaws e view) (s : Session (Handle σ))
    (backed : s.connection = e.connection) (p : Progress (Handle σ))
    (down : p.state.outermost = false) (b : Bulk) :
    (view ((s.perform b).on p).2.state.engine).transaction = (view p.state.engine).transaction ∧
      ((s.perform b).on p).2.state.outermost = false ∧
      ∀ f, ((s.perform b).on p).1 = .error f →
        view ((s.perform b).on p).2.state.engine = view p.state.engine := by
  obtain ⟨xs, result, protocol, ended, talk⟩ := s.perform_protocol b p
  rw [backed] at talk
  obtain ⟨transaction, flag, failed⟩ := laws.protocol_atomic protocol talk down
  refine ⟨transaction, flag, ?_⟩
  intro f failure
  rw [ended] at failure
  cases result with
  | error g => exact failed g rfl
  | ok rows => cases failure

/-- Between operations the connection does not take the transaction for its own. -/
theorem play_outermost (laws : SavepointLaws e view) (s : Session (Handle σ))
    (backed : s.connection = e.connection) (steps : List (Step σ)) (p : Progress (Handle σ))
    (down : p.state.outermost = false) : (s.play steps p).state.outermost = false := by
  unfold play
  induction steps generalizing p with
  | nil => exact down
  | cons first rest ih =>
    apply ih
    cases first with
    | bulk b => exact (perform_kept laws s backed p down b).2.1
    | own action => exact down

/-- Whatever was done before, a bulk operation that fails leaves tables and transaction as they
were, and one that succeeds leaves the transaction as it was. -/
theorem perform_atomic (laws : SavepointLaws e view) (s : Session (Handle σ))
    (backed : s.connection = e.connection) (p : Progress (Handle σ))
    (down : p.state.outermost = false) (steps : List (Step σ)) (b : Bulk) :
    let before := s.play steps p
    let after := (s.perform b).on before
    (view after.2.state.engine).transaction = (view before.state.engine).transaction ∧
      e.autocommit after.2.state.engine = e.autocommit before.state.engine ∧
      ∀ f, after.1 = .error f →
        (view after.2.state.engine).tables = (view before.state.engine).tables := by
  intro before after
  have flag := play_outermost laws s backed steps p down
  obtain ⟨transaction, _, failed⟩ := perform_kept laws s backed before flag b
  refine ⟨transaction, ?_, fun f failure => congrArg _ (failed f failure)⟩
  rw [Bool.eq_iff_iff, laws.autocommit_iff, laws.autocommit_iff, transaction]

section Example

open Store

def movingUp : Bulk :=
  .update ((Query.all keyedTable).take 2)
    (.projection ⟨[("k", .binary (.field "k") .add (.param (.integer 10)))]⟩)

def rowInTheWay : Database :=
  { Database.new with tables := [⟨"t", [⟨1, .text "a"⟩, ⟨2, .text "b"⟩, ⟨12, .text "c"⟩]⟩] }

def beginning : Step Database :=
  .own fun db => (engine.execute ⟨Backend.sqlite.dialect, .raw ⟨"BEGIN", []⟩⟩ db).2

/-- The first row moves, one key at a time, and the second meets the key of the third. -/
theorem perform_atomic_movingUp :
    let before := oneKeyAtATime.play [beginning] ⟨handle rowInTheWay, []⟩
    let after := (oneKeyAtATime.perform movingUp).on before
    before.state.engine.autocommit = false ∧ after.1.isOk = false ∧
      after.2.state.engine.view.transaction = before.state.engine.view.transaction ∧
      after.2.state.engine.view.tables = before.state.engine.view.tables := by
  intro before after
  have failed : after.1.isOk = false := by decide +kernel
  obtain ⟨transaction, _, tables⟩ := perform_atomic savepointLaws oneKeyAtATime rfl
    ⟨handle rowInTheWay, []⟩ rfl [beginning] movingUp
  refine ⟨rfl, failed, transaction, ?_⟩
  cases outcome : after.1 with
  | error f => exact tables f outcome
  | ok rows =>
    rw [outcome] at failed
    cases failed

end Example

end Session

end BulkDml
