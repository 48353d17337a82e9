import BulkDml.Proofs.Session.Protocol

namespace BulkDml

variable {σ τ α β : Type} {view : τ → σ}

/-- Every answer is that of the other connection, whose state is a view of this one's. -/
structure Connection.Refines (view : τ → σ) (c' : Connection τ) (c : Connection σ) : Prop where
  execute : ∀ r t, c.execute r (view t) = ((c'.execute r t).1, view (c'.execute r t).2)
  queryRows : ∀ r t, c.queryRows r (view t) = ((c'.queryRows r t).1, view (c'.queryRows r t).2)
  begin : ∀ t, c.begin (view t) = ((c'.begin t).1, view (c'.begin t).2)
  commit : ∀ t, c.commit (view t) = ((c'.commit t).1, view (c'.commit t).2)
  rollback : ∀ t, c.rollback (view t) = ((c'.rollback t).1, view (c'.rollback t).2)

def Progress.map (view : τ → σ) (p : Progress τ) : Progress σ := ⟨view p.state, p.log⟩

namespace Run

def Refines (view : τ → σ) (r' : Run τ α) (r : Run σ α) : Prop :=
  ∀ p, r.on (p.map view) = ((r'.on p).1, (r'.on p).2.map view)

theorem refines_pure (a : α) : Refines view (pure a) (pure a) := fun _ => rfl

theorem refines_throw (e : Error) : Refines view (throw e : Run τ α) (throw e) := fun _ => rfl

theorem refines_ofExcept (x : Except Error α) : Refines view (ofExcept x) (ofExcept x) :=
  fun _ => rfl

theorem refines_log (line : LogLine) : Refines view (log line) (log line) := fun _ => rfl

theorem refines_call {op' : Operation τ α} {op : Operation σ α}
    (same : ∀ t, op (view t) = ((op' t).1, view (op' t).2)) :
    Refines view (call op') (call op) := by
  intro p
  have answered := same p.state
  rw [on_call, on_call]
  change ((op (view p.state)).1, Progress.mk (op (view p.state)).2 p.log) = _
  rw [answered]
  rfl

theorem Refines.bind {r' : Run τ α} {r : Run σ α} (first : Refines view r' r)
    {next' : α → Run τ β} {next : α → Run σ β} (rest : ∀ a, Refines view (next' a) (next a)) :
    Refines view (r' >>= next') (r >>= next) := by
  intro p
  rw [on_bind, on_bind, first p]
  generalize r'.on p = ran
  obtain ⟨e | a, q⟩ := ran
  · rfl
  · exact rest a q

theorem Refines.tryCatch {r' : Run τ α} {r : Run σ α} (body : Refines view r' r)
    {handler' : Error → Run τ α} {handler : Error → Run σ α}
    (handled : ∀ e, Refines view (handler' e) (handler e)) :
    Refines view (tryCatch r' handler') (tryCatch r handler) := by
  intro p
  rw [on_tryCatch, on_tryCatch, body p]
  generalize r'.on p = ran
  obtain ⟨e | a, q⟩ := ran
  · exact handled e q
  · rfl

end Run

namespace Session

open Run

def onto (s : Session σ) (c' : Connection τ) : Session τ := ⟨c', s.config, s.valid⟩

variable {s : Session σ} {c' : Connection τ} (refines : c'.Refines view s.connection)

include refines

theorem execute_refines (r : Request) : ((s.onto c').execute r).Refines view (s.execute r) :=
  (refines_log _).bind fun _ => refines_call (refines.execute r)

theorem mutateChunks_refines (p : KeyedPlan) (total : UInt64)
    (pieces : List (List (List Value))) :
    ((s.onto c').mutateChunks p total pieces).Refines view (s.mutateChunks p total pieces) := by
  induction pieces generalizing total with
  | nil => exact refines_pure total
  | cons chunk rest ih =>
    exact (refines_ofExcept _).bind fun r => (execute_refines refines r).bind fun rows =>
      ih (total + rows)

theorem mutateSelected_refines (p : KeyedPlan) :
    ((s.onto c').mutateSelected p).Refines view (s.mutateSelected p) := by
  refine (refines_log _).bind fun _ => (refines_call (refines.queryRows _)).bind fun keys => ?_
  split
  · exact (refines_log _).bind fun _ => refines_pure 0
  · exact mutateChunks_refines refines p 0 _

theorem undo_refines (p : KeyedPlan) (e : Error) :
    ((s.onto c').undo p e).Refines view (s.undo p e) := by
  have rolled : (s.onto c').rollback.Refines view s.rollback :=
    (refines_call refines.rollback).tryCatch fun _ => refines_log _
  exact (refines_log _).bind fun _ => rolled.bind fun _ => refines_throw e

theorem run_refines (plan : Plan) : ((s.onto c').run plan).Refines view (s.run plan) := by
  cases plan with
  | single r => exact execute_refines refines r
  | keyed p =>
    refine (refines_call refines.begin).bind fun _ => Refines.tryCatch ?_ (undo_refines refines p)
    exact (mutateSelected_refines refines p).bind fun rows =>
      (refines_call refines.commit).bind fun _ => refines_pure rows

theorem perform_refines (b : Bulk) : ((s.onto c').perform b).Refines view (s.perform b) := by
  have compiles : (compiled b.verb b.table (b.plan s.dialect) : Run τ Plan).Refines view
      (compiled b.verb b.table (b.plan s.dialect)) :=
    (refines_ofExcept _).bind fun plan => (refines_log _).bind fun _ => refines_pure plan
  rw [perform_eq, perform_eq]
  exact (compiles.bind (run_refines refines)).bind fun rows =>
    (refines_log _).bind fun _ => refines_pure _

theorem performAll_refines (bs : List Bulk) (p : Progress τ) :
    s.performAll bs (p.map view) =
      (((s.onto c').performAll bs p).1, ((s.onto c').performAll bs p).2.map view) := by
  induction bs generalizing p with
  | nil => rfl
  | cons b bs ih =>
    simp only [performAll]
    rw [perform_refines refines b p, ih]

end Session

end BulkDml
