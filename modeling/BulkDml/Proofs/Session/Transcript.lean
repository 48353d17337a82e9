import BulkDml.Proofs.Plan.Sampled
import BulkDml.Proofs.Session.Simulation

namespace BulkDml

inductive Reply where
  | affected (rows : UInt64)
  | first (value : Option Value)
  | rows (found : List (List Value))
  | done
deriving DecidableEq

structure Answered where
  call : Call
  reply : Except Error Reply
deriving DecidableEq

structure Transcribed (σ : Type) where
  state : σ
  transcript : List Answered

namespace Connection

variable {σ : Type}

def transcribe {α : Type} (call : Call) (reply : α → Reply) (op : Operation σ α) :
    Operation (Transcribed σ) α := fun t =>
  let (answer, state) := op t.state
  (answer, ⟨state, t.transcript ++ [⟨call, answer.map reply⟩]⟩)

def transcribing (c : Connection σ) : Connection (Transcribed σ) where
  backend := c.backend
  execute r := transcribe (.execute r) .affected (c.execute r)
  queryScalar r := transcribe (.queryScalar r) .first (c.queryScalar r)
  queryRows r := transcribe (.queryRows r) .rows (c.queryRows r)
  begin := transcribe .begin (fun _ => .done) c.begin
  commit := transcribe .commit (fun _ => .done) c.commit
  rollback := transcribe .rollback (fun _ => .done) c.rollback
  setStatementTimeout ms :=
    transcribe (.setStatementTimeout ms) (fun _ => .done) (c.setStatementTimeout ms)

theorem transcribing_refines (c : Connection σ) : c.transcribing.Refines Transcribed.state c where
  execute _ _ := rfl
  queryRows _ _ := rfl
  begin _ := rfl
  commit _ := rfl
  rollback _ := rfl

end Connection

def redactedRows (rows : List (List Value)) : List (List Value) :=
  rows.map (·.map fun _ => .null)

def Request.redacted (r : Request) : Request := ⟨r.dialect, .raw ⟨r.statement.sql, []⟩⟩

def Call.redacted : Call → Call
  | execute r => execute r.redacted
  | queryScalar r => queryScalar r.redacted
  | queryRows r => queryRows r.redacted
  | begin => begin
  | commit => commit
  | rollback => rollback
  | setStatementTimeout ms => setStatementTimeout ms

def Reply.redacted : Reply → Reply
  | rows found => rows (redactedRows found)
  | reply => reply

def Answered.redacted (x : Answered) : Answered := ⟨x.call.redacted, x.reply.map Reply.redacted⟩

/-- Wherever two transcripts have a call with the same text, they have the same answer to it, but
for the values in rows. -/
def AnsweredAlike (xs ys : List Answered) : Prop :=
  ∀ both ∈ xs.zip ys, both.1.call.redacted = both.2.call.redacted →
    both.1.redacted = both.2.redacted

instance (xs ys : List Answered) : Decidable (AnsweredAlike xs ys) :=
  inferInstanceAs (Decidable (∀ both ∈ xs.zip ys, _))

namespace AnsweredAlike

variable {xs ys : List Answered}

theorem of_append {more more' : List Answered} (alike : AnsweredAlike (xs ++ more) (ys ++ more')) :
    AnsweredAlike xs ys := by
  have earlier : xs.zip ys ⊆ (xs ++ more).zip (ys ++ more') := by
    clear alike
    induction xs generalizing ys with
    | nil => simp
    | cons x xs ih =>
      cases ys with
      | nil => simp
      | cons y ys => exact List.cons_subset_cons _ ih
  intro both member
  exact alike both (earlier member)

theorem of_prefix {xs' ys' : List Answered} (alike : AnsweredAlike xs' ys') (left : xs <+: xs')
    (right : ys <+: ys') : AnsweredAlike xs ys := by
  obtain ⟨more, rfl⟩ := left
  obtain ⟨more', rfl⟩ := right
  exact alike.of_append

theorem redacted_last {x y : Answered} (alike : AnsweredAlike (xs ++ [x]) (ys ++ [y]))
    (length : xs.length = ys.length) (same : x.call.redacted = y.call.redacted) :
    x.redacted = y.redacted := by
  refine alike (x, y) ?_ same
  rw [List.zip_append length]
  simp

end AnsweredAlike

namespace Run

variable {σ α β : Type}

def Grows (r : Run (Transcribed σ) α) : Prop :=
  ∀ p, p.state.transcript <+: (r.on p).2.state.transcript

theorem grows_pure (a : α) : Grows (pure a : Run (Transcribed σ) α) :=
  fun _ => List.prefix_refl _

theorem grows_throw (e : Error) : Grows (throw e : Run (Transcribed σ) α) :=
  fun _ => List.prefix_refl _

theorem grows_ofExcept (x : Except Error α) : Grows (ofExcept x : Run (Transcribed σ) α) :=
  fun _ => List.prefix_refl _

theorem grows_log (line : LogLine) : Grows (log line : Run (Transcribed σ) Unit) :=
  fun _ => List.prefix_refl _

theorem grows_call (c : Call) (reply : α → Reply) (op : Operation σ α) :
    Grows (call (Connection.transcribe c reply op)) := fun p =>
  List.prefix_append p.state.transcript _

theorem Grows.bind {r : Run (Transcribed σ) α} (first : r.Grows)
    {next : α → Run (Transcribed σ) β} (rest : ∀ a, (next a).Grows) : (r >>= next).Grows := by
  intro p
  have begun := first p
  rw [on_bind]
  generalize r.on p = ran at begun ⊢
  obtain ⟨e | a, q⟩ := ran
  · exact begun
  · exact begun.trans (rest a q)

theorem Grows.tryCatch {r : Run (Transcribed σ) α} (first : r.Grows)
    {handler : Error → Run (Transcribed σ) α} (handled : ∀ e, (handler e).Grows) :
    (tryCatch r handler).Grows := by
  intro p
  have begun := first p
  rw [on_tryCatch]
  generalize r.on p = ran at begun ⊢
  obtain ⟨e | a, q⟩ := ran
  · exact begun.trans (handled e q)
  · exact begun

end Run

variable {σ τ α β : Type}

theorem Agree.eq {x y : Except Error α} (agree : Agree Eq x y) : x = y := by
  cases x <;> cases y <;> cases agree <;> rfl

/-- Nothing tells the two runs apart but the values of calls and of rows. -/
structure InStep (p : Progress (Transcribed σ)) (q : Progress (Transcribed τ)) : Prop where
  transcripts : p.state.transcript.map Answered.redacted = q.state.transcript.map Answered.redacted
  logs : p.log = q.log

/-- From progress in step, and if all calls are answered alike, the runs fail with the same error or
end with related results, and are in step again. -/
def Coupled (related : α → β → Prop) (r : Run (Transcribed σ) α) (r' : Run (Transcribed τ) β) :
    Prop :=
  ∀ p q, InStep p q →
    AnsweredAlike (r.on p).2.state.transcript (r'.on q).2.state.transcript →
      Agree related (r.on p).1 (r'.on q).1 ∧ InStep (r.on p).2 (r'.on q).2

namespace Coupled

variable {related : α → β → Prop} {r : Run (Transcribed σ) α} {r' : Run (Transcribed τ) β}

theorem ofExcept {x : Except Error α} {y : Except Error β} (agree : Agree related x y) :
    Coupled related (Run.ofExcept x : Run (Transcribed σ) α)
      (Run.ofExcept y : Run (Transcribed τ) β) :=
  fun _ _ inStep _ => ⟨agree, inStep⟩

theorem pure {a : α} {b : β} (same : related a b) :
    Coupled related (Pure.pure a : Run (Transcribed σ) α) (Pure.pure b : Run (Transcribed τ) β) :=
  fun _ _ inStep _ => ⟨same, inStep⟩

theorem throw (e : Error) :
    Coupled related (throw e : Run (Transcribed σ) α) (throw e : Run (Transcribed τ) β) :=
  fun _ _ inStep _ => ⟨rfl, inStep⟩

theorem log {line line' : LogLine} (same : line = line') :
    Coupled Eq (Run.log line : Run (Transcribed σ) Unit)
      (Run.log line' : Run (Transcribed τ) Unit) := by
  intro p q inStep _
  refine ⟨rfl, inStep.transcripts, ?_⟩
  simp [inStep.logs, same]

theorem call {related : α → α → Prop} {c c' : Call} {reply : α → Reply} {op : Operation σ α}
    {op' : Operation τ α} (same : c.redacted = c'.redacted)
    (read : ∀ a b, (reply a).redacted = (reply b).redacted → related a b) :
    Coupled related (Run.call (Connection.transcribe c reply op))
      (Run.call (Connection.transcribe c' reply op')) := by
  intro p q inStep alike
  have length := congrArg List.length inStep.transcripts
  rw [List.length_map, List.length_map] at length
  have last := alike.redacted_last length same
  refine ⟨?_, ?_, inStep.logs⟩
  · have replies : ((op p.state.state).1.map reply).map Reply.redacted =
        ((op' q.state.state).1.map reply).map Reply.redacted := congrArg Answered.reply last
    have fused (x : Except Error α) :
        (x.map reply).map Reply.redacted = x.map fun a => (reply a).redacted := by
      cases x <;> rfl
    rw [fused, fused] at replies
    exact Agree.of_map replies read
  · change (p.state.transcript ++ [_]).map _ = (q.state.transcript ++ [_]).map _
    rw [List.map_append, List.map_append, inStep.transcripts]
    exact congrArg (_ ++ [·]) last

/-- A call without a statement, which is answered with success or an error. -/
theorem done (c : Call) {op : Operation σ Unit} {op' : Operation τ Unit} :
    Coupled Eq (Run.call (Connection.transcribe c (fun _ => .done) op))
      (Run.call (Connection.transcribe c (fun _ => .done) op')) :=
  call rfl fun _ _ _ => rfl

theorem bind {γ δ : Type} {goal : γ → δ → Prop} (first : Coupled related r r')
    {next : α → Run (Transcribed σ) γ} {next' : β → Run (Transcribed τ) δ}
    (grows : ∀ a, (next a).Grows) (grows' : ∀ b, (next' b).Grows)
    (rest : ∀ a b, related a b → Coupled goal (next a) (next' b)) :
    Coupled goal (r >>= next) (r' >>= next') := by
  intro p q inStep
  have step := first p q inStep
  rw [Run.on_bind, Run.on_bind]
  generalize r.on p = ran at step ⊢
  generalize r'.on q = ran' at step ⊢
  -- What follows only adds to the transcripts, so that the first parts were answered alike.
  obtain ⟨e | a, p'⟩ := ran <;> obtain ⟨e' | b, q'⟩ := ran' <;> intro alike
  · exact step alike
  · exact (step (alike.of_prefix (List.prefix_refl _) (grows' b q'))).1.elim
  · exact (step (alike.of_prefix (grows a p') (List.prefix_refl _))).1.elim
  · obtain ⟨same, inStep'⟩ := step (alike.of_prefix (grows a p') (grows' b q'))
    exact rest a b same p' q' inStep' alike

theorem tryCatch (body : Coupled related r r') {handler : Error → Run (Transcribed σ) α}
    {handler' : Error → Run (Transcribed τ) β} (grows : ∀ e, (handler e).Grows)
    (grows' : ∀ e, (handler' e).Grows) (handled : ∀ e, Coupled related (handler e) (handler' e)) :
    Coupled related (tryCatch r handler) (tryCatch r' handler') := by
  intro p q inStep
  have step := body p q inStep
  rw [Run.on_tryCatch, Run.on_tryCatch]
  generalize r.on p = ran at step ⊢
  generalize r'.on q = ran' at step ⊢
  obtain ⟨e | a, p'⟩ := ran <;> obtain ⟨e' | b, q'⟩ := ran' <;> intro alike
  · obtain ⟨same, inStep'⟩ := step (alike.of_prefix (grows e p') (grows' e' q'))
    obtain rfl : e = e' := same
    exact handled e p' q' inStep' alike
  · exact (step (alike.of_prefix (grows e p') (List.prefix_refl _))).1.elim
  · exact (step (alike.of_prefix (List.prefix_refl _) (grows' e' q'))).1.elim
  · exact step alike

end Coupled

end BulkDml
