import Mathlib.Algebra.GroupWithZero.Nat
import BulkDml.Proofs.Plan.Restriction
import BulkDml.Proofs.Session.Calls
import BulkDml.Session.Script

namespace BulkDml

namespace KeyedPlan

variable (p : KeyedPlan)

def requestFor (keys : List (List Value)) : Request :=
  ⟨p.mutationDialect, Plan.mutationCommand p.action p.table (some (.keys p.keyColumns keys)) none⟩

def head : Fragment := (Plan.mutationCommand p.action p.table none none).head p.mutationDialect

def headText : String := (p.mutationDialect.render p.head).sql

def assigned : List Value :=
  match p.action with
  | .delete => []
  | .update set => set.setClause.params

def restriction (keys : List (List Value)) : String :=
  Fragment.renderText p.mutationDialect.marker p.assigned.length
    (Condition.keysFragment p.mutationDialect p.keyColumns keys).segments

theorem params_head : p.head.params = p.assigned := by
  unfold head assigned
  cases p.action <;> simp [Plan.mutationCommand, Command.head]

theorem statement_requestFor {keys : List (List Value)}
    (widths : ∀ key ∈ keys, key.length = p.keyColumns.length) :
    (p.requestFor keys).statement =
      ⟨p.headText ++ " WHERE " ++ p.restriction keys, p.assigned ++ keys.flatten⟩ := by
  let front := p.head.pushSql " WHERE "
  let condition := Condition.keysFragment p.mutationDialect p.keyColumns keys
  have written : (p.requestFor keys).statement = p.mutationDialect.render (front ++ condition) :=
    Plan.statement_mutationCommand p.action p.table (.keys p.keyColumns keys)
  have frontParams : front.params = p.assigned := by
    rw [Fragment.params_pushSql, params_head]
  have sql : (p.mutationDialect.render (front ++ condition)).sql =
      p.headText ++ " WHERE " ++ p.restriction keys := by
    change Fragment.renderText _ _ (front ++ condition).segments = _
    rw [Fragment.renderText_append, frontParams, Nat.zero_add, Fragment.renderText_pushSql]
    rfl
  have params : (p.mutationDialect.render (front ++ condition)).params =
      p.assigned ++ keys.flatten := by
    change (front ++ condition).params = _
    rw [Fragment.params_append, frontParams, Condition.params_keysFragment _ widths]
  rw [written, ← sql, ← params]

/-- The restriction is read as a condition that is true of the rows with one of the keys. -/
theorem restriction_readable (clear : p.mutationDialect.Clear) (keyed : p.keyColumns ≠ [])
    {keys : List (List Value)} (widths : ∀ key ∈ keys, key.length = p.keyColumns.length) :
    ∃ w, p.mutationDialect.readConditionFrom p.assigned.length (p.assigned ++ keys.flatten)
        (p.restriction keys) = some w ∧
      ∀ order bind row, (w.mapValues bind).truth order row = .true ↔
        (∃ key ∈ keys, Condition.HasKey order row p.keyColumns (key.map bind)) ∧
          Condition.Keyed row p.keyColumns := by
  have wellFormed := Condition.wellFormed_keys keyed widths
  have written := Condition.stream_toFragment p.mutationDialect wellFormed
  rw [Condition.toFragment_simplified] at written
  have reads := Dialect.readConditionFrom_renderText clear (Condition.fits_written wellFormed)
    written p.assigned
  rw [Condition.toFragment, Condition.params_keysFragment _ widths] at reads
  exact ⟨_, reads, fun order bind row =>
    Condition.truth_simplified_keys_eq_true_iff order bind row keyed widths⟩

end KeyedPlan

theorem Sent.toNat_total {sent : List Sent}
    (fits : (sent.map (·.rows.toNat)).sum < 2 ^ 64) :
    (total sent).toNat = (sent.map (·.rows.toNat)).sum := by
  induction sent with
  | nil => rfl
  | cons x sent ih =>
    rw [List.map_cons, List.sum_cons] at fits ⊢
    rw [total, UInt64.toNat_add, ih (Nat.lt_of_le_of_lt (Nat.le_add_left _ _) fits)]
    exact Nat.mod_eq_of_lt fits

namespace KeyedPlan

/-- The statements sent for `keys`, of `size` keys each but for the last. -/
structure Chunked (p : KeyedPlan) (size : Nat) (keys : List (List Value)) (sent : List Sent) :
    Prop where
  count : sent.length = (keys.length + size - 1) / size
  bounded : ∀ x ∈ sent, 1 ≤ x.keys.length ∧ x.keys.length ≤ size
  full : ∀ x ∈ sent.dropLast, x.keys.length = size
  complete : sent.flatMap Sent.keys = keys
  restricted : ∀ x ∈ sent, x.request = p.requestFor x.keys
  written : ∀ x ∈ sent, x.request.statement =
    ⟨p.headText ++ " WHERE " ++ p.restriction x.keys, p.assigned ++ x.keys.flatten⟩
  /-- By its text, the restriction holds for the rows that have one of the keys. -/
  restricts : p.mutationDialect.Clear → p.keyColumns ≠ [] → ∀ x ∈ sent, ∃ w,
    p.mutationDialect.readConditionFrom p.assigned.length x.request.statement.params
        (p.restriction x.keys) = some w ∧
      ∀ order bind row, (w.mapValues bind).truth order row = .true ↔
        (∃ key ∈ x.keys, Condition.HasKey order row p.keyColumns (key.map bind)) ∧
          Condition.Keyed row p.keyColumns
  keyParams : sent.flatMap (fun x => x.request.statement.params.drop p.assigned.length) =
    keys.flatten

variable {p : KeyedPlan} {size : Nat} {keys : List (List Value)} {sent : List Sent}

theorem chunked (positive : 0 < size) (widths : ∀ key ∈ keys, key.length = p.keyColumns.length)
    (cut : sent.map Sent.keys = chunks size keys)
    (all : ∀ x ∈ sent, p.mutationFor x.keys = .ok x.request) : p.Chunked size keys sent := by
  have complete : sent.flatMap Sent.keys = keys := by
    rw [List.flatMap_def, cut, flatten_chunks]
  have among {x : Sent} (member : x ∈ sent) : x.keys ∈ chunks size keys := by
    rw [← cut]
    exact List.mem_map_of_mem member
  have restricted : ∀ x ∈ sent, x.request = p.requestFor x.keys := fun x member =>
    mutationFor_eq (all x member)
  have narrow : ∀ x ∈ sent, ∀ key ∈ x.keys, key.length = p.keyColumns.length :=
    fun x member key inside => widths key (mem_of_mem_chunks (among member) inside)
  have written : ∀ x ∈ sent, x.request.statement =
      ⟨p.headText ++ " WHERE " ++ p.restriction x.keys, p.assigned ++ x.keys.flatten⟩ := by
    intro x member
    rw [restricted x member]
    exact p.statement_requestFor (narrow x member)
  refine ⟨?_, ?_, ?_, complete, restricted, written, ?_, ?_⟩
  · rw [← length_chunks positive, ← cut, List.length_map]
  · intro x member
    have filled := List.length_pos_iff.mpr (ne_nil_of_mem_chunks (among member))
    exact ⟨filled, length_le_of_mem_chunks positive (among member)⟩
  · intro x member
    have early : x.keys ∈ (chunks size keys).dropLast := by
      rw [← cut, ← List.map_dropLast]
      exact List.mem_map_of_mem member
    exact length_eq_of_mem_dropLast_chunks positive early
  · intro clear keyed x member
    rw [written x member]
    exact p.restriction_readable clear keyed (narrow x member)
  · calc sent.flatMap (fun x => x.request.statement.params.drop p.assigned.length)
        = sent.flatMap fun x => x.keys.flatten := by
          refine List.flatMap_congr fun x member => ?_
          rw [written x member, List.drop_left]
      _ = (sent.flatMap Sent.keys).flatten := by
          rw [List.flatMap_def, List.flatMap_def, List.flatten_flatten, List.map_map]
          rfl
      _ = keys.flatten := by rw [complete]

end KeyedPlan

theorem ChunkProtocol.complete {p : KeyedPlan} {pieces : List (List (List Value))}
    {xs : List Exchange} {result : Except Error UInt64}
    (protocol : ChunkProtocol p pieces xs result)
    (widths : ∀ chunk ∈ pieces, ∀ key ∈ chunk, key.length = p.keyColumns.length)
    (answered : ∀ x ∈ xs, x.failure? = none) :
    ∃ sent : List Sent, pieces = sent.map Sent.keys ∧ xs = sent.map Sent.exchange ∧
      result = .ok (Sent.total sent) ∧ ∀ x ∈ sent, p.mutationFor x.keys = .ok x.request := by
  cases protocol with
  | done sent written => exact ⟨sent, rfl, rfl, rfl, written⟩
  | notWritten sent written chunk later e failed =>
    have fits := KeyedPlan.mutationFor_eq_ok (widths chunk (by simp))
    cases failed.symm.trans fits
  | notExecuted sent written chunk later request last e =>
    cases answered (.execute request (.error e)) (by simp)

/-- A keyed plan whose calls all succeed has sent the chunks of what it selected, and nothing else
between the selection and the commit. -/
theorem KeyedProtocol.complete {p : KeyedPlan} {size : Nat} (positive : 0 < size)
    {xs : List Exchange} {result : Except Error UInt64} (protocol : KeyedProtocol p size xs result)
    (answered : ∀ x ∈ xs, x.failure? = none) :
    ∃ keys, .queryRows p.selectKeys (.ok keys) ∈ xs ∧
      ((∀ key ∈ keys, key.length = p.keyColumns.length) → ∃ sent : List Sent,
        xs = .begin (.ok ()) :: .queryRows p.selectKeys (.ok keys) ::
          (sent.map Sent.exchange ++ [.commit (.ok ())]) ∧
        result = .ok (Sent.total sent) ∧ p.Chunked size keys sent) := by
  have apart {keys : List (List Value)}
      (widths : ∀ key ∈ keys, key.length = p.keyColumns.length) :
      ∀ chunk ∈ chunks size keys, ∀ key ∈ chunk, key.length = p.keyColumns.length :=
    fun chunk cut key inside => widths key (mem_of_mem_chunks cut inside)
  cases protocol with
  -- Wherever a call fails, its answer is among the exchanges.
  | notBegun e => cases answered (.begin (.error e)) (by simp)
  | notSelected e undone => cases answered (.queryRows p.selectKeys (.error e)) (by simp)
  | notCommitted mutated e undone => cases answered (.commit (.error e)) (by simp)
  | @notMutated keys xs e mutated undone =>
    refine ⟨keys, by simp, fun widths => ?_⟩
    obtain ⟨sent, -, -, ended, -⟩ :=
      mutated.complete (apart widths) fun x member => answered x (by simp [member])
    cases ended
  | @committed keys xs rows mutated =>
    refine ⟨keys, by simp, fun widths => ?_⟩
    obtain ⟨sent, cut, rfl, ended, all⟩ :=
      mutated.complete (apart widths) fun x member => answered x (by simp [member])
    exact ⟨sent, rfl, ended, KeyedPlan.chunked positive widths cut.symm all⟩

namespace Session

variable {σ : Type}

theorem new_eq_ok {connection : Connection σ} {config : Config} {opened opened' : σ}
    {s : Session σ} (accepted : new connection config opened = (.ok s, opened')) :
    s.connection = connection ∧ s.config = config := by
  unfold new at accepted
  split at accepted
  · cases accepted
  · split at accepted
    · dsimp only at accepted
      split at accepted
      · cases accepted
        exact ⟨rfl, rfl⟩
      · next ms _ =>
        obtain ⟨timed, -⟩ := Prod.mk.inj accepted
        generalize (connection.setStatementTimeout ms opened).1 = answer at timed
        cases answer with
        | error e => cases timed
        | ok =>
          cases timed
          exact ⟨rfl, rfl⟩
    · cases accepted

/-- A session never cuts into chunks of no keys at all. -/
theorem maxKeysPerStatement_pos (s : Session σ) : 0 < s.config.maxKeysPerStatement.toNat := by
  have valid := s.valid
  unfold Config.fault? at valid
  split at valid
  · cases valid
  · next apart =>
    apply Nat.pos_of_ne_zero
    intro zero
    exact apart (UInt64.toNat_inj.mp zero)

/-- If the connection answers every call of a keyed plan, and with keys as wide as the table's, then
these are the calls: the selected keys are sent in chunks of the configured size, and the rows
affected are counted together. -/
theorem run_chunked {connection : Connection σ} {config : Config} {opened opened' : σ}
    {s : Session σ} (accepted : new connection config opened = (.ok s, opened')) :
    0 < config.maxKeysPerStatement.toNat ∧ s.config = config ∧
      ∀ (p : KeyedPlan) (before : Progress (Recorded σ)),
        let after := (s.recording.run (.keyed p)).on before
        ∃ xs, Conversation connection before.state.state xs after.2.state.state ∧
          after.2.state.calls = before.state.calls ++ xs.map Exchange.call ∧
          ((∀ x ∈ xs, x.failure? = none) → ∃ keys, .queryRows p.selectKeys (.ok keys) ∈ xs ∧
            ((∀ key ∈ keys, key.length = p.keyColumns.length) →
              ∃ (sent : List Sent) (rows : UInt64),
                xs = .begin (.ok ()) :: .queryRows p.selectKeys (.ok keys) ::
                  (sent.map Sent.exchange ++ [.commit (.ok ())]) ∧
                p.Chunked config.maxKeysPerStatement.toNat keys sent ∧
                after.1 = .ok rows ∧
                ((sent.map (·.rows.toNat)).sum < 2 ^ 64 →
                  rows.toNat = (sent.map (·.rows.toNat)).sum))) := by
  obtain ⟨rfl, rfl⟩ := new_eq_ok accepted
  refine ⟨s.maxKeysPerStatement_pos, rfl, ?_⟩
  intro p before
  obtain ⟨xs, protocol, talk⟩ := s.recording.run_protocol (.keyed p) before
  obtain ⟨state, calls⟩ := talk.of_recording
  refine ⟨xs, state, calls, ?_⟩
  intro answered
  generalize (s.recording.run (.keyed p)).on before = after at protocol
  obtain ⟨result, after⟩ := after
  cases protocol with
  | notCompiled failed => cases failed
  | single compiled => cases compiled
  | keyed compiled inside =>
    cases compiled
    obtain ⟨keys, selected, complete⟩ := inside.complete s.maxKeysPerStatement_pos answered
    refine ⟨keys, selected, ?_⟩
    intro widths
    obtain ⟨sent, calls, ended, chunked⟩ := complete widths
    exact ⟨sent, _, calls, chunked, ended, Sent.toNat_total⟩

def relabelling : KeyedPlan where
  dialect := Backend.sqlite.dialect
  action := .update ⟨Backend.sqlite.dialect, [⟨"name", "name", .param (.text "x")⟩]⟩
  table := ⟨none, "t"⟩
  keyColumns := ["id"]
  condition := none
  limit := 3

def threeKeys : Script :=
  { Script.silent with
    queryRows := [.ok [[.integer 1], [.integer 2], [.integer 3]]]
    execute := [.ok 2, .ok 1] }

theorem run_chunked_threeKeys :
    let config := Config.default.withMaxKeysPerStatement 2
    let connection := Script.connection .sqlite
    let keys : List (List Value) := [[.integer 1], [.integer 2], [.integer 3]]
    ∃ s, new connection config threeKeys = (.ok s, threeKeys) ∧
      0 < config.maxKeysPerStatement.toNat ∧
      let after := (s.recording.run (.keyed relabelling)).on ⟨⟨threeKeys, []⟩, []⟩
      ∃ sent rows,
        after.2.state.calls = [.begin, .queryRows relabelling.selectKeys,
          .execute (relabelling.requestFor [[.integer 1], [.integer 2]]),
          .execute (relabelling.requestFor [[.integer 3]]), .commit] ∧
        relabelling.Chunked 2 keys sent ∧ sent.map Sent.rows = [2, 1] ∧ after.1 = .ok rows ∧
        rows.toNat = 3 := by
  intro config connection keys
  have accepted : new connection config threeKeys =
      (.ok ⟨connection, config, rfl⟩, threeKeys) := rfl
  refine ⟨_, accepted, by decide, ?_⟩
  intro after
  obtain ⟨-, -, runs⟩ := run_chunked accepted
  obtain ⟨xs, talk, calls, complete⟩ := runs relabelling ⟨⟨threeKeys, []⟩, []⟩
  let ys : List Exchange := [.begin (.ok ()), .queryRows relabelling.selectKeys (.ok keys),
    .execute (relabelling.requestFor [[.integer 1], [.integer 2]]) (.ok 2),
    .execute (relabelling.requestFor [[.integer 3]]) (.ok 1), .commit (.ok ())]
  have called : after.2.state.calls = ys.map Exchange.call := by decide +kernel
  have talks : Conversation connection threeKeys ys Script.silent :=
    .cons rfl (.cons rfl (.cons rfl (.cons rfl (.cons rfl (.nil _)))))
  -- The connection has only one answer to each call, so this is the conversation that was held.
  obtain ⟨rfl, -⟩ := talk.unique talks (calls.symm.trans called)
  have answered : ∀ x ∈ ys, x.failure? = none := by simp [ys, Exchange.failure?]
  obtain ⟨keys', selected, chunked⟩ := complete answered
  obtain rfl : keys' = keys := by simpa [ys] using selected
  obtain ⟨sent, rows, sents, chunked, ended, counted⟩ := chunked (by decide)
  have answers : sent.map Sent.rows = [2, 1] := by
    have executed : sent.map Sent.exchange = (ys.drop 2).dropLast := by
      rw [sents]
      simp
    obtain ⟨first, sent, rfl, two, later⟩ := List.map_eq_cons_iff.mp executed
    obtain ⟨second, sent, rfl, one, none⟩ := List.map_eq_cons_iff.mp later
    obtain rfl := List.map_eq_nil_iff.mp none
    have counts : first.rows = 2 ∧ second.rows = 1 :=
      ⟨Except.ok.inj (Exchange.execute.inj two).2, Except.ok.inj (Exchange.execute.inj one).2⟩
    simp [counts]
  have sum : (sent.map (·.rows.toNat)).sum = 3 := by
    have mapped := congrArg (fun rows => (rows.map UInt64.toNat).sum) answers
    rwa [List.map_map] at mapped
  refine ⟨sent, rows, called, chunked, answers, ended, ?_⟩
  rw [counted (by rw [sum]; decide), sum]

end Session

end BulkDml
