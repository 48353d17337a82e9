import Mathlib.Data.List.Nodup
import BulkDml.Proofs.Plan.Compiled
import BulkDml.Proofs.Session.Protocol

namespace BulkDml

theorem Connection.record_eq_iff {σ α : Type} {call : Call} {op : Operation σ α}
    {s t : Recorded σ} {answer : Except Error α} :
    record call op s = (answer, t) ↔
      op s.state = (answer, t.state) ∧ t.calls = s.calls ++ [call] := by
  obtain ⟨state, calls⟩ := t
  simp only [record, Prod.ext_iff, Recorded.mk.injEq]
  rw [and_assoc, eq_comm (a := calls)]

theorem Exchange.Happens.of_recording {σ : Type} {c : Connection σ} {s t : Recorded σ}
    {x : Exchange} (happens : x.Happens c.recording s t) :
    x.Happens c s.state t.state ∧ t.calls = s.calls ++ [x.call] := by
  cases x <;> exact Connection.record_eq_iff.mp happens

theorem Conversation.of_recording {σ : Type} {c : Connection σ} {s t : Recorded σ}
    {xs : List Exchange} (talk : Conversation c.recording s xs t) :
    Conversation c s.state xs t.state ∧ t.calls = s.calls ++ xs.map Exchange.call := by
  induction talk with
  | nil s => exact ⟨.nil _, by simp⟩
  | cons first rest ih =>
    obtain ⟨happens, called⟩ := first.of_recording
    exact ⟨.cons happens ih.1, by simp [ih.2, called]⟩

namespace Session

def recording {σ : Type} (s : Session σ) : Session (Recorded σ) :=
  ⟨s.connection.recording, s.config, s.valid⟩

end Session

namespace ChunkProtocol

variable {p : KeyedPlan} {pieces : List (List (List Value))} {xs : List Exchange}

/-- The statements sent are those of the first chunks, one each and in order. -/
theorem requests {result : Except Error UInt64} (protocol : ChunkProtocol p pieces xs result) :
    ∃ (taken later : List (List (List Value))) (requests : List Request), pieces = taken ++ later ∧
      taken.map p.mutationFor = requests.map .ok ∧
        xs.map Exchange.call = requests.map .execute := by
  have written {sent : List Sent} (all : ∀ x ∈ sent, p.mutationFor x.keys = .ok x.request) :
      (sent.map Sent.keys).map p.mutationFor = (sent.map Sent.request).map .ok := by
    simpa using all
  have called (sent : List Sent) :
      (sent.map Sent.exchange).map Exchange.call = (sent.map Sent.request).map .execute := by
    simp [Sent.exchange, Exchange.call]
  cases protocol with
  | done sent all => exact ⟨_, [], _, by simp, written all, called sent⟩
  | notWritten sent all chunk later e failed => exact ⟨_, _, _, rfl, written all, called sent⟩
  | notExecuted sent all chunk later request last e =>
    refine ⟨sent.map Sent.keys ++ [chunk], later, sent.map Sent.request ++ [request], by simp, ?_,
      ?_⟩
    · rw [List.map_append, List.map_append, written all]
      simp [last]
    · rw [List.map_append, List.map_append, called sent]
      rfl

theorem execute_of_mem {result : Except Error UInt64} (protocol : ChunkProtocol p pieces xs result)
    {x : Exchange} (member : x ∈ xs) : ∃ r answer, x = .execute r answer := by
  obtain ⟨-, -, requests, -, -, called⟩ := protocol.requests
  have among : x.call ∈ requests.map Call.execute := by
    rw [← called]
    exact List.mem_map_of_mem member
  obtain ⟨r, -, same⟩ := List.mem_map.mp among
  cases x with
  | execute r answer => exact ⟨r, answer, rfl⟩
  | _ => simp [Exchange.call] at same

theorem sent_succeeds (sent : List Sent) : ∀ x ∈ sent.map Sent.exchange, x.failure? = none := by
  simp [Sent.exchange, Exchange.failure?]

theorem succeeds_of_ok {rows : UInt64} (protocol : ChunkProtocol p pieces xs (.ok rows)) :
    (∀ x ∈ xs, x.failure? = none) ∧ ∀ chunk ∈ pieces, ∃ r, p.mutationFor chunk = .ok r := by
  cases protocol with
  | done sent written =>
    refine ⟨sent_succeeds sent, fun chunk member => ?_⟩
    obtain ⟨x, inside, rfl⟩ := List.mem_map.mp member
    exact ⟨x.request, written x inside⟩

end ChunkProtocol

def Exchange.ends : Exchange → Bool
  | .commit (.ok _) => true
  | .rollback _ => true
  | _ => false

/-- Every step of an operation does what it should: the compilation, each call that was made, and
writing the mutation of each chunk. -/
structure EveryStepSucceeds (size : Nat) (plan : Except Error Plan) (xs : List Exchange) :
    Prop where
  compiled : ∃ p, plan = .ok p
  answered : ∀ x ∈ xs, x.failure? = none
  written : ∀ p keys, plan = .ok (.keyed p) → .queryRows p.selectKeys (.ok keys) ∈ xs →
    ∀ chunk ∈ chunks size keys, ∃ r, p.mutationFor chunk = .ok r

/-- The first step of an operation that fails, which is never the rollback, and its error. -/
inductive FirstFailure (size : Nat) (plan : Except Error Plan) (xs : List Exchange) (e : Error) :
    Prop where
  | compiling (failed : plan = .error e)
  | calling (earlier : List Exchange) (x : Exchange) (later : List Exchange)
      (split : xs = earlier ++ x :: later) (before : ∀ y ∈ earlier, y.failure? = none)
      (failed : x.failure? = some e) (first : x.call ≠ .rollback)
  | writing (p : KeyedPlan) (keyed : plan = .ok (.keyed p)) (keys : List (List Value))
      (earlier : List Exchange) (undone : Except Error Unit)
      (split : xs = .begin (.ok ()) :: .queryRows p.selectKeys (.ok keys) ::
        (earlier ++ [.rollback undone]))
      (before : ∀ y ∈ earlier, y.failure? = none) (chunk : List (List Value))
      (next : (chunks size keys)[earlier.length]? = some chunk)
      (failed : p.mutationFor chunk = .error e)

namespace Protocol

variable {size : Nat} {plan : Except Error Plan} {xs : List Exchange}
  {result : Except Error UInt64}

theorem everyStepSucceeds {rows : UInt64} (protocol : Protocol size plan xs (.ok rows)) :
    EveryStepSucceeds size plan xs := by
  cases protocol with
  | single compiled answer =>
    exact ⟨⟨_, compiled⟩, by simp [Exchange.failure?], by simp [compiled]⟩
  | @keyed p compiled _ _ inside =>
    cases inside with
    | @committed keys xs rows mutated =>
      obtain ⟨answered, written⟩ := mutated.succeeds_of_ok
      refine ⟨⟨_, compiled⟩, ?_, ?_⟩
      · simpa [Exchange.failure?, or_imp, forall_and] using answered
      · intro p' keys' same among
        obtain rfl : p = p' := by simpa [compiled] using same
        have outside : Exchange.queryRows p.selectKeys (.ok keys') ∉ xs := fun inside => by
          obtain ⟨r, answer, impossible⟩ := mutated.execute_of_mem inside
          cases impossible
        obtain rfl : keys' = keys := by simpa [outside] using among
        exact written

theorem firstFailure {e : Error} (protocol : Protocol size plan xs (.error e)) :
    FirstFailure size plan xs e := by
  cases protocol with
  | notCompiled failed => exact .compiling failed
  | single compiled answer => exact .calling [] _ [] rfl (by simp) rfl (by simp [Exchange.call])
  | @keyed p compiled _ _ inside =>
    cases inside with
    | notBegun e => exact .calling [] _ [] rfl (by simp) rfl (by simp [Exchange.call])
    | notSelected e undone =>
      exact .calling [.begin (.ok ())] _ _ rfl (by simp [Exchange.failure?]) rfl
        (by simp [Exchange.call])
    | @notMutated keys xs e mutated undone =>
      generalize cut : chunks size keys = pieces at mutated
      cases mutated with
      | notWritten sent written chunk later e failed =>
        exact .writing p compiled keys (sent.map Sent.exchange) undone rfl
          (ChunkProtocol.sent_succeeds sent) chunk (by simp [cut]) failed
      | notExecuted sent written chunk later request last e =>
        refine .calling (.begin (.ok ()) :: .queryRows p.selectKeys (.ok keys) ::
          sent.map Sent.exchange) (.execute request (.error e)) [.rollback undone] (by simp) ?_ rfl
          (by simp [Exchange.call])
        simpa [Exchange.failure?] using ChunkProtocol.sent_succeeds sent
    | @notCommitted keys xs rows mutated e undone =>
      refine .calling (.begin (.ok ()) :: .queryRows p.selectKeys (.ok keys) :: xs)
        (.commit (.error e)) [.rollback undone] (by simp) ?_ rfl (by simp [Exchange.call])
      simpa [Exchange.failure?] using mutated.succeeds_of_ok.1

theorem isOk_iff (protocol : Protocol size plan xs result) :
    (∃ rows, result = .ok rows) ↔ EveryStepSucceeds size plan xs := by
  constructor
  · rintro ⟨rows, rfl⟩
    exact protocol.everyStepSucceeds
  · intro all
    cases result with
    | ok rows => exact ⟨rows, rfl⟩
    | error e =>
      -- The first failure is of a step that should have succeeded.
      exfalso
      cases protocol.firstFailure with
      | compiling failed =>
        obtain ⟨p, compiled⟩ := all.compiled
        cases failed.symm.trans compiled
      | calling earlier x later split before failed first =>
        have answered := all.answered x (by simp [split])
        cases failed.symm.trans answered
      | writing p keyed keys earlier undone split before chunk next failed =>
        obtain ⟨r, written⟩ := all.written p keys keyed (by simp [split]) chunk
          (List.mem_of_getElem? next)
        cases failed.symm.trans written

/-- A rollback is asked for exactly if the operation fails after the transaction began. -/
theorem rollback_mem_iff (protocol : Protocol size plan xs result) :
    .rollback ∈ xs.map Exchange.call ↔ .begin (.ok ()) ∈ xs ∧ ∃ e, result = .error e := by
  cases protocol with
  | notCompiled failed => simp
  | single compiled answer => simp [Exchange.call]
  | keyed compiled inside =>
    have outside {p : KeyedPlan} {pieces : List (List (List Value))} {xs : List Exchange}
        {result : Except Error UInt64} (mutated : ChunkProtocol p pieces xs result) :
        ∀ x ∈ xs, x.call ≠ .rollback := fun x member => by
      obtain ⟨r, answer, rfl⟩ := mutated.execute_of_mem member
      simp [Exchange.call]
    cases inside with
    | notBegun e => simp [Exchange.call]
    | notSelected e undone => simp [Exchange.call]
    | notMutated mutated undone => simp [Exchange.call]
    | notCommitted mutated e undone => simp [Exchange.call]
    | committed mutated => simpa [Exchange.call] using outside mutated

/-- Nothing follows a successful commit or a rollback. -/
theorem not_ends_of_mem_dropLast (protocol : Protocol size plan xs result) :
    ∀ x ∈ xs.dropLast, x.ends = false := by
  cases protocol with
  | notCompiled failed => simp
  | single compiled answer => simp
  | keyed compiled inside =>
    have inner {p : KeyedPlan} {pieces : List (List (List Value))} {xs : List Exchange}
        {result : Except Error UInt64} (mutated : ChunkProtocol p pieces xs result) :
        ∀ x ∈ xs, x.ends = false := fun x member => by
      obtain ⟨r, answer, rfl⟩ := mutated.execute_of_mem member
      rfl
    cases inside with
    | notBegun e => simp
    | notSelected e undone => simp [Exchange.ends]
    | @notMutated keys xs e mutated undone =>
      rw [← List.cons_append, ← List.cons_append, List.dropLast_concat]
      simpa [Exchange.ends] using inner mutated
    | @notCommitted keys xs rows mutated e undone =>
      rw [List.append_cons xs, ← List.cons_append, ← List.cons_append, List.dropLast_concat]
      simpa [Exchange.ends, or_imp, forall_and] using inner mutated
    | @committed keys xs rows mutated =>
      rw [← List.cons_append, ← List.cons_append, List.dropLast_concat]
      simpa [Exchange.ends] using inner mutated

end Protocol

theorem chunks_nodup {α : Type} (size : Nat) {xs : List α} (distinct : xs.Nodup) :
    (chunks size xs).Nodup := by
  rw [← flatten_chunks size xs, List.nodup_flatten] at distinct
  refine distinct.2.imp_of_mem fun {a b} left _ disjoint same => ?_
  obtain ⟨x, member⟩ := List.exists_mem_of_ne_nil a (ne_nil_of_mem_chunks left)
  exact disjoint member (same ▸ member)

theorem KeyedPlan.mutationFor_injective {p : KeyedPlan} {a b : List (List Value)} {r : Request}
    (left : p.mutationFor a = .ok r) (right : p.mutationFor b = .ok r) : a = b := by
  obtain ⟨d, action, table, columns, condition, limit⟩ := p
  simp only [KeyedPlan.mutationFor] at left right
  cases action <;> grind

def KeyedPlan.call? (p : KeyedPlan) (chunk : List (List Value)) : Option Call :=
  (p.mutationFor chunk).toOption.map .execute

theorem KeyedPlan.call?_eq_some_iff {p : KeyedPlan} {chunk : List (List Value)} {c : Call} :
    p.call? chunk = some c ↔ ∃ r, p.mutationFor chunk = .ok r ∧ c = .execute r := by
  rw [call?]
  cases p.mutationFor chunk with
  | error e => simp [Except.toOption]
  | ok r => simp [Except.toOption, eq_comm]

/-- Every call that a plan may need if its select finds `keys`, in the order in which it needs
them. -/
def Plan.calls (size : Nat) (keys : List (List Value)) : Plan → List Call
  | .single r => [.execute r]
  | .keyed p => .begin :: .queryRows p.selectKeys ::
    ((chunks size keys).filterMap p.call? ++ [.commit, .rollback])

theorem Plan.calls_nodup (size : Nat) {keys : List (List Value)} (distinct : keys.Nodup)
    (plan : Plan) : (plan.calls size keys).Nodup := by
  cases plan with
  | single r => exact List.nodup_singleton _
  | keyed p =>
    have executes : ∀ c ∈ (chunks size keys).filterMap p.call?, ∃ r, c = .execute r := by
      intro c member
      obtain ⟨chunk, _, needed⟩ := List.mem_filterMap.mp member
      obtain ⟨r, _, same⟩ := KeyedPlan.call?_eq_some_iff.mp needed
      exact ⟨r, same⟩
    have mutations : ((chunks size keys).filterMap p.call?).Nodup := by
      refine (chunks_nodup size distinct).filterMap ?_
      intro a b c left right
      obtain ⟨r, first, rfl⟩ := KeyedPlan.call?_eq_some_iff.mp left
      obtain ⟨_, second, same⟩ := KeyedPlan.call?_eq_some_iff.mp right
      cases same
      exact KeyedPlan.mutationFor_injective first second
    rw [calls]
    generalize (chunks size keys).filterMap p.call? = needed at executes mutations
    simp only [List.nodup_cons, List.nodup_append, List.mem_cons, List.mem_append]
    grind

theorem ChunkProtocol.calls_sublist {p : KeyedPlan} {pieces : List (List (List Value))}
    {xs : List Exchange} {result : Except Error UInt64}
    (protocol : ChunkProtocol p pieces xs result) :
    (xs.map Exchange.call).Sublist (pieces.filterMap p.call?) := by
  obtain ⟨taken, later, requests, rfl, written, called⟩ := protocol.requests
  have needed : taken.filterMap p.call? = requests.map .execute := by
    have through := congrArg (List.filterMap fun x => x.toOption.map Call.execute) written
    rw [List.filterMap_map, List.filterMap_map] at through
    exact through.trans (congrFun List.filterMap_eq_map requests)
  rw [List.filterMap_append, needed, called]
  exact List.sublist_append_left _ _

/-- Each call that is made is one that the plan needs, and is made once for each such need. -/
theorem Protocol.calls_sublist {size : Nat} {plan : Plan} {xs : List Exchange}
    {result : Except Error UInt64} (protocol : Protocol size (.ok plan) xs result) :
    ∃ keys, (keys = [] ∨ ∃ r, .queryRows r (.ok keys) ∈ xs) ∧
      (xs.map Exchange.call).Sublist (plan.calls size keys) := by
  cases protocol with
  | notCompiled failed => cases failed
  | single compiled answer =>
    cases compiled
    exact ⟨[], .inl rfl, .refl _⟩
  | @keyed p compiled _ _ inside =>
    cases compiled
    have whole {keys : List (List Value)} {xs : List Exchange} {result : Except Error UInt64}
        (mutated : ChunkProtocol p (chunks size keys) xs result) {last : List Call}
        (ending : last.Sublist [.commit, .rollback]) :
        (.begin :: .queryRows p.selectKeys :: (xs.map Exchange.call ++ last)).Sublist
          ((Plan.keyed p).calls size keys) :=
      ((mutated.calls_sublist.append ending).cons_cons _).cons_cons _
    cases inside with
    | notBegun e => exact ⟨[], .inl rfl, by simp [Plan.calls, Exchange.call]⟩
    | notSelected e undone => exact ⟨[], .inl rfl, by simp [Plan.calls, Exchange.call, chunks]⟩
    | @notMutated keys xs e mutated undone =>
      refine ⟨keys, .inr ⟨p.selectKeys, by simp⟩, ?_⟩
      simpa [Exchange.call] using whole mutated
        (show [Call.rollback].Sublist [.commit, .rollback] by simp)
    | @notCommitted keys xs rows mutated e undone =>
      refine ⟨keys, .inr ⟨p.selectKeys, by simp⟩, ?_⟩
      simpa [Exchange.call] using whole mutated (.refl _)
    | @committed keys xs rows mutated =>
      refine ⟨keys, .inr ⟨p.selectKeys, by simp⟩, ?_⟩
      simpa [Exchange.call] using whole mutated
        (show [Call.commit].Sublist [.commit, .rollback] by simp)

theorem Protocol.calls_nodup {size : Nat} {plan : Except Error Plan} {xs : List Exchange}
    {result : Except Error UInt64} (protocol : Protocol size plan xs result)
    (distinct : ∀ r keys, .queryRows r (.ok keys) ∈ xs → keys.Nodup) :
    (xs.map Exchange.call).Nodup := by
  cases plan with
  | error e =>
    cases protocol with
    | notCompiled failed => exact List.nodup_nil
    | single compiled => cases compiled
    | keyed compiled => cases compiled
  | ok plan =>
    obtain ⟨keys, found, sublist⟩ := protocol.calls_sublist
    have apart : keys.Nodup := by
      rcases found with rfl | ⟨r, found⟩
      · exact List.nodup_nil
      · exact distinct r keys found
    exact (plan.calls_nodup size apart).sublist sublist

/-- The calls that a connection sees of a bulk operation are those of the protocol, and none of its
steps is made twice: the calls are among those that the plan needs, one for each step, in order. Two
steps may need equal calls, where equal chunks of keys were selected; where no key was selected
twice, no call is made twice. -/
theorem Session.perform_calls {σ : Type} (s : Session σ) (b : Bulk)
    (before : Progress (Recorded σ)) :
    ∃ xs result,
      Protocol s.config.maxKeysPerStatement.toNat (b.plan s.dialect) xs result ∧
      Conversation s.connection before.state.state xs
        ((s.recording.perform b).on before).2.state.state ∧
      ((s.recording.perform b).on before).2.state.calls =
        before.state.calls ++ xs.map Exchange.call ∧
      ((s.recording.perform b).on before).1 = result.map b.report ∧
      ((∃ rows, result = .ok rows) ↔
        EveryStepSucceeds s.config.maxKeysPerStatement.toNat (b.plan s.dialect) xs) ∧
      (∀ e, result = .error e →
        FirstFailure s.config.maxKeysPerStatement.toNat (b.plan s.dialect) xs e) ∧
      (.rollback ∈ xs.map Exchange.call ↔ .begin (.ok ()) ∈ xs ∧ ∃ e, result = .error e) ∧
      (∀ x ∈ xs.dropLast, x.ends = false) ∧
      (∀ plan, b.plan s.dialect = .ok plan →
        ∃ keys, (keys = [] ∨ ∃ r, .queryRows r (.ok keys) ∈ xs) ∧
          (xs.map Exchange.call).Sublist
            (plan.calls s.config.maxKeysPerStatement.toNat keys)) ∧
      ((∀ r keys, .queryRows r (.ok keys) ∈ xs → keys.Nodup) → (xs.map Exchange.call).Nodup) ∧
      (∀ q target p plan, b = .insert q target p → b.plan s.dialect = .ok plan →
        ∃ r, plan = .single r) := by
  obtain ⟨xs, result, protocol, ended, talk⟩ := s.recording.perform_protocol b before
  obtain ⟨state, calls⟩ := talk.of_recording
  refine ⟨xs, result, protocol, state, calls, ended, protocol.isOk_iff, ?_,
    protocol.rollback_mem_iff, protocol.not_ends_of_mem_dropLast, ?_, protocol.calls_nodup, ?_⟩
  · rintro e rfl
    exact protocol.firstFailure
  · intro plan compiled
    exact (compiled ▸ protocol : Protocol _ (.ok plan) xs result).calls_sublist
  · rintro q target p plan rfl compiled
    obtain ⟨r, single, _⟩ := Query.insertPlan_single compiled
    exact ⟨r, single⟩

end BulkDml
