import BulkDml.Proofs.Session.Transcript
import BulkDml.Session.Script

namespace BulkDml

theorem Fragment.length_params (f : Fragment) : f.params.length = f.outline.count none := by
  rw [params_eq_stream, outline]
  induction f.stream with
  | nil => rfl
  | cons s stream ih => cases s <;> simp [List.filterMap_cons, ih]

namespace Request

variable {r r' : Request}

theorem length_params_sampled (r : Request) :
    r.sampled.statement.params.length = r.statement.params.length := by
  have outline := Command.outline_toFragment r.dialect r.command
  have counted (f g : Fragment) (same : f.outline = g.outline) :
      f.params.length = g.params.length := by
    rw [f.length_params, g.length_params, same]
  obtain ⟨d, c⟩ := r
  cases c with
  | raw statement => rfl
  | _ => exact counted _ _ outline

theorem redacted_eq_of_sampled (same : r.sampled = r'.sampled) : r.redacted = r'.redacted := by
  have dialects : r.sampled.dialect = r'.sampled.dialect := congrArg Request.dialect same
  unfold redacted
  rw [sql_eq_of_sampled same]
  exact congrArg (Request.mk · _) dialects

theorem length_params_eq_of_sampled (same : r.sampled = r'.sampled) :
    r.statement.params.length = r'.statement.params.length := by
  rw [← r.length_params_sampled, ← r'.length_params_sampled, same]

end Request

namespace LogLine

theorem paramCount_eq_of_sampled {r r' : Request} (same : r.sampled = r'.sampled) :
    r.statement.sql ++ paramCount r.statement = r'.statement.sql ++ paramCount r'.statement := by
  rw [Request.sql_eq_of_sampled same, paramCount, paramCount,
    Request.length_params_eq_of_sampled same]

theorem executing_eq_of_sampled {r r' : Request} (same : r.sampled = r'.sampled) :
    executing false r.statement = executing false r'.statement := by
  simp only [executing, Bool.false_eq_true, if_false, String.append_assoc,
    paramCount_eq_of_sampled same]

theorem compiled_eq_of_sampled (verb table : String) {p q : Plan} (same : p.sampled = q.sampled) :
    compiled verb table p = compiled verb table q := by
  cases p with
  | single r =>
    cases q with
    | single r' =>
      simp only [compiled, String.append_assoc, paramCount_eq_of_sampled (Plan.single.inj same)]
    | keyed q => cases same
  | keyed p =>
    cases q with
    | single r' => cases same
    | keyed q =>
      have selections := KeyedPlan.selectKeys_sampled (Plan.keyed.inj same)
      simp only [compiled, String.append_assoc, paramCount_eq_of_sampled selections]

end LogLine

/-- Operations that bind other values are logged alike. -/
theorem Bulk.Alike.same_log {b b' : Bulk} (alike : b.Alike b') :
    b.verb = b'.verb ∧ b.table = b'.table ∧ b.closing = b'.closing ∧ b.report = b'.report := by
  cases alike with
  | delete queries =>
    have mappings := Query.mapping_eq queries
    refine ⟨rfl, congrArg Mapping.table mappings, ?_, rfl⟩
    funext rows
    rw [closing, closing, mappings]
  | update queries changes =>
    have mappings := Query.mapping_eq queries
    refine ⟨rfl, congrArg Mapping.table mappings, ?_, rfl⟩
    funext rows
    rw [closing, closing, mappings]
  | insert target queries projections =>
    have mappings := Query.mapping_eq queries
    refine ⟨rfl, congrArg Mapping.table mappings, ?_, rfl⟩
    funext rows
    rw [closing, closing, mappings]

namespace Session

open Run

variable {σ τ : Type}

def transcribing (s : Session σ) : Session (Transcribed σ) := s.onto s.connection.transcribing

section Grows

variable (s : Session σ)

theorem compiled_grows (verb table : String) (plan : Except Error Plan) :
    (compiled verb table plan : Run (Transcribed σ) Plan).Grows :=
  (grows_ofExcept _).bind fun plan => (grows_log _).bind fun _ => grows_pure plan

theorem execute_grows (r : Request) : (s.transcribing.execute r).Grows :=
  (grows_log _).bind fun _ => grows_call _ _ _

theorem mutateChunks_grows (p : KeyedPlan) (total : UInt64) (pieces : List (List (List Value))) :
    (s.transcribing.mutateChunks p total pieces).Grows := by
  induction pieces generalizing total with
  | nil => exact grows_pure total
  | cons chunk rest ih =>
    exact (grows_ofExcept _).bind fun r => (s.execute_grows r).bind fun rows => ih (total + rows)

/-- What a keyed plan does with the keys that it found. -/
theorem mutateFound_grows (p : KeyedPlan) (keys : List (List Value)) :
    (if keys.isEmpty then do
        Run.log (.noKeys p.statementName)
        return 0
      else s.transcribing.mutateChunks p 0
        (chunks s.config.maxKeysPerStatement.toNat keys) : Run _ _).Grows := by
  split
  · exact (grows_log _).bind fun _ => grows_pure 0
  · exact s.mutateChunks_grows p 0 _

theorem mutateSelected_grows (p : KeyedPlan) : (s.transcribing.mutateSelected p).Grows :=
  (grows_log _).bind fun _ => (grows_call _ _ _).bind (s.mutateFound_grows p)

theorem commit_grows (rows : UInt64) : (do
    Run.call s.transcribing.connection.commit
    return rows : Run _ _).Grows :=
  (grows_call _ _ _).bind fun _ => grows_pure rows

theorem rollback_grows : s.transcribing.rollback.Grows :=
  (grows_call _ _ _).tryCatch fun _ => grows_log _

theorem undo_grows (p : KeyedPlan) (e : Error) : (s.transcribing.undo p e).Grows :=
  (grows_log _).bind fun _ => s.rollback_grows.bind fun _ => grows_throw e

theorem transaction_grows (p : KeyedPlan) :
    (tryCatch (s.transcribing.mutateSelected p >>= fun rows => do
      Run.call s.transcribing.connection.commit
      return rows) (s.transcribing.undo p)).Grows :=
  ((s.mutateSelected_grows p).bind s.commit_grows).tryCatch (s.undo_grows p)

theorem run_grows (plan : Plan) : (s.transcribing.run plan).Grows := by
  cases plan with
  | single r => exact s.execute_grows r
  | keyed p => exact (grows_call _ _ _).bind fun _ => s.transaction_grows p

theorem closing_grows (b : Bulk) (rows : UInt64) : (do
    Run.log (b.closing rows)
    return b.report rows : Run (Transcribed σ) _).Grows :=
  (grows_log _).bind fun _ => grows_pure _

theorem perform_grows (b : Bulk) : (s.transcribing.perform b).Grows := by
  rw [perform_eq]
  exact ((compiled_grows _ _ _).bind s.run_grows).bind (closing_grows b)

end Grows

structure Matched (s : Session σ) (s' : Session τ) : Prop where
  config : s.config = s'.config
  quiet : s.config.logParameters = false

variable {s : Session σ} {s' : Session τ}

theorem Matched.logRequest_coupled (matched : s.Matched s') {r r' : Request}
    (same : r.sampled = r'.sampled) :
    Coupled Eq (s.transcribing.logRequest r) (s'.transcribing.logRequest r') := by
  refine Coupled.log ?_
  change LogLine.executing s.config.logParameters _ = LogLine.executing s'.config.logParameters _
  rw [← matched.config, matched.quiet]
  exact LogLine.executing_eq_of_sampled same

theorem Matched.execute_coupled (matched : s.Matched s') {r r' : Request}
    (same : r.sampled = r'.sampled) :
    Coupled Eq (s.transcribing.execute r) (s'.transcribing.execute r') := by
  refine (matched.logRequest_coupled same).bind (fun _ => grows_call _ _ _)
    (fun _ => grows_call _ _ _) fun _ _ _ => Coupled.call ?_ ?_
  · exact congrArg Call.execute (Request.redacted_eq_of_sampled same)
  · intro rows rows' answered
    exact Reply.affected.inj answered

theorem Matched.mutateChunks_coupled (matched : s.Matched s') {p q : KeyedPlan}
    (same : p.sampled = q.sampled) (total : UInt64) {pieces pieces' : List (List (List Value))}
    (alike : pieces.map redactedRows = pieces'.map redactedRows) :
    Coupled Eq (s.transcribing.mutateChunks p total pieces)
      (s'.transcribing.mutateChunks q total pieces') := by
  induction pieces generalizing total pieces' with
  | nil =>
    obtain rfl := List.map_eq_nil_iff.mp alike.symm
    exact Coupled.pure rfl
  | cons chunk rest ih =>
    obtain ⟨chunk', rest', rfl, rows, later⟩ := List.map_eq_cons_iff.mp alike.symm
    refine (Coupled.ofExcept (KeyedPlan.mutationFor_agree same rows.symm)).bind
      (fun r => (s.execute_grows r).bind fun n => s.mutateChunks_grows p (total + n) rest)
      (fun r => (s'.execute_grows r).bind fun n => s'.mutateChunks_grows q (total + n) rest') ?_
    intro r r' requests
    refine (matched.execute_coupled requests).bind
      (fun n => s.mutateChunks_grows p (total + n) rest)
      (fun n => s'.mutateChunks_grows q (total + n) rest') ?_
    rintro n _ rfl
    exact ih (total + n) later.symm

theorem Matched.mutateSelected_coupled (matched : s.Matched s') {p q : KeyedPlan}
    (same : p.sampled = q.sampled) :
    Coupled Eq (s.transcribing.mutateSelected p) (s'.transcribing.mutateSelected q) := by
  have selections := KeyedPlan.selectKeys_sampled same
  refine (matched.logRequest_coupled selections).bind
    (fun _ => (grows_call _ _ _).bind (s.mutateFound_grows p))
    (fun _ => (grows_call _ _ _).bind (s'.mutateFound_grows q)) fun _ _ _ => ?_
  -- The rows may differ in their values, and so may the keys that the chunks name.
  have found : Coupled (fun keys keys' => redactedRows keys = redactedRows keys')
      (Run.call (s.transcribing.connection.queryRows p.selectKeys))
      (Run.call (s'.transcribing.connection.queryRows q.selectKeys)) := by
    refine Coupled.call ?_ fun keys keys' answered => Reply.rows.inj answered
    exact congrArg Call.queryRows (Request.redacted_eq_of_sampled selections)
  refine found.bind (s.mutateFound_grows p) (s'.mutateFound_grows q) fun keys keys' rows => ?_
  have empty : keys.isEmpty = keys'.isEmpty := by
    have lengths := congrArg List.length rows
    simp only [redactedRows, List.length_map] at lengths
    rw [Bool.eq_iff_iff, List.isEmpty_iff_length_eq_zero, List.isEmpty_iff_length_eq_zero, lengths]
  rw [empty]
  split
  · refine (Coupled.log ?_).bind (fun _ => grows_pure 0) (fun _ => grows_pure 0) fun _ _ _ => ?_
    · rw [KeyedPlan.statementName_eq_of_sampled same]
    · exact Coupled.pure rfl
  · refine matched.mutateChunks_coupled same 0 ?_
    change List.map (List.map _) _ = List.map (List.map _) _
    rw [← chunks_map, ← chunks_map]
    exact congrArg₂ (chunks ·.maxKeysPerStatement.toNat ·) matched.config rows

theorem rollback_coupled : Coupled Eq s.transcribing.rollback s'.transcribing.rollback :=
  (Coupled.done .rollback).tryCatch (fun _ => grows_log _) (fun _ => grows_log _)
    fun _ => Coupled.log rfl

theorem undo_coupled {p q : KeyedPlan} (same : p.sampled = q.sampled) (e : Error) :
    Coupled Eq (s.transcribing.undo p e) (s'.transcribing.undo q e) := by
  refine (Coupled.log ?_).bind (fun _ => s.rollback_grows.bind fun _ => grows_throw e)
    (fun _ => s'.rollback_grows.bind fun _ => grows_throw e) fun _ _ _ => ?_
  · rw [KeyedPlan.statementName_eq_of_sampled same]
  · exact rollback_coupled.bind (fun _ => grows_throw e) (fun _ => grows_throw e) fun _ _ _ =>
      Coupled.throw e

theorem Matched.runKeyed_coupled (matched : s.Matched s') {p q : KeyedPlan}
    (same : p.sampled = q.sampled) :
    Coupled Eq (s.transcribing.runKeyed p) (s'.transcribing.runKeyed q) := by
  refine (Coupled.done .begin).bind (fun _ => s.transaction_grows p)
    (fun _ => s'.transaction_grows q) fun _ _ _ => ?_
  refine Coupled.tryCatch ?_ (s.undo_grows p) (s'.undo_grows q) fun e => undo_coupled same e
  refine (matched.mutateSelected_coupled same).bind s.commit_grows s'.commit_grows ?_
  rintro rows _ rfl
  exact (Coupled.done .commit).bind (fun _ => grows_pure rows) (fun _ => grows_pure rows)
    fun _ _ _ => Coupled.pure rfl

theorem Matched.run_coupled (matched : s.Matched s') {plan plan' : Plan}
    (same : plan.sampled = plan'.sampled) :
    Coupled Eq (s.transcribing.run plan) (s'.transcribing.run plan') := by
  cases plan with
  | single r =>
    cases plan' with
    | single r' => exact matched.execute_coupled (Plan.single.inj same)
    | keyed q => cases same
  | keyed p =>
    cases plan' with
    | single r' => cases same
    | keyed q => exact matched.runKeyed_coupled (Plan.keyed.inj same)

theorem compiled_coupled (verb table : String) {plan plan' : Except Error Plan}
    (same : plan.map Plan.sampled = plan'.map Plan.sampled) :
    Coupled (fun plan plan' : Plan => plan.sampled = plan'.sampled)
      (compiled verb table plan : Run (Transcribed σ) Plan)
      (compiled verb table plan' : Run (Transcribed τ) Plan) := by
  have agree := Agree.of_map same fun _ _ sampled => sampled
  refine (Coupled.ofExcept agree).bind (fun plan => (grows_log _).bind fun _ => grows_pure plan)
    (fun plan => (grows_log _).bind fun _ => grows_pure plan) fun plan plan' sampled => ?_
  have logged := LogLine.compiled_eq_of_sampled verb table sampled
  exact (Coupled.log logged).bind (fun _ => grows_pure plan) (fun _ => grows_pure plan')
    fun _ _ _ => Coupled.pure sampled

theorem Matched.perform_coupled (matched : s.Matched s') {b b' : Bulk} (alike : b.Alike b') :
    Coupled Eq (s.transcribing.perform b) (s'.transcribing.perform b') := by
  obtain ⟨verb, table, closing, report⟩ := alike.same_log
  have dialects : s.transcribing.dialect = s'.transcribing.dialect :=
    congrArg (·.backend.dialect) matched.config
  rw [perform_eq, perform_eq, ← verb, ← table, ← closing, ← report, ← dialects]
  have plans := Bulk.plan_congr s.transcribing.dialect alike
  refine Coupled.bind ((compiled_coupled b.verb b.table plans).bind s.run_grows s'.run_grows
    fun _ _ same => matched.run_coupled same) (closing_grows b) (closing_grows b) ?_
  rintro rows _ rfl
  exact (Coupled.log rfl).bind (fun _ => grows_pure _) (fun _ => grows_pure _) fun _ _ _ =>
    Coupled.pure rfl

theorem performAll_grows (s : Session σ) (bs : List Bulk) (p : Progress (Transcribed σ)) :
    p.state.transcript <+: (s.transcribing.performAll bs p).2.state.transcript := by
  induction bs generalizing p with
  | nil => exact List.prefix_refl _
  | cons b bs ih => exact (s.perform_grows b p).trans (ih _)

theorem Matched.performAll_inStep (matched : s.Matched s') {bs bs' : List Bulk}
    (alike : List.Forall₂ Bulk.Alike bs bs') {p : Progress (Transcribed σ)}
    {q : Progress (Transcribed τ)} (inStep : InStep p q)
    (answers : AnsweredAlike (s.transcribing.performAll bs p).2.state.transcript
      (s'.transcribing.performAll bs' q).2.state.transcript) :
    (s.transcribing.performAll bs p).1 = (s'.transcribing.performAll bs' q).1 ∧
      InStep (s.transcribing.performAll bs p).2 (s'.transcribing.performAll bs' q).2 := by
  induction alike generalizing p q with
  | nil => exact ⟨rfl, inStep⟩
  | @cons b b' bs bs' first rest ih =>
    have now : AnsweredAlike ((s.transcribing.perform b).on p).2.state.transcript
        ((s'.transcribing.perform b').on q).2.state.transcript :=
      answers.of_prefix (s.performAll_grows bs _) (s'.performAll_grows bs' _)
    obtain ⟨same, between⟩ := matched.perform_coupled first p q inStep now
    obtain ⟨outcomes, after⟩ := ih between answers
    exact ⟨congrArg₂ List.cons same.eq outcomes, after⟩

def transcript (s : Session σ) (bs : List Bulk) (before : Progress σ) : List Answered :=
  (s.transcribing.performAll bs ⟨⟨before.state, []⟩, before.log⟩).2.state.transcript

theorem performAll_transcribing (s : Session σ) (bs : List Bulk) (before : Progress σ) :
    let after := s.transcribing.performAll bs ⟨⟨before.state, []⟩, before.log⟩
    s.performAll bs before = (after.1, ⟨after.2.state.state, after.2.log⟩) :=
  performAll_refines s.connection.transcribing_refines bs ⟨⟨before.state, []⟩, before.log⟩

/-- With parameters kept out of the log, the values that operations bind and the values in the rows
that were found reach neither the log nor the text of a call nor a result. -/
theorem performAll_discreet (s : Session σ) (s' : Session τ) (configs : s.config = s'.config)
    (quiet : s.config.logParameters = false) {bs bs' : List Bulk}
    (alike : List.Forall₂ Bulk.Alike bs bs') {before : Progress σ} {before' : Progress τ}
    (logs : before.log = before'.log)
    (answers : AnsweredAlike (s.transcript bs before) (s'.transcript bs' before')) :
    (s.performAll bs before).2.log = (s'.performAll bs' before').2.log ∧
      (s.transcript bs before).map (·.call.redacted) =
        (s'.transcript bs' before').map (·.call.redacted) ∧
      (s.performAll bs before).1 = (s'.performAll bs' before').1 := by
  have matched : s.Matched s' := ⟨configs, quiet⟩
  obtain ⟨outcomes, inStep⟩ := matched.performAll_inStep alike ⟨rfl, logs⟩ answers
  rw [s.performAll_transcribing, s'.performAll_transcribing]
  refine ⟨inStep.logs, ?_, outcomes⟩
  have calls := congrArg (List.map Answered.call) inStep.transcripts
  rw [List.map_map, List.map_map] at calls
  exact calls

/-- The filter, the new text and the keys that are found differ, and the second chunk of keys is
refused. -/
theorem performAll_discreet_refused :
    let s : Session Script :=
      ⟨Script.connection .sqlite, Config.default.withMaxKeysPerStatement 1, by decide⟩
    let m : Mapping :=
      ⟨⟨none, "t", [⟨"id", "id", .integer, true⟩, ⟨"text", "text", .text, false⟩]⟩, by decide⟩
    let bs (v w : Value) := [Bulk.update ⟨m, some (.compare "text" .ne (.value v)), some 2⟩
      (.template ⟨[⟨"text", w, true⟩], []⟩), .delete (.all m)]
    let refused : Error := .execution none "locked"
    let before (keys : List (List Value)) : Progress Script :=
      ⟨{ Script.silent with queryRows := [.ok keys], execute := [.ok 1, .error refused] }, []⟩
    let run := s.performAll (bs (.text "a") (.text "b")) (before [[.integer 1], [.integer 2]])
    let run' := s.performAll (bs (.integer 5) (.text "c")) (before [[.text "x"], [.null]])
    let calls := s.transcript (bs (.text "a") (.text "b")) (before [[.integer 1], [.integer 2]])
    let calls' := s.transcript (bs (.integer 5) (.text "c")) (before [[.text "x"], [.null]])
    AnsweredAlike calls calls' ∧ run.1 = [.error refused, .ok (some 1)] ∧
      run.2.log = run'.2.log ∧ calls.map (·.call.redacted) = calls'.map (·.call.redacted) ∧
        run.1 = run'.1 := by
  intro s m bs refused before run run' calls calls'
  have answers : AnsweredAlike calls calls' := by decide +kernel
  have changes : Mutation.Alike m (.template ⟨[⟨"text", .text "b", true⟩], []⟩)
      (.template ⟨[⟨"text", .text "c", true⟩], []⟩) :=
    .template ⟨.cons ⟨rfl, rfl, rfl, by simp⟩ .nil, rfl⟩
  have alike : List.Forall₂ Bulk.Alike (bs (.text "a") (.text "b"))
      (bs (.integer 5) (.text "c")) :=
    .cons (.update rfl changes) (.cons (.delete rfl) .nil)
  exact ⟨answers, by decide +kernel, performAll_discreet s s rfl rfl alike rfl answers⟩

end Session

end BulkDml
