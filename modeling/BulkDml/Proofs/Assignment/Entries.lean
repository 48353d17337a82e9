import BulkDml.Proofs.Assignment.Template
import BulkDml.Proofs.Value.Unset

namespace BulkDml

inductive LastSuch {α : Type} (p : α → Prop) : List α → α → Prop where
  | here {x : α} {xs : List α} (holds : p x) (others : ∀ y ∈ xs, ¬ p y) : LastSuch p (x :: xs) x
  | later {x y : α} {xs : List α} (rest : LastSuch p xs x) : LastSuch p (y :: xs) x

namespace LastSuch

variable {α : Type} {p : α → Prop} {xs : List α} {x : α}

theorem mem (last : LastSuch p xs x) : x ∈ xs ∧ p x := by
  induction last with
  | here holds _ => exact ⟨List.mem_cons_self, holds⟩
  | later _ ih => exact ⟨List.mem_cons_of_mem _ ih.1, ih.2⟩

theorem cons_iff {y : α} :
    LastSuch p (y :: xs) x ↔ LastSuch p xs x ∨ y = x ∧ p x ∧ ∀ z ∈ xs, ¬ p z := by
  constructor
  · intro last
    cases last with
    | here holds others => exact .inr ⟨rfl, holds, others⟩
    | later rest => exact .inl rest
  · rintro (rest | ⟨rfl, holds, others⟩)
    · exact .later rest
    · exact .here holds others

theorem congr {q : α → Prop} (same : ∀ y, p y ↔ q y) (last : LastSuch p xs x) :
    LastSuch q xs x := by
  have equal : p = q := funext fun y => propext (same y)
  exact equal ▸ last

end LastSuch

theorem Latest.append_iff {β : Type} {xs ys : List (String × β)} {field : String} {b : β} :
    Latest (xs ++ ys) field b ↔
      Latest ys field b ∨ Latest xs field b ∧ ∀ pair ∈ ys, pair.1 ≠ field := by
  induction xs with
  | nil => simp [Latest]
  | cons pair xs ih =>
    rw [List.cons_append, cons_iff, cons_iff, ih, List.forall_mem_append]
    tauto

section
variable {α β : Type} {p : α → Prop} {value : α → β} {field : String} {xs : List α}
  {ws : List (Option (String × β))}

def Writing (p : α → Prop) (field : String) (value : α → β) (x : α) (w? : Option (String × β)) :
    Prop :=
  (p x → w? = some (field, value x)) ∧ (¬ p x → ∀ w ∈ w?, w.1 ≠ field)

theorem unwritten_iff (lists : List.Forall₂ (Writing p field value) xs ws) :
    (∀ w ∈ ws.filterMap id, w.1 ≠ field) ↔ ∀ x ∈ xs, ¬ p x := by
  induction lists with
  | nil => simp
  | @cons x w? xs ws first _ ih =>
    by_cases here : p x
    · simp [first.1 here, here]
    · cases w? with
      | none => simpa [here] using ih
      | some w =>
        have other := first.2 here w rfl
        simpa [here, other] using ih

theorem latest_filterMap_iff (lists : List.Forall₂ (Writing p field value) xs ws) {b : β} :
    Latest (ws.filterMap id) field b ↔ ∃ x, LastSuch p xs x ∧ b = value x := by
  induction lists with
  | nil =>
    constructor
    · intro latest
      cases latest.mem
    · rintro ⟨x, ⟨⟩, -⟩
  | @cons x w? xs ws first rest ih =>
    have others := unwritten_iff rest
    simp only [LastSuch.cons_iff, or_and_right, exists_or, ← ih]
    by_cases here : p x
    · rw [first.1 here]
      change Latest ((field, value x) :: ws.filterMap id) field b ↔ _
      rw [Latest.cons_iff, others]
      refine or_congr Iff.rfl ?_
      constructor
      · rintro ⟨same, none⟩
        exact ⟨x, ⟨rfl, here, none⟩, (Prod.mk.inj same).2.symm⟩
      · rintro ⟨_, ⟨rfl, -, none⟩, rfl⟩
        exact ⟨rfl, none⟩
    · have skipped : ¬ ∃ y, (x = y ∧ p y ∧ ∀ z ∈ xs, ¬ p z) ∧ b = value y := by
        rintro ⟨_, ⟨rfl, holds, -⟩, -⟩
        exact here holds
      rw [or_iff_left skipped]
      cases w? with
      | none => rfl
      | some w =>
        change Latest (w :: ws.filterMap id) field b ↔ _
        rw [Latest.cons_iff]
        refine or_iff_left ?_
        rintro ⟨rfl, -⟩
        exact first.2 here _ rfl rfl

end

namespace Template

def Counts (t : Template) (c : Column) (e : TemplateEntry) : Prop :=
  e.field = c.field ∧
    (e.explicit = true ∨ c.isKey = false ∧ (c.field ∈ t.included ∨ ¬ c.type.Unset e.value))

inductive Assigns (t : Template) (c : Column) : Value → Prop where
  | entry {e : TemplateEntry} (last : LastSuch (t.Counts c) t.entries e) : Assigns t c e.value
  | reset (included : c.field ∈ t.included) (absent : ∀ e ∈ t.entries, e.field ≠ c.field) :
      Assigns t c c.type.default

def Sound (m : Mapping) (e : TemplateEntry) : Prop :=
  ∃ c ∈ m.columns, c.field = e.field ∧ c.type.accepts e.value = true

inductive EntryFault (m : Mapping) (e : TemplateEntry) : Error → Prop where
  | unmapped (absent : ∀ c ∈ m.columns, c.field ≠ e.field) :
      EntryFault m e (.unmappedField e.field m.table)
  | rejected {c : Column} (member : c ∈ m.columns) (named : c.field = e.field)
      (refused : c.type.accepts e.value = false) :
      EntryFault m e (.valueRejected e.value.typeName c.type.name e.field)

inductive Fault (m : Mapping) (t : Template) : Error → Prop where
  | entry {err : Error} (first : FirstFault (EntryFault m) t.entries err) : Fault m t err
  | included {err : Error} (entries : ∀ e ∈ t.entries, Sound m e)
      (first : FirstFault m.Lacks t.included err) : Fault m t err
  | nothing (entries : ∀ e ∈ t.entries, Sound m e)
      (included : ∀ name ∈ t.included, ∃ c ∈ m.columns, c.field = name)
      (unassigned : ∀ c ∈ m.columns, ∀ v, ¬ t.Assigns c v) : Fault m t (.noAssignments m.table)

theorem not_entryFault_iff {m : Mapping} {e : TemplateEntry} :
    (∀ err, ¬ EntryFault m e err) ↔ Sound m e := by
  constructor
  · intro sound
    by_cases mapped : ∃ c ∈ m.columns, c.field = e.field
    · obtain ⟨c, member, named⟩ := mapped
      refine ⟨c, member, named, ?_⟩
      by_contra refused
      exact sound _ (.rejected member named (Bool.eq_false_iff.mpr refused))
    · exact absurd (.unmapped (by simpa using mapped)) (sound _)
  · rintro ⟨c, member, named, accepted⟩ err fault
    cases fault with
    | unmapped absent => exact absent c member named
    | @rejected other among also refused =>
      obtain rfl : other = c := Mapping.eq_of_field among member (also.trans named.symm)
      rw [accepted] at refused
      cases refused

end Template

namespace Assignment

open Template

variable {m : Mapping} {t : Template} {writes : List FieldWrite} {err : Error}

theorem entryWrite_eq_error_iff {e : TemplateEntry} :
    entryWrite m t e = .error err ↔ EntryFault m e err := by
  rw [entryWrite, bind_eq_error_iff, m.resolveColumn_eq_error_iff]
  constructor
  · rintro (⟨rfl, absent⟩ | ⟨c, resolved, rest⟩)
    · exact .unmapped absent
    · obtain ⟨member, named⟩ := m.resolveColumn_eq_ok_iff.mp resolved
      split at rest
      · split at rest <;> cases rest
      · next refused =>
        cases rest
        exact .rejected member named (Bool.eq_false_iff.mpr refused)
  · intro fault
    cases fault with
    | unmapped absent => exact .inl ⟨rfl, absent⟩
    | @rejected c member named refused =>
      refine .inr ⟨c, m.resolveColumn_eq_ok_iff.mpr ⟨member, named⟩, ?_⟩
      rw [if_neg (by simp [refused])]

theorem entryAssigns_iff {c : Column} {e : TemplateEntry} (named : c.field = e.field)
    (accepted : c.type.accepts e.value = true) : entryAssigns t c e = true ↔ t.Counts c e := by
  unfold entryAssigns Counts
  rw [← named, ← ColumnType.isUnset_iff accepted]
  simp

theorem entryWrite_eq_ok {c : Column} (member : c ∈ m.columns) {e : TemplateEntry}
    {w? : Option FieldWrite} (written : entryWrite m t e = .ok w?) :
    Writing (t.Counts c) c.field (fun e => .param e.value) e w? := by
  obtain ⟨other, resolved, rest⟩ := bind_eq_ok_iff.mp written
  obtain ⟨among, named⟩ := m.resolveColumn_eq_ok_iff.mp resolved
  split at rest
  · next accepted =>
    have assigns := entryAssigns_iff (t := t) named accepted
    split at rest
    · next counts =>
      cases rest
      constructor
      · intro counted
        rw [counted.1]
      · intro uncounted w wrote same
        obtain rfl := Option.some.inj wrote
        obtain rfl : other = c := Mapping.eq_of_field among member (named.trans same)
        exact uncounted (assigns.mp counts)
    · next uncounted =>
      cases rest
      refine ⟨fun counted => ?_, nofun⟩
      obtain rfl : other = c := Mapping.eq_of_field among member (named.trans counted.1)
      exact absurd (assigns.mpr counted) uncounted
  · cases rest

theorem latest_entry_iff {c : Column} (member : c ∈ m.columns) {entries : List TemplateEntry}
    {ws : List (Option FieldWrite)} (written : entries.mapM (entryWrite m t) = .ok ws)
    {v : AssignedValue} :
    Latest (ws.filterMap id) c.field v ↔
      ∃ e, LastSuch (t.Counts c) entries e ∧ v = .param e.value := by
  refine latest_filterMap_iff ((mapM_eq_ok_iff.mp written).imp fun e w? done => ?_)
  exact entryWrite_eq_ok member done

theorem includeWrite_eq_error_iff {name : String} :
    includeWrite m name = .error err ↔ m.Lacks name err := by
  rw [includeWrite, bind_eq_error_iff, m.resolveColumn_eq_error_iff]
  exact or_iff_left fun ⟨c, _, done⟩ => by cases done

theorem latest_included_iff {c : Column} (member : c ∈ m.columns) {names : List String}
    (written : names.mapM (includeWrite m) = .ok writes) {v : AssignedValue} :
    Latest writes c.field v ↔ c.field ∈ names ∧ v = .param c.type.default := by
  have each {w : AssignedValue} (wrote : (c.field, w) ∈ writes) :
      c.field ∈ names ∧ w = .param c.type.default := by
    obtain ⟨name, inside, included⟩ := (mem_iff_of_mapM written).mp wrote
    obtain ⟨other, among, named, same⟩ := includeWrite_eq_ok included
    obtain ⟨rfl, rfl⟩ := Prod.mk.inj same
    obtain rfl : other = c := Mapping.eq_of_field among member named
    exact ⟨inside, rfl⟩
  constructor
  · exact fun latest => each latest.mem
  · rintro ⟨inside, rfl⟩
    obtain ⟨w, wrote, included⟩ := exists_ok_of_mapM written inside
    obtain ⟨other, -, -, rfl⟩ := includeWrite_eq_ok included
    obtain ⟨v, latest⟩ := Latest.exists_iff.mpr (List.mem_map_of_mem wrote)
    rwa [← (each latest.mem).2]

theorem templateWrites_eq_error_iff :
    templateWrites m t = .error err ↔
      FirstFault (EntryFault m) t.entries err ∨
        (∀ e ∈ t.entries, Sound m e) ∧ FirstFault m.Lacks t.included err := by
  have entries {err : Error} : t.entries.mapM (entryWrite m t) = .error err ↔
      FirstFault (EntryFault m) t.entries err := by
    rw [mapM_eq_error_iff]
    simp only [entryWrite_eq_error_iff]
  have sound : (∃ ws, t.entries.mapM (entryWrite m t) = .ok ws) ↔ ∀ e ∈ t.entries, Sound m e := by
    rw [← not_error_iff]
    simp only [entries, ← FirstFault.not_iff, not_entryFault_iff]
  rw [templateWrites, bind_eq_error_iff, entries, ← sound]
  refine or_congr Iff.rfl ?_
  -- A field that has a sound entry is there, so it does not matter that it is not looked up again.
  have missing (each : ∀ e ∈ t.entries, Sound m e) :
      (t.included.filter fun name => !(t.entries.any (·.field == name))).mapM (includeWrite m) =
          .error err ↔ FirstFault m.Lacks t.included err := by
    rw [mapM_eq_error_iff]
    simp only [includeWrite_eq_error_iff]
    refine FirstFault.filter_iff fun name _ skipped => ?_
    have present : ∃ e ∈ t.entries, e.field = name := by simpa using skipped
    obtain ⟨e, entry, rfl⟩ := present
    obtain ⟨c, member, named, -⟩ := each e entry
    exact Mapping.not_lacks_iff.mpr ⟨c, member, named⟩
  constructor
  · rintro ⟨ws, done, rest⟩
    rcases bind_eq_error_iff.mp rest with failed | ⟨others, -, done⟩
    · exact ⟨⟨ws, done⟩, (missing (sound.mp ⟨ws, done⟩)).mp failed⟩
    · cases done
  · rintro ⟨⟨ws, done⟩, first⟩
    exact ⟨ws, done, bind_eq_error_iff.mpr (.inl ((missing (sound.mp ⟨ws, done⟩)).mpr first))⟩

/-- The last write to a column's field is the value that the template assigns to the column. -/
theorem latest_templateWrites_iff (written : templateWrites m t = .ok writes) {c : Column}
    (member : c ∈ m.columns) {v : AssignedValue} :
    Latest writes c.field v ↔ ∃ w, v = .param w ∧ t.Assigns c w := by
  obtain ⟨entries, ofEntries, rest⟩ := bind_eq_ok_iff.mp written
  obtain ⟨others, ofOthers, done⟩ := bind_eq_ok_iff.mp rest
  cases done
  have missing : c.field ∈ (t.included.filter fun name => !(t.entries.any (·.field == name))) ↔
      c.field ∈ t.included ∧ ∀ e ∈ t.entries, e.field ≠ c.field := by
    simp
  rw [Latest.append_iff, latest_included_iff member ofOthers, missing,
    latest_entry_iff member ofEntries]
  constructor
  · rintro (⟨⟨included, absent⟩, rfl⟩ | ⟨⟨e, last, rfl⟩, -⟩)
    · exact ⟨_, rfl, .reset included absent⟩
    · exact ⟨_, rfl, .entry last⟩
  · rintro ⟨w, rfl, assigns⟩
    cases assigns with
    | reset included absent => exact .inl ⟨⟨included, absent⟩, rfl⟩
    | @entry e last =>
      refine .inr ⟨⟨e, last, rfl⟩, fun pair among same => ?_⟩
      have written : c.field ∈ others.map Prod.fst := same ▸ List.mem_map_of_mem among
      obtain ⟨v, latest⟩ := Latest.exists_iff.mpr written
      have reset := ((latest_included_iff member ofOthers).mp latest).1
      exact (missing.mp reset).2 e last.mem.1 last.mem.2.1

theorem collect_eq_error_iff {target : Mapping} :
    collect target writes = .error err ↔
      err = .noAssignments target.table ∧ ∀ c ∈ target.columns, ∀ v, ¬ Latest writes c.field v := by
  constructor
  · intro failed
    obtain ⟨rfl, unwritten⟩ := collect_eq_error failed
    refine ⟨rfl, fun c member v latest => unwritten c member ?_⟩
    exact Latest.exists_iff.mp ⟨v, latest⟩
  · rintro ⟨rfl, unwritten⟩
    cases collected : collect target writes with
    | error e => rw [(collect_eq_error collected).1]
    | ok assignments =>
      obtain ⟨a, assigned⟩ := List.exists_mem_of_ne_nil assignments (collect_eq_ok collected).1
      obtain ⟨c, member, -, latest⟩ := (mem_of_collect collected).mp assigned
      exact absurd latest (unwritten c member _)

theorem exists_templateWrites_iff :
    (∃ writes, templateWrites m t = .ok writes) ↔
      (∀ e ∈ t.entries, Sound m e) ∧ ∀ name ∈ t.included, ∃ c ∈ m.columns, c.field = name := by
  rw [← not_error_iff]
  simp only [templateWrites_eq_error_iff, not_or, not_and, forall_and, ← FirstFault.not_iff,
    not_entryFault_iff]
  constructor
  · rintro ⟨sound, mapped⟩
    refine ⟨sound, fun name included => Mapping.not_lacks_iff.mp fun e lacks => ?_⟩
    obtain ⟨e', first⟩ := FirstFault.exists_iff.mpr ⟨name, included, e, lacks⟩
    exact mapped e' sound first
  · rintro ⟨sound, mapped⟩
    refine ⟨sound, fun e _ first => ?_⟩
    obtain ⟨name, included, lacks⟩ := first.exists_mem
    exact Mapping.not_lacks_iff.mpr (mapped name included) e lacks

theorem ofTemplate_eq_error_iff :
    ofMutation m (.template t) = .error err ↔ t.Fault m err := by
  change (templateWrites m t >>= fun writes => collect m writes) = .error err ↔ _
  rw [bind_eq_error_iff]
  constructor
  · rintro (failed | ⟨writes, written, uncollected⟩)
    · rcases templateWrites_eq_error_iff.mp failed with first | ⟨sound, first⟩
      · exact .entry first
      · exact .included sound first
    · obtain ⟨rfl, unwritten⟩ := collect_eq_error_iff.mp uncollected
      obtain ⟨sound, mapped⟩ := exists_templateWrites_iff.mp ⟨writes, written⟩
      refine .nothing sound mapped fun c member v assigns => ?_
      exact unwritten c member _ ((latest_templateWrites_iff written member).mpr ⟨v, rfl, assigns⟩)
  · intro fault
    cases fault with
    | entry first => exact .inl (templateWrites_eq_error_iff.mpr (.inl first))
    | included sound first => exact .inl (templateWrites_eq_error_iff.mpr (.inr ⟨sound, first⟩))
    | nothing sound mapped unassigned =>
      obtain ⟨writes, written⟩ := exists_templateWrites_iff.mpr ⟨sound, mapped⟩
      refine .inr ⟨writes, written, collect_eq_error_iff.mpr ⟨rfl, fun c member v latest => ?_⟩⟩
      obtain ⟨w, -, assigns⟩ := (latest_templateWrites_iff written member).mp latest
      exact unassigned c member w assigns

end Assignment

structure AssignmentSet.MadeBy (m : Mapping) (t : Template) (s : AssignmentSet) : Prop where
  assigned_iff : ∀ c ∈ m.columns, ∀ v,
    ⟨c.field, c.name, .param v⟩ ∈ s.assignments ↔ t.Assigns c v
  key : ∀ c ∈ m.keyColumns, ∀ e,
    LastSuch (fun e => e.field = c.field ∧ e.explicit = true) t.entries e →
      ⟨c.field, c.name, .param e.value⟩ ∈ s.assignments
  accepted : ∀ a ∈ s.assignments, ∃ c ∈ m.columns, ∃ v,
    a = ⟨c.field, c.name, .param v⟩ ∧ c.type.accepts v = true
  ordered : (s.assignments.map (·.field)).Sublist (m.columns.map (·.field))

structure Template.CompilesByEntries (m : Mapping) (t : Template)
    (outcome : Except Error AssignmentSet) : Prop where
  succeeds_iff : (∃ s, outcome = .ok s) ↔
    (∀ e ∈ t.entries, Sound m e) ∧ (∀ name ∈ t.included, ∃ c ∈ m.columns, c.field = name) ∧
      ∃ c ∈ m.columns, ∃ v, t.Assigns c v
  madeBy : ∀ s, outcome = .ok s → s.MadeBy m t
  fault_iff : ∀ err, outcome = .error err ↔ t.Fault m err
  kind : ∀ err, outcome = .error err →
    (∃ what, err = .unsupportedExpression what) ∧
        ((∃ e ∈ t.entries, ∀ c ∈ m.columns, c.field ≠ e.field) ∨
          ∃ name ∈ t.included, ∀ c ∈ m.columns, c.field ≠ name) ∨
      (∃ what, err = .invalidArgument what) ∧
        (∃ e ∈ t.entries, ∃ c ∈ m.columns, c.field = e.field ∧ c.type.accepts e.value = false) ∨
      err = .noAssignments m.table ∧ ∀ c ∈ m.columns, ∀ v, ¬ t.Assigns c v

namespace Template

variable {m : Mapping} {t : Template}

theorem accepts_of_assigns (sound : ∀ e ∈ t.entries, Sound m e) {c : Column}
    (member : c ∈ m.columns) {v : Value} (assigns : t.Assigns c v) : c.type.accepts v = true := by
  cases assigns with
  | reset => exact c.type.accepts_default
  | @entry e last =>
    obtain ⟨entry, named, -⟩ := last.mem
    obtain ⟨other, among, also, accepted⟩ := sound e entry
    obtain rfl : other = c := Mapping.eq_of_field among member (also.trans named)
    exact accepted

theorem madeBy_ofTemplate {d : Dialect} {s : AssignmentSet}
    (compiled : AssignmentSet.ofMutation d m (.template t) = .ok s) : s.MadeBy m t := by
  obtain ⟨writes, written, collected⟩ := bind_eq_ok_iff.mp (AssignmentSet.ofMutation_eq_ok compiled)
  have sound := (Assignment.exists_templateWrites_iff.mp ⟨writes, written⟩).1
  have assigned_iff : ∀ c ∈ m.columns, ∀ v,
      ⟨c.field, c.name, .param v⟩ ∈ s.assignments ↔ t.Assigns c v := by
    intro c member v
    have latest : Latest writes c.field (.param v) ↔ t.Assigns c v := by
      rw [Assignment.latest_templateWrites_iff written member]
      simp
    rw [Assignment.mem_of_collect collected, ← latest]
    constructor
    · rintro ⟨other, -, same, last⟩
      have field : c.field = other.field := congrArg Assignment.field same
      rwa [field]
    · exact fun last => ⟨c, member, rfl, last⟩
  refine ⟨assigned_iff, ?_, ?_, Assignment.fields_sublist collected⟩
  · intro c key e last
    obtain ⟨member, isKey⟩ := List.mem_filter.mp key
    refine (assigned_iff c member e.value).mpr (.entry (last.congr fun e => ?_))
    simp [Counts, isKey]
  · intro a assigned
    obtain ⟨c, member, same, latest⟩ := (Assignment.mem_of_collect collected).mp assigned
    obtain ⟨v, value, assigns⟩ := (Assignment.latest_templateWrites_iff written member).mp latest
    rw [value] at same
    exact ⟨c, member, v, same, accepts_of_assigns sound member assigns⟩

theorem Fault.kind {err : Error} (fault : t.Fault m err) :
    (∃ what, err = .unsupportedExpression what) ∧
        ((∃ e ∈ t.entries, ∀ c ∈ m.columns, c.field ≠ e.field) ∨
          ∃ name ∈ t.included, ∀ c ∈ m.columns, c.field ≠ name) ∨
      (∃ what, err = .invalidArgument what) ∧
        (∃ e ∈ t.entries, ∃ c ∈ m.columns, c.field = e.field ∧ c.type.accepts e.value = false) ∨
      err = .noAssignments m.table ∧ ∀ c ∈ m.columns, ∀ v, ¬ t.Assigns c v := by
  cases fault with
  | entry first =>
    obtain ⟨e, entry, fault⟩ := first.exists_mem
    cases fault with
    | unmapped absent => exact .inl ⟨⟨_, rfl⟩, .inl ⟨e, entry, absent⟩⟩
    | @rejected c member named refused =>
      exact .inr (.inl ⟨⟨_, rfl⟩, e, entry, c, member, named, refused⟩)
  | included _ first =>
    obtain ⟨name, included, rfl, absent⟩ := first.exists_mem
    exact .inl ⟨⟨_, rfl⟩, .inr ⟨name, included, absent⟩⟩
  | nothing _ _ unassigned => exact .inr (.inr ⟨rfl, unassigned⟩)

/-- What a template assigns to a column depends on the entries for this column alone, in whatever
order the row, the set values and the included fields come. -/
theorem compiles_byEntries (d : Dialect) (m : Mapping) (t : Template) :
    t.CompilesByEntries m (AssignmentSet.ofMutation d m (.template t)) := by
  have fault_iff (err : Error) :
      AssignmentSet.ofMutation d m (.template t) = .error err ↔ t.Fault m err := by
    rw [AssignmentSet.ofMutation, map_eq_error_iff, Assignment.ofTemplate_eq_error_iff]
  refine ⟨?_, fun s => madeBy_ofTemplate, fault_iff, fun err failed =>
    ((fault_iff err).mp failed).kind⟩
  constructor
  · rintro ⟨s, compiled⟩
    have assigned := AssignmentSet.ofMutation_eq_ok compiled
    obtain ⟨writes, written, collected⟩ := bind_eq_ok_iff.mp assigned
    obtain ⟨sound, mapped⟩ := Assignment.exists_templateWrites_iff.mp ⟨writes, written⟩
    obtain ⟨a, some⟩ := List.exists_mem_of_ne_nil _ (Assignment.collect_eq_ok collected).1
    obtain ⟨c, member, -, latest⟩ := (Assignment.mem_of_collect collected).mp some
    obtain ⟨v, -, assigns⟩ := (Assignment.latest_templateWrites_iff written member).mp latest
    exact ⟨sound, mapped, c, member, v, assigns⟩
  · rintro ⟨sound, mapped, c, member, v, assigns⟩
    rw [← not_error_iff]
    intro err failed
    cases (fault_iff err).mp failed with
    | entry first =>
      obtain ⟨e, entry, fault⟩ := first.exists_mem
      exact not_entryFault_iff.mpr (sound e entry) err fault
    | included _ first =>
      obtain ⟨name, included, lacks⟩ := first.exists_mem
      exact Mapping.not_lacks_iff.mpr (mapped name included) err lacks
    | nothing _ _ unassigned => exact unassigned c member v assigns

/-- The count of the row is unset, and so is the price that was set after it. -/
theorem compiles_byEntries_overridden :
    let count : Column := ⟨"count", "Count", .integer, false⟩
    let m : Mapping := ⟨⟨none, "items", [⟨"id", "Id", .integer, true⟩,
      ⟨"sold", "Sold", .bool, false⟩, ⟨"price", "Price", .real, false⟩, count]⟩, by decide⟩
    let row : List (String × Value) :=
      [("id", .integer 1), ("count", .bool false), ("price", .integer 3)]
    let t := (((Template.ofRow row).set "id" (Value.integer 8)).including "sold").set "price"
      (Value.integer 0)
    let s : AssignmentSet := ⟨Backend.mySql.dialect, [⟨"id", "Id", .param (.integer 8)⟩,
      ⟨"sold", "Sold", .param (.bool false)⟩, ⟨"price", "Price", .param (.integer 0)⟩]⟩
    s.MadeBy m t ∧ ∀ v, ¬ t.Assigns count v := by
  intro count m row t s
  have law := compiles_byEntries Backend.mySql.dialect m t
  have compiled : AssignmentSet.ofMutation Backend.mySql.dialect m (.template t) = .ok s := rfl
  have made := law.madeBy s compiled
  refine ⟨made, fun v assigns => ?_⟩
  have assigned := (made.assigned_iff count (by decide) v).mpr assigns
  simp [s, count] at assigned

end Template

end BulkDml
