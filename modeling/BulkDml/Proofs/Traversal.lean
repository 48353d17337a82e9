import Mathlib.Data.List.Forall2
import BulkDml.Proofs.Plan.Compiled

namespace BulkDml

theorem mapM_eq_ok_iff {ε α β : Type} {f : α → Except ε β} {xs : List α} {ys : List β} :
    xs.mapM f = .ok ys ↔ List.Forall₂ (fun x y => f x = .ok y) xs ys := by
  induction xs generalizing ys with
  | nil =>
    rw [List.mapM_nil, List.forall₂_nil_left_iff]
    exact ⟨fun done => (Except.ok.inj done).symm, fun none => congrArg Except.ok none.symm⟩
  | cons x xs ih =>
    rw [List.mapM_cons, bind_eq_ok_iff, List.forall₂_cons_left_iff]
    constructor
    · rintro ⟨y, first, rest⟩
      obtain ⟨ys', others, done⟩ := bind_eq_ok_iff.mp rest
      exact ⟨y, ys', first, ih.mp others, (Except.ok.inj done).symm⟩
    · rintro ⟨y, ys', first, others, rfl⟩
      exact ⟨y, first, bind_eq_ok_iff.mpr ⟨ys', ih.mpr others, rfl⟩⟩

theorem bind_eq_error_iff {ε α β : Type} {x : Except ε α} {next : α → Except ε β} {e : ε} :
    (x >>= next) = .error e ↔ x = .error e ∨ ∃ a, x = .ok a ∧ next a = .error e := by
  cases x with
  | error e' => simp [bind, Except.bind]
  | ok a => simp [bind, Except.bind]

theorem map_eq_ok_iff {ε α β : Type} {x : Except ε α} {f : α → β} {b : β} :
    x.map f = .ok b ↔ ∃ a, x = .ok a ∧ f a = b := by
  cases x <;> simp [Except.map]

theorem map_eq_error_iff {ε α β : Type} {x : Except ε α} {f : α → β} {e : ε} :
    x.map f = .error e ↔ x = .error e := by
  cases x <;> simp [Except.map]

theorem exists_ok_of_mapM {ε α β : Type} {f : α → Except ε β} {xs : List α} {ys : List β}
    (done : xs.mapM f = .ok ys) {x : α} (member : x ∈ xs) : ∃ y ∈ ys, f x = .ok y := by
  induction mapM_eq_ok_iff.mp done with
  | nil => cases member
  | @cons x' y xs ys first rest ih =>
    rcases List.mem_cons.mp member with rfl | later
    · exact ⟨y, List.mem_cons_self, first⟩
    · obtain ⟨y', inside, same⟩ := ih (mapM_eq_ok_iff.mpr rest) later
      exact ⟨y', List.mem_cons_of_mem y inside, same⟩

theorem mem_iff_of_mapM {ε α β : Type} {f : α → Except ε β} {xs : List α} {ys : List β}
    (done : xs.mapM f = .ok ys) {y : β} : y ∈ ys ↔ ∃ x ∈ xs, f x = .ok y := by
  constructor
  · intro inside
    induction mapM_eq_ok_iff.mp done with
    | nil => cases inside
    | @cons x y' xs ys first rest ih =>
      rcases List.mem_cons.mp inside with rfl | later
      · exact ⟨x, List.mem_cons_self, first⟩
      · obtain ⟨x', member, same⟩ := ih (mapM_eq_ok_iff.mpr rest) later
        exact ⟨x', List.mem_cons_of_mem x member, same⟩
  · rintro ⟨x, member, same⟩
    obtain ⟨y', inside, again⟩ := exists_ok_of_mapM done member
    obtain rfl : y = y' := Except.ok.inj (same.symm.trans again)
    exact inside

theorem mapM_eq_map {ε α β γ : Type} {f : α → Except ε γ} {g : α → Except ε β} {h : β → γ}
    (each : ∀ a, f a = (g a).map h) (xs : List α) : xs.mapM f = (xs.mapM g).map (List.map h) := by
  induction xs with
  | nil => rfl
  | cons x xs ih =>
    rw [List.mapM_cons, List.mapM_cons, each, ih]
    cases g x with
    | error e => rfl
    | ok b => cases xs.mapM g <;> rfl

inductive FirstFault {α ε : Type} (fault : α → ε → Prop) : List α → ε → Prop where
  | here {x : α} {xs : List α} {e : ε} (found : fault x e) : FirstFault fault (x :: xs) e
  | later {x : α} {xs : List α} {e : ε} (sound : ∀ e', ¬ fault x e')
      (rest : FirstFault fault xs e) :
      FirstFault fault (x :: xs) e

namespace FirstFault

variable {α ε : Type} {fault : α → ε → Prop} {xs ys : List α} {e : ε}

theorem exists_mem (first : FirstFault fault xs e) : ∃ x ∈ xs, fault x e := by
  induction first with
  | here found => exact ⟨_, List.mem_cons_self, found⟩
  | later _ _ ih =>
    obtain ⟨x, member, found⟩ := ih
    exact ⟨x, List.mem_cons_of_mem _ member, found⟩

theorem exists_iff : (∃ e, FirstFault fault xs e) ↔ ∃ x ∈ xs, ∃ e, fault x e := by
  constructor
  · rintro ⟨e, first⟩
    obtain ⟨x, member, found⟩ := first.exists_mem
    exact ⟨x, member, e, found⟩
  · rintro ⟨x, member, e, found⟩
    induction xs with
    | nil => cases member
    | cons y ys ih =>
      by_cases sound : ∀ e', ¬ fault y e'
      · rcases List.mem_cons.mp member with rfl | member
        · exact absurd found (sound e)
        · obtain ⟨e', rest⟩ := ih member
          exact ⟨e', .later sound rest⟩
      · obtain ⟨e', here⟩ := not_forall_not.mp sound
        exact ⟨e', .here here⟩

theorem cons_iff {x : α} :
    FirstFault fault (x :: xs) e ↔ fault x e ∨ (∀ e', ¬ fault x e') ∧ FirstFault fault xs e := by
  constructor
  · rintro (found | ⟨sound, rest⟩)
    · exact .inl found
    · exact .inr ⟨sound, rest⟩
  · rintro (found | ⟨sound, rest⟩)
    · exact .here found
    · exact .later sound rest

theorem singleton_iff {x : α} : FirstFault fault [x] e ↔ fault x e := by
  rw [cons_iff]
  exact or_iff_left fun ⟨_, first⟩ => by cases first

theorem append_iff :
    FirstFault fault (xs ++ ys) e ↔
      FirstFault fault xs e ∨ (∀ x ∈ xs, ∀ e', ¬ fault x e') ∧ FirstFault fault ys e := by
  induction xs with
  | nil =>
    constructor
    · exact fun first => .inr ⟨nofun, first⟩
    · rintro (none | ⟨-, first⟩)
      · cases none
      · exact first
  | cons x xs ih =>
    rw [List.cons_append, cons_iff, cons_iff, ih, List.forall_mem_cons]
    tauto

theorem not_iff : (∀ x ∈ xs, ∀ e, ¬ fault x e) ↔ ∀ e, ¬ FirstFault fault xs e := by
  rw [← not_exists, exists_iff]
  simp

/-- Elements without a fault do not matter. -/
theorem filter_iff {p : α → Bool} (sound : ∀ x ∈ xs, p x = false → ∀ e', ¬ fault x e') :
    FirstFault fault (xs.filter p) e ↔ FirstFault fault xs e := by
  induction xs with
  | nil => rfl
  | cons x xs ih =>
    have rest := ih fun y member => sound y (List.mem_cons_of_mem x member)
    cases kept : p x with
    | true => rw [List.filter_cons_of_pos kept, cons_iff, cons_iff, rest]
    | false =>
      have none := sound x List.mem_cons_self kept
      rw [List.filter_cons_of_neg (by simp [kept]), rest, cons_iff]
      exact ⟨fun first => .inr ⟨none, first⟩, fun first => first.elim (absurd · (none e)) And.right⟩

end FirstFault

theorem not_error_iff {ε α : Type} {x : Except ε α} :
    (∀ e, ¬ x = .error e) ↔ ∃ a, x = .ok a := by
  cases x <;> simp

theorem mapM_eq_error_iff {ε α β : Type} {f : α → Except ε β} {xs : List α} {e : ε} :
    xs.mapM f = .error e ↔ FirstFault (fun x e => f x = .error e) xs e := by
  induction xs with
  | nil => exact ⟨nofun, nofun⟩
  | cons x xs ih =>
    rw [List.mapM_cons, bind_eq_error_iff, FirstFault.cons_iff, ← ih]
    refine or_congr Iff.rfl ?_
    constructor
    · rintro ⟨y, first, rest⟩
      refine ⟨not_error_iff.mpr ⟨y, first⟩, ?_⟩
      rcases bind_eq_error_iff.mp rest with failed | ⟨ys, -, done⟩
      · exact failed
      · cases done
    · rintro ⟨sound, failed⟩
      obtain ⟨y, first⟩ := not_error_iff.mp sound
      exact ⟨y, first, bind_eq_error_iff.mpr (.inl failed)⟩

theorem exists_error_of_mapM {ε α β : Type} {f : α → Except ε β} {xs : List α} {e : ε}
    (failed : xs.mapM f = .error e) : ∃ x ∈ xs, f x = .error e :=
  (mapM_eq_error_iff.mp failed).exists_mem

end BulkDml
