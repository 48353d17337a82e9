import BulkDml.Session.Connection

namespace BulkDml

inductive Exchange where
  | execute (r : Request) (answer : Except Error UInt64)
  | queryRows (r : Request) (answer : Except Error (List (List Value)))
  | begin (answer : Except Error Unit)
  | commit (answer : Except Error Unit)
  | rollback (answer : Except Error Unit)

namespace Exchange

def call : Exchange → Call
  | execute r _ => .execute r
  | queryRows r _ => .queryRows r
  | begin _ => .begin
  | commit _ => .commit
  | rollback _ => .rollback

def failure? : Exchange → Option Error
  | execute _ (.error e) => some e
  | queryRows _ (.error e) => some e
  | begin (.error e) => some e
  | commit (.error e) => some e
  | rollback (.error e) => some e
  | _ => none

def Happens {σ : Type} (c : Connection σ) (s : σ) : Exchange → σ → Prop
  | execute r answer, t => c.execute r s = (answer, t)
  | queryRows r answer, t => c.queryRows r s = (answer, t)
  | begin answer, t => c.begin s = (answer, t)
  | commit answer, t => c.commit s = (answer, t)
  | rollback answer, t => c.rollback s = (answer, t)

theorem Happens.unique {σ : Type} {c : Connection σ} {s t u : σ} {x y : Exchange}
    (left : x.Happens c s t) (right : y.Happens c s u) (same : x.call = y.call) :
    x = y ∧ t = u := by
  cases x <;> cases y <;> cases same <;> cases left.symm.trans right <;> exact ⟨rfl, rfl⟩

end Exchange

inductive Conversation {σ : Type} (c : Connection σ) : σ → List Exchange → σ → Prop where
  | nil (s : σ) : Conversation c s [] s
  | cons {s t u : σ} {x : Exchange} {xs : List Exchange} (first : x.Happens c s t)
      (rest : Conversation c t xs u) : Conversation c s (x :: xs) u

namespace Conversation

variable {σ : Type} {c : Connection σ} {s t u : σ} {xs ys : List Exchange}

theorem append (first : Conversation c s xs t) (second : Conversation c t ys u) :
    Conversation c s (xs ++ ys) u := by
  induction first with
  | nil => exact second
  | cons happens _ ih => exact .cons happens (ih second)

theorem single {x : Exchange} (happens : x.Happens c s t) : Conversation c s [x] t :=
  .cons happens (.nil t)

theorem of_cons {x : Exchange} (all : Conversation c s (x :: xs) u) :
    ∃ t, x.Happens c s t ∧ Conversation c t xs u := by
  cases all with
  | cons first rest => exact ⟨_, first, rest⟩

theorem of_single {x : Exchange} (all : Conversation c s [x] t) : x.Happens c s t := by
  obtain ⟨_, happens, done⟩ := of_cons all
  cases done
  exact happens

theorem of_append (all : Conversation c s (xs ++ ys) u) :
    ∃ t, Conversation c s xs t ∧ Conversation c t ys u := by
  induction xs generalizing s with
  | nil => exact ⟨s, .nil s, all⟩
  | cons x xs ih =>
    obtain ⟨middle, first, rest⟩ := of_cons all
    obtain ⟨t, left, right⟩ := ih rest
    exact ⟨t, .cons first left, right⟩

/-- What a connection answers depends only on what it is asked, from the same state on. -/
theorem unique (left : Conversation c s xs t) (right : Conversation c s ys u)
    (same : xs.map Exchange.call = ys.map Exchange.call) : xs = ys ∧ t = u := by
  induction left generalizing ys with
  | nil s =>
    obtain rfl := List.map_eq_nil_iff.mp same.symm
    cases right
    exact ⟨rfl, rfl⟩
  | cons first rest ih =>
    cases right with
    | nil => cases same
    | cons first' rest' =>
      obtain ⟨call, calls⟩ := List.cons.inj same
      obtain ⟨rfl, rfl⟩ := first.unique first' call
      obtain ⟨rfl, rfl⟩ := ih rest' calls
      exact ⟨rfl, rfl⟩

end Conversation

end BulkDml
