import Mathlib.Data.List.Forall2
import TemplateLexer.Lexing.Work
import TemplateLexer.Logged

set_option autoImplicit false

namespace TemplateLexer

open Markup

theorem Except.bind_ok {ε α β : Type} {x : Except ε α} {f : α → Except ε β} {b : β}
    (h : (x >>= f) = .ok b) : ∃ a, x = .ok a ∧ f a = .ok b := by
  cases x with
  | error e => cases h
  | ok a => exact ⟨a, rfl, h⟩

theorem Except.exists_of_isOk {ε α : Type} {x : Except ε α} (h : x.isOk = true) :
    ∃ a, x = .ok a := by
  cases x with
  | error e => cases h
  | ok a => exact ⟨a, rfl⟩

/-- A value that passes a test was returned. -/
theorem Except.exists_of_any {ε α : Type} {x : Except ε α} {test : α → Bool}
    (h : x.toOption.any test = true) : ∃ a, x = .ok a ∧ test a = true := by
  cases x with
  | error e => cases h
  | ok a => exact ⟨a, rfl, h⟩

theorem Except.mapM_eq_ok {ε α β : Type} {f : α → Except ε β} {g : α → β} {xs : List α}
    (h : ∀ x ∈ xs, f x = .ok (g x)) : xs.mapM f = .ok (xs.map g) := by
  induction xs with
  | nil => rfl
  | cons x xs ih =>
    obtain ⟨hx, hxs⟩ := List.forall_mem_cons.1 h
    rw [List.mapM_cons, hx, ih hxs]
    rfl

theorem Except.mapM_ok {ε α β : Type} {f : α → Except ε β} {xs : List α} {ys : List β}
    (h : xs.mapM f = .ok ys) : List.Forall₂ (fun x y => f x = .ok y) xs ys := by
  induction xs generalizing ys with
  | nil =>
    cases h
    exact .nil
  | cons x xs ih =>
    rw [List.mapM_cons] at h
    obtain ⟨y, hy, h⟩ := Except.bind_ok h
    obtain ⟨ys', hys, h⟩ := Except.bind_ok h
    cases h
    exact .cons hy (ih hys)

theorem exists_of_forall₂ {α β : Type} {R : α → β → Prop} {xs : List α} {ys : List β}
    (h : List.Forall₂ R xs ys) {y : β} (hy : y ∈ ys) : ∃ x ∈ xs, R x y := by
  induction h with
  | nil => cases hy
  | cons hR _ ih =>
    rcases List.mem_cons.1 hy with rfl | hy
    · exact ⟨_, List.mem_cons_self .., hR⟩
    · obtain ⟨x, hx, hR⟩ := ih hy
      exact ⟨x, List.mem_cons_of_mem _ hx, hR⟩

theorem stateT_bind_ok {σ ε α β : Type} {x : StateT σ (Except ε) α} {f : α → StateT σ (Except ε) β}
    {b : β} {s s' : σ} (h : (x >>= f) s = .ok (b, s')) :
    ∃ a mid, x s = .ok (a, mid) ∧ f a mid = .ok (b, s') := by
  cases hx : x s with
  | error e =>
    have he : (x >>= f) s = .error e := by
      show StateT.bind x f s = _
      simp only [StateT.bind, hx]
      rfl
    rw [he] at h
    cases h
  | ok r =>
    refine ⟨r.1, r.2, rfl, ?_⟩
    have he : (x >>= f) s = f r.1 r.2 := by
      show StateT.bind x f s = _
      simp only [StateT.bind, hx]
      rfl
    rw [← he]
    exact h

namespace Logged

variable {α β : Type}

theorem bind_of_ok {x : Logged α} {f : α → Logged β} {a : α} {log mid : List LogEntry}
    (h : x log = (.ok a, mid)) : (x >>= f) log = f a mid := by
  show (ExceptT.bind x f) log = _
  simp only [ExceptT.bind, ExceptT.mk, bind, StateT.bind, ExceptT.bindCont, h]

theorem bind_of_error {x : Logged α} {f : α → Logged β} {e : Failure} {log mid : List LogEntry}
    (h : x log = (.error e, mid)) : (x >>= f) log = (.error e, mid) := by
  show (ExceptT.bind x f) log = _
  simp only [ExceptT.bind, ExceptT.mk, bind, StateT.bind, ExceptT.bindCont, h]
  rfl

theorem bind_ok {x : Logged α} {f : α → Logged β} {b : β} {log log' : List LogEntry}
    (h : (x >>= f) log = (.ok b, log')) :
    ∃ a mid, x log = (.ok a, mid) ∧ f a mid = (.ok b, log') := by
  obtain ⟨r, mid, hx⟩ : ∃ r mid, x log = (r, mid) := ⟨_, _, rfl⟩
  cases r with
  | error e =>
    rw [bind_of_error hx] at h
    cases h
  | ok a =>
    rw [bind_of_ok hx] at h
    exact ⟨a, mid, hx, h⟩

theorem ofExcept_ok {x : Except Failure α} {a : α} {log log' : List LogEntry}
    (h : ofExcept x log = (.ok a, log')) : x = .ok a ∧ log' = log := by
  cases x with
  | error e => cases h
  | ok b =>
    cases h
    exact ⟨rfl, rfl⟩

theorem pure_ok {a b : α} {log log' : List LogEntry}
    (h : (pure a : Logged α) log = (.ok b, log')) : b = a := by
  cases h
  rfl

theorem fail_ok {f : Failure} {a : α} {log log' : List LogEntry}
    (h : (fail f : Logged α) log = (.ok a, log')) : False := by
  cases h

theorem run_ok {x : Logged α} {a : α} (h : x.run.1 = .ok a) : ∃ log, x [] = (.ok a, log) :=
  ⟨x.run.2, Prod.ext h rfl⟩

theorem run_of_ok {x : Logged α} {a : α} {log : List LogEntry} (h : x [] = (.ok a, log)) :
    x.run.1 = .ok a := by
  show (x []).1 = _
  rw [h]

end Logged

namespace Working

variable {α β : Type}

theorem bind_ok {x : Working α} {f : α → Working β} {b : β} {w w' : Work}
    (h : (x >>= f) w = .ok (b, w')) : ∃ a mid, x w = .ok (a, mid) ∧ f a mid = .ok (b, w') :=
  stateT_bind_ok h

theorem pure_ok {a b : α} {w w' : Work} (h : (pure a : Working α) w = .ok (b, w')) :
    b = a ∧ w' = w := by
  cases h
  exact ⟨rfl, rfl⟩

theorem get_ok {v w w' : Work} (h : (get : Working Work) w = .ok (v, w')) : v = w ∧ w' = w := by
  cases h
  exact ⟨rfl, rfl⟩

theorem modify_ok {f : Work → Work} {u : Unit} {w w' : Work}
    (h : (modify f : Working Unit) w = .ok (u, w')) : w' = f w := by
  cases h
  rfl

theorem fail_ok {f : Failure} {a : α} {w w' : Work}
    (h : (fail f : Working α) w = .ok (a, w')) : False := by
  cases h

theorem ofExcept_ok {x : Except Failure α} {a : α} {w w' : Work}
    (h : ofExcept x w = .ok (a, w')) : x = .ok a ∧ w' = w := by
  cases x with
  | error e => cases h
  | ok b =>
    cases h
    exact ⟨rfl, rfl⟩

theorem emit_ok {t : Token} {u : Unit} {w w' : Work} (h : emit t w = .ok (u, w')) :
    w' = { w with tokens := t :: w.tokens } := by
  cases h
  rfl

theorem placeAt_ok {a : Address} {q : Place} {w w' : Work} (h : placeAt a w = .ok (q, w')) :
    w' = w ∧ q.address = a ∧ w.root.locate [] a = some (q.above, q.element) := by
  obtain ⟨r, mid, hr, h⟩ := bind_ok h
  obtain ⟨v, mid', hv, hr⟩ := bind_ok hr
  obtain ⟨rfl, rfl⟩ := get_ok hv
  obtain ⟨rfl, rfl⟩ := pure_ok hr
  cases hl : mid.root.locate [] a with
  | none =>
    rw [hl] at h
    cases h
  | some found =>
    rw [hl] at h
    cases h
    exact ⟨rfl, rfl, rfl⟩

theorem forM_cons_ok {γ : Type} {f : γ → Working Unit} {x : γ} {xs : List γ} {w w' : Work}
    (h : (x :: xs).forM f w = .ok ((), w')) :
    ∃ mid, f x w = .ok ((), mid) ∧ xs.forM f mid = .ok ((), w') := by
  change (f x >>= fun _ => xs.forM f) w = _ at h
  obtain ⟨_, mid, hx, h⟩ := bind_ok h
  exact ⟨mid, hx, h⟩

theorem forM_nil_ok {γ : Type} {f : γ → Working Unit} {w w' : Work}
    (h : ([] : List γ).forM f w = .ok ((), w')) : w' = w := by
  exact (pure_ok h).2

end Working

end TemplateLexer
