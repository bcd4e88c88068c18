import Mathlib.Tactic.Lemma
import JavaAtlas.Failure

/-!
# Running computations

`Action.exec` runs a computation from a state. Its equations take a computation apart step by step,
and `exec_bind_eq_ok` says what the outcome of two steps tells about each.
-/

namespace JavaAtlas

section Except

variable {ε α β : Type}

@[simp] lemma ok_bind (a : α) (f : α → Except ε β) : (Except.ok a >>= f) = f a := rfl

@[simp] lemma error_bind (e : ε) (f : α → Except ε β) :
    (Except.error e >>= f) = Except.error e := rfl

@[simp] lemma map_ok (f : α → β) (a : α) : (f <$> (Except.ok a : Except ε α)) = .ok (f a) := rfl

@[simp] lemma map_error (f : α → β) (e : ε) :
    (f <$> (Except.error e : Except ε α)) = .error e := rfl

@[simp] lemma pure_eq_ok (a : α) : (pure a : Except ε α) = .ok a := rfl

@[simp] lemma throw_eq_error (e : ε) : (throw e : Except ε α) = .error e := rfl

lemma bind_eq_ok {x : Except ε α} {f : α → Except ε β} {b : β} :
    (x >>= f) = .ok b ↔ ∃ a, x = .ok a ∧ f a = .ok b := by
  cases x <;> simp

lemma isOk_eq_isSome (r : Except ε α) : r.isOk = r.toOption.isSome := by
  cases r <;> rfl

lemma eq_ok_of_toOption {r : Except ε α} {a : α} (h : r.toOption = some a) : r = .ok a := by
  cases r with
  | error e => cases h
  | ok b => exact congrArg Except.ok (Option.some.inj h)

/-- What is seen to succeed has an outcome. -/
lemma exists_of_isOk {σ : Type} {r : Except ε α × σ} (h : r.1.isOk = true) :
    ∃ a s, r = (.ok a, s) := by
  obtain ⟨_ | a, s⟩ := r
  · cases h
  · exact ⟨a, s, rfl⟩

lemma exists_error_iff (r : Except ε α) : (∃ e, r = .error e) ↔ r.isOk = false := by
  cases r <;> simp [Except.isOk, Except.toBool]

/-- What comes out of a list of computations comes from one of them. -/
lemma mem_of_mapM_ok {f : α → Except ε β} {xs : List α} {ys : List β} (h : xs.mapM f = .ok ys)
    {y : β} (hy : y ∈ ys) : ∃ x ∈ xs, f x = .ok y := by
  induction xs generalizing ys with
  | nil =>
    rw [List.mapM_nil, pure_eq_ok, Except.ok.injEq] at h
    rw [← h] at hy
    cases hy
  | cons x xs ih =>
    simp only [List.mapM_cons, bind_eq_ok, pure_eq_ok, Except.ok.injEq] at h
    obtain ⟨a, hx, rest, hxs, rfl⟩ := h
    rcases List.mem_cons.mp hy with rfl | hy
    · exact ⟨x, List.mem_cons_self, hx⟩
    · obtain ⟨x', hx', heq⟩ := ih hxs hy
      exact ⟨x', List.mem_cons_of_mem _ hx', heq⟩

end Except

namespace Action

variable {σ τ α β : Type}

/-- The outcome of a computation that begins in a state, and the state it leaves. -/
def exec (act : Action σ α) (s : σ) : Except Failure α × σ := act.run s

@[simp] lemma exec_pure (a : α) (s : σ) : (pure a : Action σ α).exec s = (.ok a, s) := rfl

@[simp] lemma exec_throw (e : Failure) (s : σ) :
    (throw e : Action σ α).exec s = (.error e, s) := rfl

@[simp] lemma exec_get (s : σ) : (get : Action σ σ).exec s = (.ok s, s) := rfl

@[simp] lemma exec_set (s t : σ) : (set t : Action σ PUnit).exec s = (.ok ⟨⟩, t) := rfl

@[simp] lemma exec_modify (f : σ → σ) (s : σ) :
    (modify f : Action σ PUnit).exec s = (.ok ⟨⟩, f s) := rfl

@[simp] lemma exec_ofExcept (r : Except Failure α) (s : σ) :
    (ofExcept r : Action σ α).exec s = (r, s) := by
  cases r <;> rfl

@[simp] lemma exec_outcome (act : Action σ α) (s : σ) :
    act.outcome.exec s = (.ok (act.exec s).1, (act.exec s).2) := rfl

@[simp] lemma exec_on (part : σ → τ) (update : σ → τ → σ) (act : Action τ α) (s : σ) :
    (Action.on part update act).exec s =
      ((act.exec (part s)).1, update s (act.exec (part s)).2) := rfl

@[simp] lemma exec_ite (p : Prop) [Decidable p] (x y : Action σ α) (s : σ) :
    (if p then x else y).exec s = if p then x.exec s else y.exec s := by
  split <;> rfl

lemma exec_bind (x : Action σ α) (f : α → Action σ β) (s : σ) :
    (x >>= f).exec s = match x.exec s with
      | (.ok a, t) => (f a).exec t
      | (.error e, t) => (.error e, t) := by
  change (ExceptT.bind x f).run s = _
  simp only [ExceptT.bind, ExceptT.run, ExceptT.mk, exec]
  change ExceptT.bindCont f (x s).1 (x s).2 = _
  rcases x s with ⟨_ | a, t⟩ <;> rfl

lemma exec_bind_of_ok {x : Action σ α} {f : α → Action σ β} {s t : σ} {a : α}
    (h : x.exec s = (.ok a, t)) : (x >>= f).exec s = (f a).exec t := by
  rw [exec_bind, h]

lemma exec_bind_of_error {x : Action σ α} {f : α → Action σ β} {s t : σ} {e : Failure}
    (h : x.exec s = (.error e, t)) : (x >>= f).exec s = (.error e, t) := by
  rw [exec_bind, h]

/-- Two steps succeed together when the first succeeds and the second does from where it led. -/
lemma exec_bind_eq_ok {x : Action σ α} {f : α → Action σ β} {s u : σ} {b : β} :
    (x >>= f).exec s = (.ok b, u) ↔
      ∃ a t, x.exec s = (.ok a, t) ∧ (f a).exec t = (.ok b, u) := by
  rw [exec_bind]
  rcases x.exec s with ⟨_ | a, t⟩ <;> simp [and_assoc]

/-- Two steps are followed one by one, from where the first one led. -/
lemma exec_bind_post (post : Except Failure β → σ → Prop) {x : Action σ α} {f : α → Action σ β}
    {s : σ} (hfail : ∀ e t, x.exec s = (.error e, t) → post (.error e) t)
    (hok : ∀ a t, x.exec s = (.ok a, t) → post ((f a).exec t).1 ((f a).exec t).2) :
    post ((x >>= f).exec s).1 ((x >>= f).exec s).2 := by
  match hrun : x.exec s with
  | (.error e, t) =>
    rw [exec_bind_of_error hrun]
    exact hfail e t hrun
  | (.ok a, t) =>
    rw [exec_bind_of_ok hrun]
    exact hok a t hrun

/-- Two steps succeed or fail alike when the second ones do. -/
lemma isOk_bind_congr {x : Action σ α} {f g : α → Action σ β} {s : σ}
    (h : ∀ a t, ((f a).exec t).1.isOk = ((g a).exec t).1.isOk) :
    ((x >>= f).exec s).1.isOk = ((x >>= g).exec s).1.isOk := by
  rw [exec_bind, exec_bind]
  rcases x.exec s with ⟨_ | a, t⟩
  · rfl
  · exact h a t

lemma exec_bind_pure_fst (x : Action σ α) (f : α → β) (s : σ) :
    ((x >>= fun a => pure (f a)).exec s).1 = f <$> (x.exec s).1 := by
  rw [exec_bind]
  rcases x.exec s with ⟨_ | a, t⟩ <;> rfl

/-! ### Properties of states that computations keep -/

/-- Where a property holds when a computation begins, it holds when it ends, or fails. -/
def Keeps (P : σ → Prop) (act : Action σ α) : Prop := ∀ s, P s → P (act.exec s).2

namespace Keeps

variable {P : σ → Prop} {act : Action σ α}

lemma pure (a : α) : Keeps P (Pure.pure a : Action σ α) := fun _ h => h

lemma throw (e : Failure) : Keeps P (MonadExcept.throw e : Action σ α) := fun _ h => h

lemma get : Keeps P (MonadState.get : Action σ σ) := fun _ h => h

lemma ofExcept (r : Except Failure α) : Keeps P (Action.ofExcept r : Action σ α) := by
  intro s h
  rwa [exec_ofExcept]

lemma outcome (h : Keeps P act) : Keeps P act.outcome := h

lemma bind {x : Action σ α} {f : α → Action σ β} (hx : Keeps P x) (hf : ∀ a, Keeps P (f a)) :
    Keeps P (x >>= f) := by
  intro s h
  have hfirst := hx s h
  match hrun : x.exec s with
  | (.error _, t) =>
    rw [hrun] at hfirst
    rwa [exec_bind_of_error hrun]
  | (.ok a, t) =>
    rw [hrun] at hfirst
    rw [exec_bind_of_ok hrun]
    exact hf a t hfirst

lemma ite {p : Prop} [Decidable p] {x y : Action σ α} (hx : Keeps P x) (hy : Keeps P y) :
    Keeps P (if p then x else y) := by
  split
  · exact hx
  · exact hy

end Keeps

end Action

end JavaAtlas
