import JavaAtlas.Index.Build
import JavaAtlas.Proofs.Action

/-!
# Computations of a workspace

A computation of a workspace is followed step by step, and what matters of it is its outcome and
the disk that it leaves: reports are made on the way and change nothing. Each rule takes one step
from the front of a computation and leaves the rest of it to be shown.
-/

namespace JavaAtlas

namespace Workspace

variable {α β : Type}

/-- A step that only looks fails without a change or gives its result. -/
lemma exec_ofExcept_bind (post : Except Failure β → Disk → Prop)
    {r : Except Failure α} {f : α → Action Workspace β} {w : Workspace}
    (hfail : ∀ e, post (.error e) w.disk)
    (hok : ∀ a, r = .ok a → post ((f a).exec w).1 ((f a).exec w).2.disk) :
    post ((Action.ofExcept r >>= f).exec w).1 ((Action.ofExcept r >>= f).exec w).2.disk := by
  match r with
  | .error e => exact hfail e
  | .ok a =>
    rw [Action.exec_bind_of_ok (Action.exec_ofExcept ..)]
    exact hok a rfl

lemma exec_report (stage : String) (percent : Nat) (message : String) (w : Workspace) :
    (Workspace.report stage percent message).exec w =
      (.ok ⟨⟩, { w with reports := w.reports ++ [⟨stage, percent, message⟩] }) := rfl

/-- A report on the way, made or not, does not matter to the disk. -/
lemma exec_ite_report (post : Except Failure β → Disk → Prop) {p : Prop} [Decidable p]
    {stage : String} {percent : Nat} {message : String} {next : Unit → Action Workspace β}
    {w : Workspace}
    (h : ∀ w' : Workspace, w'.disk = w.disk →
      post ((next ()).exec w').1 ((next ()).exec w').2.disk) :
    let act : Action Workspace β :=
      if p then Workspace.report stage percent message >>= next else next ()
    post (act.exec w).1 (act.exec w).2.disk := by
  intro act
  by_cases hp : p
  · simp only [act, hp, if_true]
    rw [Action.exec_bind_of_ok (exec_report ..)]
    exact h _ rfl
  · simp only [act, hp, if_false]
    exact h w rfl

@[simp] lemma exec_onDisk (act : Action Disk α) (w : Workspace) :
    (onDisk act).exec w = ((act.exec w.disk).1, { w with disk := (act.exec w.disk).2 }) := rfl

lemma exec_onDisk_bind_of_ok {act : Action Disk α} {f : α → Action Workspace β} {w : Workspace}
    {a : α} {d : Disk} (h : act.exec w.disk = (.ok a, d)) :
    (onDisk act >>= f).exec w = (f a).exec { w with disk := d } := by
  rw [Action.exec_bind, exec_onDisk, h]

lemma exec_onDisk_bind_of_error {act : Action Disk α} {f : α → Action Workspace β}
    {w : Workspace} {e : Failure} {d : Disk} (h : act.exec w.disk = (.error e, d)) :
    (onDisk act >>= f).exec w = (.error e, { w with disk := d }) := by
  rw [Action.exec_bind, exec_onDisk, h]

/-- A step on the disk is followed by what it leaves there. -/
lemma exec_onDisk_bind (post : Except Failure β → Disk → Prop) {act : Action Disk α}
    {f : α → Action Workspace β} {w : Workspace}
    (hfail : ∀ e d, act.exec w.disk = (.error e, d) → post (.error e) d)
    (hok : ∀ a d (w' : Workspace), act.exec w.disk = (.ok a, d) → w'.disk = d →
      post ((f a).exec w').1 ((f a).exec w').2.disk) :
    post ((onDisk act >>= f).exec w).1 ((onDisk act >>= f).exec w).2.disk := by
  match hrun : act.exec w.disk with
  | (.error e, d) =>
    rw [exec_onDisk_bind_of_error hrun]
    exact hfail e d hrun
  | (.ok a, d) =>
    rw [exec_onDisk_bind_of_ok hrun]
    exact hok a d _ hrun rfl

end Workspace

end JavaAtlas
