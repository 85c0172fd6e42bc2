import CrossBuild.Machine

/-!
# What an operation does to a machine

An operation takes a machine to a result and another machine
(`Machine.perform`).  One equation for each way in which operations are put
together says what the whole does, so that a proof never opens the monads
underneath.

Most operations only look at the machine, change its files or write to its
log.  What a part of an operation does to a machine, the whole does as well, as
long as it is a relation that goes on from one part to the next (`Advances`).
That no command is handed to an executor is such a relation (`RunsNothing`).
-/
namespace CrossBuild

/-- What an operation ends with on a machine, and the machine that it leaves. -/
def Machine.perform {ε α : Type} (m : Machine) (t : ExceptT ε MachineM α) :
    Except ε α × Machine :=
  Id.run (StateT.run t.run m)

/-- The machine with further events in its log. -/
def Machine.logged (m : Machine) (es : List Event) : Machine :=
  { m with events := m.events ++ es }

namespace Machine

variable {ε α β : Type} (m : Machine)

/-! ## 1. The parts of an operation -/

@[simp] theorem perform_pure (a : α) :
    m.perform (pure a : ExceptT ε MachineM α) = (.ok a, m) := rfl

@[simp] theorem perform_throw (e : ε) :
    m.perform (throw e : ExceptT ε MachineM α) = (.error e, m) := rfl

@[simp] theorem perform_get :
    m.perform (getThe Machine : ExceptT ε MachineM Machine) = (.ok m, m) := rfl

@[simp] theorem perform_set (m' : Machine) :
    m.perform (set m' : ExceptT ε MachineM PUnit) = (.ok ⟨⟩, m') := rfl

@[simp] theorem perform_log (e : Event) :
    m.perform (liftM (log e) : ExceptT ε MachineM Unit) = (.ok (), m.logged [e]) := rfl

@[simp] theorem perform_liftExcept (r : Except ε α) :
    m.perform (liftM r : ExceptT ε MachineM α) = (r, m) := by
  cases r <;> rfl

@[simp] theorem perform_execute (executor : Executor) (c : Command) :
    m.perform (execute executor c) = ((executor m c).outcome, m.answered c (executor m c)) := rfl

@[simp] theorem perform_verify (t : Operation α) :
    m.perform t.verify = ((m.perform t).1.mapError .other, (m.perform t).2) := rfl

/-- An operation after another one starts on the machine that the first one
leaves, and only if that one succeeds. -/
theorem perform_bind (t : ExceptT ε MachineM α) (f : α → ExceptT ε MachineM β) :
    m.perform (t >>= f) =
      match m.perform t with
      | (.ok a, m') => m'.perform (f a)
      | (.error e, m') => (.error e, m') := by
  simp only [perform, ExceptT.run_bind, StateT.run_bind, Id.run_bind]
  rcases Id.run (StateT.run t.run m) with ⟨r, m'⟩
  cases r <;> rfl

/-- The parts of a succeeding operation succeed. -/
theorem perform_bind_ok {m m' : Machine} {t : ExceptT ε MachineM α}
    {f : α → ExceptT ε MachineM β} {b : β} (h : m.perform (t >>= f) = (.ok b, m')) :
    ∃ a m₁, m.perform t = (.ok a, m₁) ∧ m₁.perform (f a) = (.ok b, m') := by
  rw [perform_bind] at h
  rcases ht : m.perform t with ⟨r, m₁⟩
  rw [ht] at h
  cases r with
  | ok a => exact ⟨a, m₁, rfl, h⟩
  | error e => cases h

theorem perform_changeFiles (failure : FileError → Failure)
    (change : FileTree → Place → Except FileError FileTree) :
    m.perform (changeFiles failure change) =
      match change m.files m.directory with
      | .ok files => (.ok (), { m with files })
      | .error e => (.error (failure e), m) := by
  simp only [changeFiles, perform_bind, perform_get]
  cases change m.files m.directory <;> rfl

/-- What fails is handled on the machine that it leaves. -/
theorem perform_tryCatch (t : ExceptT ε MachineM α) (f : ε → ExceptT ε MachineM α) :
    m.perform (tryCatch t f) =
      match m.perform t with
      | (.ok a, m') => (.ok a, m')
      | (.error e, m') => m'.perform (f e) := by
  have hrun : m.perform (tryCatch t f) = Id.run (StateT.run (t.run >>= fun
      | .ok a => pure (.ok a)
      | .error e => (f e).run) m) := rfl
  rw [hrun, StateT.run_bind, Id.run_bind, perform]
  rcases Id.run (StateT.run t.run m) with ⟨r, m'⟩
  cases r <;> rfl

/-! ## 2. The log -/

@[simp] theorem logged_history (es : List Event) : (m.logged es).history = m.history := rfl

@[simp] theorem logged_nil : m.logged [] = m := by
  simp [logged]

@[simp] theorem logged_logged (es fs : List Event) :
    (m.logged es).logged fs = m.logged (es ++ fs) := by
  simp [logged, List.append_assoc]

@[simp] theorem answered_history (c : Command) (a : Answer) :
    (m.answered c a).history = m.history ++ [⟨c, a.outcome⟩] := rfl

/-- Events logged one after the other. -/
theorem perform_forM_log {γ : Type} (xs : List γ) (event : γ → Event) :
    m.perform (forM xs fun x => (liftM (log (event x)) : ExceptT ε MachineM Unit)) =
      (.ok (), m.logged (xs.map event)) := by
  induction xs generalizing m with
  | nil => simp
  | cons x xs ih => simp [perform_bind, ih]

end Machine

/-! ## 3. What all parts of an operation do -/

/-- A relation that holds along every course of a machine. -/
structure IsCourse (R : Machine → Machine → Prop) : Prop where
  /-- It holds where nothing happens. -/
  refl : ∀ m, R m m
  /-- It holds of two courses one after the other. -/
  trans : ∀ {m m₁ m₂}, R m m₁ → R m₁ m₂ → R m m₂

/-- Every run of an operation leads from a machine to a related one, whatever it
ends with. -/
def Advances (R : Machine → Machine → Prop) {ε α : Type} (t : ExceptT ε MachineM α) : Prop :=
  ∀ m : Machine, R m (m.perform t).2

namespace Advances

variable {R : Machine → Machine → Prop} {ε α β : Type}

theorem bind (hR : IsCourse R) {t : ExceptT ε MachineM α} {f : α → ExceptT ε MachineM β}
    (ht : Advances R t) (hf : ∀ a, Advances R (f a)) : Advances R (t >>= f) := by
  intro m
  have h := ht m
  rw [Machine.perform_bind]
  rcases hp : m.perform t with ⟨r, m'⟩
  rw [hp] at h
  cases r with
  | error e => exact h
  | ok a => exact hR.trans h (hf a m')

theorem verify {t : Operation α} (ht : Advances R t) : Advances R t.verify := ht

theorem forM (hR : IsCourse R) {γ : Type} {f : γ → ExceptT ε MachineM PUnit}
    (hf : ∀ x, Advances R (f x)) : ∀ xs : List γ, Advances R (ForM.forM xs f)
  | [] => fun m => hR.refl m
  | x :: xs => by
      rw [List.forM_cons]
      exact bind hR (hf x) fun _ => forM hR hf xs

end Advances

/-! ## 4. Operations that run nothing -/

/-- Whether an operation hands no command to an executor, on whatever machine
it is performed. -/
def RunsNothing {ε α : Type} (t : ExceptT ε MachineM α) : Prop :=
  ∀ m : Machine, (m.perform t).2.history = m.history

namespace RunsNothing

variable {ε α β : Type}

theorem isCourse : IsCourse fun m m' => m'.history = m.history where
  refl _ := rfl
  trans h h' := h'.trans h

theorem pure (a : α) : RunsNothing (Pure.pure a : ExceptT ε MachineM α) := fun _ => rfl

theorem throw (e : ε) : RunsNothing (throwThe ε e : ExceptT ε MachineM α) := fun _ => rfl

theorem get : RunsNothing (getThe Machine : ExceptT ε MachineM Machine) := fun _ => rfl

theorem bind {t : ExceptT ε MachineM α} {f : α → ExceptT ε MachineM β}
    (ht : RunsNothing t) (hf : ∀ a, RunsNothing (f a)) : RunsNothing (t >>= f) :=
  Advances.bind isCourse ht hf

theorem verify {t : Operation α} (ht : RunsNothing t) : RunsNothing t.verify := ht

theorem forM {γ : Type} {f : γ → ExceptT ε MachineM PUnit} (hf : ∀ x, RunsNothing (f x))
    (xs : List γ) : RunsNothing (ForM.forM xs f) :=
  Advances.forM isCourse hf xs

theorem changeFiles (failure : FileError → Failure)
    (change : FileTree → Place → Except FileError FileTree) :
    RunsNothing (changeFiles failure change) := by
  intro m
  rw [Machine.perform_changeFiles]
  cases change m.files m.directory <;> rfl

theorem ensureDirectory (p : Path) : RunsNothing (ensureDirectory p) := by
  intro m
  simp only [CrossBuild.ensureDirectory, Machine.perform_bind, Machine.perform_get]
  split
  · rfl
  · rcases m.files.makeDirectories m.directory p with ⟨r, files⟩
    cases r <;> rfl

theorem readBytes (p : Path) : RunsNothing (readBytes p) := by
  intro m
  simp only [CrossBuild.readBytes, Machine.perform_bind, Machine.perform_get]
  cases m.read p <;> rfl

end RunsNothing

end CrossBuild
