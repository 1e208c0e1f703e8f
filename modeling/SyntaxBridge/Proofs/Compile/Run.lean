import SyntaxBridge.Compile.Frontend

/-!
# Runs on file systems

`Run.on` is what a run on a file system comes to: its outcome, its log and the state of the files.
There is a lemma for each step that a run may consist of, so that a run is followed step by step.
-/

namespace SyntaxBridge

/-! ## Details -/

namespace Log

variable (log : Log) (text : String)

/-- A detail is no error. -/
@[simp]
theorem errors_detail : (log.detail text).errors = log.errors := by
  rw [detail]
  split <;> rfl

@[simp]
theorem verbose_detail : (log.detail text).verbose = log.verbose := by
  rw [detail]
  split <;> rfl

/-- A detail is printed if details are. -/
theorem printed_detail :
    (log.detail text).printed = log.printed ++ if log.verbose then text ++ "\n" else "" := by
  rw [detail]
  split
  · rw [print, String.append_assoc]
  · rw [String.append_empty]

end Log

/-! ## Runs -/

/-- Two uses of files, one after the other. -/
theorem run_bind_state {σ α β : Type} (action : StateM σ α) (next : α → StateM σ β) (s : σ) :
    (action >>= next).run s = (next (action.run s).1).run (action.run s).2 := rfl

/-- What a run comes to where files have states of some type. -/
structure RunEnd (σ α : Type) where
  /-- What it returns, or why it ended early. -/
  outcome : Except Stop α
  /-- What was printed by then. -/
  log : Log
  /-- The state of the files by then. -/
  state : σ

namespace Run

variable {σ α β : Type} {log : Log} {s : σ}

/-- A run on files in a state, with a log that may have messages already. -/
def on (run : Run (StateM σ) α) (log : Log) (s : σ) : RunEnd σ α :=
  let ((outcome, log), state) := (run.run.run log).run s
  { outcome, log, state }

@[simp]
theorem on_pure (a : α) : (pure a : Run (StateM σ) α).on log s = ⟨.ok a, log, s⟩ := rfl

@[simp]
theorem on_throw (stop : Stop) :
    (throw stop : Run (StateM σ) α).on log s = ⟨.error stop, log, s⟩ := rfl

/-- A run goes on with the second step if the first returns, and else it ends there. -/
theorem on_bind (first : Run (StateM σ) α) (next : α → Run (StateM σ) β) :
    (first >>= next).on log s =
      match first.on log s with
      | ⟨.ok a, log, s⟩ => (next a).on log s
      | ⟨.error stop, log, s⟩ => ⟨.error stop, log, s⟩ := by
  unfold on
  rw [ExceptT.run_bind, StateT.run_bind, StateT.run_bind]
  rcases (first.run.run log).run s with ⟨⟨_ | _, log⟩, s⟩ <;> rfl

/-- After a first step that returns, a run goes on with the second. -/
theorem on_bind_of_ok {first : Run (StateM σ) α} {next : α → Run (StateM σ) β}
    {a : α} {log' : Log} {s' : σ} (h : first.on log s = ⟨.ok a, log', s'⟩) :
    (first >>= next).on log s = (next a).on log' s' := by
  rw [on_bind, h]

/-- After a first step that ends a run, nothing is left to do. -/
theorem on_bind_of_error {first : Run (StateM σ) α} {next : α → Run (StateM σ) β} {stop : Stop}
    {log' : Log} {s' : σ} (h : first.on log s = ⟨.error stop, log', s'⟩) :
    (first >>= next).on log s = ⟨.error stop, log', s'⟩ := by
  rw [on_bind, h]

/-- After a first step of several that returns, a run goes on with the others. -/
theorem on_forM_cons {step : α → Run (StateM σ) PUnit} {a : α} {l : List α} {log' : Log} {s' : σ}
    (h : (step a).on log s = ⟨.ok ⟨⟩, log', s'⟩) :
    ((a :: l).forM step).on log s = (l.forM step).on log' s' :=
  on_bind_of_ok h

/-- Two steps that return end with a second step that returns, after a first one that does. -/
theorem exists_of_on_bind_eq_ok {first : Run (StateM σ) α}
    {next : α → Run (StateM σ) β} {b : β}
    (h : ((first >>= next).on log s).outcome = .ok b) :
    ∃ a, (first.on log s).outcome = .ok a ∧
      (first >>= next).on log s = (next a).on (first.on log s).log (first.on log s).state := by
  rw [on_bind] at h ⊢
  generalize first.on log s = ended at h ⊢
  obtain ⟨outcome, log', s'⟩ := ended
  cases outcome with
  | error stop => cases h
  | ok a => exact ⟨a, rfl, rfl⟩

/-- After a change of the log, a run goes on with the changed one. -/
theorem on_log_bind (change : Log → Log) (next : Unit → Run (StateM σ) β) :
    (Run.log change >>= next).on log s = (next ()).on (change log) s := rfl

/-- After the files were used, a run goes on with their state as it is then. -/
theorem on_files_bind (action : StateM σ α) (next : α → Run (StateM σ) β) :
    (Run.files action >>= next).on log s =
      (next (action.run s).1).on log (action.run s).2 := rfl

/-- The end of a run is halted by the errors that were reported. -/
theorem on_haltIfErrors :
    (haltIfErrors : Run (StateM σ) Unit).on log s =
      ⟨if log.errors = 0 then .ok () else .error (.halted log.haltMessage), log, s⟩ := by
  have hget : (get : Run (StateM σ) Log).on log s = ⟨.ok log, log, s⟩ := rfl
  rw [haltIfErrors, on_bind, hget]
  by_cases h : log.errors = 0 <;> simp [h]

end Run

end SyntaxBridge
