import JavaAtlas.CommandLine.Run
import JavaAtlas.Proofs.Disk.Effects
import JavaAtlas.Proofs.Index.Store

/-!
# Runs of the program

A command line that is read runs its command on the disk, and the program ends with what the
command wrote. A rebuild whose sources are missing ends before any file is written.
-/

namespace JavaAtlas

namespace Config

/-- The home directories are made without a change to any file. -/
lemma confined_ensureDirs (c : Config) (cwd : List String) :
    Disk.Confined cwd (fun _ => False) c.ensureDirs := by
  have hdirs : ∀ dirs : List Path, Disk.Confined cwd (fun _ => False)
      (forIn dirs PUnit.unit fun dir _ => do
        Disk.makeDirectories dir
        pure (.yield PUnit.unit) : Action Disk PUnit) := by
    intro dirs
    induction dirs with
    | nil => exact .pure _
    | cons dir dirs ih =>
      simp only [List.forIn_cons, bind_assoc, pure_bind]
      exact (Disk.confined_makeDirectories cwd dir).bind fun _ => ih
  exact (hdirs _).bind fun _ => .pure _

end Config

namespace CommandLine

variable {env : Environment} {args : List String} {command : Command} {c : Config} {d : Disk}

/-- How the program ends when a command has ended. -/
def endingOf (command : Command) (done : Except Failure Nat × Console) : Ending :=
  match done.1 with
  | .ok code => ⟨code, linesText done.2.out, linesText done.2.err, []⟩
  | .error e => ⟨1, linesText done.2.out, linesText done.2.err,
      [command.name ++ " failed: " ++ e.message]⟩

/-- A command that fails, or ends with code 1, ends the program with code 1. -/
lemma exit_endingOf {done : Except Failure Nat × Console} (h : ∀ code, done.1 = .ok code → code = 1) :
    (endingOf command done).exit = 1 := by
  obtain ⟨_ | code, console⟩ := done
  · rfl
  · exact h code rfl

/-- The program runs the command that it reads. -/
lemma exec_run (sizes : Index.Sizes) (generatedAt : String)
    (hcommand : readCommand args = .ok command) (henv : Config.ofEnvironment d.cwd env = .ok c) :
    let asked := { c with version := command.version?.getD c.version }
    let done := (runCommand asked env sizes generatedAt command).exec ⟨d, [], []⟩
    (run env sizes generatedAt args).exec d = (.ok (endingOf command done), done.2.disk) := by
  intro asked done
  simp only [run, hcommand]
  rw [Action.exec_bind_of_ok (Action.exec_get ..), henv,
    Action.exec_bind_of_ok (Action.exec_ofExcept ..)]
  have hdone : (runCommand asked env sizes generatedAt command).run ⟨d, [], []⟩ = done := rfl
  simp only [asked] at hdone
  rw [hdone]
  obtain ⟨outcome, console⟩ := done
  cases outcome <;> rfl

/-- A command that ends the program with code 0 has ended with it. -/
lemma exists_of_exit_eq_zero {sizes : Index.Sizes} {generatedAt : String} {ending : Ending}
    {e : Disk} (hcommand : readCommand args = .ok command)
    (henv : Config.ofEnvironment d.cwd env = .ok c)
    (hrun : (run env sizes generatedAt args).exec d = (.ok ending, e)) (hexit : ending.exit = 0) :
    ∃ console, (runCommand { c with version := command.version?.getD c.version } env sizes
        generatedAt command).exec ⟨d, [], []⟩ = (.ok 0, console) ∧
      console.disk = e ∧ ending.stdout = linesText console.out := by
  have hdone := exec_run sizes generatedAt hcommand henv
  simp only at hdone
  rw [hrun, Prod.mk.injEq, Except.ok.injEq] at hdone
  obtain ⟨rfl, rfl⟩ := hdone
  match hend : (runCommand { c with version := command.version?.getD c.version } env sizes
      generatedAt command).exec ⟨d, [], []⟩ with
  | (.error failure, console) =>
    rw [hend] at hexit
    cases hexit
  | (.ok code, console) =>
    rw [hend] at hexit
    obtain rfl : code = 0 := hexit
    exact ⟨console, rfl, rfl, rfl⟩

lemma exists_ending {r : Except Failure Ending × Disk}
    (h : r.1.toOption.map (·.exit) = some 0) : ∃ ending, r = (.ok ending, r.2) ∧ ending.exit = 0 := by
  obtain ⟨ending, hending, hexit⟩ := Option.map_eq_some_iff.mp h
  exact ⟨ending, Prod.ext (eq_ok_of_toOption hending) rfl, hexit⟩

/-! ### Consoles -/

lemma exec_say (line : String) (console : Console) :
    (Console.say line).exec console = (.ok (), { console with out := console.out ++ [line] }) := rfl

lemma exec_working {α : Type} {act : Action Workspace α} {d : Disk} {r : Except Failure α}
    {w : Workspace} (h : act.exec (.ofDisk d) = (r, w)) (out err : List String) :
    (Console.working act).exec ⟨d, out, err⟩ =
      (r, ⟨w.disk, out ++ w.reports.map Console.reportLine, err⟩) := by
  change (((act.exec (.ofDisk d)).1,
    ⟨(act.exec (.ofDisk d)).2.disk,
      out ++ (act.exec (.ofDisk d)).2.reports.map Console.reportLine, err⟩) :
        Except Failure α × Console) = _
  rw [h]

lemma exists_of_exec_working {α : Type} {act : Action Workspace α} {console after : Console} {a : α}
    (h : (Console.working act).exec console = (.ok a, after)) :
    ∃ w, act.exec (.ofDisk console.disk) = (.ok a, w) ∧ w.disk = after.disk := by
  obtain ⟨d, out, err⟩ := console
  match hact : act.exec (.ofDisk d) with
  | (r, w) =>
    rw [exec_working hact, Prod.mk.injEq] at h
    obtain ⟨rfl, rfl⟩ := h
    exact ⟨w, rfl, rfl⟩

/-! ### Rebuilds -/

/-- A version that is asked for is chosen. -/
lemma exec_chooseVersion_of_asked {version : String} (h : version ≠ "") (console : Console) :
    (chooseVersion c (some version)).exec console = (.ok version, console) := by
  rw [chooseVersion, nonempty, Option.filter_some, if_pos (by simpa using h)]
  rfl

/-- A rebuild of a version whose sources are missing fails and writes no file. -/
lemma exec_runRebuild_of_missing (sizes : Index.Sizes) (generatedAt : String) (console : Console)
    {version : String} {source : Path} (secondaryVersion secondaryDir : Option String)
    (hversion : version ≠ "")
    (hsource : c.primarySourceDir (.str version) = .ok source)
    (hmissing : (c.ensureDirs.exec console.disk).2.isDirectory source ≠ .ok true) :
    let done := (runRebuild c sizes generatedAt (some version) secondaryVersion none
      secondaryDir).exec console
    (∀ code, done.1 = .ok code → code = 1) ∧
      console.disk.ChangesOnly (fun _ => False) done.2.disk := by
  intro done
  have hmade := c.confined_ensureDirs console.disk.cwd console.disk rfl
  simp only [done, runRebuild]
  match hdirs : c.ensureDirs.exec console.disk with
  | (.error e, made) =>
    rw [hdirs] at hmade
    rw [Action.exec_bind_of_error (Action.exec_on .. |>.trans (by rw [hdirs]))]
    exact ⟨by simp, hmade⟩
  | (.ok _, made) =>
    rw [hdirs] at hmade hmissing
    rw [Action.exec_bind_of_ok (Action.exec_on .. |>.trans (by rw [hdirs])),
      Action.exec_bind_of_ok (exec_chooseVersion_of_asked hversion _)]
    simp only [nonempty, Option.filter_none, hsource]
    rw [Action.exec_bind_of_ok (Action.exec_ofExcept ..),
      Action.exec_bind_of_ok (Action.exec_get ..)]
    match hdir : made.isDirectory source with
    | .error e =>
      rw [Action.exec_bind_of_error (Action.exec_ofExcept ..)]
      exact ⟨by simp, hmade⟩
    | .ok true => exact absurd hdir hmissing
    | .ok false =>
      rw [Action.exec_bind_of_ok (Action.exec_ofExcept ..)]
      exact ⟨fun code hcode => (Except.ok.inj hcode).symm, hmade⟩

end CommandLine

end JavaAtlas
