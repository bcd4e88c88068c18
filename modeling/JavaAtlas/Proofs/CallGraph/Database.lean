import JavaAtlas.CallGraph.Database
import JavaAtlas.Proofs.Disk.Directories

/-!
# Opening and filling databases

A database that is opened to be filled lies at a path at which a file can be written. Opening,
beginning and filling it make no other file; what lies beside it, its journal and its log, may be
removed. Where the path is short and nothing but files lies in the way, all of them succeed.
-/

namespace JavaAtlas

namespace CallGraph

namespace Database

variable {d e : Disk} {p t : Path} {access : Access}

/-- The places of what may lie beside a database. -/
def IsBeside (d : Disk) (p : Path) (q : List String) : Prop :=
  q = d.placeOf (journal p) ∨ q = d.placeOf (log p)

lemma isNamed_beside (p : Path) {ending : String} {c : Char}
    (hending : ending.toList.getLast? = some c) (hc : c ≠ '.') : (beside p ending).IsNamed where
  parts := by simp [beside, Path.withName]
  name := by
    have hname : (beside p ending).name = p.name ++ ending := by
      simp [beside, Path.withName, Path.name]
    rw [hname]
    refine Path.append_ne_of_getLast hending ?_
    intro h
    simp at h
    exact hc h.symm

lemma isNamed_journal (p : Path) : (journal p).IsNamed :=
  isNamed_beside p (c := 'l') rfl (by decide)

lemma isNamed_log (p : Path) : (log p).IsNamed :=
  isNamed_beside p (c := 'l') rfl (by decide)

lemma placeOf_beside (d : Disk) (p : Path) {ending : String} (h : (beside p ending).IsNamed) :
    d.placeOf (beside p ending) = d.placeOf p.parent ++ [p.name ++ ending] := by
  rw [Disk.placeOf_eq h]
  simp [beside, Path.withName, Path.name, Path.parent]

/-! ### Opening -/

/-- The absolute path of a database. -/
lemma placeOf_resolve (hd : d.IsGrounded) (p : Path) :
    d.placeOf (p.resolve d.cwd) = d.placeOf p :=
  d.placeOf_absolute (hd.up_placeOf p)

lemma hasShortPath_resolve (hd : d.IsGrounded) (p : Path) :
    hasShortPath d (p.resolve d.cwd) = hasShortPath d p := by
  rw [hasShortPath, hasShortPath, d.resolve_eq (p.resolve d.cwd), placeOf_resolve hd, d.resolve_eq p]

lemma parent_resolve (hp : p.IsNamed) (d : Disk) :
    (p.resolve d.cwd).parent = ⟨"/", d.placeOf p.parent⟩ := by
  rw [d.resolve_eq, Path.parent, Disk.placeOf_eq hp, List.dropLast_concat]

lemma name_resolve (hp : p.IsNamed) (d : Disk) : (p.resolve d.cwd).name = p.name := by
  rw [d.resolve_eq, Path.name, Disk.placeOf_eq hp, List.getLast?_concat, Option.getD_some]

/-- What lies beside a database lies there by its absolute path too. -/
lemma placeOf_beside_resolve (hd : d.IsGrounded) (hp : p.IsNamed) {ending : String}
    (hnamed : ∀ p, (beside p ending).IsNamed) :
    d.placeOf (beside (p.resolve d.cwd) ending) = d.placeOf (beside p ending) := by
  rw [placeOf_beside d _ (hnamed _), placeOf_beside d _ (hnamed _), parent_resolve hp,
    name_resolve hp, d.placeOf_absolute (hd.up_placeOf _)]

/-- A path that is short enough for a database can be written by its absolute form. -/
lemma admits_resolve (hd : d.IsGrounded) (h : d.Admits p) (hshort : hasShortPath d p = true) :
    d.Admits (p.resolve d.cwd) := by
  refine ⟨⟨?_, ?_⟩, ?_, ⟨?_, ?_, ?_⟩, ?_⟩
  · rw [d.resolve_eq, Disk.placeOf_eq h.named]
    simp
  · rw [name_resolve h.named]
    exact h.named.name
  · rw [parent_resolve h.named]
    exact Disk.reaches_absolute hd h.reaches
  · have hcwd := hd.null
    have hnull := h.fits.null
    simp only [Disk.hasNull, List.any_eq_false] at hcwd hnull ⊢
    intro part hpart
    rcases Path.mem_follow hpart with hstart | hparts
    · split at hstart
      · simp at hstart
      · exact hcwd part hstart
    · exact hnull part hparts
  · rw [hasShortPath, decide_eq_true_eq] at hshort
    exact Nat.le_trans hshort (by decide)
  · rw [name_resolve h.named]
    exact h.fits.name
  · rw [placeOf_resolve hd]
    exact h.file

/-- Beside a file that can be written, another one can be if its name is not too long. -/
lemma admits_beside {ending : String} (h : d.Admits p) (hnamed : (beside p ending).IsNamed)
    (hnull : '\x00' ∉ ending.toList)
    (htext : p.text.utf8ByteSize + ending.utf8ByteSize ≤ Disk.maxPathBytes)
    (hname : p.name.utf8ByteSize + ending.utf8ByteSize ≤ Disk.maxNameBytes)
    (hfile : ¬ d.root.HasDirectory (d.placeOf (beside p ending))) : d.Admits (beside p ending) := by
  refine ⟨hnamed, ?_, ⟨?_, ?_, ?_⟩, hfile⟩
  · have hparent : (beside p ending).parent = p.parent := by
      simp [beside, Path.withName, Path.parent]
    rw [hparent]
    exact h.reaches
  · have hnone := h.fits.null
    simp only [Disk.hasNull, List.any_eq_false, List.contains_eq_mem, decide_eq_true_eq]
      at hnone ⊢
    intro part hpart
    rcases List.mem_append.mp hpart with hparent | hlast
    · exact hnone part (List.dropLast_subset _ hparent)
    · rw [List.mem_singleton.mp hlast, String.toList_append, List.mem_append, not_or]
      refine ⟨hnone p.name ?_, hnull⟩
      rw [h.named.parts_eq]
      simp
  · obtain ⟨front, hp, hwith⟩ := Path.text_eq_append h.named
    rw [hp, String.utf8ByteSize_append] at htext
    rw [beside, hwith, String.utf8ByteSize_append, String.utf8ByteSize_append]
    omega
  · have heq : (beside p ending).name = p.name ++ ending := by
      simp [beside, Path.withName, Path.name]
    rw [heq, String.utf8ByteSize_append]
    exact hname

lemma isWritable_of_nil (hp : p.parts = []) : d.isWritable p = false := by
  rw [Disk.isWritable, Disk.slot, hp]
  by_cases hlong : Disk.maxPathBytes < p.text.utf8ByteSize
  · simp [hlong]
  · simp [hlong, Disk.walk, Node.isDirectory]

lemma admits_of_isWritable (hd : d.IsGrounded) (hup : ".." ∉ p.parts)
    (hnull : Disk.hasNull p = false) (h : d.isWritable p = true) : d.Admits p := by
  have hparts : p.parts ≠ [] := by
    intro hnil
    rw [isWritable_of_nil hnil] at h
    cases h
  have hp : p.IsNamed := by
    refine ⟨hparts, fun hname => hup ?_⟩
    rw [← hname, Path.name, List.getLast?_eq_some_getLast hparts]
    exact List.getLast_mem hparts
  by_contra hnot
  rw [Disk.isWritable] at h
  obtain ⟨reason, hslot⟩ | ⟨es, hslot⟩ :=
    Disk.slot_of_not_admits hp (Or.inr (hd.directory_start p)) hnull hnot
  all_goals
    simp only [hslot] at h
    cases h

lemma isWritable_of_admits (h : d.Admits p) : d.isWritable p = true := by
  rw [Disk.isWritable]
  obtain ⟨_, _, -, hslot⟩ | ⟨-, hslot⟩ := h.slot_eq
  · rw [hslot]
    rfl
  · rw [hslot]

/-- Opening fails without a change, or a file can be written at the path and is there. -/
lemma exec_openToFill (hd : d.IsGrounded) (p : Path) (access : Access) :
    (∃ failure, (openToFill (.file p access)).exec d = (.error failure, d)) ∨
      ∃ e, (openToFill (.file p access)).exec d = (.ok (), e) ∧
        d.Admits (p.resolve d.cwd) ∧ hasShortPath d p = true ∧
        Disk.Edits (· = d.placeOf p) (fun _ => False) d e := by
  rw [openToFill, Action.exec_bind_of_ok (Action.exec_get ..)]
  simp only
  by_cases hopen : (!hasShortPath d (p.resolve d.cwd) || !d.isWritable (p.resolve d.cwd)) = true
  · left
    simp only [hopen, if_true]
    exact ⟨_, rfl⟩
  · simp only [hopen, Bool.false_eq_true, if_false]
    rw [hasShortPath_resolve hd] at hopen
    simp only [Bool.or_eq_true, Bool.not_eq_true', not_or, Bool.not_eq_false] at hopen
    obtain ⟨hshort, hwritable⟩ := hopen
    have hadmits := fun hnull => admits_of_isWritable hd (hd.up_placeOf p) hnull hwritable
    match hexists : d.doesExist (p.resolve d.cwd) with
    | .error failure =>
      left
      exact ⟨failure, rfl⟩
    | .ok true =>
      right
      refine ⟨d, rfl, hadmits ?_, hshort, .refl d⟩
      by_contra hnull
      rw [Bool.not_eq_false] at hnull
      simp [Disk.doesExist, Disk.stat, hnull, Except.map] at hexists
    | .ok false =>
      rw [Action.exec_bind_of_ok (Action.exec_ofExcept ..)]
      simp only [Bool.not_false, if_true]
      by_cases haccess : (access == .create) = true
      · simp only [haccess, if_true]
        by_cases h : d.Admits (p.resolve d.cwd)
        · obtain ⟨e, hrun, hedits, -⟩ :=
            Disk.exec_writeFile_of_admits h (.bytes ByteArray.empty)
          rw [placeOf_resolve hd] at hedits
          exact Or.inr ⟨e, hrun, h, hshort, hedits⟩
        · left
          rw [Disk.writeFile, Disk.exec_attempt]
          by_cases hnull : Disk.hasNull (p.resolve d.cwd)
          · exact ⟨_, by rw [if_pos hnull]⟩
          · exact absurd (hadmits (by simpa using hnull)) h
      · left
        simp only [haccess]
        exact ⟨_, rfl⟩

/-- A file is opened where one can be written and the path is short; if nothing is there, it
begins empty. -/
lemma exec_openToFill_of_admits (hd : d.IsGrounded) (h : d.Admits (p.resolve d.cwd))
    (hshort : hasShortPath d p = true) (hnone : d.root.get? (d.placeOf p) = none) :
    ∃ e, (openToFill (.file p .create)).exec d = (.ok (), e) ∧
      e.root.dataAt? (d.placeOf p) = some (.bytes ByteArray.empty) := by
  rw [openToFill, Action.exec_bind_of_ok (Action.exec_get ..)]
  simp only [hasShortPath_resolve hd, hshort, isWritable_of_admits h, Bool.not_true, Bool.or_self,
    Bool.false_eq_true, if_false]
  have hmissing : d.doesExist (p.resolve d.cwd) = .ok false := by
    have hlocate : d.locate (p.resolve d.cwd) = .error .notFound := by
      have hdir : Disk.walk d.root (d.startOf (p.resolve d.cwd))
          (p.resolve d.cwd).parent.parts = .ok (d.placeOf (p.resolve d.cwd).parent) :=
        h.reaches.walk
      rw [Disk.locate, if_neg (Nat.not_lt.mpr h.fits.text), h.named.parts_eq, Disk.walk_append,
        hdir, ok_bind, Disk.walk_singleton h.named.name h.reaches.directory,
        if_neg (Nat.not_lt.mpr h.fits.name), ← Disk.placeOf_eq h.named, placeOf_resolve hd, hnone,
        if_pos rfl]
    simp [Disk.doesExist, Disk.stat, h.fits.null, hlocate, Except.map]
  rw [hmissing, Action.exec_bind_of_ok (Action.exec_ofExcept ..)]
  obtain ⟨e, hrun, -, hdata⟩ := Disk.exec_writeFile_of_admits h (.bytes ByteArray.empty)
  rw [placeOf_resolve hd] at hdata
  exact ⟨e, hrun, hdata⟩

/-! ### What lies beside a database -/

lemma admits_of_companion {first : UInt8} (hd : d.IsGrounded)
    (h : companion d p = .file first) : d.Admits p := by
  have hfile : d.isFile p = .ok true := by
    rw [companion] at h
    match hstat : d.stat p with
    | .error _ => simp [hstat] at h
    | .ok none => simp [hstat] at h
    | .ok (some (.directory _)) => simp [hstat] at h
    | .ok (some (.file ..)) => simp [Disk.isFile, hstat, Except.map, Node.isDirectory]
  exact (Disk.hasFile_of_isFile hd hfile).admits

lemma hasDirectory_of_companion (h : companion d p = .directory) :
    d.root.HasDirectory (d.placeOf p) := by
  have hdir : d.isDirectory p = .ok true := by
    rw [companion] at h
    match hstat : d.stat p with
    | .error _ => simp [hstat] at h
    | .ok none => simp [hstat] at h
    | .ok (some (.directory _)) => simp [Disk.isDirectory, hstat, Except.map, Node.isDirectory]
    | .ok (some (.file _ data)) =>
      simp only [hstat] at h
      split at h <;> cases h
  exact (Disk.isDirectory_eq_ok_true_iff.mp hdir).2.2.directory

/-- The second part of a sweep. -/
def sweepLog (t : Path) : Action Disk Unit := do
  match companion (← get) (log t) with
  | .file _ => Disk.discardFile (log t)
  | .directory => throw .unreadableDatabase
  | .absent => pure ()

lemma exec_sweepLog (hd : d.IsGrounded) {t : Path} {e : Disk}
    (hedits : Disk.Edits (fun _ => False) (IsBeside d t) d e) :
    Disk.Edits (fun _ => False) (IsBeside d t) d ((sweepLog t).exec e).2 ∧
      (¬ d.root.HasDirectory (d.placeOf (log t)) → ((sweepLog t).exec e).1 = .ok ()) := by
  have hground := hd.of_changesOnly hedits.toChangesOnly
  rw [sweepLog, Action.exec_bind_of_ok (Action.exec_get ..)]
  cases hcompanion : companion e (log t) with
  | absent => exact ⟨hedits, fun _ => rfl⟩
  | directory =>
    refine ⟨hedits, fun hfile => absurd ?_ hfile⟩
    have hdir := hasDirectory_of_companion hcompanion
    rw [hedits.placeOf] at hdir
    exact hedits.made _ hdir
  | file first =>
    obtain ⟨f, hrun, hgone, -⟩ :=
      Disk.exec_discardFile_of_admits (admits_of_companion hground hcompanion)
    rw [hedits.placeOf] at hgone
    simp only [hrun, implies_true, and_true]
    exact hedits.trans (hgone.mono (fun _ h => h) fun _ => Or.inr)

/-- Sweeping removes what lies beside a database, if anything, and it fails only where a directory
lies in place of the log. -/
lemma exec_sweep (hd : d.IsGrounded) (t : Path) :
    Disk.Edits (fun _ => False) (IsBeside d t) d ((sweep t).exec d).2 ∧
      (¬ d.root.HasDirectory (d.placeOf (log t)) → ((sweep t).exec d).1 = .ok ()) := by
  rw [sweep, Action.exec_bind_of_ok (Action.exec_get ..)]
  cases hcompanion : companion d (journal t) with
  | absent => exact exec_sweepLog hd (.refl d)
  | directory => exact exec_sweepLog hd (.refl d)
  | file first =>
    obtain ⟨e, hrun, hgone, -⟩ :=
      Disk.exec_discardFile_of_admits (admits_of_companion hd hcompanion)
    simp only
    rw [Action.exec_bind_of_ok hrun]
    exact exec_sweepLog hd (hgone.mono (fun _ h => h) fun _ => Or.inl)

/-! ### Beginning and filling -/

/-- Beginning a database makes no file but the database, and it leaves an empty one. -/
lemma exec_begin (hd : d.IsGrounded) (p : Path) (access : Access) :
    let r := (begin (.file p access)).exec d
    Disk.Edits (· = d.placeOf p) (IsBeside d (p.resolve d.cwd)) d r.2 ∧
      (r.1 = .ok () → r.2.root.dataAt? (d.placeOf p) = some (.database [])) := by
  let post (r : Except Failure Unit) (e : Disk) : Prop :=
    Disk.Edits (· = d.placeOf p) (IsBeside d (p.resolve d.cwd)) d e ∧
      (r = .ok () → e.root.dataAt? (d.placeOf p) = some (.database []))
  have hfail (e : Disk) (failure : Failure)
      (h : Disk.Edits (· = d.placeOf p) (IsBeside d (p.resolve d.cwd)) d e) :
      post (.error failure) e := ⟨h, by simp⟩
  change post _ _
  rw [begin, Action.exec_bind_of_ok (Action.exec_get ..),
    Action.exec_bind_of_ok (Action.exec_get ..)]
  match hfile : d.fileAt (p.resolve d.cwd) with
  | .error failure => exact hfail d failure (.refl d)
  | .ok (.database calls) => exact hfail d _ (.refl d)
  | .ok (.bytes data) =>
    rw [Action.exec_bind_of_ok (Action.exec_ofExcept ..)]
    simp only
    have hp := Disk.isNamed_of_fileAt hd hfile
    by_cases hempty : (!(FileData.bytes data).isEmpty) = true
    · simp only [hempty, if_true]
      exact hfail d _ (.refl d)
    simp only [hempty, Bool.false_eq_true, if_false]
    by_cases haccess : (access == .read) = true
    · simp only [haccess, if_true]
      exact hfail d _ (.refl d)
    simp only [haccess, Bool.false_eq_true, if_false]
    obtain ⟨hswept, -⟩ := exec_sweep hd (p.resolve d.cwd)
    refine Action.exec_bind_post post (fun failure e hrun => ?_) fun _ e hrun => ?_
    · rw [hrun] at hswept
      exact hfail e failure (hswept.mono (fun _ h => h.elim) fun _ h => h)
    · rw [hrun] at hswept
      replace hswept : Disk.Edits (· = d.placeOf p) (IsBeside d (p.resolve d.cwd)) d e :=
        hswept.mono (fun _ h => h.elim) fun _ h => h
      have hground := hd.of_changesOnly hswept.toChangesOnly
      rw [Action.exec_bind_of_ok (Action.exec_get ..)]
      by_cases hwritable : (!e.isWritable (journal (p.resolve d.cwd))) = true
      · simp only [hwritable, if_true]
        exact hfail e _ hswept
      simp only [hwritable, Bool.false_eq_true, if_false]
      have hjournal : Disk.Edits (· = d.placeOf p) (IsBeside d (p.resolve d.cwd)) d
          ((Disk.discardFile (journal (p.resolve d.cwd))).exec e).2 := by
        have hgone := Disk.edits_discardFile hground (isNamed_journal (p.resolve d.cwd))
        rw [hswept.placeOf] at hgone
        exact hswept.trans (hgone.mono (fun _ h => h.elim) fun _ => Or.inl)
      refine Action.exec_bind_post post (fun failure f hrun => ?_) fun _ f hrun => ?_
      · rw [hrun] at hjournal
        exact hfail f failure hjournal
      · rw [hrun] at hjournal
        obtain ⟨hwrite, hdata⟩ := Disk.edits_writeFile
          (hd.of_changesOnly hjournal.toChangesOnly) hp (.database [])
        rw [hjournal.placeOf, placeOf_resolve hd] at hwrite hdata
        exact ⟨hjournal.trans (hwrite.mono (fun _ h => h) fun _ h => h.elim), hdata⟩

/-- A database is begun in an empty file where a journal can be written too and nothing but a file
lies in place of the log. -/
lemma exec_begin_of_admits (hd : d.IsGrounded) (h : d.Admits (p.resolve d.cwd))
    (hjournal : d.Admits (journal (p.resolve d.cwd)))
    (hlog : ¬ d.root.HasDirectory (d.placeOf (log (p.resolve d.cwd))))
    (hempty : d.root.dataAt? (d.placeOf p) = some (.bytes ByteArray.empty)) :
    ((begin (.file p .create)).exec d).1 = .ok () := by
  have hfile : d.fileAt (p.resolve d.cwd) = .ok (.bytes ByteArray.empty) := by
    rw [Disk.fileAt_eq_ok_iff h.named, placeOf_resolve hd]
    exact ⟨h.fits, h.reaches, hempty⟩
  rw [begin, Action.exec_bind_of_ok (Action.exec_get ..),
    Action.exec_bind_of_ok (Action.exec_get ..), hfile,
    Action.exec_bind_of_ok (Action.exec_ofExcept ..)]
  have hnothing : (!(FileData.bytes ByteArray.empty).isEmpty) = false := rfl
  have haccess : (Access.create == Access.read) = false := rfl
  simp only [hnothing, haccess, Bool.false_eq_true, if_false]
  obtain ⟨hswept, hok⟩ := exec_sweep hd (p.resolve d.cwd)
  match hrun : (sweep (p.resolve d.cwd)).exec d with
  | (.error failure, e) => simp [hrun, hlog] at hok
  | (.ok _, e) =>
    rw [hrun] at hswept
    rw [Action.exec_bind_of_ok hrun, Action.exec_bind_of_ok (Action.exec_get ..)]
    simp only [isWritable_of_admits (hswept.admits hjournal), Bool.not_true, Bool.false_eq_true,
      if_false]
    obtain ⟨f, hdiscard, hgone, -⟩ :=
      Disk.exec_discardFile_of_admits (hswept.admits hjournal)
    rw [Action.exec_bind_of_ok hdiscard]
    obtain ⟨g, hwrite, -, -⟩ :=
      Disk.exec_writeFile_of_admits (hgone.admits (hswept.admits h)) (.database [])
    rw [hwrite]

/-- Filling a database writes its calls. -/
lemma exec_fill_of_admits (hd : d.IsGrounded) (h : d.Admits (p.resolve d.cwd))
    (calls : List Call) :
    ∃ e, (fill calls (.file p access)).exec d = (.ok (), e) ∧
      Disk.Edits (· = d.placeOf p) (fun _ => False) d e ∧
      e.root.dataAt? (d.placeOf p) = some (.database calls) := by
  rw [fill, Action.exec_bind_of_ok (Action.exec_get ..)]
  obtain ⟨e, hrun, hedits, hdata⟩ := Disk.exec_writeFile_of_admits h (.database calls)
  rw [placeOf_resolve hd] at hedits hdata
  exact ⟨e, hrun, hedits, hdata⟩

end Database

end CallGraph

end JavaAtlas
