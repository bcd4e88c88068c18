import JavaAtlas.Proofs.Disk.Spares
import JavaAtlas.Proofs.Index.Rebuild
import JavaAtlas.Proofs.Index.Settled
import JavaAtlas.Proofs.Index.Sources

/-!
# The same build again

No file of an index is named like a source file, and it takes the place of none, wherever the index
lies. So the second of two builds finds the source files that the first one found, reads the same
from them and writes the same again. Only where it looks for a root can it fail: a root that was
missing may now end in a name that is too long, in a directory that the first build has made.
-/

namespace JavaAtlas

namespace Disk

variable {d e : Disk} {p : Path} {touched : List String → Prop}

/-- What a path that does not lead up finds at its place, or that a name is too long, does not
depend on other files. -/
lemma ChangesOnly.fileAt_eq {serial : Nat} {data : FileData} (h : d.ChangesOnly touched e)
    (hp : p.IsNamed) (hup : ".." ∉ p.parts) (hplace : ¬ touched (d.placeOf p))
    (hget : d.root.get? (d.placeOf p) = some (.file serial data)) : e.fileAt p = d.fileAt p := by
  by_cases hnull : hasNull p = true
  · rw [Disk.fileAt, Disk.fileAt, if_pos hnull, if_pos hnull]
  · rcases locate_of_get? hup hget with hlocate | hlocate
    · have hfile : d.fileAt p = .ok data := by
        rw [Disk.fileAt, if_neg hnull, hlocate]
        simp only [hget]
      rw [hfile]
      exact h.fileAt hp hplace hfile
    · rw [Disk.fileAt, Disk.fileAt, if_neg hnull, if_neg hnull, hlocate,
        locate_tooLong_of_directories h.cwd h.directories hlocate]

/-- Where a path that does not lead up finds no directory, none lies at its place. -/
lemma not_hasDirectory_of_isDirectory (hup : ".." ∉ p.parts) (hnull : hasNull p = false)
    (h : d.isDirectory p = .ok false) : ¬ d.root.HasDirectory (d.placeOf p) := by
  rintro ⟨es, hes⟩
  rw [isDirectory, stat, if_neg (by simp [hnull])] at h
  rcases locate_of_get? hup hes with hlocate | hlocate
  · simp [hlocate, hes, Except.map, Node.isDirectory] at h
  · simp [hlocate, Except.map] at h

end Disk

namespace Index

variable {c : Config} {d d' e : Disk} {p root : Path} {v : Json} {names : List String}
  {ns : Namespace} {package : String} {value : String → Json} {j : Job} {k : Contents}
  {s : Summary} {touched : List String → Prop} {files : List Path} {file : Path}

/-! ### Source files are spared -/

lemma not_isSourceName_append (name : String) {ending : String} (last : Char)
    (hend : ending.toList.getLast? = some last) (hlast : last ≠ 'a') :
    isSourceName (name ++ ending) = false := by
  by_contra hsource
  have hfound := getLast?_of_isSourceName (Bool.of_not_eq_false hsource)
  rw [String.toList_append, List.getLast?_append, hend] at hfound
  exact hlast (by simpa using hfound)

/-- Writing a file that is not named like a source file spares the source files. -/
lemma keeps_writeJson (hp : p.IsEntry) (hname : isSourceName p.name = false) (v : Json) :
    Action.Keeps (Disk.Spares isSourceName d) (writeJson p v) := by
  have hdraft : isSourceName p.draft.name = false := by
    rw [Path.draft_name]
    exact not_isSourceName_append p.name 'p' rfl (by decide)
  have hstore : Action.Keeps (Disk.Spares isSourceName d) (do
      Disk.writeFile p.draft (fileOf v)
      Disk.moveFile p.draft p) := by
    intro e he
    have hwritten := Disk.keeps_writeFile hp.draft.toIsNamed hdraft (fileOf v) e he
    rcases Disk.exec_writeFile hp.draft (fileOf v) e with
      ⟨failure, hwrite⟩ | ⟨f, hwrite, -, hedits, hdata⟩
    · rw [Action.exec_bind_of_error hwrite]
      exact he
    · rw [hwrite] at hwritten
      rw [Action.exec_bind_of_ok hwrite]
      rw [← hedits.placeOf] at hdata
      exact Disk.spares_moveFile hwritten hp.draft.toIsNamed hp.toIsNamed hdraft hname
        (Disk.not_hasDirectory_of_dataAt? hdata)
  rw [writeJson_eq]
  refine .bind (Disk.keeps_makeDirectories _) fun _ => ?_
  exact .ite (.bind (.throw _) fun _ => hstore) hstore

lemma keeps_writeEach (hslash : ∀ package ∈ names, '/' ∉ package.toList) :
    Action.Keeps (Disk.Spares isSourceName d) (writeEach c ns value names) := by
  induction names with
  | nil => exact .pure _
  | cons package names ih =>
    have hhead := hslash package List.mem_cons_self
    rw [writeEach_cons]
    refine .bind (keeps_writeJson (c.isEntry_shardPath ns hhead) ?_ _) fun _ =>
      ih fun p hp => hslash p (List.mem_cons_of_mem _ hp)
    rw [c.shardPath_eq ns hhead]
    simpa [Path.name] using not_isSourceName_append package 'n' rfl (by decide)

/-- Writing an index spares the source files, wherever it lies. -/
lemma Contents.keeps_write (k : Contents) :
    Action.Keeps (Disk.Spares isSourceName d) (k.write c) := by
  have hname : isSourceName c.manifestPath.name = false := by
    rw [c.manifestPath_name]
    exact not_isSourceName_append "manifest" 'n' rfl (by decide)
  have hshards : ∀ ns, Action.Keeps (Disk.Spares isSourceName d)
      (writeEach c ns (k.shardJson ns) (k.packages ns).names) :=
    fun ns => keeps_writeEach fun _ => k.not_mem_slash
  rw [write_eq]
  refine .bind (Disk.keeps_discardFile c.isEntry_manifestPath.toIsNamed hname) fun _ => ?_
  refine .bind (.bind (hshards .primary) fun _ => hshards .secondary) fun _ => ?_
  exact keeps_writeJson c.isEntry_manifestPath hname _

/-! ### Source files are found again -/

lemma sourceFiles_of_null (hnull : Disk.hasNull root = true) (d : Disk) :
    sourceFiles d root = .ok [] := by
  have hdir : d.isDirectory root = .ok false := by
    rw [Disk.isDirectory, Disk.stat, if_pos hnull]
    rfl
  rw [sourceFiles, hdir]
  rfl

/-- Where a root is looked for without a failure, the source files below its place are found. -/
lemma sourceFiles_eq (hup : ".." ∉ root.parts) (hnull : Disk.hasNull root = false)
    (h : (d.isDirectory root).isOk = true) :
    sourceFiles d root = .ok (((d.root.filesAt isSourceName (d.placeOf root)).map fun place =>
      root.join ⟨"", place⟩).mergeSort Path.le) := by
  rw [sourceFiles]
  rcases hdir : d.isDirectory root with _ | _ | _
  · simp [hdir, Except.isOk, Except.toBool] at h
  · -- there is no directory, and nothing lies below
    have hnone := Disk.not_hasDirectory_of_isDirectory hup hnull hdir
    have hempty := Node.filesAt_of_not_directory isSourceName hnone []
    rw [List.append_nil] at hempty
    rw [hempty, List.map_nil, List.mergeSort_nil]
    rfl
  · obtain ⟨-, htext, hreach⟩ := Disk.isDirectory_eq_ok_true_iff.mp hdir
    obtain ⟨es, hes⟩ := hreach.directory
    have hbelow : d.below root = (Node.directory es).descendants := by
      rw [Disk.below, if_neg (by simp [hnull]), Disk.locate, if_neg (Nat.not_lt.mpr htext),
        hreach.walk]
      simp only [hes]
    have hfiles : d.root.filesAt isSourceName (d.placeOf root) =
        (Node.directory es).filesNamed isSourceName := by
      rw [Node.filesAt, hes]
      rfl
    simp only [ok_bind, if_true, hbelow, hfiles, Node.filesNamed, List.map_map]
    rfl

namespace Job

lemma not_mem_root (hd : d.IsGrounded) (h : j.root d.cwd ns = some root) : ".." ∉ root.parts := by
  match ns with
  | .primary =>
    rw [Job.root, Option.some.injEq] at h
    rw [← h, d.resolve_eq]
    exact hd.up_placeOf _
  | .secondary =>
    rw [Job.root, Option.map_eq_some_iff] at h
    obtain ⟨given, -, rfl⟩ := h
    rw [d.resolve_eq]
    exact hd.up_placeOf _

lemma placeOf_root (hd : d.IsGrounded) (h : j.root d.cwd ns = some root) :
    d.placeOf root = root.parts := by
  have hslash := j.root_eq h
  obtain ⟨_, parts⟩ := root
  simp only at hslash
  subst hslash
  exact d.placeOf_absolute (j.not_mem_root hd h)

/-- The roots of a job are looked for without a failure, whether they are there or not. -/
def FindsRoots (j : Job) (d : Disk) : Prop :=
  ∀ ns root, j.root d.cwd ns = some root → (d.isDirectory root).isOk = true

/-- The files of a job are the source files that are listed below the place of its root. -/
lemma files_eq (hd : d.IsGrounded) (hfinds : j.FindsRoots d) (hroot : j.root d.cwd ns = some root) :
    j.files d ns = .ok (if Disk.hasNull root = true then [] else
      ((d.root.filesAt isSourceName root.parts).map fun place =>
        ⟨"/", root.parts ++ place⟩).mergeSort Path.le) := by
  rw [Job.files, hroot]
  change sourceFiles d root = _
  by_cases hnull : Disk.hasNull root = true
  · rw [if_pos hnull, sourceFiles_of_null hnull]
  · have hjoin : ∀ place, root.join ⟨"", place⟩ = ⟨"/", root.parts ++ place⟩ := by
      intro place
      simp [Path.join, Path.isAbsolute, j.root_eq hroot]
    rw [if_neg hnull, sourceFiles_eq (j.not_mem_root hd hroot) (by simpa using hnull)
      (hfinds ns root hroot), j.placeOf_root hd hroot]
    simp only [hjoin]

/-- Each of them lies at the place of its path, which does not lead up. -/
lemma get?_of_mem_files (hd : d.IsProper) (hfinds : j.FindsRoots d)
    (h : j.files d ns = .ok files) (hfile : file ∈ files) :
    ".." ∉ file.parts ∧ ∃ serial data, d.root.get? (d.placeOf file) = some (.file serial data) := by
  obtain ⟨root, _, hroot, -⟩ := mem_files h hfile
  rw [files_eq hd.toIsGrounded hfinds hroot, Except.ok.injEq] at h
  rw [← h] at hfile
  split at hfile
  · cases hfile
  · rw [List.mem_mergeSort, List.mem_map] at hfile
    obtain ⟨place, hplace, rfl⟩ := hfile
    obtain ⟨hbelow, -, hget⟩ := hd.tree.mem_filesAt _ hplace
    have hup : ".." ∉ root.parts ++ place := by
      simp [j.not_mem_root hd.toIsGrounded hroot, hbelow]
    exact ⟨hup, by rwa [d.placeOf_absolute hup]⟩

/-- What spares the source files and changes none of them leaves a job the same sources. -/
lemma sameSources (hd : d.IsProper) (hspared : d.Spares isSourceName e)
    (hchange : d.ChangesOnly touched e)
    (htouched : ∀ place name, isSourceName name = true → ¬ touched (place ++ [name]))
    (hbefore : j.FindsRoots d) (hafter : j.FindsRoots e) : j.SameSources d e where
  cwd := hchange.cwd
  files ns := by
    match hroot : j.root d.cwd ns with
    | none =>
      rw [Job.files, Job.files, hchange.cwd, hroot]
      rfl
    | some root =>
      rw [files_eq hd.toIsGrounded hbefore hroot, files_eq hspared.proper.toIsGrounded hafter
        (hchange.cwd ▸ hroot), hspared.files]
  data ns files hfiles file hfile := by
    have hsource := isSourceName_of_mem_files hfiles hfile
    have hnamed := isNamed_of_isSourceName hsource
    obtain ⟨hup, serial, data, hget⟩ := get?_of_mem_files hd hbefore hfiles hfile
    refine hchange.fileAt_eq hnamed hup ?_ hget
    rw [Disk.placeOf_eq hnamed]
    exact htouched _ _ hsource

/-! ### The second run -/

/-- A run that succeeds has read its sources and written them. -/
lemma exists_readings (h : j.run d = (.ok s, d')) :
    ∃ units, j.readings d = .ok units ∧ (j.writing units).exec d = (.ok (), d') ∧
      s = j.summary units := by
  rw [run_eq] at h
  match hread : j.readings d with
  | .error failure => simp [hread, conclude] at h
  | .ok units =>
    refine ⟨units, rfl, ?_⟩
    rcases hwrite : (j.writing units).exec d with ⟨failure | _, e⟩
    · simp [hread, conclude, hwrite] at h
    · simp only [hread, conclude, hwrite, map_ok, Prod.mk.injEq, Except.ok.injEq] at h
      exact ⟨by rw [← h.2], h.1.symm⟩

lemma findsRoots_of_readings {units : Namespace → List (Option SourceUnit)}
    (h : j.readings d = .ok units) : j.FindsRoots d := by
  intro ns root hroot
  obtain ⟨files, hfiles, -⟩ := bind_eq_ok.mp (j.units_of_readings h ns)
  rw [Job.files, hroot] at hfiles
  obtain ⟨found, hfound, -⟩ := bind_eq_ok.mp (show sourceFiles d root = .ok files from hfiles)
  rw [hfound]
  rfl

/-- Where a root is not looked for without a failure, the job fails without a change. -/
lemma run_of_not_findsRoots (h : ¬ j.FindsRoots d) : ∃ failure, j.run d = (.error failure, d) := by
  match hread : j.readings d with
  | .error failure => exact ⟨failure, by rw [run_eq, hread, conclude]⟩
  | .ok units => exact absurd (findsRoots_of_readings hread) h

/-- A root that is there is found again, and so is one whose names are short. -/
lemma FindsRoots.of_changesOnly (h : j.FindsRoots d) (hchange : d.ChangesOnly touched e)
    (hroots : ∀ ns root, j.root d.cwd ns = some root → d.isDirectory root = .ok true ∨
      ∀ part ∈ root.parts, part.utf8ByteSize ≤ Disk.maxNameBytes) : j.FindsRoots e := by
  intro ns root hroot
  rw [hchange.cwd] at hroot
  match hdir : e.isDirectory root with
  | .ok _ => rfl
  | .error failure =>
    obtain ⟨hnull, hlocate, -⟩ := Disk.isDirectory_eq_error_iff.mp hdir
    rcases hroots ns root hroot with hthere | hshort
    · rw [Disk.isDirectory_eq_ok_true_iff] at hthere
      rw [Disk.isDirectory_eq_ok_true_iff.mpr ⟨hthere.1, hthere.2.1, hchange.reaches hthere.2.2⟩]
        at hdir
      cases hdir
    · -- without a long name, the whole path would be too long, and the first look had failed
      rw [Disk.locate] at hlocate
      split at hlocate
      · next htext =>
        have hfound := h ns root hroot
        rw [Disk.isDirectory_eq_error_iff.mpr
          ⟨hnull, by rw [Disk.locate, if_pos htext], rfl⟩] at hfound
        cases hfound
      · exact absurd hlocate (Disk.walk_ne_tooLong hshort)

/-- Where no directory was made, no root is lost. -/
lemma FindsRoots.of_made (h : j.FindsRoots d) (hcwd : e.cwd = d.cwd)
    (hmade : ∀ q, e.root.HasDirectory q → d.root.HasDirectory q) : j.FindsRoots e := by
  intro ns root hroot
  rw [hcwd] at hroot
  match hdir : e.isDirectory root with
  | .ok _ => rfl
  | .error failure =>
    obtain ⟨hnull, hlocate, -⟩ := Disk.isDirectory_eq_error_iff.mp hdir
    have hbefore := Disk.locate_tooLong_of_directories hcwd.symm hmade hlocate
    have hfound := h ns root hroot
    rw [Disk.isDirectory_eq_error_iff.mpr ⟨hnull, hbefore, rfl⟩] at hfound
    cases hfound

def restamp (j : Job) (stamp : String) : Job := { j with generatedAt := stamp }

/-- An index that was written on one disk was written again, which leads to another disk: only the
manifest was written over, with another time in it. -/
structure Rewritten (c : Config) (k : Contents) (stamp : String) (d e : Disk) : Prop where
  edits : Disk.Edits (· = d.placeOf c.manifestPath) (· = d.placeOf c.manifestPath) d e
  before : Stores d c.manifestPath k.manifestJson
  after : Stores e c.manifestPath (k.restamp stamp).manifestJson

namespace Rewritten

variable {stamp : String} (h : Rewritten c k stamp d e)

include h

lemma dataAt?_eq {q : List String} (hq : q ≠ d.placeOf c.manifestPath) :
    e.root.dataAt? q = d.root.dataAt? q := h.edits.files q (by simpa using hq)

/-- With the same time, the same manifest is written. -/
lemma dataAt?_eq_of_stamp (hstamp : stamp = k.generatedAt) (q : List String) :
    e.root.dataAt? q = d.root.dataAt? q := by
  by_cases hq : q = d.placeOf c.manifestPath
  · have hdata := h.after.data
    rw [h.edits.placeOf, hstamp] at hdata
    rw [hq, hdata]
    exact h.before.data.symm
  · exact h.dataAt?_eq hq

end Rewritten

/-- After a build that succeeds, the same build at another time succeeds again if its roots are
looked for without a failure, with the same result. -/
lemma exists_run_again (hd : d.IsProper) (h : j.run d = (.ok s, d')) (hafter : j.FindsRoots d')
    (stamp : String) : ∃ k e, j.Collects d k ∧ (j.restamp stamp).run d' = (.ok s, e) ∧
      Rewritten j.config k stamp d' e := by
  obtain ⟨units, hread, hwrite, rfl⟩ := exists_readings h
  let k := j.contentsOf (j.units_of_readings hread)
  have hwritten : (k.write j.config).exec d = (.ok (), d') := hwrite
  have hsettled : k.Settled j.config d' := k.settled_write hd.toIsGrounded hwritten
  have hchange := (k.exec_write j.config d).1
  have hspared := k.keeps_write (c := j.config) d (.refl hd)
  rw [hwritten] at hchange hspared
  have hsame : j.SameSources d d' := sameSources hd hspared hchange
    (fun place name hname => k.not_files_of_isSourceName hname) (findsRoots_of_readings hread) hafter
  obtain ⟨e, hagain, hedits, hstored⟩ := k.exec_write_again hsettled stamp
  refine ⟨k, e, j.collects_contentsOf _, ?_, hedits, hsettled.manifest.toStores, hstored⟩
  have hread' : (j.restamp stamp).readings d' = .ok units := hsame.readings.trans hread
  have hagain' : ((j.restamp stamp).writing units).exec d' = (.ok (), e) := hagain
  rw [run_eq, hread', conclude, hagain']
  rfl

/-- After a build that succeeds, the same build succeeds again as long as its roots are looked for
without a failure: it has the same result, and it leaves every directory and every file as it is,
but for the time in the manifest. Otherwise it fails without a change. A root that was there is
found again, and so is any other root whose names are short enough. -/
theorem run_again (hd : d.IsProper) (h : j.run d = (.ok s, d')) (stamp : String) :
    (j.FindsRoots d' → ∃ e, (j.restamp stamp).run d' = (.ok s, e) ∧ e.cwd = d'.cwd ∧
      (∀ q, e.root.HasDirectory q ↔ d'.root.HasDirectory q) ∧
      (∀ q, q ≠ d'.placeOf j.config.manifestPath → e.root.dataAt? q = d'.root.dataAt? q) ∧
      (stamp = j.generatedAt → ∀ q, e.root.dataAt? q = d'.root.dataAt? q) ∧
      ∃ m : Manifest String, loadManifest j.config d' = .ok (some (m.map .str)) ∧
        loadManifest j.config e = .ok (some ({ m with generatedAt := stamp }.map .str))) ∧
    (¬ j.FindsRoots d' → ∃ failure, (j.restamp stamp).run d' = (.error failure, d')) ∧
    ((∀ ns root, j.root d.cwd ns = some root → d.isDirectory root = .ok true ∨
      ∀ part ∈ root.parts, part.utf8ByteSize ≤ Disk.maxNameBytes) → j.FindsRoots d') := by
  refine ⟨fun hafter => ?_, fun hlost => run_of_not_findsRoots (j := j.restamp stamp) hlost, ?_⟩
  · obtain ⟨k, e, hk, hrun, hagain⟩ := exists_run_again hd h hafter stamp
    refine ⟨e, hrun, hagain.edits.cwd, fun q => ⟨hagain.edits.made q, hagain.edits.directories q⟩,
      fun _ => hagain.dataAt?_eq, fun hstamp => ?_, k.manifest, ?_, ?_⟩
    · exact hagain.dataAt?_eq_of_stamp (hstamp.trans hk.generatedAt.symm)
    · exact loadManifest_of_stores _ k hagain.before
    · exact loadManifest_of_stores _ (k.restamp stamp) hagain.after
  · obtain ⟨units, hread, hwrite, -⟩ := exists_readings h
    have hwritten : ((j.contentsOf (j.units_of_readings hread)).write j.config).exec d = (.ok (), d') :=
      hwrite
    have hchange := ((j.contentsOf (j.units_of_readings hread)).exec_write j.config d).1
    rw [hwritten] at hchange
    exact (findsRoots_of_readings hread).of_changesOnly hchange

lemma isProper_smallDisk : smallDisk.IsProper where
  toIsGrounded := ⟨by decide, by decide, rfl, ⟨_, rfl⟩⟩
  tree :=
    have hhome : (Node.directory [("home", .directory [("index", .directory [("primary", .directory
        [("b.json", .file 2 (.bytes "left behind".toUTF8))])])])]).Proper :=
      .single (by decide) (.single (by decide) (.single (by decide) (.single (by decide)
        (.file ..))))
    (hhome.cons (by decide) (by decide) (.single (by decide) (.file ..))).cons (by decide)
      (by decide) (.single (by decide) (.file ..))

theorem run_again_small : ∃ s d', smallJob.run smallDisk = (.ok s, d') ∧
    ∃ e, (smallJob.restamp "later").run d' = (.ok s, e) ∧
      ∀ q, q ≠ ["home", "index", "manifest.json"] → e.root.dataAt? q = d'.root.dataAt? q := by
  obtain ⟨s, d', hrun⟩ := exists_run_small
  obtain ⟨hagain, -, hfinds⟩ := run_again isProper_smallDisk hrun "later"
  have hroots : ∀ ns root, smallJob.root smallDisk.cwd ns = some root →
      smallDisk.isDirectory root = .ok true ∨
        ∀ part ∈ root.parts, part.utf8ByteSize ≤ Disk.maxNameBytes := by
    intro ns root hroot
    cases ns <;> cases hroot <;> exact Or.inr (by decide)
  obtain ⟨e, hrun', -, -, hfiles, -⟩ := hagain (hfinds hroots)
  exact ⟨s, d', hrun, e, hrun', hfiles⟩

/-- A build whose root is missing: its name is too long, and its directory is that of the index. -/
def lostJob : Job :=
  plainJob ⟨"/", ["home", "index", String.ofList (List.replicate 256 'L')]⟩ "1"

set_option maxRecDepth 100000 in
/-- A build that succeeds over a missing root can fail when it is run again. -/
theorem run_again_lost : ∃ s d' failure, bareDisk.IsProper ∧ lostJob.run bareDisk = (.ok s, d') ∧
    lostJob.run d' = (.error failure, d') := by
  have hproper : bareDisk.IsProper := ⟨⟨by decide, by decide, rfl, ⟨_, rfl⟩⟩, .empty⟩
  -- the first build makes the directory in which the root has too long a name
  have hlost : (match lostJob.run bareDisk with
      | (.ok _, d') => !(d'.isDirectory lostJob.primaryRoot).isOk
      | (.error _, _) => false) = true := by
    decide +kernel
  match hrun : lostJob.run bareDisk with
  | (.error failure, d') => simp [hrun] at hlost
  | (.ok s, d') =>
    simp only [hrun, Bool.not_eq_true'] at hlost
    have hroots : ¬ lostJob.FindsRoots d' := by
      intro h
      have hfound := h .primary lostJob.primaryRoot rfl
      rw [hlost] at hfound
      cases hfound
    obtain ⟨failure, hagain⟩ := run_of_not_findsRoots hroots
    exact ⟨s, d', failure, hproper, rfl, hagain⟩

end Job

end Index

end JavaAtlas
