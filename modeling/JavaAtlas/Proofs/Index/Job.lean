import JavaAtlas.Proofs.Index.Writing
import JavaAtlas.Proofs.Workspace

/-!
# Runs of a build

A build first reads: it changes nothing on the disk, and what it collects depends on the source
files only. Then it writes what it has collected. So a run either fails without a change or ends
as the writing of its contents does.
-/

namespace JavaAtlas

namespace Index

/-! ### Reading without a change -/

/-- Read a file; the number of files between two reports is asked for after each. -/
def readEach (c : Config) (every : Int) (base : Option Path) (d : Disk) (file : Path) :
    Except Failure (Option SourceUnit) := do
  let found ← readSource d c.maskComments file base
  if every == 0 then throw .zeroSize
  return found

/-- Files are read one by one without a change to the disk. -/
lemma exec_readSources (c : Config) (every : Int) (total : Nat) (base : Option Path)
    (processed : Nat) (files : List Path) (w : Workspace) :
    ∃ reports, (readSources c every total base processed files).exec w =
      (files.mapM (readEach c every base w.disk), ⟨w.disk, reports⟩) := by
  induction files generalizing processed w with
  | nil => exact ⟨w.reports, rfl⟩
  | cons file rest ih =>
    rw [readSources, Action.exec_bind_of_ok (Action.exec_get ..), List.mapM_cons, readEach]
    match readSource w.disk c.maskComments file base with
    | .error failure => exact ⟨w.reports, rfl⟩
    | .ok found =>
      rw [Action.exec_bind_of_ok (Action.exec_ofExcept ..), ok_bind]
      by_cases hzero : (every == 0) = true
      · simp only [hzero, if_true]
        exact ⟨w.reports, rfl⟩
      · simp only [hzero, Bool.false_eq_true, if_false, pure_eq_ok, ok_bind]
        -- a report that is made on the way leaves the disk as it is
        have hrest : ∀ made, ∃ reports, Action.exec (do
            return found :: (← readSources c every total base (processed + 1) rest))
              ⟨w.disk, made⟩ = (do
            return found :: (← rest.mapM (readEach c every base w.disk)), ⟨w.disk, reports⟩) := by
          intro made
          obtain ⟨reports, hrun⟩ := ih (processed + 1) ⟨w.disk, made⟩
          refine ⟨reports, ?_⟩
          match hothers : rest.mapM (readEach c every base w.disk) with
          | .error failure =>
            rw [hothers] at hrun
            rw [Action.exec_bind_of_error hrun]
            rfl
          | .ok others =>
            rw [hothers] at hrun
            rw [Action.exec_bind_of_ok hrun]
            rfl
        split
        · rw [Action.exec_bind_of_ok (Workspace.exec_report ..)]
          exact hrest _
        · exact hrest _

lemma mapM_congr {α β : Type} {f g : α → Except Failure β} {xs : List α}
    (h : ∀ x ∈ xs, f x = g x) : xs.mapM f = xs.mapM g := by
  induction xs with
  | nil => rfl
  | cons x xs ih =>
    rw [List.mapM_cons, List.mapM_cons, h x List.mem_cons_self,
      ih fun y hy => h y (List.mem_cons_of_mem _ hy)]

lemma mapM_readSource {c : Config} {every : Int} {base : Option Path} {d : Disk}
    {files : List Path} {units : List (Option SourceUnit)}
    (h : files.mapM (readEach c every base d) = .ok units) :
    files.mapM (fun file => readSource d c.maskComments file base) = .ok units := by
  match files with
  | [] => exact h
  | file :: rest =>
    -- with a file to be read, the number of files between two reports is not zero
    by_cases hzero : (every == 0) = true
    · rw [List.mapM_cons, readEach] at h
      cases hread : readSource d c.maskComments file base with
      | error _ => simp [hread] at h
      | ok _ => simp [hread, hzero] at h
    · rw [← h]
      refine mapM_congr fun file _ => ?_
      rw [readEach]
      simp only [hzero, Bool.false_eq_true, if_false, pure_eq_ok]
      cases readSource d c.maskComments file base <;> rfl

/-! ### Jobs -/

/-- A build to be run: from which roots and versions, and with which configuration. -/
structure Job where
  config : Config
  sizes : Sizes
  generatedAt : String
  primaryRoot : Path
  version : String
  secondaryRoot : Option Path
  secondaryVersion : Option String

/-- The build of the primary sources below a root, with the configuration of the examples. -/
def plainJob (root : Path) (version : String) : Job where
  config := plainConfig
  sizes := .standard
  generatedAt := "now"
  primaryRoot := root
  version := version
  secondaryRoot := none
  secondaryVersion := none

namespace Job

variable (j : Job)

def request : Request :=
  ⟨j.primaryRoot, .str j.version, j.secondaryRoot, Json.ofText? j.secondaryVersion⟩

/-- The outcome of a job on a disk, and the disk it leaves. -/
def run (d : Disk) : Except Failure Summary × Disk :=
  let done := (build j.config j.sizes j.generatedAt j.request).exec (.ofDisk d)
  (done.1, done.2.disk)

/-- The root of a namespace as an absolute path. -/
def root (cwd : List String) : Namespace → Option Path
  | .primary => some (j.primaryRoot.resolve cwd)
  | .secondary => j.secondaryRoot.map (·.resolve cwd)

/-- Where the cache keeps the sources of a namespace. -/
def cacheRoot : Namespace → Option Path
  | .primary => (j.config.primarySourceDir (.str j.version)).toOption
  | .secondary => j.config.secondarySourceDir (Json.ofText? j.secondaryVersion)

/-- The directory that the recorded paths of a namespace start from. -/
def base (cwd : List String) (ns : Namespace) : Option Path :=
  (j.root cwd ns).bind fun root => pathBase cwd root (j.cacheRoot ns)

def files (d : Disk) (ns : Namespace) : Except Failure (List Path) :=
  sourceFilesOf d (j.root d.cwd ns)

def units (d : Disk) (ns : Namespace) : Except Failure (List (Option SourceUnit)) := do
  (← j.files d ns).mapM fun file => readSource d j.config.maskComments file (j.base d.cwd ns)

def packages (d : Disk) (ns : Namespace) : Except Failure Packages := collect <$> j.units d ns

/-- On a disk, a job collects its contents. -/
structure Collects (d : Disk) (k : Contents) : Prop where
  version : k.version = j.version
  secondaryVersion : k.secondaryVersion = j.secondaryVersion
  generatedAt : k.generatedAt = j.generatedAt
  packages : ∀ ns, j.packages d ns = .ok (k.packages ns)

/-- What belongs to the one namespace and what to the other. -/
def ofEach {α : Type} (primary secondary : α) : Namespace → α
  | .primary => primary
  | .secondary => secondary

/-- What a job reads from the files of both namespaces. -/
def readings (d : Disk) : Except Failure (Namespace → List (Option SourceUnit)) := do
  let _ ← absolute d.cwd j.primaryRoot
  let primaryCache ← j.config.primarySourceDir (.str j.version)
  let _ ← absolute d.cwd primaryCache
  let _ ← absoluteSecondary d.cwd j.secondaryRoot
    (j.config.secondarySourceDir (Json.ofText? j.secondaryVersion))
  let primaryFiles ← j.files d .primary
  let secondaryFiles ← j.files d .secondary
  let primary ← primaryFiles.mapM
    (readEach j.config j.sizes.files (j.base d.cwd .primary) d)
  let secondary ← secondaryFiles.mapM
    (readEach j.config j.sizes.files (j.base d.cwd .secondary) d)
  return ofEach primary secondary

def writing (units : Namespace → List (Option SourceUnit)) : Action Disk Unit :=
  writeIndex j.config j.generatedAt (.str j.version) (Json.ofText? j.secondaryVersion)
    (collect (units .primary)) (collect (units .secondary))

def summary (units : Namespace → List (Option SourceUnit)) : Summary where
  version := .str j.version
  secondaryVersion := Json.ofText? j.secondaryVersion
  primary := (collect (units .primary)).names
  secondary := (collect (units .secondary)).names
  typeCount := (collect (units .primary)).typeCount + (collect (units .secondary)).typeCount
  skippedFiles := skippedCount (units .primary) + skippedCount (units .secondary)

/-- How a job goes on after reading: it fails, or the index is written. -/
def conclude (d : Disk) :
    Except Failure (Namespace → List (Option SourceUnit)) → Except Failure Summary × Disk
  | .error failure => (.error failure, d)
  | .ok units =>
    ((fun _ => j.summary units) <$> ((j.writing units).exec d).1, ((j.writing units).exec d).2)

/-- A job ends without a change, or as the writing of what it collects. -/
def Ends (d : Disk) (r : Except Failure Summary) (e : Disk) : Prop :=
  (∃ failure, r = .error failure ∧ e = d) ∨
    ∃ k, j.Collects d k ∧ e = ((k.write j.config).exec d).2 ∧
      match ((k.write j.config).exec d).1 with
      | .ok _ => ∃ summary, r = .ok summary
      | .error failure => r = .error failure

/-- A unit that is read was described from the text of its file. -/
lemma readSource_eq_some {d : Disk} {masked : Bool} {file : Path} {base : Option Path}
    {u : SourceUnit} (h : readSource d masked file base = .ok (some u)) :
    ∃ data, d.fileAt file = .ok data ∧
      Java.parseSource masked (recordedPath file base) (Text.decodeLossy data.toBytes) = some u := by
  rw [readSource] at h
  split at h
  · next data hdata => exact ⟨data, hdata, by simpa using h⟩
  · simp at h
  · simp at h

lemma exists_file_of_unit {d : Disk} {ns : Namespace} {units : List (Option SourceUnit)}
    (h : j.units d ns = .ok units) {u : SourceUnit} (hu : some u ∈ units) :
    ∃ files, j.files d ns = .ok files ∧ ∃ file ∈ files,
      readSource d j.config.maskComments file (j.base d.cwd ns) = .ok (some u) := by
  rw [Job.units] at h
  match hfiles : j.files d ns with
  | .error _ => simp [hfiles] at h
  | .ok files =>
    simp only [hfiles, ok_bind] at h
    obtain ⟨file, hfile, hread⟩ := mem_of_mapM_ok h hu
    exact ⟨files, rfl, file, hfile, hread⟩

/-- What is collected is named by words. -/
lemma tidy_of_units {d : Disk} {ns : Namespace} {units : List (Option SourceUnit)}
    (h : j.units d ns = .ok units) : (collect units).Tidy := by
  refine (Packages.filedFrom_collect units).tidy fun u hu => ?_
  rw [List.mem_filterMap] at hu
  obtain ⟨_, hmem, rfl⟩ := hu
  obtain ⟨-, -, file, -, hread⟩ := j.exists_file_of_unit h hmem
  obtain ⟨data, -, hparse⟩ := readSource_eq_some hread
  obtain ⟨hpackage, hname, -⟩ := Java.parseSource_eq_some hparse
  exact ⟨hpackage, hname⟩

lemma eq_of_absolute {cwd : List String} {p q : Path} (h : absolute cwd p = .ok q) :
    q = p.resolve cwd := by
  rw [absolute] at h
  split at h
  · simp at h
  · simpa using h.symm

lemma eq_of_absoluteSecondary {cwd : List String} {root cacheRoot found : Option Path}
    (h : absoluteSecondary cwd root cacheRoot = .ok found) : found = root.map (·.resolve cwd) := by
  match root with
  | none => simpa [absoluteSecondary] using h.symm
  | some root =>
    rw [absoluteSecondary] at h
    match hroot : absolute cwd root with
    | .error _ => simp [hroot] at h
    | .ok root' =>
      simp only [hroot, ok_bind] at h
      match hcache : absolute cwd (cacheRoot.getD root') with
      | .error _ => simp [hcache] at h
      | .ok _ =>
        simp only [hcache, ok_bind, pure_eq_ok, Except.ok.injEq] at h
        rw [← h, eq_of_absolute hroot]
        rfl

/-- What the units of both namespaces hold. -/
def contentsOf {d : Disk} {units : Namespace → List (Option SourceUnit)}
    (h : ∀ ns, j.units d ns = .ok (units ns)) : Contents where
  version := j.version
  secondaryVersion := j.secondaryVersion
  generatedAt := j.generatedAt
  packages ns := collect (units ns)
  tidy ns := j.tidy_of_units (h ns)

lemma collects_contentsOf {d : Disk} {units : Namespace → List (Option SourceUnit)}
    (h : ∀ ns, j.units d ns = .ok (units ns)) : j.Collects d (j.contentsOf h) :=
  ⟨rfl, rfl, rfl, fun ns => by rw [Job.packages, h ns]; rfl⟩

/-! ### Runs -/

/-- What is left of a build ends as a job does that goes on after reading. -/
def Concludes (act : Action Workspace Summary) (w : Workspace)
    (read : Except Failure (Namespace → List (Option SourceUnit))) : Prop :=
  ((act.exec w).1, (act.exec w).2.disk) = j.conclude w.disk read

section Concludes

variable {j} {α : Type} {w : Workspace}
  {g : α → Except Failure (Namespace → List (Option SourceUnit))}

lemma concludes_ofExcept {r : Except Failure α} {f : α → Action Workspace Summary}
    (h : ∀ a, r = .ok a → j.Concludes (f a) w (g a)) :
    j.Concludes (Action.ofExcept r >>= f) w (r >>= g) := by
  match r with
  | .error failure => rfl
  | .ok a =>
    rw [Concludes, Action.exec_bind_of_ok (Action.exec_ofExcept ..)]
    exact h a rfl

lemma concludes_ite_report {p : Prop} [Decidable p] {stage message : String} {percent : Nat}
    {next : Unit → Action Workspace Summary}
    {read : Except Failure (Namespace → List (Option SourceUnit))}
    (h : ∀ w' : Workspace, w'.disk = w.disk → j.Concludes (next ()) w' read) :
    j.Concludes (if p then Workspace.report stage percent message >>= next else next ()) w
      read := by
  by_cases hp : p
  · rw [if_pos hp, Concludes, Action.exec_bind_of_ok (Workspace.exec_report ..)]
    exact h _ rfl
  · rw [if_neg hp]
    exact h w rfl

lemma concludes_readSources {d : Disk} {every : Int} {total processed : Nat} {base : Option Path}
    {files : List Path} {f : List (Option SourceUnit) → Action Workspace Summary}
    {g : List (Option SourceUnit) → Except Failure (Namespace → List (Option SourceUnit))}
    (hw : w.disk = d)
    (h : ∀ units (w' : Workspace), w'.disk = d → j.Concludes (f units) w' (g units)) :
    j.Concludes (readSources j.config every total base processed files >>= f) w
      (files.mapM (readEach j.config every base d) >>= g) := by
  obtain ⟨reports, hrun⟩ := exec_readSources j.config every total base processed files w
  rw [hw] at hrun
  match hunits : files.mapM (readEach j.config every base d) with
  | .error failure =>
    rw [hunits] at hrun
    rw [Concludes, Action.exec_bind_of_error hrun, hw]
    rfl
  | .ok units =>
    rw [hunits] at hrun
    rw [Concludes, Action.exec_bind_of_ok hrun, hw]
    exact h units ⟨d, reports⟩ rfl

/-- After reading, what is left is to write what was collected. -/
lemma concludes_writing (units : Namespace → List (Option SourceUnit)) (message : String) :
    j.Concludes (do
      Workspace.onDisk (j.writing units)
      Workspace.report "index" 100 message
      return j.summary units) w (.ok units) := by
  rw [Concludes, conclude]
  match hrun : (j.writing units).exec w.disk with
  | (.error failure, e) =>
    rw [Workspace.exec_onDisk_bind_of_error hrun]
    rfl
  | (.ok _, e) =>
    rw [Workspace.exec_onDisk_bind_of_ok hrun]
    rfl

end Concludes

/-- A job reads its sources, and then it fails without a change or writes what it has read. -/
theorem run_eq (d : Disk) : j.run d = j.conclude d (j.readings d) := by
  change j.Concludes (build j.config j.sizes j.generatedAt j.request) (.ofDisk d) (j.readings d)
  rw [build, Concludes, Action.exec_bind_of_ok (Action.exec_get ..)]
  refine concludes_ofExcept fun primaryRoot hroot => ?_
  refine concludes_ofExcept fun primaryCache hcache => ?_
  refine concludes_ofExcept fun _ _ => ?_
  refine concludes_ofExcept fun secondaryRoot hsecondary => ?_
  obtain rfl := eq_of_absolute hroot
  obtain rfl := eq_of_absoluteSecondary hsecondary
  have hbase : some primaryCache = j.cacheRoot .primary :=
    (congrArg Except.toOption hcache).symm
  rw [hbase, Concludes, Action.exec_bind_of_ok (Workspace.exec_report ..),
    Action.exec_bind_of_ok (Action.exec_get ..)]
  refine concludes_ofExcept fun primaryFiles _ => ?_
  rw [Concludes, Action.exec_bind_of_ok (Action.exec_get ..)]
  refine concludes_ofExcept fun secondaryFiles _ => ?_
  rw [Concludes, Action.exec_bind_of_ok (Workspace.exec_report ..)]
  refine concludes_readSources rfl fun primaryUnits w hw => ?_
  refine concludes_ite_report fun w' hw' => ?_
  refine concludes_readSources (hw'.trans hw) fun secondaryUnits w'' _ => ?_
  rw [Concludes, Action.exec_bind_of_ok (Workspace.exec_report ..)]
  exact concludes_writing (ofEach primaryUnits secondaryUnits) _

/-- What is read are the units of the files. -/
lemma units_of_readings {d : Disk} {units : Namespace → List (Option SourceUnit)}
    (h : j.readings d = .ok units) (ns : Namespace) : j.units d ns = .ok (units ns) := by
  rw [readings] at h
  obtain ⟨-, -, h⟩ := bind_eq_ok.mp h
  obtain ⟨primaryCache, -, h⟩ := bind_eq_ok.mp h
  obtain ⟨-, -, h⟩ := bind_eq_ok.mp h
  obtain ⟨-, -, h⟩ := bind_eq_ok.mp h
  obtain ⟨primaryFiles, hprimary, h⟩ := bind_eq_ok.mp h
  obtain ⟨secondaryFiles, hsecondary, h⟩ := bind_eq_ok.mp h
  obtain ⟨primary, hprimaryUnits, h⟩ := bind_eq_ok.mp h
  obtain ⟨secondary, hsecondaryUnits, h⟩ := bind_eq_ok.mp h
  cases h
  cases ns with
  | primary => exact bind_eq_ok.mpr ⟨primaryFiles, hprimary, mapM_readSource hprimaryUnits⟩
  | secondary => exact bind_eq_ok.mpr ⟨secondaryFiles, hsecondary, mapM_readSource hsecondaryUnits⟩

/-- Every run of a job ends without a change or as the writing of what it collects. -/
theorem ends_run (d : Disk) : j.Ends d (j.run d).1 (j.run d).2 := by
  rw [run_eq]
  match hread : j.readings d with
  | .error failure => exact Or.inl ⟨failure, rfl, rfl⟩
  | .ok units =>
    have hunits := j.units_of_readings hread
    refine Or.inr ⟨j.contentsOf hunits, j.collects_contentsOf hunits, rfl, ?_⟩
    change match ((j.writing units).exec d).1 with
      | .ok _ => _
      | .error failure => _
    match hwrite : ((j.writing units).exec d).1 with
    | .ok _ => exact ⟨j.summary units, by simp [conclude, hwrite]⟩
    | .error failure => simp [conclude, hwrite]

end Job

end Index

end JavaAtlas
