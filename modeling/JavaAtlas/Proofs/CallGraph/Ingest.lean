import JavaAtlas.Proofs.CallGraph.Batches
import JavaAtlas.Proofs.CallGraph.Database

/-!
# Runs of an ingest

An ingest clears the place of its database and that of the draft, opens the draft, enters the dump
into it and moves it to its place. The clearing ends with nothing at both places or stalls at one
where no file can be written; entering touches the disk only where the draft and what lies beside
it are; and once everything is entered, nothing can fail any more.
-/

namespace JavaAtlas

namespace CallGraph

open Workspace (onDisk exec_onDisk_bind exec_onDisk_bind_of_ok exec_onDisk_bind_of_error)

variable {d e : Disk} {db dump p : Path} {size : Int} {w : Workspace}

/-! ### The place of the draft -/

/-- A path whose text is read as a locator. -/
def IsLocator (p : Path) : Prop := Location.scheme.toList <+: p.text.toList

instance (p : Path) : Decidable (IsLocator p) := inferInstanceAs (Decidable (_ <+: _))

lemma scheme_prefix_of_append {s : List Char} (h : Location.scheme.toList <+: s ++ ".tmp".toList) :
    Location.scheme.toList <+: s := by
  have hscheme : Location.scheme.toList = ['f', 'i', 'l', 'e', ':'] := rfl
  have hsuffix : ".tmp".toList = ['.', 't', 'm', 'p'] := rfl
  rw [hscheme, hsuffix] at h
  rw [hscheme]
  match s with
  | [] | [_] | [_, _] | [_, _, _] | [_, _, _, _] => simp [List.cons_prefix_cons] at h
  | a :: b :: c :: x :: y :: rest => simpa [List.cons_prefix_cons] using h

lemma ofPath_draft (hp : db.IsNamed) (h : ¬ IsLocator db) :
    Location.ofPath db.draft = .ok (.file db.draft .create) := by
  have hdraft : ¬ Location.scheme.toList <+: db.draft.text.toList := by
    rw [Path.text_draft hp, String.toList_append]
    exact fun hprefix => h (scheme_prefix_of_append hprefix)
  rw [Location.ofPath, if_neg]
  rwa [List.isPrefixOf_iff_prefix]

/-! ### Clearing -/

/-- A directory has no name of its own, or it lies where its path says. -/
lemma isNamed_of_not_hasDirectory (hd : d.IsGrounded) (hreach : d.Reaches p.parent)
    (h : ¬ d.root.HasDirectory (d.placeOf p)) : p.IsNamed := by
  refine ⟨fun hnil => h ?_, fun hname => h ?_⟩
  · rw [Disk.placeOf, hnil]
    exact hd.directory_start p
  · rcases List.eq_nil_or_concat' p.parts with hnil | ⟨front, last, hparts⟩
    · simp [Path.name, hnil] at hname
    · have hlast : last = ".." := by simpa [Path.name, hparts] using hname
      have hplace : d.placeOf p = (d.placeOf p.parent).dropLast := by
        rw [Disk.placeOf, Disk.placeOf, Path.parent, hparts, hlast, List.dropLast_concat,
          Path.follow_append]
        rfl
      rw [hplace]
      exact Node.hasDirectory_dropLast hreach.directory

/-- Where a draft can be written, so can the file itself, unless it is a directory. -/
lemma admits_of_draft (hd : d.IsGrounded) (hfile : ¬ d.root.HasDirectory (d.placeOf db))
    (h : d.Admits db.draft) : d.Admits db := by
  have hreach : d.Reaches db.parent := Path.draft_parent db ▸ h.reaches
  have hp := isNamed_of_not_hasDirectory hd hreach hfile
  exact ⟨hp, hreach, Path.fits_of_append hp h.fits, hfile⟩

/-- Nothing lies any more where a database and its draft are to be written. -/
structure Clears (db : Path) (d e : Disk) : Prop where
  edits : Disk.Edits (fun _ => False) (fun q => q = d.placeOf db ∨ q = d.placeOf db.draft) d e
  admits : e.Admits db
  admitsDraft : e.Admits db.draft
  gone : e.root.dataAt? (e.placeOf db) = none
  goneDraft : e.root.get? (e.placeOf db.draft) = none

/-- A database or its draft cannot be written, and nothing is left where the database could be. -/
structure Stalls (db : Path) (d e : Disk) : Prop where
  edits : Disk.Edits (fun _ => False) (fun q => q = d.placeOf db ∨ q = d.placeOf db.draft) d e
  refused : ¬ e.Admits db ∨ ¬ e.Admits db.draft
  gone : e.Admits db → e.root.dataAt? (e.placeOf db) = none

/-- The clearing is followed to where it stalls or to a cleared disk. -/
lemma exec_clear_bind {β : Type} (post : Except Failure β → Disk → Prop)
    {next : Action Workspace β} (hd : w.disk.IsGrounded)
    (hstall : ∀ failure e, Stalls db ((Disk.makeDirectories db.parent).exec w.disk).2 e →
      post (.error failure) e)
    (hclear : ∀ w' : Workspace,
      Clears db ((Disk.makeDirectories db.parent).exec w.disk).2 w'.disk →
      post (next.exec w').1 (next.exec w').2.disk) :
    let act : Action Workspace β := do
      onDisk (Disk.makeDirectories db.parent)
      onDisk (Disk.discardFile db)
      onDisk (Disk.discardFile db.draft)
      next
    post (act.exec w).1 (act.exec w).2.disk := by
  intro act
  have hmade := Disk.prepares_makeDirectories hd db.parent
  refine exec_onDisk_bind post (fun failure d hrun => ?_) fun _ d v hrun hv => ?_
  · rw [hrun] at hmade hstall
    have hno : ¬ d.Admits db := fun h => hmade h.isDirectory_parent
    exact hstall failure d ⟨.refl d, Or.inl hno, fun h => absurd h hno⟩
  rw [hrun] at hmade hstall hclear
  subst hv
  by_cases hadmits : v.disk.Admits db
  · obtain ⟨e, hdiscard, hedits, hgone⟩ := Disk.exec_discardFile_of_admits hadmits
    rw [exec_onDisk_bind_of_ok hdiscard]
    replace hadmits := hedits.admits hadmits
    rw [← hedits.placeOf] at hgone
    by_cases hdraft : e.Admits db.draft
    · obtain ⟨f, hdiscard, hedits', hgone'⟩ := Disk.exec_discardFile_of_admits hdraft
      rw [exec_onDisk_bind_of_ok hdiscard]
      refine hclear _ ⟨?_, hedits'.admits hadmits, hedits'.admits hdraft, ?_, ?_⟩
      · rw [hedits.placeOf] at hedits'
        exact (hedits.mono (fun _ h => h) fun _ => Or.inl).trans
          (hedits'.mono (fun _ h => h) fun _ => Or.inr)
      · -- nothing comes back where the database was
        rw [hedits'.placeOf]
        match hdata : f.root.dataAt? (e.placeOf db) with
        | none => rfl
        | some data =>
          have hold := hedits'.old _ data (fun h => h) hdata
          rw [Node.dataAt?_of_none hgone] at hold
          cases hold
      · rwa [hedits'.placeOf]
    · obtain ⟨failure, hdiscard⟩ := Disk.exec_discardFile_of_not_admits
        (Path.draft_parent db ▸ hadmits.reaches) hdraft
      rw [exec_onDisk_bind_of_error hdiscard]
      exact hstall failure e ⟨hedits.mono (fun _ h => h) fun _ => Or.inl, Or.inr hdraft,
        fun _ => Node.dataAt?_of_none hgone⟩
  · obtain ⟨failure, hdiscard⟩ := Disk.exec_discardFile_of_not_admits hmade hadmits
    rw [exec_onDisk_bind_of_error hdiscard]
    exact hstall failure _ ⟨.refl _, Or.inl hadmits, fun h => absurd h hadmits⟩

/-! ### Entering a dump -/

/-- Where opening and filling a database makes a file. -/
def Makes (d : Disk) : Location → List String → Prop
  | .memory, _ => False
  | .file p _, q => q = d.placeOf p

/-- Where beginning a database removes files. -/
def Sweeps (d : Disk) : Location → List String → Prop
  | .memory, _ => False
  | .file p _, q => Database.IsBeside d (p.resolve d.cwd) q

/-- What a dump enters, if it can be read and entered. -/
def enteredFrom? (d : Disk) (dump : Path) : Option (List Call) :=
  (dumpLines d dump).toOption.bind (entered? [] [])

/-- Entering a dump changes the disk as beginning its database does, and what is entered does not
depend on the size of the batches. -/
lemma exec_enterDump (size : Int) (dump : Path) (target : Location) (w : Workspace) :
    ((enterDump size dump target).exec w).2.disk = ((Database.begin target).exec w.disk).2 ∧
      (1 ≤ size → ((enterDump size dump target).exec w).1.toOption =
        ((Database.begin target).exec w.disk).1.toOption.bind fun _ =>
          enteredFrom? ((Database.begin target).exec w.disk).2 dump) := by
  rw [enterDump]
  match hbegin : (Database.begin target).exec w.disk with
  | (.error failure, e) =>
    rw [exec_onDisk_bind_of_error hbegin]
    exact ⟨rfl, fun _ => rfl⟩
  | (.ok _, e) =>
    rw [exec_onDisk_bind_of_ok hbegin, Action.exec_bind_of_ok (Action.exec_get ..)]
    simp only [enteredFrom?]
    match hlines : dumpLines e dump with
    | .error failure =>
      rw [Action.exec_bind_of_error (Action.exec_ofExcept ..)]
      exact ⟨rfl, fun _ => rfl⟩
    | .ok lines =>
      rw [Action.exec_bind_of_ok (Action.exec_ofExcept ..)]
      refine ⟨exec_enterLines_disk size [] 0 [] lines _, fun hsize => ?_⟩
      exact exec_enterLines hsize [] 0 [] lines _ (Int.lt_of_lt_of_le Int.zero_lt_one hsize)

/-- Enter a dump into a database that was opened and move it to its place; the database is
discarded if the dump cannot be entered. -/
def enterAndMove (size : Int) (dump db : Path) (target : Location) : Action Workspace Nat := do
  match ← Action.outcome (enterDump size dump target) with
  | .error e =>
    onDisk (Disk.discardFile db.draft)
    throw e
  | .ok calls =>
    Workspace.report "callgraph" 90 "Building indexes..."
    onDisk (Database.fill calls target)
    onDisk (Disk.moveFile db.draft db)
    Workspace.report "callgraph" 100
      ("Ingested " ++ toString calls.length ++ " call references.")
    return calls.length

/-- Open a draft where nothing lies and go on with it. -/
def openAndEnter (size : Int) (dump db : Path) : Action Workspace Nat := do
  let target ← Action.ofExcept (Location.ofPath db.draft)
  onDisk (Database.openToFill target)
  enterAndMove size dump db target

lemma ingest_eq (size : Int) (dump db : Path) : ingest size dump db = (do
    Workspace.report "callgraph" 0 "Parsing callgraph..."
    onDisk (Disk.makeDirectories db.parent)
    onDisk (Disk.discardFile db)
    onDisk (Disk.discardFile db.draft)
    openAndEnter size dump db) := rfl

/-- An ingest is followed to where its clearing stalls, or it goes on from a cleared disk. -/
lemma exec_ingest (post : Except Failure Nat → Disk → Prop) (hd : w.disk.IsGrounded)
    (hstall : ∀ failure e, Stalls db ((Disk.makeDirectories db.parent).exec w.disk).2 e →
      post (.error failure) e)
    (hclear : ∀ v : Workspace,
      Clears db ((Disk.makeDirectories db.parent).exec w.disk).2 v.disk →
      post ((openAndEnter size dump db).exec v).1 ((openAndEnter size dump db).exec v).2.disk) :
    post ((ingest size dump db).exec w).1 ((ingest size dump db).exec w).2.disk := by
  rw [ingest_eq, Action.exec_bind_of_ok (Workspace.exec_report ..)]
  exact exec_clear_bind post hd hstall hclear

/-! ### The end of an ingest -/

def fillAndMove (calls : List Call) (target : Location) (db : Path) : Action Disk Unit := do
  Database.fill calls target
  Disk.moveFile db.draft db

/-- The last steps, when everything is entered. -/
lemma exec_enterAndMove_of_ok {target : Location} {calls : List Call} {v : Workspace} (db : Path)
    (h : (enterDump size dump target).exec w = (.ok calls, v)) :
    ((enterAndMove size dump db target).exec w).1 =
        (fun _ => calls.length) <$> ((fillAndMove calls target db).exec v.disk).1 ∧
      ((enterAndMove size dump db target).exec w).2.disk =
        ((fillAndMove calls target db).exec v.disk).2 := by
  rw [enterAndMove, Action.exec_bind_of_ok (Action.exec_outcome ..), h, fillAndMove]
  simp only
  obtain ⟨u, hreport, hu⟩ : ∃ u : Workspace,
      (Workspace.report "callgraph" 90 "Building indexes...").exec v = (.ok (), u) ∧
        v.disk = u.disk :=
    ⟨_, Workspace.exec_report .., rfl⟩
  rw [Action.exec_bind_of_ok hreport, hu]
  match hfill : (Database.fill calls target).exec u.disk with
  | (.error failure, d) =>
    rw [exec_onDisk_bind_of_error hfill, Action.exec_bind_of_error hfill]
    exact ⟨rfl, rfl⟩
  | (.ok _, d) =>
    rw [exec_onDisk_bind_of_ok hfill, Action.exec_bind_of_ok hfill]
    match hmove : (Disk.moveFile db.draft db).exec d with
    | (.error failure, e) =>
      rw [exec_onDisk_bind_of_error hmove]
      exact ⟨rfl, rfl⟩
    | (.ok _, e) =>
      rw [exec_onDisk_bind_of_ok hmove]
      exact ⟨rfl, rfl⟩

/-- The last steps, when the dump cannot be entered. -/
lemma exec_enterAndMove_of_error {target : Location} {failure : Failure} {v : Workspace}
    (db : Path) (h : (enterDump size dump target).exec w = (.error failure, v)) :
    ((enterAndMove size dump db target).exec w).1.isOk = false ∧
      ((enterAndMove size dump db target).exec w).2.disk =
        ((Disk.discardFile db.draft).exec v.disk).2 := by
  rw [enterAndMove, Action.exec_bind_of_ok (Action.exec_outcome ..), h]
  simp only
  match hrun : (Disk.discardFile db.draft).exec v.disk with
  | (.error other, d) =>
    rw [exec_onDisk_bind_of_error hrun]
    exact ⟨rfl, rfl⟩
  | (.ok _, d) =>
    rw [exec_onDisk_bind_of_ok hrun]
    exact ⟨rfl, rfl⟩

/-- Whether an ingest fails does not depend on the size of its batches. -/
lemma isOk_ingest {s t : Int} (hs : 1 ≤ s) (ht : 1 ≤ t) (dump db : Path) (w : Workspace) :
    ((ingest s dump db).exec w).1.isOk = ((ingest t dump db).exec w).1.isOk := by
  rw [ingest_eq, ingest_eq]
  apply Action.isOk_bind_congr
  intro _ _
  apply Action.isOk_bind_congr
  intro _ _
  apply Action.isOk_bind_congr
  intro _ _
  apply Action.isOk_bind_congr
  intro _ _
  rw [openAndEnter, openAndEnter]
  apply Action.isOk_bind_congr
  intro target _
  apply Action.isOk_bind_congr
  intro _ v
  obtain ⟨hdisk, hentered⟩ := exec_enterDump s dump target v
  obtain ⟨hdisk', hentered'⟩ := exec_enterDump t dump target v
  have hsame := (hentered hs).trans (hentered' ht).symm
  rw [← hdisk'] at hdisk
  match hrun : (enterDump s dump target).exec v, hrun' : (enterDump t dump target).exec v with
  | (.error _, u), (.error _, u') =>
    rw [(exec_enterAndMove_of_error db hrun).1, (exec_enterAndMove_of_error db hrun').1]
  | (.error _, u), (.ok _, u') => simp [hrun, hrun', Except.toOption] at hsame
  | (.ok _, u), (.error _, u') => simp [hrun, hrun', Except.toOption] at hsame
  | (.ok calls, u), (.ok calls', u') =>
    simp only [hrun, hrun', Except.toOption, Option.some.injEq] at hsame hdisk
    subst hsame
    rw [(exec_enterAndMove_of_ok db hrun).1, (exec_enterAndMove_of_ok db hrun').1, hdisk]

/-- A disk on which a draft was opened, to be moved to where nothing lies. -/
structure Ready (db : Path) (d : Disk) : Prop where
  ground : d.IsGrounded
  admits : d.Admits db
  admitsDraft : d.Admits db.draft
  admitsPath : d.Admits (db.draft.resolve d.cwd)
  gone : d.root.dataAt? (d.placeOf db) = none

lemma Ready.of_edits {removes : List String → Prop} (h : Ready db d)
    (hedits : Disk.Edits (· = d.placeOf db.draft) removes d e) : Ready db e where
  ground := h.ground.of_changesOnly hedits.toChangesOnly
  admits := hedits.admits h.admits
  admitsDraft := hedits.admits h.admitsDraft
  admitsPath := hedits.cwd ▸ hedits.admits h.admitsPath
  gone := by
    rw [hedits.placeOf]
    match hdata : e.root.dataAt? (d.placeOf db) with
    | none => rfl
    | some data =>
      have hne := Disk.placeOf_draft_ne h.admits.named d
      have hold := hedits.old _ data hne hdata
      rw [h.gone] at hold
      cases hold

/-- Once everything is entered, the draft is filled and moved. -/
lemma exec_fillAndMove (h : Ready db d) (calls : List Call) :
    ((fillAndMove calls (.file db.draft .create) db).exec d).1 = .ok () := by
  obtain ⟨e, hfill, hedits, hdata⟩ := Database.exec_fill_of_admits h.ground h.admitsPath calls
  have hready := h.of_edits hedits
  rw [← hedits.placeOf] at hdata
  obtain ⟨f, hmove, -, -⟩ := Disk.exec_moveFile_of_admits hready.admitsDraft hready.admits
    (Disk.placeOf_draft_ne h.admits.named e) hdata
  rw [fillAndMove, Action.exec_bind_of_ok hfill, hmove]

/-- From a draft that was opened, an ingest ends well if the dump can be entered, and otherwise
nothing is left of it. -/
lemma exec_enterAndMove (h : Ready db w.disk) (size : Int) (dump : Path) :
    let r := (enterAndMove size dump db (.file db.draft .create)).exec w
    r.1.isOk = ((enterDump size dump (.file db.draft .create)).exec w).1.isOk ∧
      (r.1.isOk = false →
        Ready db r.2.disk ∧ r.2.disk.root.dataAt? (r.2.disk.placeOf db.draft) = none) := by
  have hentered : Ready db ((enterDump size dump (.file db.draft .create)).exec w).2.disk := by
    rw [(exec_enterDump ..).1]
    exact h.of_edits (Database.exec_begin h.ground db.draft .create).1
  intro r
  match hrun : (enterDump size dump (.file db.draft .create)).exec w with
  | (.ok calls, v) =>
    rw [hrun] at hentered
    obtain ⟨hresult, -⟩ := exec_enterAndMove_of_ok db hrun
    have hok : r.1 = .ok calls.length := by
      rw [hresult, exec_fillAndMove hentered]
      rfl
    rw [hok]
    exact ⟨rfl, fun h => by cases h⟩
  | (.error failure, v) =>
    rw [hrun] at hentered
    obtain ⟨hresult, hdisk⟩ := exec_enterAndMove_of_error db hrun
    refine ⟨hresult, fun _ => ?_⟩
    obtain ⟨e, hdiscard, hedits, hgone⟩ :=
      Disk.exec_discardFile_of_admits hentered.admitsDraft
    have hleft : r.2.disk = e := by
      rw [hdisk, hdiscard]
    rw [hleft, hedits.placeOf]
    refine ⟨hentered.of_edits (hedits.mono (fun _ h => h.elim) fun _ h => h), ?_⟩
    exact Node.dataAt?_of_none hgone

/-! ### Small dumps -/

/-- A workspace with a dump and other entries beside it. -/
def dumped (dump : String) (others : List (String × Node)) : Workspace :=
  .ofDisk {
    root := .directory (("d", .file 0 (.bytes dump.toUTF8)) :: others)
    cwd := []
    nextSerial := 2 }

def callLine (number : String) : String := "1\t1\ta.B:c()\t(VIR)d.E:f()\t" ++ number

def oneCall (number : String) (others : List (String × Node)) : Workspace :=
  dumped (callLine number) others

def plainDump : Path := ⟨"", ["d"]⟩

def plainDb : Path := ⟨"", ["N"]⟩

lemma isGrounded_dumped (dump : String) (others : List (String × Node)) :
    (dumped dump others).disk.IsGrounded where
  up := by simp [dumped, Workspace.ofDisk]
  null := by simp [dumped, Workspace.ofDisk, Disk.hasNull]
  reaches := ⟨rfl, ⟨_, rfl⟩⟩

lemma dataAt?_dumped (dump : String) (others : List (String × Node)) :
    (dumped dump others).disk.root.dataAt? ((dumped dump others).disk.placeOf plainDump) =
      some (.bytes dump.toUTF8) := rfl

end CallGraph

end JavaAtlas
