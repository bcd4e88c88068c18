import JavaAtlas.Proofs.CallGraph.Placed

/-!
# Sessions of a call-graph store

A store is rebuilt from dumps, closed and asked in any order, and nobody else touches its database.
Whatever it has opened is the file that lies at its path, and that file holds the calls of the last
rebuild: a query is answered from these calls or fails. After a rebuild that failed nothing is open
and no file is left to be opened.
-/

namespace JavaAtlas

namespace CallGraph

variable {d e : Disk} {db dump : Path} {size : Int} {w : Workspace} {calls : List Call} {α : Type}

namespace Store

variable {s t : Store}

/-! ### Queries -/

/-- A query with its arguments, by the type of its answers. -/
inductive Query : Type → Type
  | callers (type name : Json) : Query (List MethodRef)
  | callees (type name : Json) : Query (List MethodRef)
  | search (query limit : Json) : Query (List MethodRef)
  | stats : Query (Option Stats)

namespace Query

def run : Query α → Disk → Action Store α
  | .callers type name, d => findCallers d type name
  | .callees type name, d => findCallees d type name
  | .search query limit, d => searchMethods d query limit
  | .stats, d => Store.stats d

/-- What the answer is if it comes from some calls and nothing else. -/
def answer : Query α → List Call → Except Failure α
  | .callers type name, calls => lookupIn callersOf calls type name
  | .callees type name, calls => lookupIn calleesOf calls type name
  | .search query limit, calls => do
    let query ← query.textFor "replace"
    searchIn calls query (← limitOf 5 limit)
  | .stats, calls => .ok (some (statsOf calls))

/-- What the answer is if there is no database. -/
def missing : Query α → Path → Except Failure α
  | .callers .., db | .callees .., db => .error (.callGraphMissing db)
  | .search query _, db => do
    let _ ← query.textFor "replace"
    .error (.callGraphMissing db)
  | .stats, _ => .ok none

/-- A store that finds calls answers from them. -/
lemma run_of_ok (hthere : d.doesExist s.path = .ok true)
    (h : ((Store.calls d).exec s).1 = .ok calls) (q : Query α) :
    ((q.run d).exec s).1 = q.answer calls := by
  cases q with
  | callers type name => rw [run, findCallers, exec_lookup, h, ok_bind, answer]
  | callees type name => rw [run, findCallees, exec_lookup, h, ok_bind, answer]
  | search query limit =>
    rw [run, exec_searchMethods, answer]
    cases query.textFor "replace" with
    | error failure => rfl
    | ok text => simp only [h, ok_bind]
  | stats => rw [run, exec_stats, hthere, h, map_ok, answer]

/-- A store that cannot find calls fails, unless it tells that nothing is there. -/
lemma run_of_error {failure : Failure} (hthere : d.doesExist s.path ≠ .ok false)
    (h : ((Store.calls d).exec s).1 = .error failure) (q : Query α) :
    ∃ failure, ((q.run d).exec s).1 = .error failure := by
  cases q with
  | callers type name => exact ⟨failure, by rw [run, findCallers, exec_lookup, h, error_bind]⟩
  | callees type name => exact ⟨failure, by rw [run, findCallees, exec_lookup, h, error_bind]⟩
  | search query limit =>
    rw [run, exec_searchMethods]
    cases query.textFor "replace" with
    | error other => exact ⟨other, rfl⟩
    | ok text => exact ⟨failure, by simp only [h, error_bind]⟩
  | stats =>
    rw [run, exec_stats]
    match hexists : d.doesExist s.path with
    | .error other => exact ⟨other, rfl⟩
    | .ok false => exact absurd hexists hthere
    | .ok true => exact ⟨failure, by rw [h, map_error]⟩

/-- A store at whose path nothing is found tells so. -/
lemma run_of_missing (hgone : d.doesExist s.path = .ok false)
    (h : ((Store.calls d).exec s).1 = .error (.callGraphMissing s.path)) (q : Query α) :
    ((q.run d).exec s).1 = q.missing s.path := by
  cases q with
  | callers type name => rw [run, findCallers, exec_lookup, h, error_bind, missing]
  | callees type name => rw [run, findCallees, exec_lookup, h, error_bind, missing]
  | search query limit =>
    rw [run, exec_searchMethods, missing]
    cases query.textFor "replace" with
    | error failure => rfl
    | ok text => simp only [h, error_bind, ok_bind]
  | stats => rw [run, exec_stats, hgone, missing]

/-- A query leaves a store as it was, or as looking for the calls leaves it. -/
lemma store_run (q : Query α) (d : Disk) (s : Store) :
    ((q.run d).exec s).2 = s ∨ ((q.run d).exec s).2 = ((Store.calls d).exec s).2 := by
  cases q with
  | callers type name =>
    rw [run, findCallers, exec_lookup]
    exact Or.inr rfl
  | callees type name =>
    rw [run, findCallees, exec_lookup]
    exact Or.inr rfl
  | search query limit =>
    rw [run, exec_searchMethods]
    cases query.textFor "replace" with
    | error failure => exact Or.inl rfl
    | ok text => exact Or.inr rfl
  | stats =>
    rw [run, exec_stats]
    match d.doesExist s.path with
    | .error failure => exact Or.inl rfl
    | .ok false => exact Or.inl rfl
    | .ok true => exact Or.inr rfl

end Query

/-! ### Sessions -/

/-- How the last rebuild of a store ended. -/
inductive LastRebuild
  | never
  | succeeded (calls : List Call)
  | failed

/-- The calls on the lines of a file, none if it is not there. -/
def callsAt (d : Disk) (dump : Path) : List Call :=
  match d.root.dataAt? (d.placeOf dump) with
  | some data => callsOf data
  | none => []

def Session.afterQuery (x : Session) (q : Query α) : Session :=
  { x with store := ((q.run x.workspace.disk).exec x.store).2 }

/-- A session with a store on a database that is not there at first. The store is rebuilt, closed
and asked, and anything may change on the disk but what its path leads to. -/
inductive Reached (db : Path) : LastRebuild → Session → Prop
  | start {w : Workspace} (hd : w.disk.IsGrounded)
      (hnothing : ∀ node, w.disk.stat db ≠ .ok (some node)) : Reached db .never ⟨w, fresh db⟩
  | rebuilt {last : LastRebuild} {x y : Session} {size : Int} {dump : Path} {n : Nat}
      (h : Reached db last x) (hsize : 1 ≤ size)
      (hdump : x.workspace.disk.placeOf dump ≠ x.workspace.disk.placeOf db.draft)
      (hrun : (rebuild size dump).exec x = (.ok n, y)) :
      Reached db (.succeeded (callsAt x.workspace.disk dump)) y
  | notRebuilt {last : LastRebuild} {x y : Session} {size : Int} {dump : Path} {failure : Failure}
      (h : Reached db last x) (hrun : (rebuild size dump).exec x = (.error failure, y)) :
      Reached db .failed y
  | closed {last : LastRebuild} {x : Session} (h : Reached db last x) :
      Reached db last { x with store := x.store.close }
  | asked {last : LastRebuild} {x : Session} {α : Type} (h : Reached db last x) (q : Query α) :
      Reached db last (x.afterQuery q)
  | elsewhere {last : LastRebuild} {x : Session} {w : Workspace} (h : Reached db last x)
      (hd : w.disk.IsGrounded) (hcwd : w.disk.cwd = x.workspace.disk.cwd)
      (hstat : w.disk.stat db = x.workspace.disk.stat db) :
      Reached db last { x with workspace := w }

/-- What lies at the path of a store, and what it may have opened, after its last rebuild. -/
def Pinned (d : Disk) (s : Store) : LastRebuild → Prop
  | .succeeded calls => ∃ serial, d.stat s.path = .ok (some (.file serial (.database calls))) ∧
      Database.hasShortPath d s.path = true ∧
      (s.handle = none ∨ s.handle = some ⟨d.placeOf s.path, serial⟩)
  | .never => s.handle = none ∧ d.isFile s.path ≠ .ok true
  | .failed => ¬ IsLocator s.path → s.handle = none ∧ d.isFile s.path ≠ .ok true

/-- What holds in every session. -/
structure Settled (db : Path) (last : LastRebuild) (x : Session) : Prop where
  ground : x.workspace.disk.IsGrounded
  path : x.store.path = db
  pinned : Pinned x.workspace.disk x.store last

lemma exec_rebuild (size : Int) (dump : Path) (x : Session) :
    (rebuild size dump).exec x = (((ingest size dump x.store.path).exec x.workspace).1,
      ⟨((ingest size dump x.store.path).exec x.workspace).2, x.store.close⟩) := rfl

lemma Pinned.of_stat {last : LastRebuild} (h : Pinned d s last) (hcwd : e.cwd = d.cwd)
    (hstat : e.stat s.path = d.stat s.path) : Pinned e s last := by
  have hfile : e.isFile s.path = d.isFile s.path := by rw [Disk.isFile, Disk.isFile, hstat]
  have hshort : Database.hasShortPath e s.path = Database.hasShortPath d s.path := by
    rw [Database.hasShortPath, Database.hasShortPath, hcwd]
  cases last with
  | never => rwa [Pinned, hfile]
  | succeeded calls => rwa [Pinned, hstat, hshort, Disk.placeOf_congr hcwd]
  | failed => rwa [Pinned, hfile]

lemma Pinned.close {last : LastRebuild} (h : Pinned d s last) : Pinned d s.close last := by
  cases last with
  | never => exact ⟨rfl, h.2⟩
  | succeeded calls =>
    obtain ⟨serial, hstat, hshort, -⟩ := h
    exact ⟨serial, hstat, hshort, Or.inl rfl⟩
  | failed => exact fun hplain => ⟨rfl, (h hplain).2⟩

/-- What a store opens is what lies at its path. -/
lemma Pinned.opened {last : LastRebuild} {f : OpenFile} (h : Pinned d s last)
    (hopen : Database.openToRead d s.path = .ok (some f)) :
    Pinned d { s with handle := some f } last := by
  cases last with
  | never => exact absurd (isFile_of_openToRead hopen) h.2
  | succeeded calls =>
    obtain ⟨serial, hstat, hshort, -⟩ := h
    refine ⟨serial, hstat, hshort, Or.inr ?_⟩
    rw [openToRead_eq_some hstat hshort, Except.ok.injEq] at hopen
    exact hopen.symm
  | failed => exact fun hplain => absurd (isFile_of_openToRead hopen) (h hplain).2

lemma Pinned.of_calls {last : LastRebuild} (h : Pinned d s last) :
    Pinned d ((Store.calls d).exec s).2 last ∧ ((Store.calls d).exec s).2.path = s.path := by
  rw [exec_calls]
  match s.handle with
  | some f => exact ⟨h, rfl⟩
  | none =>
    match hopen : Database.openToRead d s.path with
    | .error failure => exact ⟨h, rfl⟩
    | .ok none => exact ⟨h, rfl⟩
    | .ok (some f) => exact ⟨h.opened hopen, rfl⟩

/-- A query opens what looking for the calls opens, if anything. -/
lemma Pinned.asked {last : LastRebuild} (h : Pinned d s last) (q : Query α) :
    Pinned d ((q.run d).exec s).2 last ∧ ((q.run d).exec s).2.path = s.path := by
  rcases q.store_run d s with hsame | hcalls
  · rw [hsame]
    exact ⟨h, rfl⟩
  · rw [hcalls]
    exact h.of_calls

/-! ### What a rebuild leaves -/

/-- After a failure no file is left, whatever directories there are. -/
lemma not_isFile_of_failure (hd : w.disk.IsGrounded) (hplain : ¬ IsLocator db)
    (h : ((ingest size dump db).exec w).1.isOk = false) :
    ((ingest size dump db).exec w).2.disk.isFile db ≠ .ok true := by
  by_cases hdir : ((Disk.makeDirectories db.parent).exec w.disk).2.root.HasDirectory
      (w.disk.placeOf db)
  · -- a directory that was made in place of the database is not removed
    have hmade := Disk.confined_makeDirectories w.disk.cwd db.parent w.disk rfl
    have hstays : ((ingest size dump db).exec w).2.disk.root.HasDirectory
        (w.disk.placeOf db) := by
      refine exec_ingest (fun _ e => e.root.HasDirectory (w.disk.placeOf db)) hd ?_ ?_
      · exact fun _ e hstall => hstall.edits.directories _ hdir
      · intro v hclear
        have hstill := hclear.edits.directories _ hdir
        rw [← hmade.placeOf, ← hclear.edits.placeOf] at hstill
        exact absurd hstill hclear.admits.file
    intro hfile
    have hground := hd.of_changesOnly (changesOnly_touches size dump db hd)
    have hplace := (changesOnly_touches size dump db hd).placeOf db
    exact (Disk.hasFile_of_isFile hground hfile).admits.file (hplace ▸ hstays)
  · exact (nothingLeft_of_failure hd hplain hdir h).1

lemma Settled.rebuilt {last : LastRebuild} {x : Session} {n : Nat} (h : Settled db last x)
    (hsize : 1 ≤ size)
    (hdump : x.workspace.disk.placeOf dump ≠ x.workspace.disk.placeOf db.draft)
    (hrun : ((rebuild size dump).exec x).1 = .ok n) :
    Settled db (.succeeded (callsAt x.workspace.disk dump)) ((rebuild size dump).exec x).2 := by
  have hpath := h.path
  subst hpath
  rw [exec_rebuild] at hrun ⊢
  obtain ⟨data, hdata, -, hholds⟩ := holds_of_ingest hsize h.ground hdump hrun
  obtain ⟨serial, -, hstat⟩ := hholds.stat
  have hcalls : callsAt x.workspace.disk dump = callsOf data := by rw [callsAt, hdata]
  rw [hcalls]
  exact ⟨h.ground.of_changesOnly (changesOnly_touches size dump _ h.ground), rfl,
    serial, hstat, hholds.short, Or.inl rfl⟩

lemma Settled.notRebuilt {last : LastRebuild} {x : Session} {failure : Failure}
    (h : Settled db last x) (hrun : ((rebuild size dump).exec x).1 = .error failure) :
    Settled db .failed ((rebuild size dump).exec x).2 := by
  have hpath := h.path
  subst hpath
  rw [exec_rebuild] at hrun ⊢
  refine ⟨h.ground.of_changesOnly (changesOnly_touches size dump _ h.ground), rfl, ?_⟩
  intro hplain
  refine ⟨rfl, not_isFile_of_failure h.ground hplain ?_⟩
  rw [hrun]
  rfl

/-- In every session the store has opened at most the database of the last rebuild. -/
lemma Reached.settled {last : LastRebuild} {x : Session} (h : Reached db last x) :
    Settled db last x := by
  induction h with
  | start hd hnothing =>
    refine ⟨hd, rfl, rfl, fun hfile => ?_⟩
    obtain ⟨serial, data, hstat⟩ := Disk.exists_stat_of_isFile hfile
    exact hnothing _ hstat
  | rebuilt h hsize hdump hrun ih =>
    have hsettled := ih.rebuilt hsize hdump (congrArg Prod.fst hrun)
    rwa [hrun] at hsettled
  | notRebuilt h hrun ih =>
    have hsettled := ih.notRebuilt (congrArg Prod.fst hrun)
    rwa [hrun] at hsettled
  | closed h ih => exact ⟨ih.ground, ih.path, ih.pinned.close⟩
  | asked h q ih =>
    obtain ⟨hpinned, hpath⟩ := ih.pinned.asked q
    exact ⟨ih.ground, hpath.trans ih.path, hpinned⟩
  | elsewhere h hd hcwd hstat ih =>
    refine ⟨hd, ih.path, ih.pinned.of_stat hcwd ?_⟩
    rw [ih.path, hstat]

/-! ### Answers -/

/-- After a rebuild that succeeded a query is answered from its calls, unless something beside the
database keeps it from being read. -/
lemma Pinned.run_of_succeeded (h : Pinned d s (.succeeded calls)) (q : Query α) :
    (Unhindered d s.path → ((q.run d).exec s).1 = q.answer calls) ∧
      (¬ Unhindered d s.path → ∃ failure, ((q.run d).exec s).1 = .error failure) := by
  obtain ⟨serial, hstat, hshort, hhandle⟩ := h
  obtain ⟨-, -, hget⟩ := Disk.stat_eq_some_iff.mp hstat
  have hthere : d.doesExist s.path = .ok true := by rw [Disk.doesExist, hstat]; rfl
  have hcalls : ((Store.calls d).exec s).1 = Database.read d ⟨d.placeOf s.path, serial⟩ := by
    rw [exec_calls]
    rcases hhandle with hnone | hsome
    · simp only [hnone, openToRead_eq_some hstat hshort]
    · simp only [hsome]
  constructor
  · intro hfree
    exact q.run_of_ok hthere (hcalls.trans (hfree.read hget))
  · intro hhindered
    cases hread : Database.read d ⟨d.placeOf s.path, serial⟩ with
    | ok found => exact absurd (unhindered_of_read hget hread) hhindered
    | error failure => exact q.run_of_error (by simp [hthere]) (hcalls.trans hread)

/-- A store that has nothing open, and at whose path no file lies, finds nothing. -/
lemma run_of_not_isFile (hhandle : s.handle = none) (hfile : d.isFile s.path ≠ .ok true)
    (q : Query α) :
    (d.stat s.path = .ok none → ((q.run d).exec s).1 = q.missing s.path) ∧
      (d.stat s.path ≠ .ok none → ∃ failure, ((q.run d).exec s).1 = .error failure) := by
  have hcalls := congrArg Prod.fst (exec_calls d s)
  simp only [hhandle] at hcalls
  constructor
  · intro hgone
    have hexists : d.doesExist s.path = .ok false := by rw [Disk.doesExist, hgone]; rfl
    refine q.run_of_missing hexists ?_
    have hopen : Database.openToRead d s.path = .ok none := by
      rw [Database.openToRead, hgone]
      rfl
    simpa only [hopen] using hcalls
  · intro hthere
    have hexists : d.doesExist s.path ≠ .ok false := by
      rw [Disk.doesExist]
      rcases hstat : d.stat s.path with failure | _ | node
      · simp [Except.map]
      · exact absurd hstat hthere
      · simp [Except.map]
    rcases hopen : Database.openToRead d s.path with failure | _ | f
    · simp only [hopen] at hcalls
      exact q.run_of_error hexists hcalls
    · simp only [hopen] at hcalls
      exact q.run_of_error hexists hcalls
    · exact absurd (isFile_of_openToRead hopen) hfile

def oneCallSession (db : Path) (others : List (String × Node)) : Session :=
  ⟨oneCall "3" others, fresh db⟩

/-- The session after a rebuild in batches of two. -/
def Session.afterRebuild (x : Session) (dump : Path) : Session := ((rebuild 2 dump).exec x).2

/-- The path of a dump that is not there. -/
def missingDump : Path := ⟨"", ["e"]⟩

lemma reached_oneCall (db : Path) (others : List (String × Node))
    (hnothing : ((oneCall "3" others).disk.doesExist db).toOption ≠ some true) :
    Reached db .never (oneCallSession db others) := by
  refine .start (isGrounded_dumped _ others) fun node hnode => hnothing ?_
  rw [Disk.doesExist, hnode]
  rfl

lemma reached_afterRebuild (others : List (String × Node))
    (hnothing : ((oneCall "3" others).disk.doesExist plainDb).toOption ≠ some true)
    (hok : ((rebuild 2 plainDump).exec (oneCallSession plainDb others)).1.toOption = some 1) :
    Reached plainDb (.succeeded [⟨⟨"a.B", "c", "()"⟩, ⟨"d.E", "f", "()"⟩, some 3⟩])
      ((oneCallSession plainDb others).afterRebuild plainDump) := by
  have hcalls : callsAt (oneCall "3" others).disk plainDump =
      [⟨⟨"a.B", "c", "()"⟩, ⟨"d.E", "f", "()"⟩, some 3⟩] := by
    rw [callsAt, oneCall, dataAt?_dumped]
    decide +kernel
  rw [← hcalls]
  refine .rebuilt (reached_oneCall _ _ hnothing) (by decide) ?_
    (Prod.ext (eq_ok_of_toOption hok) rfl)
  change ["d"] ≠ ["N.tmp"]
  decide

end Store

end CallGraph

end JavaAtlas
