import JavaAtlas.CallGraph.Store
import JavaAtlas.Proofs.CallGraph.Counts
import JavaAtlas.Proofs.CallGraph.Ingest

/-!
# Answers from an ingested dump

When an ingest succeeds, its database holds the calls on the lines of the dump, in their order. A
store that opens the database afterwards answers from these calls, unless a change that was not
finished has left something beside the database.
-/

namespace JavaAtlas

namespace CallGraph

open Workspace (onDisk exec_onDisk_bind exec_onDisk_bind_of_ok exec_onDisk_bind_of_error)

variable {d e : Disk} {db dump : Path} {size : Int} {w : Workspace} {calls : List Call}

/-! ### What a store finds -/

namespace Store

lemma exec_calls (d : Disk) (s : Store) :
    (Store.calls d).exec s = match s.handle with
      | some f => (Database.read d f, s)
      | none => match Database.openToRead d s.path with
        | .error failure => (.error failure, s)
        | .ok none => (.error (.callGraphMissing s.path), s)
        | .ok (some f) => (Database.read d f, { s with handle := some f }) := by
  have hread : ∀ f t, (Action.ofExcept (Database.read d f) : Action Store _).exec t =
      (Database.read d f, t) := fun f t => Action.exec_ofExcept _ t
  rw [Store.calls, connect, bind_assoc, Action.exec_bind_of_ok (Action.exec_get ..)]
  match s.handle with
  | some f => exact hread f s
  | none =>
    simp only
    match Database.openToRead d s.path with
    | .error failure => rfl
    | .ok none => rfl
    | .ok (some f) => exact hread f _

/-- What a lookup finds among calls, by values of any kind. -/
def lookupIn (find : List Call → String → String → List MethodRef) (calls : List Call)
    (type name : Json) : Except Failure (List MethodRef) := do
  match ← lookupText 1 type, ← lookupText 2 name with
  | some type, some name => return find calls type name
  | _, _ => return []

lemma exec_lookup (find : List Call → String → String → List MethodRef) (d : Disk)
    (type name : Json) (s : Store) :
    (lookup find d type name).exec s =
      (((Store.calls d).exec s).1 >>= fun calls => lookupIn find calls type name,
        ((Store.calls d).exec s).2) := by
  rw [lookup]
  match hcalls : (Store.calls d).exec s with
  | (.error failure, t) => rw [Action.exec_bind_of_error hcalls, error_bind]
  | (.ok calls, t) =>
    rw [Action.exec_bind_of_ok hcalls, ok_bind, lookupIn]
    match lookupText 1 type, lookupText 2 name with
    | .error failure, _ => rfl
    | .ok _, .error failure => rfl
    | .ok (some _), .ok (some _) => rfl
    | .ok (some _), .ok none => rfl
    | .ok none, .ok _ => rfl

lemma exec_searchMethods (d : Disk) (query limit : Json) (s : Store) :
    (Store.searchMethods d query limit).exec s = match query.textFor "replace" with
      | .error failure => (.error failure, s)
      | .ok text =>
        (((Store.calls d).exec s).1 >>= fun calls => limitOf 5 limit >>= searchIn calls text,
          ((Store.calls d).exec s).2) := by
  rw [Store.searchMethods]
  match query.textFor "replace" with
  | .error failure => rfl
  | .ok text =>
    rw [Action.exec_bind_of_ok (Action.exec_ofExcept ..)]
    match hcalls : (Store.calls d).exec s with
    | (.error failure, t) =>
      rw [Action.exec_bind_of_error hcalls]
      rfl
    | (.ok calls, t) =>
      rw [Action.exec_bind_of_ok hcalls]
      match limitOf 5 limit with
      | .error failure => rfl
      | .ok limit =>
        rw [Action.exec_bind_of_ok (Action.exec_ofExcept ..), Action.exec_ofExcept]
        rfl

lemma exec_stats (d : Disk) (s : Store) :
    (Store.stats d).exec s = match d.doesExist s.path with
      | .error failure => (.error failure, s)
      | .ok false => (.ok none, s)
      | .ok true => ((fun calls => some (statsOf calls)) <$> ((Store.calls d).exec s).1,
          ((Store.calls d).exec s).2) := by
  rw [Store.stats, Action.exec_bind_of_ok (Action.exec_get ..)]
  match d.doesExist s.path with
  | .error failure => rfl
  | .ok false => rfl
  | .ok true =>
    rw [Action.exec_bind_of_ok (Action.exec_ofExcept ..), if_pos rfl]
    match hcalls : (Store.calls d).exec s with
    | (.error failure, t) => rw [Action.exec_bind_of_error hcalls, map_error]
    | (.ok calls, t) => rw [Action.exec_bind_of_ok hcalls, Action.exec_pure, map_ok]

end Store

/-! ### Fresh stores -/

/-- Nothing beside a database keeps it from being read: no journal but a finished one, and no
directory in place of the log. -/
structure Unhindered (d : Disk) (db : Path) : Prop where
  journal : Database.companion d (Database.journal (db.resolve d.cwd)) = .absent ∨
    Database.companion d (Database.journal (db.resolve d.cwd)) = .file 0
  log : Database.companion d (Database.log (db.resolve d.cwd)) ≠ .directory

/-- A database that lies at its path and can be opened. -/
structure Holds (d : Disk) (db : Path) (calls : List Call) : Prop where
  admits : d.Admits db
  short : Database.hasShortPath d db = true
  data : d.root.dataAt? (d.placeOf db) = some (.database calls)

lemma Holds.stat (h : Holds d db calls) : ∃ serial,
    d.root.get? (d.placeOf db) = some (.file serial (.database calls)) ∧
      d.stat db = .ok (some (.file serial (.database calls))) := by
  obtain ⟨serial, hget⟩ := Node.dataAt?_eq_some_iff.mp h.data
  exact ⟨serial, hget, Disk.stat_eq_some_iff.mpr ⟨h.admits.fits.null,
    Disk.locate_eq_ok h.admits.named h.admits.fits h.admits.reaches hget, hget⟩⟩

lemma openToRead_eq_some {serial : Nat} {data : FileData}
    (hstat : d.stat db = .ok (some (.file serial data)))
    (hshort : Database.hasShortPath d db = true) :
    Database.openToRead d db = .ok (some ⟨d.placeOf db, serial⟩) := by
  rw [Database.openToRead, hstat, ok_bind]
  simp only [hshort, Bool.not_true, Bool.false_eq_true, if_false]
  rfl

/-- Only a file is opened. -/
lemma isFile_of_openToRead {f : OpenFile} (h : Database.openToRead d db = .ok (some f)) :
    d.isFile db = .ok true := by
  rw [Database.openToRead] at h
  rcases hstat : d.stat db with failure | _ | ⟨serial, data⟩ | es
  · simp [hstat] at h
  · simp [hstat] at h
  · simp [Disk.isFile, hstat, Except.map, Node.isDirectory]
  · simp only [hstat, ok_bind] at h
    split at h <;> simp at h

lemma Holds.openToRead (h : Holds d db calls) : ∃ serial,
    d.root.get? (d.placeOf db) = some (.file serial (.database calls)) ∧
      Database.openToRead d db = .ok (some ⟨d.placeOf db, serial⟩) := by
  obtain ⟨serial, hget, hstat⟩ := h.stat
  exact ⟨serial, hget, openToRead_eq_some hstat h.short⟩

lemma Unhindered.read {serial : Nat} (h : Unhindered d db)
    (hget : d.root.get? (d.placeOf db) = some (.file serial (.database calls))) :
    Database.read d ⟨d.placeOf db, serial⟩ = .ok calls := by
  have hcontent : d.contentOf ⟨d.placeOf db, serial⟩ = .database calls := by
    simp [Disk.contentOf, hget]
  have hempty : (FileData.database calls).isEmpty = false := rfl
  have hjournal : Database.checkJournal false
      (Database.companion d (Database.journal ⟨"/", d.placeOf db⟩)) = .ok () := by
    rcases h.journal with hnone | hzero
    · rw [← d.resolve_eq, hnone]
      rfl
    · rw [← d.resolve_eq, hzero]
      rfl
  have hlog : Database.checkLog false
      (Database.companion d (Database.log ⟨"/", d.placeOf db⟩)) = .ok () := by
    have hno := h.log
    rw [d.resolve_eq] at hno
    match hcompanion : Database.companion d (Database.log ⟨"/", d.placeOf db⟩) with
    | .absent => rfl
    | .file _ => rfl
    | .directory => exact absurd hcompanion hno
  rw [Database.read]
  simp only [hcontent, hempty, hjournal, hlog, ok_bind]
  rfl

/-- What keeps a database from being read is found beside it. -/
lemma unhindered_of_read {serial : Nat} {found : List Call}
    (hget : d.root.get? (d.placeOf db) = some (.file serial (.database calls)))
    (h : Database.read d ⟨d.placeOf db, serial⟩ = .ok found) : Unhindered d db := by
  have hcontent : d.contentOf ⟨d.placeOf db, serial⟩ = .database calls := by
    simp [Disk.contentOf, hget]
  have hempty : (FileData.database calls).isEmpty = false := rfl
  simp only [Database.read, hcontent, hempty, ← d.resolve_eq] at h
  constructor
  · match hjournal : Database.companion d (Database.journal (db.resolve d.cwd)) with
    | .absent => exact Or.inl rfl
    | .file first =>
      rw [hjournal] at h
      by_cases hzero : first = 0
      · rw [hzero]
        exact Or.inr rfl
      · simp [Database.checkJournal, hzero] at h
    | .directory => simp [hjournal, Database.checkJournal] at h
  · intro hlog
    rw [hlog] at h
    generalize Database.checkJournal _ _ = journal at h
    cases journal <;> simp [Database.checkLog] at h

/-- A store that opens a database finds its calls. -/
lemma exec_calls_fresh (h : Holds d db calls) (hfree : Unhindered d db) :
    ((Store.calls d).exec (.fresh db)).1 = .ok calls := by
  obtain ⟨serial, hget, hopen⟩ := h.openToRead
  rw [Store.exec_calls]
  simp only [Store.fresh, hopen]
  exact hfree.read hget

lemma exec_lookup_fresh (find : List Call → String → String → List MethodRef)
    (h : Holds d db calls) (hfree : Unhindered d db) (type name : String) :
    ((Store.lookup find d (.str type) (.str name)).exec (.fresh db)).1 =
      .ok (find calls type name) := by
  rw [Store.exec_lookup, exec_calls_fresh h hfree]
  rfl

lemma exec_stats_fresh (h : Holds d db calls) (hfree : Unhindered d db) :
    ((Store.stats d).exec (.fresh db)).1 = .ok (some (statsOf calls)) := by
  obtain ⟨serial, hget, -⟩ := h.openToRead
  have hexists : d.doesExist (Store.fresh db).path = .ok true :=
    Disk.doesExist_eq_ok h.admits.named h.admits.fits h.admits.reaches hget
  rw [Store.exec_stats, hexists, exec_calls_fresh h hfree]
  rfl

/-! ### What a successful ingest leaves -/

/-- Where a database is opened, its path is short enough and a file can be written. -/
def Opened (d : Disk) : Location → Prop
  | .memory => True
  | .file p _ => d.Admits (p.resolve d.cwd) ∧ Database.hasShortPath d p = true

lemma exec_openToFill_location (hd : d.IsGrounded) {target : Location}
    (h : (Database.openToFill target).exec d = (.ok (), e)) :
    Opened d target ∧ Disk.Edits (Makes d target) (fun _ => False) d e := by
  match target with
  | .memory =>
    cases h
    exact ⟨trivial, .refl d⟩
  | .file p access =>
    rcases Database.exec_openToFill hd p access with
      ⟨failure, hrun⟩ | ⟨f, hrun, hadmits, hshort, hedits⟩
    · rw [hrun] at h
      cases h
    · rw [hrun] at h
      cases h
      exact ⟨⟨hadmits, hshort⟩, hedits⟩

lemma edits_begin (hd : d.IsGrounded) (target : Location) :
    Disk.Edits (Makes d target) (Sweeps d target) d ((Database.begin target).exec d).2 := by
  match target with
  | .memory => exact .refl d
  | .file p access => exact (Database.exec_begin hd p access).1

/-- Filling a database that was opened leaves its calls wherever a file was made. -/
lemma exec_fill (hd : d.IsGrounded) {target : Location} (hopened : Opened d target)
    (calls : List Call) :
    ∃ e, (Database.fill calls target).exec d = (.ok (), e) ∧
      Disk.Edits (Makes d target) (fun _ => False) d e ∧
      ∀ q, Makes d target q → e.root.dataAt? q = some (.database calls) := by
  match target with
  | .memory => exact ⟨d, rfl, .refl d, fun _ h => h.elim⟩
  | .file p access =>
    obtain ⟨e, hrun, hedits, hdata⟩ := Database.exec_fill_of_admits hd hopened.1 calls
    refine ⟨e, hrun, hedits, ?_⟩
    rintro q rfl
    exact hdata

lemma makes_congr (hcwd : e.cwd = d.cwd) (target : Location) : Makes e target = Makes d target := by
  funext q
  match target with
  | .memory => rfl
  | .file p _ => simp only [Makes, Disk.placeOf_congr hcwd]

lemma makes_unique {target : Location} {q q' : List String} (h : Makes d target q)
    (h' : Makes d target q') : q = q' := by
  match target with
  | .memory => exact h.elim
  | .file p _ => exact h.trans h'.symm

lemma Opened.of_edits {makes removes : List String → Prop} {target : Location}
    (h : Opened d target) (hedits : Disk.Edits makes removes d e) : Opened e target := by
  match target with
  | .memory => trivial
  | .file p access =>
    refine ⟨hedits.cwd ▸ hedits.admits h.1, ?_⟩
    rw [Database.hasShortPath, hedits.cwd]
    exact h.2

lemma hasShortPath_of_draft (hp : db.IsNamed) (h : Database.hasShortPath d db.draft = true) :
    Database.hasShortPath d db = true := by
  rw [Database.hasShortPath, decide_eq_true_eq] at h ⊢
  have hnamed : (db.resolve d.cwd).IsNamed := by
    rw [d.resolve_eq, Disk.placeOf_eq hp]
    refine ⟨by simp, ?_⟩
    simpa [Path.name] using hp.name
  have hdraft : db.draft.resolve d.cwd = (db.resolve d.cwd).draft := by
    rw [d.resolve_eq, Disk.placeOf_draft, Path.draft, Path.withName, Database.name_resolve hp,
      d.resolve_eq, Disk.placeOf_eq hp, List.dropLast_concat]
  rw [hdraft, Path.text_draft hnamed, String.utf8ByteSize_append] at h
  exact Nat.le_trans (Nat.le_add_right _ _) h

lemma hasShortPath_of_makes {target : Location} (hp : db.IsNamed) (hopened : Opened d target)
    (h : Makes d target (d.placeOf db.draft)) : Database.hasShortPath d db = true := by
  match target with
  | .memory => exact h.elim
  | .file p access =>
    apply hasShortPath_of_draft hp
    rw [Database.hasShortPath, d.resolve_eq, h]
    exact hopened.2

/-- A draft that was opened where nothing lay, and can be moved in the end, is what was filled. -/
lemma holds_of_enterAndMove {target : Location} {n : Nat} (hd : d.IsGrounded)
    (hadmits : d.Admits db) (hdraft : d.Admits db.draft)
    (hnone : d.root.dataAt? (d.placeOf db.draft) = none)
    (hopen : (Database.openToFill target).exec d = (.ok (), w.disk))
    (h : ((enterAndMove size dump db target).exec w).1 = .ok n) :
    ∃ calls, ((enterDump size dump target).exec w).1 = .ok calls ∧ n = calls.length ∧
      Makes d target (d.placeOf db.draft) ∧
      Holds ((enterAndMove size dump db target).exec w).2.disk db calls := by
  obtain ⟨hopened, hedits⟩ := exec_openToFill_location hd hopen
  have hbegun := edits_begin (hd.of_changesOnly hedits.toChangesOnly) target
  rw [makes_congr hedits.cwd, ← (exec_enterDump size dump target w).1] at hbegun
  rcases hrun : (enterDump size dump target).exec w with ⟨failure | calls, v⟩
  · have hfails := (exec_enterAndMove_of_error db hrun).1
    rw [h] at hfails
    cases hfails
  · rw [hrun] at hbegun
    have hv := (hd.of_changesOnly hedits.toChangesOnly).of_changesOnly hbegun.toChangesOnly
    obtain ⟨g, hfill, hfilled, hdata⟩ :=
      exec_fill hv ((hopened.of_edits hedits).of_edits hbegun) calls
    rw [makes_congr (hbegun.cwd.trans hedits.cwd)] at hfilled hdata
    obtain ⟨hresult, hdisk⟩ := exec_enterAndMove_of_ok db hrun
    rw [fillAndMove, Action.exec_bind_of_ok hfill] at hresult hdisk
    -- the draft was made by the filling, or there is nothing to be moved
    have hplace : ∀ p, g.placeOf p = d.placeOf p := fun p =>
      (hfilled.placeOf p).trans ((hbegun.placeOf p).trans (hedits.placeOf p))
    have hmoved := hfilled.admits (hbegun.admits (hedits.admits hdraft))
    have htarget := hfilled.admits (hbegun.admits (hedits.admits hadmits))
    have hmakes : Makes d target (d.placeOf db.draft) := by
      by_contra hnot
      cases hthere : g.root.dataAt? (d.placeOf db.draft) with
      | some data =>
        have hold := hedits.old _ data hnot
          (hbegun.old _ data hnot (hfilled.old _ data hnot hthere))
        rw [hnone] at hold
        cases hold
      | none =>
        rw [← hplace] at hthere
        obtain ⟨failure, hmove⟩ := Disk.exec_moveFile_of_none db hmoved hthere
        rw [h, hmove] at hresult
        cases hresult
    have hdraftData := hdata _ hmakes
    rw [← hplace] at hdraftData
    obtain ⟨m, hmove, hchange, hput, -⟩ := Disk.exec_moveFile_of_admits hmoved htarget
      (Disk.placeOf_draft_ne hadmits.named g) hdraftData
    rw [hmove] at hresult hdisk
    rw [h] at hresult
    refine ⟨calls, rfl, Except.ok.inj hresult, hmakes, ?_⟩
    rw [hdisk]
    rw [← hchange.placeOf] at hput
    refine ⟨⟨hadmits.named, hchange.reaches htarget.reaches, hadmits.fits, ?_⟩, ?_, hput⟩
    · exact Disk.not_hasDirectory_of_dataAt? hput
    · have hcwd : m.cwd = d.cwd :=
        hchange.cwd.trans (hfilled.cwd.trans (hbegun.cwd.trans hedits.cwd))
      rw [Database.hasShortPath, hcwd]
      exact hasShortPath_of_makes hadmits.named hopened hmakes

/-- The calls on the lines of a dump, in their order. -/
def callsOf (data : FileData) : List Call :=
  (Text.lines (Text.decodeLossy data.toBytes)).filterMap callOn?

lemma enteredFrom?_eq_some (h : enteredFrom? d dump = some calls) :
    ∃ data, d.root.dataAt? (d.placeOf dump) = some data ∧ calls = callsOf data := by
  rw [enteredFrom?, dumpLines] at h
  cases hread : d.fileAt dump with
  | error failure => simp [hread, Except.map, Except.toOption] at h
  | ok data =>
    refine ⟨data, Disk.dataAt?_of_fileAt hread, ?_⟩
    simp only [hread, Except.map, Except.toOption, Option.bind_some, entered?] at h
    split at h
    · simpa [callsOf] using h.symm
    · cases h

/-- A successful ingest leaves a database that holds the calls of the dump. -/
lemma holds_of_ingest {n : Nat} (hsize : 1 ≤ size) (hd : w.disk.IsGrounded)
    (hdump : w.disk.placeOf dump ≠ w.disk.placeOf db.draft)
    (h : ((ingest size dump db).exec w).1 = .ok n) :
    ∃ data, w.disk.root.dataAt? (w.disk.placeOf dump) = some data ∧ n = (callsOf data).length ∧
      Holds ((ingest size dump db).exec w).2.disk db (callsOf data) := by
  have hmade := Disk.confined_makeDirectories w.disk.cwd db.parent w.disk rfl
  have hground := hd.of_changesOnly hmade
  revert h
  refine exec_ingest (fun r e => r = .ok n → ∃ data,
    w.disk.root.dataAt? (w.disk.placeOf dump) = some data ∧ n = (callsOf data).length ∧
      Holds e db (callsOf data)) hd (fun _ _ _ h => by cases h) ?_
  intro v hclear
  have hv := hground.of_changesOnly hclear.edits.toChangesOnly
  rw [openAndEnter]
  cases Location.ofPath db.draft with
  | error failure => exact fun h => by cases h
  | ok target =>
    rw [Action.exec_bind_of_ok (Action.exec_ofExcept ..)]
    rcases hopen : (Database.openToFill target).exec v.disk with ⟨failure | _, e⟩
    · rw [exec_onDisk_bind_of_error hopen]
      exact fun h => by cases h
    · rw [exec_onDisk_bind_of_ok hopen]
      intro h
      obtain ⟨calls, hentered, rfl, hmakes, hholds⟩ := holds_of_enterAndMove hv hclear.admits
        hclear.admitsDraft (Node.dataAt?_of_none hclear.goneDraft) hopen h
      have hfrom := (exec_enterDump size dump target { v with disk := e }).2 hsize
      rw [hentered] at hfrom
      obtain ⟨_, -, hfrom⟩ := Option.bind_eq_some_iff.mp hfrom.symm
      obtain ⟨data, hdata, rfl⟩ := enteredFrom?_eq_some hfrom
      refine ⟨data, ?_, rfl, hholds⟩
      -- a file other than the draft was there from the beginning
      obtain ⟨-, hedits⟩ := exec_openToFill_location hv hopen
      have hbegun := edits_begin (hv.of_changesOnly hedits.toChangesOnly) target
      rw [makes_congr hedits.cwd] at hbegun
      have hplace : ∀ p, v.disk.placeOf p = w.disk.placeOf p := fun p =>
        (hclear.edits.placeOf p).trans (hmade.placeOf p)
      rw [hbegun.placeOf, hedits.placeOf, hplace] at hdata
      have hnot : ¬ Makes v.disk target (w.disk.placeOf dump) := by
        intro hmade'
        rw [hplace] at hmakes
        exact hdump (makes_unique hmade' hmakes)
      have hold := hclear.edits.old _ data (fun h => h)
        (hedits.old _ data hnot (hbegun.old _ data hnot hdata))
      rwa [hmade.files _ fun h => h] at hold

/-- The message of a failure, nothing for an answer. -/
def messageOf {α : Type} (r : Except Failure α) : String :=
  match r with
  | .ok _ => ""
  | .error failure => failure.message

lemma exists_failure_of_messageOf {α : Type} {r : Except Failure α} {message : String}
    (hne : message ≠ "") (h : messageOf r = message) :
    ∃ failure, r = .error failure ∧ failure.message = message := by
  cases r with
  | ok a => exact absurd h.symm hne
  | error failure => exact ⟨failure, rfl, h⟩

lemma exists_unhindered {n : Nat} {r : Except Failure Nat × Workspace}
    (h : r.1.toOption = some n ∧
      Database.companion r.2.disk (Database.journal (db.resolve r.2.disk.cwd)) = .absent ∧
      Database.companion r.2.disk (Database.log (db.resolve r.2.disk.cwd)) ≠ .directory) :
    ∃ w', r = (.ok n, w') ∧ Unhindered w'.disk db :=
  ⟨r.2, Prod.ext (eq_ok_of_toOption h.1) rfl, Or.inl h.2.1, h.2.2⟩

/-- A dump of three calls, which fill a batch of two and begin another. -/
def threeLines : String :=
  callLine "3" ++ "\n2\t2\ta.B:c()\t(STA)g.H:i()\t4\n3\t3\tj.K:l()\t(VIR)d.E:f()\t5"

def threeCalls : List Call :=
  [⟨⟨"a.B", "c", "()"⟩, ⟨"d.E", "f", "()"⟩, some 3⟩,
    ⟨⟨"a.B", "c", "()"⟩, ⟨"g.H", "i", "()"⟩, some 4⟩,
    ⟨⟨"j.K", "l", "()"⟩, ⟨"d.E", "f", "()"⟩, some 5⟩]

end CallGraph

end JavaAtlas
