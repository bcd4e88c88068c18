import JavaAtlas.Proofs.CallGraph.Ingest

/-!
# All or nothing

A failed ingest leaves neither a database nor a draft, unless its path is read as a locator or
turns out to be a directory. Where nothing stands in its way, an ingest fails exactly if a line of
the dump has a number that cannot be entered. Whether it fails never depends on the size of the
batches.
-/

namespace JavaAtlas

namespace CallGraph

open Workspace (onDisk exec_onDisk_bind exec_onDisk_bind_of_ok exec_onDisk_bind_of_error)

variable {d e : Disk} {db dump p : Path} {size : Int} {w : Workspace}

/-! ### What a failed ingest leaves -/

/-- Neither a database nor its draft is there. -/
def NothingLeft (d : Disk) (db : Path) : Prop :=
  d.isFile db ≠ .ok true ∧ d.isFile db.draft ≠ .ok true

lemma nothingLeft_of_none (hd : d.IsGrounded) (h : d.root.dataAt? (d.placeOf db) = none)
    (hdraft : d.root.dataAt? (d.placeOf db.draft) = none) : NothingLeft d db :=
  ⟨fun hfile => (Disk.hasFile_of_isFile hd hfile).data h,
    fun hfile => (Disk.hasFile_of_isFile hd hfile).data hdraft⟩

lemma Stalls.nothingLeft (hd : d.IsGrounded) (h : Stalls db d e)
    (hdir : ¬ d.root.HasDirectory (d.placeOf db)) : NothingLeft e db := by
  have hground := hd.of_changesOnly h.edits.toChangesOnly
  have hdir' : ¬ e.root.HasDirectory (e.placeOf db) := by
    rw [h.edits.placeOf]
    exact fun hlater => hdir (h.edits.made _ hlater)
  constructor
  · intro hfile
    have hthere := Disk.hasFile_of_isFile hground hfile
    exact hthere.data (h.gone hthere.admits)
  · intro hfile
    have hdraft := (Disk.hasFile_of_isFile hground hfile).admits
    rcases h.refused with hno | hno
    · exact hno (admits_of_draft hground hdir' hdraft)
    · exact hno hdraft

/-- The draft that is opened is that of the database. -/
lemma openAndEnter_eq (hp : db.IsNamed) (hplain : ¬ IsLocator db) (w : Workspace) :
    (openAndEnter size dump db).exec w =
      (onDisk (Database.openToFill (.file db.draft .create)) >>= fun _ =>
        enterAndMove size dump db (.file db.draft .create)).exec w := by
  rw [openAndEnter, ofPath_draft hp hplain, Action.exec_bind_of_ok (Action.exec_ofExcept ..)]

lemma Clears.ready (hd : d.IsGrounded) (h : Clears db d e)
    (hpath : e.Admits (db.draft.resolve e.cwd)) : Ready db e where
  ground := hd.of_changesOnly h.edits.toChangesOnly
  admits := h.admits
  admitsDraft := h.admitsDraft
  admitsPath := hpath
  gone := h.gone

/-- After a failure neither a database nor a draft is left. -/
lemma nothingLeft_of_failure (hd : w.disk.IsGrounded) (hplain : ¬ IsLocator db)
    (hdir : ¬ ((Disk.makeDirectories db.parent).exec w.disk).2.root.HasDirectory
      (w.disk.placeOf db))
    (h : ((ingest size dump db).exec w).1.isOk = false) :
    NothingLeft ((ingest size dump db).exec w).2.disk db := by
  have hmade := Disk.confined_makeDirectories w.disk.cwd db.parent w.disk rfl
  have hground := hd.of_changesOnly hmade
  rw [← hmade.placeOf] at hdir
  revert h
  refine exec_ingest (fun r e => r.isOk = false → NothingLeft e db) hd ?_ ?_
  · intro failure e hstall _
    exact hstall.nothingLeft hground hdir
  · intro v hclear
    have hv := hground.of_changesOnly hclear.edits.toChangesOnly
    rw [openAndEnter_eq hclear.admits.named hplain]
    rcases Database.exec_openToFill hv db.draft .create with
      ⟨failure, hopen⟩ | ⟨e, hopen, hpath, -, hedits⟩
    · rw [exec_onDisk_bind_of_error hopen]
      intro _
      exact nothingLeft_of_none hv hclear.gone (Node.dataAt?_of_none hclear.goneDraft)
    · rw [exec_onDisk_bind_of_ok hopen]
      intro hfailed
      have hready : Ready db { v with disk := e }.disk :=
        (hclear.ready hground hpath).of_edits hedits
      obtain ⟨-, hleft⟩ := exec_enterAndMove hready size dump
      obtain ⟨hlast, hdraft⟩ := hleft hfailed
      exact nothingLeft_of_none hlast.ground hlast.gone hdraft

/-! ### Targets that nothing obstructs -/

/-- A database whose directory can be made, with nothing but files where it, its draft and what
lies beside the draft have their places, and with names that are short enough. -/
structure Unobstructed (d : Disk) (db : Path) : Prop where
  plain : ¬ IsLocator db
  fits : (Database.journal db.draft).Fits
  short : Database.hasShortPath d db.draft = true
  parents : ((Disk.makeDirectories db.parent).exec d).1 = .ok ()
  files : ∀ p ∈ [db, db.draft, Database.journal db.draft, Database.log db.draft],
    ¬ ((Disk.makeDirectories db.parent).exec d).2.root.HasDirectory (d.placeOf p)

lemma Unobstructed.admits (hd : d.IsGrounded) (h : Unobstructed d db) :
    ((Disk.makeDirectories db.parent).exec d).2.Admits db ∧
      ((Disk.makeDirectories db.parent).exec d).2.Admits db.draft := by
  have hchange := Disk.confined_makeDirectories d.cwd db.parent d rfl
  have hground := hd.of_changesOnly hchange
  have hreach := Disk.prepares_makeDirectories hd db.parent
  rw [h.parents] at hreach
  have hfiles := h.files
  simp only [← hchange.placeOf, List.forall_mem_cons] at hfiles
  have hdraft : db.draft.Fits := Path.fits_of_append db.isNamed_draft h.fits
  have hnamed := isNamed_of_not_hasDirectory hground hreach hfiles.1
  constructor
  · exact ⟨hnamed, hreach, Path.fits_of_append hnamed hdraft, hfiles.1⟩
  · exact ⟨db.isNamed_draft, by rwa [Path.draft_parent], hdraft, hfiles.2.1⟩

/-- The places that an ingest of a database may change. -/
def IsTouched (d : Disk) (db : Path) (q : List String) : Prop :=
  ∃ p ∈ [db, db.draft, Database.journal db.draft, Database.log db.draft], q = d.placeOf p

lemma isTouched_congr (hcwd : e.cwd = d.cwd) (db : Path) : IsTouched e db = IsTouched d db := by
  funext q
  simp only [IsTouched, Disk.placeOf_congr hcwd]

lemma isTouched_of_isBeside (hd : d.IsGrounded) {q : List String}
    (h : Database.IsBeside d (db.draft.resolve d.cwd) q) : IsTouched d db q := by
  rcases h with rfl | rfl
  · refine ⟨Database.journal db.draft, by simp, ?_⟩
    exact Database.placeOf_beside_resolve hd db.isNamed_draft Database.isNamed_journal
  · refine ⟨Database.log db.draft, by simp, ?_⟩
    exact Database.placeOf_beside_resolve hd db.isNamed_draft Database.isNamed_log

/-- From one disk to another a draft was opened where nothing is in its way, and is empty. -/
structure Opens (db : Path) (d e : Disk) : Prop where
  ready : Ready db e
  changes : Disk.ChangesOnly (IsTouched d db) d e
  files : ∀ p ∈ [db, db.draft, Database.journal db.draft, Database.log db.draft],
    ¬ e.root.HasDirectory (e.placeOf p)
  empty : e.root.dataAt? (e.placeOf db.draft) = some (.bytes ByteArray.empty)

lemma Unobstructed.opens (hd : d.IsGrounded) (h : Unobstructed d db)
    (hclear : Clears db ((Disk.makeDirectories db.parent).exec d).2 e) :
    ∃ f, (Database.openToFill (.file db.draft .create)).exec e = (.ok (), f) ∧ Opens db d f := by
  have hmade := Disk.confined_makeDirectories d.cwd db.parent d rfl
  have hground := hd.of_changesOnly hmade
  have he := hground.of_changesOnly hclear.edits.toChangesOnly
  have hcwd : e.cwd = d.cwd := hclear.edits.cwd.trans hmade.cwd
  have hshort : Database.hasShortPath e db.draft = true := by
    rw [Database.hasShortPath, hcwd]
    exact h.short
  have hpath := Database.admits_resolve he hclear.admitsDraft hshort
  obtain ⟨f, hopen, hempty⟩ :=
    Database.exec_openToFill_of_admits he hpath hshort hclear.goneDraft
  have hedits : Disk.Edits (· = e.placeOf db.draft) (fun _ => False) e f := by
    rcases Database.exec_openToFill he db.draft .create with
      ⟨failure, hopen'⟩ | ⟨f', hopen', -, -, hedits⟩
    · rw [hopen] at hopen'
      cases hopen'
    · rw [hopen] at hopen'
      cases hopen'
      exact hedits
  refine ⟨f, hopen, (hclear.ready hground hpath).of_edits hedits, ?_, ?_, ?_⟩
  · refine (hmade.mono fun _ h => h.elim).trans ?_
    rw [← isTouched_congr hmade.cwd]
    refine (hclear.edits.toChangesOnly.mono ?_).trans ?_
    · rintro q (h | rfl | rfl)
      · exact h.elim
      · exact ⟨db, by simp, rfl⟩
      · exact ⟨db.draft, by simp, rfl⟩
    rw [← isTouched_congr hclear.edits.cwd]
    refine hedits.toChangesOnly.mono ?_
    rintro q (rfl | h)
    · exact ⟨db.draft, by simp, rfl⟩
    · exact h.elim
  · intro p hp hdir
    rw [Disk.placeOf_congr (hedits.cwd.trans hcwd)] at hdir
    exact h.files p hp (hclear.edits.made _ (hedits.made _ hdir))
  · rwa [hedits.placeOf]

/-- The journal of a draft that was opened can be written. -/
lemma Unobstructed.admits_journal (h : Unobstructed d db) (hopens : Opens db d e) :
    e.Admits (Database.journal (db.draft.resolve e.cwd)) := by
  have hshort := h.short
  rw [Database.hasShortPath, ← hopens.changes.cwd, decide_eq_true_eq] at hshort
  refine Database.admits_beside hopens.ready.admitsPath (Database.isNamed_journal _)
    (by decide) ?_ ?_ ?_
  · have : Database.maxPathBytes + "-journal".utf8ByteSize ≤ Disk.maxPathBytes := by decide
    omega
  · have hname := h.fits.name
    have heq : (Database.journal db.draft).name = db.draft.name ++ "-journal" := by
      simp [Database.journal, Database.beside, Path.withName, Path.name]
    rw [heq, String.utf8ByteSize_append] at hname
    rwa [Database.name_resolve db.isNamed_draft]
  · rw [Database.placeOf_beside_resolve hopens.ready.ground db.isNamed_draft
      Database.isNamed_journal]
    exact hopens.files _ (by simp [Database.journal])

lemma Unobstructed.begins (h : Unobstructed d db) (hopens : Opens db d e) :
    ((Database.begin (.file db.draft .create)).exec e).1 = .ok () ∧
      Disk.ChangesOnly (IsTouched d db) d
        ((Database.begin (.file db.draft .create)).exec e).2 := by
  have hground := hopens.ready.ground
  constructor
  · refine Database.exec_begin_of_admits hground hopens.ready.admitsPath (h.admits_journal hopens)
      ?_ hopens.empty
    rw [Database.log, Database.placeOf_beside_resolve hground db.isNamed_draft
      Database.isNamed_log]
    exact hopens.files _ (by simp [Database.log])
  · obtain ⟨hbegun, -⟩ := Database.exec_begin hground db.draft .create
    refine hopens.changes.trans ?_
    rw [← isTouched_congr hopens.changes.cwd]
    refine hbegun.toChangesOnly.mono ?_
    rintro q (rfl | hq)
    · exact ⟨db.draft, by simp, rfl⟩
    · exact isTouched_of_isBeside hground hq

/-! ### When an ingest fails -/

/-- A dump that an ingest does not touch is read as it was. -/
lemma enteredFrom?_of_changesOnly {data : FileData} {touched : List String → Prop}
    (hd : d.IsGrounded) (hchange : Disk.ChangesOnly touched d e)
    (hread : d.fileAt dump = .ok data) (hdump : ¬ touched (d.placeOf dump)) :
    enteredFrom? e dump = entered? [] [] (Text.lines (Text.decodeLossy data.toBytes)) := by
  have hnamed := Disk.isNamed_of_fileAt hd hread
  obtain ⟨hfits, hreach, hdata⟩ := (Disk.fileAt_eq_ok_iff hnamed).mp hread
  have hlater : e.fileAt dump = .ok data := by
    rw [Disk.fileAt_eq_ok_iff hnamed, hchange.placeOf, hchange.files _ hdump]
    exact ⟨hfits, hchange.reaches hreach, hdata⟩
  rw [enteredFrom?, dumpLines, hlater]
  rfl

lemma isSome_entered? (lines : List (List Char)) :
    (entered? [] [] lines).isSome = lines.all canEnter := by
  rw [entered?]
  simp only [List.all_nil, Bool.true_and]
  cases lines.all canEnter <;> rfl

/-- Where nothing is in the way, an ingest ends well if every line can be entered. -/
lemma isOk_ingest_of_unobstructed {data : FileData} (hsize : 1 ≤ size) (hd : w.disk.IsGrounded)
    (hdb : Unobstructed w.disk db) (hread : w.disk.fileAt dump = .ok data)
    (hdump : ¬ IsTouched w.disk db (w.disk.placeOf dump)) :
    ((ingest size dump db).exec w).1.isOk =
      (Text.lines (Text.decodeLossy data.toBytes)).all canEnter := by
  obtain ⟨hadmits, hadmitsDraft⟩ := hdb.admits hd
  refine exec_ingest (fun r _ => r.isOk =
    (Text.lines (Text.decodeLossy data.toBytes)).all canEnter) hd ?_ ?_
  · intro failure e hstall
    rcases hstall.refused with hno | hno
    · exact absurd (hstall.edits.admits hadmits) hno
    · exact absurd (hstall.edits.admits hadmitsDraft) hno
  · intro v hclear
    obtain ⟨e, hopen, hopens⟩ := hdb.opens hd hclear
    obtain ⟨hbegin, hchange⟩ := hdb.begins hopens
    have hready : Ready db { v with disk := e }.disk := hopens.ready
    rw [openAndEnter_eq hclear.admits.named hdb.plain, exec_onDisk_bind_of_ok hopen,
      (exec_enterAndMove hready size dump).1, isOk_eq_isSome, (exec_enterDump ..).2 hsize,
      hbegin, ← isSome_entered?, ← enteredFrom?_of_changesOnly hd hchange hread hdump]
    rfl

/-- An ingest that fails leaves neither a database nor a draft, if its path is no locator and not a
directory. It fails, where nothing is in its way, exactly if some line of the dump has a number
that cannot be entered, and whether it fails is the same for batches of every size. -/
theorem ingest_all_or_nothing (w : Workspace) (dump db : Path) (hd : w.disk.IsGrounded) :
    (¬ IsLocator db →
      ¬ ((Disk.makeDirectories db.parent).exec w.disk).2.root.HasDirectory (w.disk.placeOf db) →
      ∀ (size : Int) (failure : Failure),
        ((ingest size dump db).exec w).1 = .error failure →
        NothingLeft ((ingest size dump db).exec w).2.disk db) ∧
    (∀ data : FileData, Unobstructed w.disk db → w.disk.fileAt dump = .ok data →
      ¬ IsTouched w.disk db (w.disk.placeOf dump) → ∀ size : Int, 1 ≤ size →
        ((∃ failure, ((ingest size dump db).exec w).1 = .error failure) ↔
          ∃ line ∈ Text.lines (Text.decodeLossy data.toBytes), Overflows line)) ∧
    ∀ s t : Int, 1 ≤ s → 1 ≤ t →
      ((ingest s dump db).exec w).1.isOk = ((ingest t dump db).exec w).1.isOk := by
  refine ⟨?_, ?_, ?_⟩
  · intro hplain hdir size failure hfailed
    apply nothingLeft_of_failure hd hplain hdir
    rw [hfailed]
    rfl
  · intro data hdb hread hdump size hsize
    rw [exists_error_iff, isOk_ingest_of_unobstructed hsize hd hdb hread hdump, List.all_eq_false]
    simp only [Bool.not_eq_true, canEnter_eq_false_iff]
  · intro s t hs ht
    exact isOk_ingest hs ht dump db w

/-! ### An ingest that fails, and one that leaves a database -/

lemma unobstructed_oneCall (number : String) :
    Unobstructed (oneCall number []).disk plainDb where
  plain := by decide
  fits := ⟨by decide +kernel, by decide +kernel, by decide +kernel⟩
  short := rfl
  parents := rfl
  files := by
    intro p hp
    apply Disk.not_hasDirectory_of_none
    simp only [List.mem_cons, List.not_mem_nil, or_false] at hp
    rcases hp with rfl | rfl | rfl | rfl <;> rfl

theorem ingest_fails_whole : ∃ data failure,
    Unobstructed (oneCall "9223372036854775808" []).disk plainDb ∧
    (oneCall "9223372036854775808" []).disk.fileAt plainDump = .ok data ∧
    ((ingest 2 plainDump plainDb).exec (oneCall "9223372036854775808" [])).1 = .error failure ∧
    NothingLeft ((ingest 2 plainDump plainDb).exec (oneCall "9223372036854775808" [])).2.disk
      plainDb := by
  obtain ⟨hleft, hfails, -⟩ := ingest_all_or_nothing (oneCall "9223372036854775808" []) plainDump
    plainDb (isGrounded_dumped ..)
  have hdb := unobstructed_oneCall "9223372036854775808"
  have hline : Overflows "1\t1\ta.B:c()\t(VIR)d.E:f()\t9223372036854775808".toList := by
    refine ⟨⟨"a.B", "c", "()"⟩, ⟨"d.E", "f", "()"⟩, "9223372036854775808".toList, ?_, ?_⟩
    · decide +kernel
    · decide +kernel
  have hread : (oneCall "9223372036854775808" []).disk.fileAt plainDump =
      .ok (.bytes "1\t1\ta.B:c()\t(VIR)d.E:f()\t9223372036854775808".toUTF8) := rfl
  have huntouched : ¬ IsTouched (oneCall "9223372036854775808" []).disk plainDb
      ((oneCall "9223372036854775808" []).disk.placeOf plainDump) := by
    rintro ⟨p, hp, h⟩
    simp only [List.mem_cons, List.not_mem_nil, or_false] at hp
    rcases hp with rfl | rfl | rfl | rfl <;> revert h <;> decide +kernel
  obtain ⟨failure, hfailed⟩ := (hfails _ hdb hread huntouched 2 (by decide)).mpr
    ⟨_, by decide +kernel, hline⟩
  exact ⟨_, failure, hdb, hread, hfailed,
    hleft hdb.plain (hdb.files plainDb (by simp)) 2 failure hfailed⟩

set_option maxRecDepth 100000 in
/-- By a path that is read as a locator the database itself is opened in place of the draft, which
cannot be moved then: the ingest fails and leaves its database. -/
theorem failed_ingest_left_database : ∃ failure,
    (oneCall "3" []).disk.isDirectory (Path.parse "file:N#/../N") = .ok false ∧
    ((ingest 2 plainDump (Path.parse "file:N#/../N")).exec (oneCall "3" [])).1 = .error failure ∧
    ((ingest 2 plainDump (Path.parse "file:N#/../N")).exec (oneCall "3" [])).2.disk.isFile
      (Path.parse "file:N#/../N") = .ok true := by
  have hfails : ((ingest 2 plainDump (Path.parse "file:N#/../N")).exec (oneCall "3" [])).1.isOk =
      false := by decide +kernel
  obtain ⟨failure, hfailed⟩ := (exists_error_iff _).mpr hfails
  refine ⟨failure, ?_, hfailed, ?_⟩
  · rfl
  · apply eq_ok_of_toOption
    decide +kernel

end CallGraph

end JavaAtlas
