import JavaAtlas.Proofs.CallGraph.AllOrNothing
import JavaAtlas.Proofs.CallGraph.Answers

/-!
# The place of an ingested database

An ingest changes no file but its database, the draft and what lies beside the draft. The counts of
a database depend on the place that its path leads to and not on the path.
-/

namespace JavaAtlas

namespace Disk

variable {d e : Disk} {p : Path} {root : Node} {place : List String}

/-- An entry at the place of a path that does not lead up is never said to be missing. -/
lemma doesExist_ne_false {node : Node} (hup : ".." ∉ p.parts) (hnull : hasNull p = false)
    (h : d.root.get? (d.placeOf p) = some node) : d.doesExist p ≠ .ok false := by
  rw [doesExist, stat, hnull]
  rcases locate_of_get? hup h with hlocate | hlocate
  · simp [hlocate, h, Except.map]
  · simp [hlocate, Except.map]

/-- A path that was found missing is not too long. -/
lemma text_le_of_missing (hnull : hasNull p = false) (h : d.doesExist p = .ok false) :
    p.text.utf8ByteSize ≤ maxPathBytes := by
  by_contra htext
  simp [doesExist, stat, locate, hnull, Nat.lt_of_not_le htext, Except.map] at h

/-- Whether a directory is reached depends on the segments that lead to it. -/
lemma Reaches.of_parts {q : Path} (h : d.Reaches p)
    (hstart : d.startOf q = d.startOf p) (hparts : q.parts = p.parts) : d.Reaches q := by
  have hplace : d.placeOf q = d.placeOf p := by rw [placeOf, placeOf, hstart, hparts]
  refine ⟨?_, hplace ▸ h.directory⟩
  rw [hstart, hparts, hplace]
  exact h.walk

end Disk

namespace CallGraph

open Workspace (onDisk exec_onDisk_bind exec_onDisk_bind_of_ok exec_onDisk_bind_of_error)

variable {d e : Disk} {db dump p : Path} {size : Int} {w : Workspace} {calls : List Call}

/-! ### What an ingest changes -/

lemma isTouched_db (d : Disk) (db : Path) : IsTouched d db (d.placeOf db) := ⟨db, by simp, rfl⟩

lemma isTouched_draft (d : Disk) (db : Path) : IsTouched d db (d.placeOf db.draft) :=
  ⟨db.draft, by simp, rfl⟩

/-- All that an ingest may change has the name of its database in front. -/
lemma exists_ending_of_isTouched (hp : db.IsNamed) {q : List String} (h : IsTouched d db q) :
    ∃ ending ∈ ["", ".tmp", ".tmp-journal", ".tmp-wal"],
      q = d.placeOf db.parent ++ [db.name ++ ending] := by
  obtain ⟨p, hmem, rfl⟩ := h
  have hbeside : ∀ ending, (Database.beside db.draft ending).IsNamed →
      d.placeOf (Database.beside db.draft ending) =
        d.placeOf db.parent ++ [db.name ++ (".tmp" ++ ending)] := by
    intro ending hnamed
    rw [Database.placeOf_beside d _ hnamed, Path.draft_parent, Path.draft_name,
      String.append_assoc]
  simp only [List.mem_cons, List.not_mem_nil, or_false] at hmem
  rcases hmem with rfl | rfl | rfl | rfl
  · exact ⟨"", by simp, by rw [Disk.placeOf_eq hp, String.append_empty]⟩
  · exact ⟨".tmp", by simp, Disk.placeOf_draft d db⟩
  · exact ⟨".tmp-journal", by simp, hbeside _ (Database.isNamed_journal _)⟩
  · exact ⟨".tmp-wal", by simp, hbeside _ (Database.isNamed_log _)⟩

/-- The places where an ingest may make or remove a file: those of its database and of the draft,
and where the draft is opened. -/
def Touches (d : Disk) (db : Path) (q : List String) : Prop :=
  q = d.placeOf db ∨ q = d.placeOf db.draft ∨
    ∃ target, db.IsNamed ∧ Location.ofPath db.draft = .ok target ∧
      (Makes d target q ∨ Sweeps d target q)

lemma sweeps_congr (hcwd : e.cwd = d.cwd) (target : Location) :
    Sweeps e target = Sweeps d target := by
  funext q
  match target with
  | .memory => rfl
  | .file p _ => simp only [Sweeps, Database.IsBeside, Disk.placeOf_congr hcwd, hcwd]

/-- Opening a draft makes no file but the draft. -/
lemma edits_openToFill (hd : d.IsGrounded) (target : Location) :
    Disk.Edits (Makes d target) (fun _ => False) d ((Database.openToFill target).exec d).2 := by
  match target with
  | .memory => exact .refl d
  | .file p access =>
    rcases Database.exec_openToFill hd p access with ⟨failure, hrun⟩ | ⟨e, hrun, -, -, hedits⟩
    · rw [hrun]
      exact .refl d
    · rw [hrun]
      exact hedits

/-- Moving a draft to the place of its database changes nothing else. -/
lemma changesOnly_moveDraft (hadmits : d.Admits db) (hdraft : d.Admits db.draft) :
    Disk.ChangesOnly (fun q => q = d.placeOf db ∨ q = d.placeOf db.draft) d
      ((Disk.moveFile db.draft db).exec d).2 := by
  cases hdata : d.root.dataAt? (d.placeOf db.draft) with
  | none =>
    obtain ⟨failure, hmove⟩ := Disk.exec_moveFile_of_none db hdraft hdata
    rw [hmove]
    exact .refl d
  | some data =>
    obtain ⟨e, hmove, hmoved, -⟩ := Disk.exec_moveFile_of_admits hdraft hadmits
      (Disk.placeOf_draft_ne hadmits.named d) hdata
    rw [hmove]
    exact hmoved.toChangesOnly

/-- Entering a dump into a draft that was opened, and moving it, changes only what it may. -/
lemma changesOnly_enterAndMove {target : Location} (hd : w.disk.IsGrounded)
    (hopened : Opened w.disk target) (hadmits : w.disk.Admits db)
    (hdraft : w.disk.Admits db.draft) (size : Int) (dump : Path) :
    Disk.ChangesOnly (fun q => (q = w.disk.placeOf db ∨ q = w.disk.placeOf db.draft) ∨
      Makes w.disk target q ∨ Sweeps w.disk target q) w.disk
      ((enterAndMove size dump db target).exec w).2.disk := by
  have hbegun := edits_begin hd target
  rw [← (exec_enterDump size dump target w).1] at hbegun
  match hrun : (enterDump size dump target).exec w with
  | (.error failure, v) =>
    rw [hrun] at hbegun
    have hv := hd.of_changesOnly hbegun.toChangesOnly
    have hgone := (Disk.edits_discardFile hv db.isNamed_draft).toChangesOnly
    rw [hbegun.placeOf] at hgone
    rw [(exec_enterAndMove_of_error db hrun).2]
    refine (hbegun.toChangesOnly.mono fun _ => Or.inr).trans (hgone.mono ?_)
    rintro q (hq | rfl)
    · exact hq.elim
    · exact Or.inl (Or.inr rfl)
  | (.ok calls, v) =>
    rw [hrun] at hbegun
    have hv := hd.of_changesOnly hbegun.toChangesOnly
    obtain ⟨e, hfill, hfilled, -⟩ := exec_fill hv (hopened.of_edits hbegun) calls
    have hmoved := changesOnly_moveDraft (hfilled.admits (hbegun.admits hadmits))
      (hfilled.admits (hbegun.admits hdraft))
    rw [hfilled.placeOf, hfilled.placeOf, hbegun.placeOf, hbegun.placeOf] at hmoved
    rw [makes_congr hbegun.cwd] at hfilled
    rw [(exec_enterAndMove_of_ok db hrun).2, fillAndMove, Action.exec_bind_of_ok hfill]
    refine (hbegun.toChangesOnly.mono fun _ => Or.inr).trans
      ((hfilled.toChangesOnly.mono ?_).trans (hmoved.mono fun _ => Or.inl))
    rintro q (hq | hq)
    · exact Or.inr (Or.inl hq)
    · exact hq.elim

lemma touches_congr (hcwd : e.cwd = d.cwd) (db : Path) : Touches e db = Touches d db := by
  funext q
  simp only [Touches, Disk.placeOf_congr hcwd, makes_congr hcwd, sweeps_congr hcwd]

/-- From a cleared disk an ingest changes what it may touch. -/
lemma changesOnly_openAndEnter (size : Int) (dump : Path) (hd : w.disk.IsGrounded)
    (hadmits : w.disk.Admits db) (hdraft : w.disk.Admits db.draft) :
    Disk.ChangesOnly (Touches w.disk db) w.disk
      ((openAndEnter size dump db).exec w).2.disk := by
  rw [openAndEnter]
  cases hlocation : Location.ofPath db.draft with
  | error failure => exact .refl w.disk
  | ok target =>
    have htarget : ∀ q, Makes w.disk target q ∨ Sweeps w.disk target q → Touches w.disk db q :=
      fun q hq => Or.inr (Or.inr ⟨target, hadmits.named, hlocation, hq⟩)
    have hopening := edits_openToFill hd target
    rw [Action.exec_bind_of_ok (Action.exec_ofExcept ..)]
    rcases hopen : (Database.openToFill target).exec w.disk with ⟨failure | _, e⟩
    all_goals
      rw [hopen] at hopening
      have hchange : Disk.ChangesOnly (Touches w.disk db) w.disk e := by
        refine hopening.toChangesOnly.mono ?_
        rintro q (hq | hq)
        · exact htarget q (Or.inl hq)
        · exact hq.elim
    · rw [exec_onDisk_bind_of_error hopen]
      exact hchange
    · rw [exec_onDisk_bind_of_ok hopen]
      obtain ⟨hopened, -⟩ := exec_openToFill_location hd hopen
      have hentered := changesOnly_enterAndMove (w := { w with disk := e })
        (hd.of_changesOnly hopening.toChangesOnly) (hopened.of_edits hopening)
        (hopening.admits hadmits) (hopening.admits hdraft) size dump
      refine hchange.trans (hentered.mono ?_)
      simp only [makes_congr hchange.cwd, sweeps_congr hchange.cwd,
        Disk.placeOf_congr hchange.cwd]
      rintro q ((rfl | rfl) | hq)
      · exact Or.inl rfl
      · exact Or.inr (Or.inl rfl)
      · exact htarget q hq

/-- An ingest changes no directory, and no file but at the places that it may touch. -/
lemma changesOnly_touches (size : Int) (dump db : Path) (hd : w.disk.IsGrounded) :
    Disk.ChangesOnly (Touches w.disk db) w.disk ((ingest size dump db).exec w).2.disk := by
  have hmade := Disk.confined_makeDirectories w.disk.cwd db.parent w.disk rfl
  have hground := hd.of_changesOnly hmade
  have hcleared : ∀ e, Disk.Edits (fun _ => False) (fun q =>
        q = ((Disk.makeDirectories db.parent).exec w.disk).2.placeOf db ∨
          q = ((Disk.makeDirectories db.parent).exec w.disk).2.placeOf db.draft)
        ((Disk.makeDirectories db.parent).exec w.disk).2 e →
      Disk.ChangesOnly (Touches w.disk db) w.disk e := by
    intro e hedits
    refine (hmade.mono fun _ h => h.elim).trans (hedits.toChangesOnly.mono ?_)
    rw [hmade.placeOf, hmade.placeOf]
    rintro q (hq | rfl | rfl)
    · exact hq.elim
    · exact Or.inl rfl
    · exact Or.inr (Or.inl rfl)
  refine exec_ingest (fun _ e => Disk.ChangesOnly (Touches w.disk db) w.disk e) hd ?_ ?_
  · intro failure e hstall
    exact hcleared e hstall.edits
  · intro v hclear
    have hchange := hcleared v.disk hclear.edits
    refine hchange.trans ?_
    rw [← touches_congr hchange.cwd]
    exact changesOnly_openAndEnter size dump (hground.of_changesOnly hclear.edits.toChangesOnly)
      hclear.admits hclear.admitsDraft

/-- By a path that is no locator an ingest changes only its database, the draft and what lies
beside the draft. -/
lemma changesOnly_ingest (size : Int) (dump : Path) (hd : w.disk.IsGrounded)
    (hplain : ¬ IsLocator db) :
    Disk.ChangesOnly (IsTouched w.disk db) w.disk ((ingest size dump db).exec w).2.disk := by
  refine (changesOnly_touches size dump db hd).mono ?_
  rintro q (rfl | rfl | ⟨target, hnamed, hlocation, htarget⟩)
  · exact isTouched_db w.disk db
  · exact isTouched_draft w.disk db
  · rw [ofPath_draft hnamed hplain, Except.ok.injEq] at hlocation
    subst hlocation
    rcases htarget with rfl | hbeside
    · exact isTouched_draft w.disk db
    · exact isTouched_of_isBeside hd hbeside

/-- A successful ingest leaves a database with as many calls as it tells. -/
lemma exists_holds_of_ingest {n : Nat} (hd : w.disk.IsGrounded) (hplain : ¬ IsLocator db)
    (h : ((ingest size dump db).exec w).1 = .ok n) :
    ∃ calls, n = calls.length ∧ Holds ((ingest size dump db).exec w).2.disk db calls := by
  have hmade := Disk.confined_makeDirectories w.disk.cwd db.parent w.disk rfl
  have hground := hd.of_changesOnly hmade
  revert h
  refine exec_ingest (fun r e => r = .ok n → ∃ calls, n = calls.length ∧ Holds e db calls) hd
    (fun _ _ _ h => by cases h) ?_
  intro v hclear
  have hv := hground.of_changesOnly hclear.edits.toChangesOnly
  rw [openAndEnter_eq hclear.admits.named hplain]
  match hopen : (Database.openToFill (.file db.draft .create)).exec v.disk with
  | (.error failure, e) =>
    rw [exec_onDisk_bind_of_error hopen]
    exact fun h => by cases h
  | (.ok _, e) =>
    rw [exec_onDisk_bind_of_ok hopen]
    intro h
    obtain ⟨calls, -, hcount, -, hholds⟩ := holds_of_enterAndMove hv hclear.admits
      hclear.admitsDraft (Node.dataAt?_of_none hclear.goneDraft) hopen h
    exact ⟨calls, hcount, hholds⟩

/-! ### Counts -/

/-- What a fresh store finds is read from the file that its path leads to. -/
lemma calls_fresh (d : Disk) (db : Path) :
    ((Store.calls d).exec (.fresh db)).1 = (Database.openToRead d db >>= fun
      | none => .error (.callGraphMissing db)
      | some f => Database.read d f) := by
  rw [Store.exec_calls]
  simp only [Store.fresh]
  rcases Database.openToRead d db with failure | _ | f <;> rfl

/-- A fresh store counts what it finds, if anything lies at its path. -/
lemma stats_fresh (d : Disk) (db : Path) :
    ((Store.stats d).exec (.fresh db)).1 = (d.doesExist db >>= fun
      | false => .ok none
      | true => (fun calls => some (statsOf calls)) <$>
          ((Store.calls d).exec (.fresh db)).1) := by
  rw [Store.exec_stats]
  simp only [Store.fresh]
  rcases d.doesExist db with failure | _ | _ <;> rfl

/-- A store tells that there is no database exactly if nothing is found at its path. -/
lemma stats_eq_none_iff :
    ((Store.stats d).exec (.fresh db)).1 = .ok none ↔ d.doesExist db = .ok false := by
  rw [stats_fresh]
  match d.doesExist db with
  | .error failure => simp
  | .ok false => simp
  | .ok true =>
    match ((Store.calls d).exec (.fresh db)).1 with
    | .error failure => simp
    | .ok calls => simp

/-- A store that tells counts has read them from a file at the place of its path. -/
lemma dataAt?_of_stats {stats : Stats}
    (h : ((Store.stats d).exec (.fresh db)).1 = .ok (some stats)) :
    Disk.hasNull db = false ∧ ∃ data, d.root.dataAt? (d.placeOf db) = some data := by
  have hopen : ∃ f, Database.openToRead d db = .ok (some f) := by
    rw [stats_fresh, calls_fresh] at h
    rcases hexists : d.doesExist db with failure | _ | _
    · simp [hexists] at h
    · simp [hexists] at h
    · rcases hopen : Database.openToRead d db with failure | _ | f
      · simp [hexists, hopen] at h
      · simp [hexists, hopen] at h
      · exact ⟨f, rfl⟩
  obtain ⟨f, hopen⟩ := hopen
  obtain ⟨serial, data, hstat⟩ := Disk.exists_stat_of_isFile (isFile_of_openToRead hopen)
  obtain ⟨hnull, -, hget⟩ := Disk.stat_eq_some_iff.mp hstat
  exact ⟨hnull, data, Node.dataAt?_eq_some_iff.mpr ⟨serial, hget⟩⟩

/-- The counts of a database depend on its place only. -/
lemma stats_of_holds (h : Holds d db calls) : ∃ serial,
    d.root.get? (d.placeOf db) = some (.file serial (.database calls)) ∧
      ((Store.stats d).exec (.fresh db)).1 =
        (fun calls => some (statsOf calls)) <$> Database.read d ⟨d.placeOf db, serial⟩ := by
  obtain ⟨serial, hget, hopen⟩ := h.openToRead
  have hexists : d.doesExist db = .ok true :=
    Disk.doesExist_eq_ok h.admits.named h.admits.fits h.admits.reaches hget
  refine ⟨serial, hget, ?_⟩
  rw [stats_fresh, hexists, calls_fresh, hopen]
  rfl

lemma callsIn_of_read {f : OpenFile} (h : Database.read d f = .ok calls) :
    Database.callsIn (d.contentOf f) = .ok calls := by
  simp only [Database.read] at h
  generalize Database.checkJournal _ _ = journal, Database.checkLog _ _ = log at h
  cases journal with
  | error failure => cases h
  | ok _ =>
    cases log with
    | error failure => cases h
    | ok _ => exact h

/-- The counts of a database that can be read are those of its calls. -/
lemma Holds.stats_eq {stats : Option Stats} (h : Holds d db calls)
    (hstats : ((Store.stats d).exec (.fresh db)).1 = .ok stats) : stats = some (statsOf calls) := by
  obtain ⟨serial, hget, hread⟩ := stats_of_holds h
  have hcontent : d.contentOf ⟨d.placeOf db, serial⟩ = .database calls := by
    simp [Disk.contentOf, hget]
  cases hfound : Database.read d ⟨d.placeOf db, serial⟩ with
  | error failure => simp [hread, hfound] at hstats
  | ok found =>
    have hcalls := callsIn_of_read hfound
    rw [hcontent, Database.callsIn, Except.ok.injEq] at hcalls
    simpa [hread, hfound, ← hcalls] using hstats.symm

/-- Two paths to the place of a database give the same counts. -/
lemma Holds.stats_congr (h : Holds d db calls) (h' : Holds d p calls)
    (hplace : d.placeOf p = d.placeOf db) :
    ((Store.stats d).exec (.fresh p)).1 = ((Store.stats d).exec (.fresh db)).1 := by
  obtain ⟨serial, hget, hread⟩ := stats_of_holds h
  obtain ⟨serial', hget', hread'⟩ := stats_of_holds h'
  rw [hplace, hget, Option.some.injEq, Node.file.injEq] at hget'
  rw [hread', hread, hplace, hget'.1]

end CallGraph

end JavaAtlas
