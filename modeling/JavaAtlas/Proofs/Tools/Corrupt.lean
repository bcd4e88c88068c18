import JavaAtlas.Proofs.Index.History
import JavaAtlas.Proofs.Tools.Steps

/-!
# A manifest that cannot be read

Whether there is an index is told by the file of the manifest, what is indexed by what it holds. A
service that finds a manifest which cannot be read therefore answers as if nothing were indexed,
and does not build the index that it would build if the manifest were removed.
-/

namespace JavaAtlas

namespace Tools

open Index

variable {c : Config} {d : Disk}

def withoutManifest (c : Config) (d : Disk) : Disk := ((Disk.discardFile c.manifestPath).exec d).2

/-- A manifest that is removed is no longer found, and nothing else has changed. -/
lemma exec_withoutManifest {data : FileData} (h : d.fileAt c.manifestPath = .ok data) :
    d.ChangesOnly (· = d.placeOf c.manifestPath) (withoutManifest c d) ∧
      (withoutManifest c d).root.dataAt? (d.placeOf c.manifestPath) = none ∧
      Store.isReady c (withoutManifest c d) = .ok false := by
  have hp := c.isEntry_manifestPath.toIsNamed
  obtain ⟨hfits, hreach, hdata⟩ := (Disk.fileAt_eq_ok_iff hp).mp h
  have hadmits : d.Admits c.manifestPath :=
    ⟨hp, hreach, hfits, Disk.not_hasDirectory_of_dataAt? hdata⟩
  obtain ⟨e, hrun, hedits, hgone⟩ := Disk.exec_discardFile_of_admits hadmits
  have hchange : d.ChangesOnly (· = d.placeOf c.manifestPath) e :=
    hedits.toChangesOnly.mono (by simp)
  rw [withoutManifest, hrun]
  refine ⟨hchange, Node.dataAt?_of_none hgone, ?_⟩
  rw [← hchange.placeOf] at hgone
  exact Disk.doesExist_of_none hp hfits (hchange.reaches hreach) hgone

/-- A build that fails where there was no manifest leaves none. -/
lemma dataAt?_of_failed_run {j : Job} {e d' : Disk} {failure : Failure}
    (hrun : j.run e = (.error failure, d'))
    (hnone : e.root.dataAt? (e.placeOf j.config.manifestPath) = none) :
    d'.root.dataAt? (e.placeOf j.config.manifestPath) = none := by
  have hclean : j.Clean e := Or.inr fun hdata => absurd hnone hdata
  rcases (Job.clean_iff hrun).mpr hclean with hsame | hgone
  · rw [hsame, hnone]
  · exact hgone

/-- A build that succeeds leaves a manifest that is loaded, and so not one that cannot be. -/
lemma dataAt?_ne_of_run {j : Job} {e d' : Disk} {s : Summary} {data : FileData}
    (hrun : j.run e = (.ok s, d')) (hcorrupt : loadManifest j.config d = .ok none)
    (hdata : d.fileAt j.config.manifestPath = .ok data) :
    d'.root.dataAt? (e.placeOf j.config.manifestPath) ≠ some data := by
  intro hsame
  have hp := j.config.isEntry_manifestPath.toIsNamed
  have hchange := j.changesOnly_run e
  rw [hrun] at hchange
  obtain ⟨k, -, -, hstored⟩ := Job.stored_of_run hrun
  have hfile : d'.fileAt j.config.manifestPath = .ok data :=
    (Disk.fileAt_eq_ok_iff hp).mpr ⟨hstored.manifest.fits, hstored.manifest.reaches,
      hchange.placeOf _ ▸ hsame⟩
  have hload := hstored.serves.manifest
  rw [loadManifest, readJson_congr hp hdata hfile, ← loadManifest, hcorrupt] at hload
  cases hload

/-- The answer where nothing is indexed does not tell that there is no index. -/
lemma emptyAnswer_ne_unavailable (q : IndexQuery) (e : Failure) :
    emptyAnswer q ≠ .ok (unavailable e) := by
  have hnone : (loadManifest plainConfig bareDisk).toOption.map Option.isNone = some true := by
    decide +kernel
  obtain ⟨found, hfound, hempty⟩ := Option.map_eq_some_iff.mp hnone
  rw [Option.isNone_iff_eq_none.mp hempty] at hfound
  rw [← answerQuery_of_none (.start plainConfig bareDisk) (eq_ok_of_toOption hfound) rfl q]
  exact answerQuery_ne_unavailable q _ e

variable {tool : String} {args : Json} {q : IndexQuery}

/-- A manifest that is there but cannot be read stops the index from being built. -/
lemma exec_callTool_of_corrupt (amb : Ambient) (hq : readRequest tool args = .ok (.query q))
    (hready : Store.isReady c d = .ok true) (hcorrupt : loadManifest c d = .ok none) :
    ((callTool amb tool args).exec (.start c d)).1 = emptyAnswer q ∧
      ((callTool amb tool args).exec (.start c d)).2.disk = d := by
  obtain ⟨outcome, store, hensures, -, hok⟩ := exists_ensures amb hq (.start c d)
  generalize ((callTool amb tool args).exec (.start c d)).1 = r,
    ((callTool amb tool args).exec (.start c d)).2.disk = left at hensures hok ⊢
  cases hensures with
  | ready =>
    rw [hok rfl (.start c d) rfl rfl]
    exact ⟨answerQuery_of_none (.start c d) hcorrupt rfl q, rfl⟩
  | refused _ hnot => exact absurd hready hnot
  | broken hnot | built hnot => exact absurd (hready.symm.trans hnot) (by simp)

/-- Without a manifest the index is built, and then the question is answered from it. -/
lemma exec_callTool_of_missing (amb : Ambient) (hq : readRequest tool args = .ok (.query q))
    (hready : Store.isReady c d = .ok false)
    (hnone : d.root.dataAt? (d.placeOf c.manifestPath) = none) :
    let done := (callTool amb tool args).exec (.start c d)
    let builds summary built := d.isDirectory (sourcesOf c c.version) = .ok true ∧
      (cacheJob c amb none none).run d = (.ok summary, built)
    (∃ e, done.1 = .ok (unavailable e) ∧ (¬ ∃ summary built, builds summary built) ∧
        done.2.disk.root.dataAt? (d.placeOf c.manifestPath) = none) ∨
      ∃ summary, builds summary done.2.disk ∧
        done.1 = ((answerQuery q).exec (.start c done.2.disk)).1 := by
  intro done builds
  obtain ⟨outcome, store, hensures, herror, hok⟩ := exists_ensures amb hq (.start c d)
  change Service.Ensures amb _ outcome done.2.disk store at hensures
  change ∀ e, outcome = .error e → done.1 = _ at herror
  change outcome = .ok () → ∀ t : Service, t.disk = done.2.disk → _ → done.1 = _ at hok
  generalize done.1 = r, done.2.disk = left at hensures herror hok ⊢
  cases hensures with
  | ready hnot => exact absurd (hready.symm.trans hnot) (by simp)
  | refused e _ hsource =>
    exact Or.inl ⟨e, herror e rfl, fun ⟨_, _, h, _⟩ => hsource hready h, hnone⟩
  | broken _ _ hrun =>
    have hleft := dataAt?_of_failed_run hrun hnone
    refine Or.inl ⟨_, herror _ rfl, ?_, hleft⟩
    rintro ⟨summary, built, -, h⟩
    exact absurd (hrun.symm.trans h) (by simp)
  | built _ hsource hrun => exact Or.inr ⟨_, ⟨hsource, hrun⟩, hok rfl (.start c left) rfl rfl⟩

/-- A manifest that cannot be read is not treated like one that is missing: a question is answered
as if nothing were indexed, and nothing is built. With the manifest removed the answer is the same
only if an index is built that has nothing to answer either, and what lies at the manifest's place
is never the same. -/
theorem corrupt_manifest_not_absent (amb : Ambient) (hcorrupt : loadManifest c d = .ok none)
    (hfile : d.isFile c.manifestPath = .ok true) (hq : readRequest tool args = .ok (.query q)) :
    let kept := (callTool amb tool args).exec (.start c d)
    let removed := (callTool amb tool args).exec (.start c (withoutManifest c d))
    kept.1 = emptyAnswer q ∧ kept.2.disk = d ∧
      (removed.1 = kept.1 ↔ ∃ summary built,
        ((withoutManifest c d).isDirectory (sourcesOf c c.version) = .ok true ∧
          (cacheJob c amb none none).run (withoutManifest c d) = (.ok summary, built)) ∧
        ((answerQuery q).exec (.start c built)).1 = emptyAnswer q) ∧
      removed.2.disk.root.dataAt? (d.placeOf c.manifestPath) ≠
        kept.2.disk.root.dataAt? (d.placeOf c.manifestPath) := by
  intro kept removed
  obtain ⟨data, hdata⟩ := Disk.exists_fileAt_of_isFile hfile
  obtain ⟨hchange, hgone, hmissing⟩ := exec_withoutManifest hdata
  have hp := c.isEntry_manifestPath.toIsNamed
  obtain ⟨hfits, hreach, hplace⟩ := (Disk.fileAt_eq_ok_iff hp).mp hdata
  obtain ⟨serial, hget⟩ := Node.dataAt?_eq_some_iff.mp hplace
  obtain ⟨hanswer, hdisk⟩ := exec_callTool_of_corrupt amb hq
    (Disk.doesExist_eq_ok hp hfits hreach hget) hcorrupt
  refine ⟨hanswer, hdisk, ?_⟩
  rw [hanswer, hdisk, hplace]
  rw [← hchange.placeOf] at hgone ⊢
  rcases exec_callTool_of_missing amb hq hmissing hgone with
    ⟨e, hunavailable, hnot, hnone⟩ | ⟨summary, ⟨hsource, hrun⟩, hfound⟩
  · refine ⟨⟨fun h => ?_, fun ⟨_, _, h, _⟩ => absurd ⟨_, _, h⟩ hnot⟩, fun h => ?_⟩
    · exact absurd (h.symm.trans hunavailable) (emptyAnswer_ne_unavailable q e)
    · exact absurd (h.symm.trans hnone) (by simp)
  · refine ⟨⟨fun h => ⟨summary, _, ⟨hsource, hrun⟩, hfound.symm.trans h⟩, ?_⟩, fun h => ?_⟩
    · rintro ⟨summary', built, ⟨-, hrun'⟩, hempty⟩
      obtain rfl := (Prod.mk.inj (hrun.symm.trans hrun')).2
      exact hfound.trans hempty
    · have hne := dataAt?_ne_of_run hrun hcorrupt hdata
      exact hne h

/-- A home without sources whose manifest ends after its first character. -/
def tornDisk : Disk where
  root := .directory [("home", .directory [("index", .directory
    [("manifest.json", .file 0 (.bytes "\x7b".toUTF8))])])]
  cwd := []
  nextSerial := 1

def letterSearch : Action Service Json :=
  callTool plainAmbient "mc_search" (.obj [("query", .str "a")])

set_option maxRecDepth 100000 in
lemma loadManifest_tornDisk : loadManifest plainConfig tornDisk = .ok none := by
  have hnone : (loadManifest plainConfig tornDisk).toOption.map Option.isNone = some true := by
    decide +kernel
  obtain ⟨found, hfound, hempty⟩ := Option.map_eq_some_iff.mp hnone
  rw [eq_ok_of_toOption hfound, Option.isNone_iff_eq_none.mp hempty]

lemma isFile_tornDisk : tornDisk.isFile plainConfig.manifestPath = .ok true :=
  eq_ok_of_toOption (by decide +kernel)

theorem corrupt_manifest_not_absent_torn :
    (letterSearch.exec (.start plainConfig tornDisk)).1 = .ok (listed "results" []) ∧
      (letterSearch.exec (.start plainConfig tornDisk)).2.disk = tornDisk := by
  have hq : readRequest "mc_search" (.obj [("query", .str "a")]) =
      .ok (.query (.search (.str "a") none)) := rfl
  obtain ⟨hanswer, hdisk, -, -⟩ :=
    corrupt_manifest_not_absent plainAmbient loadManifest_tornDisk isFile_tornDisk hq
  rw [letterSearch, hanswer, hdisk]
  exact ⟨rfl, rfl⟩

set_option maxRecDepth 100000 in
/-- A search succeeds with a manifest that cannot be read, and fails without it. -/
theorem corrupt_manifest_differs :
    loadManifest plainConfig tornDisk = .ok none ∧
      tornDisk.isFile plainConfig.manifestPath = .ok true ∧
      (letterSearch.exec (.start plainConfig tornDisk)).1 ≠
        (letterSearch.exec (.start plainConfig (withoutManifest plainConfig tornDisk))).1 := by
  refine ⟨loadManifest_tornDisk, isFile_tornDisk, fun h => ?_⟩
  have hsuccess := congrArg tellsSuccess h
  revert hsuccess
  decide +kernel

end Tools

end JavaAtlas
