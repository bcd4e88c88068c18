import JavaAtlas.Proofs.Index.History
import JavaAtlas.Proofs.Index.Retrieval

/-!
# Shards that are left over

A build writes the shards of the packages it collects and removes none. So the shard of a package
stays until a later build collects this package again, and its types can be retrieved although
the manifest does not list the package any more.
-/

namespace JavaAtlas

open Store

namespace Index

variable {c : Config} {d e : Disk} {k : Contents} {past : List Contents} {ns : Namespace}
  {package : String}

/-- The newest build that collected a package. -/
def newest? (past : List Contents) (ns : Namespace) (package : String) : Option Contents :=
  past.find? fun k => decide (package ∈ (k.packages ns).names)

lemma newest?_cons_of_mem (h : package ∈ (k.packages ns).names) :
    newest? (k :: past) ns package = some k := by
  simp [newest?, h]

lemma newest?_cons_of_not_mem (h : package ∉ (k.packages ns).names) :
    newest? (k :: past) ns package = newest? past ns package := by
  simp [newest?, h]

/-- The shard of a package that a build does not collect is none of its files. -/
lemma Contents.not_files_shard (h : package ∉ (k.packages ns).names) (base : List String) :
    ¬ k.Files base (base ++ [ns.name, package ++ ".json"]) := by
  rintro (hmanifest | ⟨other, hshard⟩)
  · exact not_manifestFiles_shard hmanifest
  · obtain ⟨rfl, hmem⟩ := shardFiles_iff.mp hshard
    exact h hmem

/-- After builds that all succeed, the file of a shard is that of the newest build which collected
the package; there is none if no build did. -/
theorem History.shard_file (h : History (fun _ _ => False) c past d) (ns : Namespace)
    (hslash : '/' ∉ package.toList) :
    (∃ k, newest? past ns package = some k ∧
        Keeps d (c.shardPath ns (.str package)) (k.shardJson ns package)) ∨
      newest? past ns package = none ∧
        d.root.dataAt? (d.placeOf (c.shardPath ns (.str package))) = none := by
  induction h with
  | start hempty => exact Or.inr ⟨rfl, hempty _ (indexDir_prefix_shard c _ ns hslash)⟩
  | @changed past d e h hkeep ih =>
    have hplace := hkeep.placeOf_shardPath ns hslash
    have hdata := hkeep.files _ (indexDir_prefix_shard c d ns hslash)
    rcases ih with ⟨k, hnewest, hkeeps⟩ | ⟨hnewest, hnone⟩
    · exact Or.inl ⟨k, hnewest, hkeeps.congr hplace hdata⟩
    · exact Or.inr ⟨hnewest, by rw [hplace, hdata, hnone]⟩
  | @built past d e j k s h hhome hk hrun ih =>
    obtain ⟨hwritten, hstored⟩ := hk.written hrun
    by_cases hmem : package ∈ (k.packages ns).names
    · exact Or.inl ⟨k, newest?_cons_of_mem hmem, (hstored.kept hhome).shard ns package hmem⟩
    · -- the build leaves the file alone
      have hchange := (k.exec_write j.config d).1
      rw [← hwritten, indexDir_congr hhome] at hchange
      have hplace := hchange.placeOf (c.shardPath ns (.str package))
      have hdata := hchange.files (d.placeOf (c.shardPath ns (.str package))) (by
        rw [d.placeOf_shardPath c ns hslash]
        exact k.not_files_shard hmem _)
      rw [newest?_cons_of_not_mem hmem]
      rcases ih with ⟨l, hnewest, hkeeps⟩ | ⟨hnewest, hnone⟩
      · exact Or.inl ⟨l, hnewest, hkeeps.congr hplace hdata⟩
      · exact Or.inr ⟨hnewest, by rw [hplace, hdata, hnone]⟩
  | failed h hhome hfails hrun ih => exact hfails.elim

/-- A shard that is loaded is that of the newest build which collected the package. -/
theorem History.loadShard_eq (h : History (fun _ _ => False) c past d)
    (hslash : '/' ∉ package.toList) {shard : Shard Json}
    (hload : loadShard c d ns (.str package) = .ok (some shard)) :
    ∃ k, newest? past ns package = some k ∧ shard = (k.shard ns package).map .str := by
  obtain ⟨v, hread, hshard⟩ := loadShard_eq_some c hload
  rcases h.shard_file ns hslash with ⟨k, hnewest, hkeeps⟩ | ⟨-, hnone⟩
  · obtain rfl := eq_of_readJson (k.readsBack_shardJson hkeeps.writable) hkeeps.data hread
    rw [k.ofJson_shardJson, Except.ok.injEq] at hshard
    exact ⟨k, hnewest, hshard.symm⟩
  · obtain ⟨data, -, hfile, -⟩ := readJson_eq_some hread
    rw [Disk.dataAt?_of_fileAt hfile] at hnone
    cases hnone

/-- After builds that all succeed, a type that is retrieved is listed with its package exactly if the
newest build collected the package. Unless the package is written as a path, the declaration is
that of the newest build which did collect it. -/
theorem retrieved_type_listed_iff (h : History (fun _ _ => False) c past d) {q : String}
    {x : TypeSource} (hget : ((getType d q).exec (fresh c)).1 = .ok (some x)) :
    let ns := namespaceFor c q
    let (package, name) := splitQualifiedName q
    ∃ k older, past = k :: older ∧
      ((∃ packages, ((listPackages d (some ns)).exec (fresh c)).1 = .ok packages ∧
          .str package ∈ packages) ∧
        (∃ types, ((listTypes d (some package)).exec (fresh c)).1 = .ok types ∧
          ⟨package ++ "." ++ name, name, x.sourcePath⟩ ∈ types) ↔
        package ∈ (k.packages ns).names) ∧
      ('/' ∉ package.toList → ∃ l found, newest? past ns package = some l ∧
        Ordered.get? (l.types ns package) name = some found ∧ x.decl = found.map .str) := by
  obtain ⟨m, shard, hm, hshard, hdecl⟩ := exists_shard_of_getType hget
  obtain ⟨k, older, hpast, hserves⟩ := h.serves (fun _ _ _ hfails => hfails.elim) hm
  have hsource : ∀ found : TypeDecl String, found.map .str = x.decl →
      (k.sourcePath c (namespaceFor c q) found.sourcePath).text = x.sourcePath := fun found heq =>
    (sourcePath_of_getType hserves.manifest hshard (heq ▸ hdecl) hget).symm
  rcases hsplit : splitQualifiedName q with ⟨package, name⟩
  simp only [hsplit] at hshard hdecl
  refine ⟨k, older, hpast, ?_, fun hslash => ?_⟩
  · have hpackages := exec_listPackages hserves (some (namespaceFor c q))
    constructor
    · rintro ⟨⟨packages, hlist, hmem⟩, -⟩
      rw [hpackages, Except.ok.injEq] at hlist
      rw [← hlist] at hmem
      simpa using hmem
    · intro hmem
      -- a listed package has the shard of the newest build, so this is the one that was opened
      rw [hserves.shard _ package hmem, Except.ok.injEq, Option.some.injEq] at hshard
      rw [← hshard, get?_shard, Option.map_eq_some_iff] at hdecl
      obtain ⟨found, hfound, heq⟩ := hdecl
      refine ⟨⟨_, hpackages, by simpa using hmem⟩, _, exec_listTypes hserves _, ?_⟩
      refine List.mem_map.mpr ⟨.of (namespaceFor c q) package name found, ?_, ?_⟩
      · exact k.mem_visits.mpr ⟨_, package, name, found, hmem, by simp [asksFor, isWithin],
          Ordered.mem_of_get? hfound, rfl⟩
      · rw [← hsource found heq]
        rfl
  · obtain ⟨l, hnewest, rfl⟩ := h.loadShard_eq hslash hshard
    rw [get?_shard, Option.map_eq_some_iff] at hdecl
    obtain ⟨found, hfound, heq⟩ := hdecl
    exact ⟨l, found, hnewest, hfound, heq.symm⟩

/-- Two source trees with a package of their own each. -/
def movedDisk : Disk where
  root := .directory
    [("one", .directory [("A.java", .file 0 (.bytes "package p;\nclass A\x7b".toUTF8))]),
      ("two", .directory [("B.java", .file 1 (.bytes "package q;\nclass B\x7b".toUTF8))])]
  cwd := []
  nextSerial := 2

def movedJob (tree : String) : Job := plainJob ⟨"/", [tree]⟩ "1"

lemma history_movedDisk (fails : Job → Disk → Prop) :
    History fails (movedJob "one").config [] movedDisk := by
  refine .start fun q hq => ?_
  have hplace : movedDisk.placeOf (movedJob "one").config.indexDir = ["home", "index"] := by
    rw [Config.indexDir_eq]
    rfl
  rw [hplace] at hq
  obtain ⟨rest, rfl⟩ := hq
  exact Node.dataAt?_of_none (Node.get?_append_of_none (by decide +kernel) rest)

set_option maxRecDepth 100000 in
lemma exists_found_moved {k : Contents} (hk : (movedJob "one").Collects movedDisk k) :
    "p" ∈ (k.packages .primary).names ∧
      ∃ found, Ordered.get? (k.types .primary "p") "A" = some found ∧
        found.sourcePath = "/one/A.java" :=
  hk.exists_type .primary "p" "A" TypeDecl.sourcePath (by decide +kernel)

/-- Whatever the newest manifest, the type is retrieved while its shard and its file are there. -/
lemma exists_getType_moved {k l : Contents} (hk : (movedJob "one").Collects movedDisk k)
    (hmanifest : loadManifest (movedJob "one").config d = .ok (some (l.manifest.map .str)))
    (hshard : loadShard (movedJob "one").config d .primary (.str "p") =
      .ok (some ((k.shard .primary "p").map .str)))
    (hfile : (d.fileAt ⟨"/", ["one", "A.java"]⟩).isOk = true) :
    ∃ x, ((getType d "p.A").exec (fresh (movedJob "one").config)).1 = .ok (some x) := by
  obtain ⟨-, found, hfound, hpath⟩ := exists_found_moved hk
  have hns : namespaceFor (movedJob "one").config "p.A" = .primary := by decide
  have hsplit : splitQualifiedName "p.A" = ("p", "A") := by decide
  have hsource : l.sourcePath (movedJob "one").config .primary found.sourcePath =
      ⟨"/", ["one", "A.java"]⟩ := by
    have hparse : Path.parse "/one/A.java" = ⟨"/", ["one", "A.java"]⟩ := by decide +kernel
    rw [hpath, Contents.sourcePath, hparse]
    rfl
  cases hdata : d.fileAt ⟨"/", ["one", "A.java"]⟩ with
  | error _ =>
    rw [hdata] at hfile
    cases hfile
  | ok data =>
    have hdecl : Ordered.get? ((k.shard .primary "p").map Json.str).types
        (splitQualifiedName "p.A").2 = some (found.map .str) := by
      rw [hsplit, get?_shard, hfound]
      rfl
    exact ⟨_, exec_getType_of_fileAt hmanifest (by rw [hns, hsplit]; exact hshard) hdecl
      (by rw [hns, hsource]; exact hdata)⟩

set_option maxRecDepth 100000 in
theorem retrieved_type_listed_iff_moved : ∃ past d x types,
    History (fun _ _ => False) (movedJob "one").config past d ∧
    ((getType d "p.A").exec (fresh (movedJob "one").config)).1 = .ok (some x) ∧
    ((listTypes d (some "p")).exec (fresh (movedJob "one").config)).1 = .ok types ∧
    ⟨"p.A", "A", x.sourcePath⟩ ∈ types := by
  have hbuilt : ((movedJob "one").run movedDisk).1.isOk = true ∧
      (((movedJob "one").run movedDisk).2.fileAt ⟨"/", ["one", "A.java"]⟩).isOk = true := by
    decide +kernel
  obtain ⟨hok, hfile⟩ := hbuilt
  obtain ⟨s, d, hrun⟩ := exists_of_isOk hok
  rw [hrun] at hfile
  obtain ⟨k, hk, -, hstored⟩ := Job.stored_of_run hrun
  have hmem := (exists_found_moved hk).1
  obtain ⟨x, hget⟩ := exists_getType_moved hk hstored.serves.manifest
    (hstored.serves.shard .primary "p" hmem) hfile
  have hhistory : History (fun _ _ => False) (movedJob "one").config [k] d :=
    .built (history_movedDisk _) rfl hk hrun
  obtain ⟨l, older, hpast, hlisted, -⟩ := retrieved_type_listed_iff hhistory hget
  cases hpast
  obtain ⟨-, types, htypes, hin⟩ := hlisted.mpr hmem
  exact ⟨[k], d, x, types, hhistory, hget, htypes, hin⟩

set_option maxRecDepth 100000 in
/-- A type of a package that the newest build did not collect is still retrieved. -/
theorem retrieved_type_unlisted : ∃ past d x packages,
    History (fun _ _ => False) (movedJob "one").config past d ∧
    ((getType d "p.A").exec (fresh (movedJob "one").config)).1 = .ok (some x) ∧
    ((listPackages d (some (namespaceFor (movedJob "one").config "p.A"))).exec
      (fresh (movedJob "one").config)).1 = .ok packages ∧
    .str (splitQualifiedName "p.A").1 ∉ packages := by
  have hbuilt : ((movedJob "one").run movedDisk).1.isOk = true ∧
      ((movedJob "two").run ((movedJob "one").run movedDisk).2).1.isOk = true ∧
      (((movedJob "two").run ((movedJob "one").run movedDisk).2).2.fileAt
        ⟨"/", ["one", "A.java"]⟩).isOk = true ∧
      Ordered.keys (((movedJob "two").packages ((movedJob "one").run movedDisk).2
        .primary).toOption.getD []) = ["q"] := by
    decide +kernel
  obtain ⟨hok, hok', hfile, hnew⟩ := hbuilt
  obtain ⟨s, d, hrun⟩ := exists_of_isOk hok
  rw [hrun] at hok' hfile hnew
  obtain ⟨s', e, hrun'⟩ := exists_of_isOk hok'
  rw [hrun'] at hfile
  obtain ⟨k, hk, -, hstored⟩ := Job.stored_of_run hrun
  obtain ⟨l, hl, hwritten, hserves⟩ := Job.stored_of_run hrun'
  have hslash : '/' ∉ "p".toList := by decide
  have hout : "p" ∉ (l.packages .primary).names := by
    rw [hl.packages, Except.toOption, Option.getD_some] at hnew
    rw [Packages.mem_names, hnew]
    decide
  have hmem := (exists_found_moved hk).1
  have hchange := (l.exec_write (movedJob "two").config d).1
  rw [← hwritten] at hchange
  -- the second build leaves the shard of the first one alone
  have hshard := loadShard_of_stores (movedJob "one").config k hslash
    ((hstored.shard .primary "p" hmem).of_changesOnly hchange (by
      rw [d.placeOf_shardPath _ .primary hslash]
      exact l.not_files_shard hout _))
  obtain ⟨x, hget⟩ := exists_getType_moved hk hserves.serves.manifest hshard hfile
  have hfirst : History (fun _ _ => False) (movedJob "one").config [k] d :=
    .built (history_movedDisk _) rfl hk hrun
  have hhistory : History (fun _ _ => False) (movedJob "one").config [l, k] e :=
    .built (j := movedJob "two") hfirst rfl hl hrun'
  refine ⟨[l, k], e, x, _, hhistory, hget, exec_listPackages hserves.serves _, ?_⟩
  have hns : namespaceFor (movedJob "one").config "p.A" = .primary := by decide
  have hsplit : splitQualifiedName "p.A" = ("p", "A") := by decide
  rw [hns, hsplit]
  simpa using hout

end Index

end JavaAtlas
