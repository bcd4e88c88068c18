import JavaAtlas.Proofs.Disk.Standing
import JavaAtlas.Proofs.Index.Writing

/-!
# The home directory

The directories of the home directory are made before a rebuild, and are there from then on. Making
them adds no version to the cache and takes none away, and an index is written into them without
another directory.
-/

namespace JavaAtlas

/-! ### Filters that can fail -/

section Filter

variable {ε α : Type} {f : α → Except ε Bool} {g : α → Bool} {xs ys : List α}

lemma filterAuxM_ok (h : ∀ x ∈ xs, f x = .ok (g x)) (found : List α) :
    xs.filterAuxM f found = .ok ((xs.filter g).reverse ++ found) := by
  induction xs generalizing found with
  | nil => rfl
  | cons x xs ih =>
    obtain ⟨hx, hxs⟩ := List.forall_mem_cons.mp h
    rw [List.filterAuxM, hx, ok_bind, ih hxs]
    cases hg : g x <;> simp [hg]

lemma filterM_ok (h : ∀ x ∈ xs, f x = .ok (g x)) : xs.filterM f = .ok (xs.filter g) := by
  rw [List.filterM, filterAuxM_ok h, ok_bind]
  simp

lemma exists_of_filterAuxM {found : List α} (h : xs.filterAuxM f found = .ok ys) :
    ∀ x ∈ xs, ∃ b, f x = .ok b := by
  induction xs generalizing found with
  | nil => simp
  | cons x xs ih =>
    rw [List.filterAuxM, bind_eq_ok] at h
    obtain ⟨b, hb, hrest⟩ := h
    exact List.forall_mem_cons.mpr ⟨⟨b, hb⟩, ih hrest⟩

lemma exists_of_filterM (h : xs.filterM f = .ok ys) : ∀ x ∈ xs, ∃ b, f x = .ok b := by
  obtain ⟨_, haux, -⟩ := bind_eq_ok.mp h
  exact exists_of_filterAuxM haux

end Filter

namespace Config

variable {c : Config} {d e f : Disk} {available : List String} {touched : List String → Prop}

/-! ### Versions -/

lemma cacheDir_eq (c : Config) : c.cacheDir = ⟨c.home.root, c.home.parts ++ ["cache"]⟩ :=
  c.home.div_of_name (by decide) (by decide) (by decide)

/-- Whether an entry of the cache holds primary sources. -/
def holdsSources (c : Config) (d : Disk) (name : String) : Except Failure Bool := do
  let dir := c.cacheDir.join ⟨"", [name]⟩
  if ← d.isDirectory dir then d.isDirectory (dir / "client") else return false

lemma holdsSources_eq (c : Config) (d : Disk) (name : String) :
    c.holdsSources d name =
      d.isDirectory ⟨c.cacheDir.root, c.cacheDir.parts ++ [name]⟩ >>= fun there =>
        if there then d.isDirectory ⟨c.cacheDir.root, c.cacheDir.parts ++ [name] ++ ["client"]⟩
        else .ok false := by
  have hjoin : c.cacheDir.join ⟨"", [name]⟩ = ⟨c.cacheDir.root, c.cacheDir.parts ++ [name]⟩ := by
    simp [Path.join, Path.isAbsolute]
  rw [holdsSources, hjoin]
  have hclient := Path.div_of_name ⟨c.cacheDir.root, c.cacheDir.parts ++ [name]⟩
    (s := "client") (by decide) (by decide) (by decide)
  rw [hclient]
  rfl

/-- The versions are the entries of the cache that hold primary sources. -/
lemma availableVersions_eq {names : List String} (h : d.list c.cacheDir = .ok names) :
    c.availableVersions d = sortTexts <$> names.filterM (c.holdsSources d) := by
  have hexists : d.doesExist c.cacheDir = .ok true := by
    have hdir := Disk.isDirectory_of_list h
    rw [Disk.isDirectory] at hdir
    rw [Disk.doesExist]
    rcases hstat : d.stat c.cacheDir with failure | _ | node <;> simp_all [Except.map]
  rw [availableVersions, hexists, ok_bind, if_pos rfl, h, ok_bind]
  rfl

lemma mem_sortTexts {v : String} {texts : List String} : v ∈ sortTexts texts ↔ v ∈ texts :=
  (List.mergeSort_perm _ _).mem_iff

/-- Where there are versions, there is a cache. -/
lemma exists_names_of_available (h : c.availableVersions d = .ok available) (hne : available ≠ []) :
    ∃ names, d.list c.cacheDir = .ok names := by
  rw [availableVersions] at h
  obtain ⟨there, hthere, h⟩ := bind_eq_ok.mp h
  cases there with
  | false =>
    cases h
    exact absurd rfl hne
  | true =>
    obtain ⟨names, hnames, -⟩ := bind_eq_ok.mp h
    exact ⟨names, hnames⟩

/-- What an entry of the cache holds depends on the directories at its place and below it. -/
lemma holdsSources_congr (hcwd : e.cwd = d.cwd) (hd : d.isDirectory c.cacheDir = .ok true)
    (he : e.isDirectory c.cacheDir = .ok true) {name : String} (hname : name ≠ "..")
    (hsame : ∀ rest, e.root.HasDirectory (d.placeOf c.cacheDir ++ name :: rest) ↔
      d.root.HasDirectory (d.placeOf c.cacheDir ++ name :: rest)) :
    c.holdsSources e name = c.holdsSources d name := by
  have hreach := (Disk.isDirectory_eq_ok_true_iff.mp hd).2.2
  have hreach' := (Disk.isDirectory_eq_ok_true_iff.mp he).2.2
  have hentry := Disk.isDirectory_entry_congr hcwd hreach hreach' hname (hsame [])
  rw [holdsSources_eq, holdsSources_eq, hentry]
  match hthere : d.isDirectory ⟨c.cacheDir.root, c.cacheDir.parts ++ [name]⟩ with
  | .error failure => rfl
  | .ok false => rfl
  | .ok true =>
    -- the directory of the version is reached on both disks
    rw [hthere] at hentry
    have hversion := (Disk.isDirectory_eq_ok_true_iff.mp hthere).2.2
    have hversion' := (Disk.isDirectory_eq_ok_true_iff.mp hentry).2.2
    refine Disk.isDirectory_entry_congr hcwd hversion hversion' (by decide) ?_
    rw [Disk.placeOf_entry hname, List.append_assoc]
    exact hsame ["client"]

/-- As long as nothing changes below the cache, the same versions are there. -/
lemma availableVersions_kept (hd : d.IsProper) (h : c.availableVersions d = .ok available)
    (hne : available ≠ []) (hchange : d.ChangesOnly touched e)
    (htouched : ∀ rest, ¬ touched (d.placeOf c.cacheDir ++ rest))
    (hmade : ∀ rest, e.root.HasDirectory (d.placeOf c.cacheDir ++ rest) →
      d.root.HasDirectory (d.placeOf c.cacheDir ++ rest)) :
    ∃ kept, c.availableVersions e = .ok kept ∧ ∀ v, v ∈ kept ↔ v ∈ available := by
  obtain ⟨names, hnames⟩ := exists_names_of_available h hne
  have hcache := Disk.isDirectory_of_list hnames
  have hcache' := Disk.isDirectory_of_changesOnly hchange hcache
  obtain ⟨listed, hlist, hmem⟩ := Disk.list_of_isDirectory hcache
  obtain rfl : names = listed := Except.ok.inj (hnames.symm.trans hlist)
  obtain ⟨names', hnames', hmem'⟩ := Disk.list_of_isDirectory hcache'
  have hdirs : ∀ rest, e.root.HasDirectory (d.placeOf c.cacheDir ++ rest) ↔
      d.root.HasDirectory (d.placeOf c.cacheDir ++ rest) :=
    fun rest => ⟨hmade rest, hchange.directories _⟩
  -- the same names are listed, though maybe in another order
  have hsame : ∀ name, name ∈ names' ↔ name ∈ names := by
    intro name
    rw [hmem, hmem', hchange.placeOf, not_iff_not, Node.get?_eq_none_iff, Node.get?_eq_none_iff,
      hchange.files _ (htouched [name]), hdirs [name]]
  have hholds : ∀ name ∈ names, c.holdsSources e name = c.holdsSources d name := by
    intro name hname
    refine holdsSources_congr hchange.cwd hcache hcache' ?_ fun rest => hdirs (name :: rest)
    exact Disk.ne_up_of_proper hd.tree ((hmem name).mp hname)
  rw [availableVersions_eq hnames] at h
  match hfound : names.filterM (c.holdsSources d) with
  | .error failure => simp [hfound] at h
  | .ok found =>
    have hok := exists_of_filterM hfound
    let holds (name : String) : Bool := (c.holdsSources d name).toOption.getD false
    have hvalue : ∀ name ∈ names, c.holdsSources d name = .ok (holds name) := by
      intro name hname
      obtain ⟨b, hb⟩ := hok name hname
      simp only [holds, hb]
      rfl
    have hvalue' : ∀ name ∈ names', c.holdsSources e name = .ok (holds name) := by
      intro name hname
      have hbefore := (hsame name).mp hname
      rw [hholds name hbefore, hvalue name hbefore]
    rw [filterM_ok hvalue, map_ok, Except.ok.injEq] at h
    refine ⟨sortTexts (names'.filter holds), ?_, fun v => ?_⟩
    · rw [availableVersions_eq hnames', filterM_ok hvalue', map_ok]
    · rw [← h, mem_sortTexts, mem_sortTexts, List.mem_filter, List.mem_filter, hsame]

/-! ### Directories of the home directory -/

/-- The directories of the home directory are there. -/
structure IsHome (c : Config) (d : Disk) : Prop where
  home : d.isDirectory c.home = .ok true
  cache : d.isDirectory c.cacheDir = .ok true
  index : d.isDirectory c.indexDir = .ok true
  namespaces : ∀ ns, d.isDirectory (c.namespaceDir ns) = .ok true

lemma IsHome.of_changesOnly (h : c.IsHome d) (hchange : d.ChangesOnly touched e) : c.IsHome e where
  home := Disk.isDirectory_of_changesOnly hchange h.home
  cache := Disk.isDirectory_of_changesOnly hchange h.cache
  index := Disk.isDirectory_of_changesOnly hchange h.index
  namespaces ns := Disk.isDirectory_of_changesOnly hchange (h.namespaces ns)

lemma ensureDirs_eq (c : Config) : c.ensureDirs = (do
    Disk.makeDirectories c.home
    Disk.makeDirectories c.cacheDir
    Disk.makeDirectories c.indexDir
    Disk.makeDirectories (c.namespaceDir .primary)
    Disk.makeDirectories (c.namespaceDir .secondary)) := by
  simp only [ensureDirs, List.forIn_cons, List.forIn_nil, bind_assoc, pure_bind, bind_pure_unit]

/-- Directories that are there are not made again. -/
lemma IsHome.exec_ensureDirs (h : c.IsHome d) : c.ensureDirs.exec d = (.ok (), d) := by
  have hmake := fun {p : Path} (hp : d.isDirectory p = .ok true) =>
    Disk.exec_makeDirectories_of_directory hp
  rw [ensureDirs_eq, Action.exec_bind_of_ok (hmake h.home), Action.exec_bind_of_ok (hmake h.cache),
    Action.exec_bind_of_ok (hmake h.index), Action.exec_bind_of_ok (hmake (h.namespaces .primary))]
  exact hmake (h.namespaces .secondary)

/-- Where there is a cache, the directories of the home directory are made without a change to any
file, and no other directories are made than those of the index. -/
lemma isHome_of_ensureDirs (hd : d.IsGrounded) (hcache : d.isDirectory c.cacheDir = .ok true)
    (h : c.ensureDirs.exec d = (.ok (), e)) :
    c.IsHome e ∧ d.ChangesOnly (fun _ => False) e ∧
      ∀ q, e.root.HasDirectory q → d.root.HasDirectory q ∨ d.placeOf c.indexDir <+: q := by
  have hhome : d.isDirectory c.home = .ok true := by
    have hparent : c.cacheDir.parent = c.home := by
      rw [cacheDir_eq]
      simp [Path.parent]
    rw [← hparent]
    exact Disk.isDirectory_parent (by simp [cacheDir_eq]) hcache
  rw [ensureDirs_eq, Action.exec_bind_of_ok (Disk.exec_makeDirectories_of_directory hhome),
    Action.exec_bind_of_ok (Disk.exec_makeDirectories_of_directory hcache)] at h
  obtain ⟨_, d₁, hindex, h⟩ := Action.exec_bind_eq_ok.mp h
  obtain ⟨_, d₂, hprimary, hsecondary⟩ := Action.exec_bind_eq_ok.mp h
  have hindex := Disk.makes_of_makeDirectories hd hindex
  have hd₁ := hd.of_changesOnly hindex.change
  have hprimary := Disk.makes_of_makeDirectories hd₁ hprimary
  have hd₂ := hd₁.of_changesOnly hprimary.change
  have hsecondary := Disk.makes_of_makeDirectories hd₂ hsecondary
  have hlater := hprimary.change.trans hsecondary.change
  refine ⟨⟨?_, ?_, ?_, ?_⟩, hindex.change.trans hlater, fun q hq => ?_⟩
  · exact Disk.isDirectory_of_changesOnly (hindex.change.trans hlater) hhome
  · exact Disk.isDirectory_of_changesOnly (hindex.change.trans hlater) hcache
  · exact Disk.isDirectory_of_changesOnly hlater hindex.there
  · intro ns
    cases ns with
    | primary => exact Disk.isDirectory_of_changesOnly hsecondary.change hprimary.there
    | secondary => exact hsecondary.there
  · have hreach := fun {d : Disk} {p : Path} (h : d.isDirectory p = .ok true) =>
      (Disk.isDirectory_eq_ok_true_iff.mp h).2.2
    have hplace : ∀ ns, d.placeOf c.indexDir <+: d.placeOf (c.namespaceDir ns) := by
      intro ns
      rw [namespaceDir_eq, Disk.placeOf_entry (by cases ns <;> decide)]
      exact List.prefix_append ..
    have hindexUp : c.indexDir.parent = c.home := by simp [indexDir_eq, Path.parent]
    have hup : ∀ ns, (c.namespaceDir ns).parent = c.indexDir := by
      intro ns
      simp [namespaceDir_eq, Path.parent]
    rcases hsecondary.made (hup .secondary ▸ hprimary.change.reaches (hreach hindex.there)) q hq with
      hq | rfl
    · rcases hprimary.made (hup .primary ▸ hreach hindex.there) q hq with hq | rfl
      · rcases hindex.made (hindexUp ▸ hreach hhome) q hq with hq | rfl
        · exact Or.inl hq
        · exact Or.inr List.prefix_rfl
      · rw [hindex.change.placeOf]
        exact Or.inr (hplace .primary)
    · rw [hprimary.change.placeOf, hindex.change.placeOf]
      exact Or.inr (hplace .secondary)

lemma isProper_of_ensureDirs (hd : d.IsProper) (h : c.ensureDirs.exec d = (.ok (), e)) :
    e.IsProper := by
  have hkeeps : Action.Keeps (Disk.Spares (fun _ => false) d) c.ensureDirs := by
    rw [ensureDirs_eq]
    refine .bind (Disk.keeps_makeDirectories _) fun _ => ?_
    refine .bind (Disk.keeps_makeDirectories _) fun _ => ?_
    refine .bind (Disk.keeps_makeDirectories _) fun _ => ?_
    exact .bind (Disk.keeps_makeDirectories _) fun _ => Disk.keeps_makeDirectories _
  have hspared := hkeeps d (.refl hd)
  rw [h] at hspared
  exact hspared.proper

/-! ### Writing an index -/

/-- From one disk to another with the home directory, the directories are the same. -/
structure Furnished (c : Config) (d e : Disk) : Prop where
  home : c.IsHome e
  grounded : e.IsGrounded
  edits : d.Edits (fun _ => True) (fun _ => True) e

namespace Furnished

variable {p : Path} {makes removes : List String → Prop} {names : List String}

lemma edited (h : c.Furnished d e) (hedits : e.Edits makes removes f) : c.Furnished d f where
  home := h.home.of_changesOnly hedits.toChangesOnly
  grounded := h.grounded.of_changesOnly hedits.toChangesOnly
  edits := h.edits.trans (hedits.mono (fun _ _ => trivial) fun _ _ => trivial)

/-- A file of the index is written into a directory that is there. -/
lemma keeps_writeJson (hp : p.IsEntry)
    (hparent : ∀ e, c.IsHome e → e.isDirectory p.parent = .ok true) (v : Json) :
    Action.Keeps (c.Furnished d) (Index.writeJson p v) := by
  intro e he
  have hmade := Disk.exec_makeDirectories_of_directory (hparent e he.home)
  rcases Index.edits_writeJson hp v e with
    ⟨failure, f, hwrite, hedits⟩ | ⟨f, hwrite, hedits, -⟩
  all_goals
    rw [hmade] at hedits
    rw [hwrite]
    exact he.edited hedits

lemma keeps_writeEach (ns : Namespace) (value : String → Json)
    (hslash : ∀ package ∈ names, '/' ∉ package.toList) :
    Action.Keeps (c.Furnished d) (Index.writeEach c ns value names) := by
  induction names with
  | nil => exact .pure _
  | cons package names ih =>
    have hhead := hslash package List.mem_cons_self
    rw [Index.writeEach_cons]
    refine .bind (keeps_writeJson (c.isEntry_shardPath ns hhead) (fun e he => ?_) _) fun _ =>
      ih fun p hp => hslash p (List.mem_cons_of_mem _ hp)
    rw [c.shardPath_parent ns hhead, ← c.namespaceDir_eq]
    exact he.namespaces ns

/-- An index is written without another directory. -/
lemma keeps_write (k : Index.Contents) : Action.Keeps (c.Furnished d) (k.write c) := by
  have hshards : ∀ ns, Action.Keeps (c.Furnished d)
      (Index.writeEach c ns (k.shardJson ns) (k.packages ns).names) :=
    fun ns => keeps_writeEach ns _ fun _ => k.not_mem_slash
  rw [Index.Contents.write_eq]
  refine .bind (fun e he => ?_) fun _ => ?_
  · exact he.edited (Disk.edits_discardFile he.grounded c.isEntry_manifestPath.toIsNamed)
  · refine .bind (.bind (hshards .primary) fun _ => hshards .secondary) fun _ => ?_
    refine keeps_writeJson c.isEntry_manifestPath (fun e he => ?_) _
    rw [c.manifestPath_parent]
    exact he.index

end Furnished

end Config

end JavaAtlas
