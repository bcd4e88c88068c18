import JavaAtlas.Proofs.Index.RoundTrip
import JavaAtlas.Proofs.Index.Writing

/-!
# Writing an index again

A build that succeeds leaves nothing where its files were drafted, and no directory either: once the
directory of the index is there, no others are made than those of the namespaces. So what a build
has written can be written again, which leaves every file but the manifest as it is.
-/

namespace JavaAtlas

namespace Index

variable {c : Config} {d e : Disk} {p : Path} {v : Json} {base place names : List String}
  {ns : Namespace} {package : String} {value : String → Json} {k : Contents}

/-! ### Places that stay vacant -/

/-- The directory of the index is there, and nothing lies at a place. -/
structure Vacant (c : Config) (base place : List String) (d : Disk) : Prop where
  grounded : d.IsGrounded
  base : d.placeOf c.indexDir = base
  reaches : d.Reaches c.indexDir
  vacant : d.root.get? place = none

/-- Writing an index file leaves a place vacant that is not its own. -/
lemma Vacant.keeps_writeJson (hp : p.IsEntry)
    (habove : ∀ d : Disk, d.Reaches c.indexDir → d.Reaches p.parent.parent)
    (hplace : ∀ d : Disk, d.placeOf c.indexDir = base →
      place ≠ d.placeOf p.parent ∧ place ≠ d.placeOf p ∧ place ≠ d.placeOf p.draft) (v : Json) :
    Action.Keeps (Vacant c base place) (writeJson p v) := by
  intro d hd
  obtain ⟨hparent, hfile, hdraft⟩ := hplace d hd.base
  obtain ⟨hnodata, hnodir⟩ := Node.get?_eq_none_iff.mp hd.vacant
  have hmade := Disk.confined_makeDirectories d.cwd p.parent d rfl
  -- the directories are made first, and what follows makes no others
  have hrest : ∀ {makes removes : List String → Prop} {e : Disk}, ¬ makes place → ¬ removes place →
      Disk.Edits makes removes ((Disk.makeDirectories p.parent).exec d).2 e →
      Vacant c base place e := by
    intro makes removes e hmakes hremoves hedits
    have hchange := (hmade.mono fun _ => False.elim).trans hedits.toChangesOnly
    refine ⟨hd.grounded.of_changesOnly hchange, ?_, hchange.reaches hd.reaches, ?_⟩
    · rw [hchange.placeOf, hd.base]
    · refine Node.get?_eq_none_iff.mpr ⟨?_, fun hdir => ?_⟩
      · rw [hchange.files place (fun h => h.elim hmakes hremoves), hnodata]
      · exact (Disk.made_makeDirectories hd.grounded (habove d hd.reaches)
          (hedits.made place hdir)).elim hnodir hparent
  rcases edits_writeJson hp v d with ⟨failure, e, hwrite, hedits⟩ | ⟨e, hwrite, hedits, -⟩
  · rw [hwrite]
    exact hrest hdraft id hedits
  · rw [hwrite]
    exact hrest (fun h => h.elim hfile hdraft) hdraft hedits

lemma Vacant.keeps_writeEach (ns : Namespace) (value : String → Json)
    (hslash : ∀ package ∈ names, '/' ∉ package.toList) {other : Namespace} {file : String}
    (hplace : ¬ ShardFiles base ns names (base ++ [other.name, file])) :
    Action.Keeps (Vacant c base (base ++ [other.name, file])) (writeEach c ns value names) := by
  induction names with
  | nil => exact .pure _
  | cons package names ih =>
    rw [writeEach_cons]
    have hhead := hslash package List.mem_cons_self
    refine .bind (keeps_writeJson (c.isEntry_shardPath ns hhead) ?_ ?_ _) fun _ => ?_
    · intro d hd
      rwa [c.shardPath_parent_parent ns hhead]
    · intro d hd
      rw [d.placeOf_shardPath_parent c ns hhead, d.placeOf_shardPath c ns hhead,
        d.placeOf_shardPath_draft c ns hhead, hd]
      refine ⟨by simp, fun heq => ?_, fun heq => ?_⟩
      · exact hplace ⟨package, List.mem_cons_self, Or.inl heq⟩
      · exact hplace ⟨package, List.mem_cons_self, Or.inr heq⟩
    · refine ih (fun p hp => hslash p (List.mem_cons_of_mem _ hp)) fun ⟨found, hfound, heq⟩ => ?_
      exact hplace ⟨found, List.mem_cons_of_mem _ hfound, heq⟩

lemma Vacant.keeps_writeManifest {other : Namespace} {file : String} (v : Json) :
    Action.Keeps (Vacant c base (base ++ [other.name, file])) (writeJson c.manifestPath v) := by
  refine keeps_writeJson c.isEntry_manifestPath (fun d hd => ?_) (fun d hd => ?_) v
  · rw [c.manifestPath_parent]
    exact hd.parent
  · rw [c.manifestPath_parent, d.placeOf_manifestPath, d.placeOf_manifestPath_draft, hd]
    simp

/-! ### What a build leaves -/

lemma shardFiles_draft_iff {other : Namespace} :
    ShardFiles base ns names (base ++ [other.name, package ++ ".json" ++ ".tmp"]) ↔
      other = ns ∧ package ∈ names := by
  constructor
  · rintro ⟨found, hfound, h | h⟩
    · simp only [List.append_cancel_left_eq, List.cons.injEq, and_true] at h
      refine absurd h.2 (Path.append_ne_of_getLast (c := 'p') rfl ?_)
      have hlast : ".json".toList.getLast? = some 'n' := rfl
      rw [String.toList_append, List.getLast?_append, hlast]
      simp
    · simp only [List.append_cancel_left_eq, List.cons.injEq, and_true] at h
      have hname := (String.append_left_inj _).mp ((String.append_left_inj _).mp h.2)
      exact ⟨Namespace.name_injective h.1, hname ▸ hfound⟩
  · rintro ⟨rfl, hmem⟩
    exact ⟨package, hmem, Or.inr rfl⟩

/-- The draft of each shard that is written is a path that fits, and nothing is left at its place. -/
lemma vacant_writeEach (hslash : ∀ package ∈ names, '/' ∉ package.toList) (hnodup : names.Nodup)
    (hd : d.IsGrounded) (h : (writeEach c ns value names).exec d = (.ok PUnit.unit, e)) :
    ∀ package ∈ names, (c.shardPath ns (.str package)).draft.Fits ∧
      Vacant c (d.placeOf c.indexDir)
        (d.placeOf c.indexDir ++ [ns.name, package ++ ".json" ++ ".tmp"]) e := by
  induction names generalizing d with
  | nil => simp
  | cons package names ih =>
    have hhead := hslash package List.mem_cons_self
    have htail : ∀ package ∈ names, '/' ∉ package.toList :=
      fun p hp => hslash p (List.mem_cons_of_mem _ hp)
    rw [List.nodup_cons] at hnodup
    rw [writeEach_cons, Action.exec_bind_eq_ok] at h
    obtain ⟨_, f, hwrite, hrest⟩ := h
    rcases exec_writeJson (c.isEntry_shardPath ns hhead) (value package) d with
      ⟨failure, _, hfailed, -⟩ | ⟨_, hdone, hchange, hsettled⟩
    · rw [hfailed] at hwrite
      cases hwrite
    · rw [hdone] at hwrite
      cases hwrite
      have hground := hd.of_changesOnly hchange
      have hbase : f.placeOf c.indexDir = d.placeOf c.indexDir := hchange.placeOf _
      intro other hother
      rcases List.mem_cons.mp hother with rfl | hother
      · refine ⟨hsettled.draftFits, ?_⟩
        have hvacant : Vacant c (d.placeOf c.indexDir)
            (d.placeOf c.indexDir ++ [ns.name, other ++ ".json" ++ ".tmp"]) f := by
          refine ⟨hground, hbase, ?_, ?_⟩
          · have hparent : (c.shardPath ns (.str other)).parent.parent = c.indexDir :=
              c.shardPath_parent_parent ns hhead
            exact hparent ▸ hsettled.reaches.parent
          · have hgone := hsettled.draftGone
            rwa [f.placeOf_shardPath_draft c ns hhead, hbase] at hgone
        have hkeeps := Vacant.keeps_writeEach ns value htail
          (fun h => hnodup.1 (shardFiles_draft_iff.mp h).2) f hvacant
        rwa [hrest] at hkeeps
      · rw [← hbase]
        exact ih htail hnodup.2 hground hrest other hother

/-- Everything that a build has collected is stored and can be written again. -/
structure Contents.Settled (c : Config) (k : Contents) (d : Disk) : Prop where
  manifest : Settles d c.manifestPath k.manifestJson
  shard : ∀ ns, ∀ package ∈ (k.packages ns).names,
    Settles d (c.shardPath ns (.str package)) (k.shardJson ns package)

lemma Contents.settled_fill (hd : d.IsGrounded) (h : (k.fill c).exec d = (.ok (), e)) :
    k.Settled c e := by
  obtain ⟨-, hstored, -⟩ := k.exec_fill c d
  rw [h] at hstored
  rw [fill, Action.exec_bind_eq_ok] at h
  obtain ⟨_, f, hshards, hmanifest⟩ := h
  rw [fillShards, Action.exec_bind_eq_ok] at hshards
  obtain ⟨_, g, hprimary, hsecondary⟩ := hshards
  have hslash : ∀ ns, ∀ package ∈ (k.packages ns).names, '/' ∉ package.toList :=
    fun ns _ => k.not_mem_slash
  have hchange := (exec_writeEach c .primary (k.shardJson .primary) (k.packages .primary).names
    (hslash _) (k.tidy _).nodup_names d).1
  rw [hprimary] at hchange
  have hbase : g.placeOf c.indexDir = d.placeOf c.indexDir := hchange.placeOf _
  -- the drafts of both namespaces are gone when the manifest is written
  have hvacant : ∀ ns, ∀ package ∈ (k.packages ns).names,
      (c.shardPath ns (.str package)).draft.Fits ∧ Vacant c (d.placeOf c.indexDir)
        (d.placeOf c.indexDir ++ [ns.name, package ++ ".json" ++ ".tmp"]) f := by
    intro ns package hpackage
    cases ns with
    | primary =>
      obtain ⟨hfits, hgone⟩ := vacant_writeEach (hslash _) (k.tidy _).nodup_names hd hprimary
        package hpackage
      have hother : ¬ ShardFiles (d.placeOf c.indexDir) .secondary (k.packages .secondary).names
          (d.placeOf c.indexDir ++ [Namespace.primary.name, package ++ ".json" ++ ".tmp"]) :=
        fun h => by cases (shardFiles_draft_iff.mp h).1
      have hkeeps := Vacant.keeps_writeEach .secondary (k.shardJson .secondary)
        (hslash .secondary) hother g hgone
      rw [hsecondary] at hkeeps
      exact ⟨hfits, hkeeps⟩
    | secondary =>
      rw [← hbase]
      exact vacant_writeEach (hslash _) (k.tidy _).nodup_names (hd.of_changesOnly hchange)
        hsecondary package hpackage
  constructor
  · rcases exec_writeJson c.isEntry_manifestPath k.manifestJson f with
      ⟨failure, _, hfailed, -⟩ | ⟨_, hdone, -, hsettled⟩
    · rw [hfailed] at hmanifest
      cases hmanifest
    · rw [hdone] at hmanifest
      cases hmanifest
      exact hsettled
  · intro ns package hpackage
    obtain ⟨hfits, hgone⟩ := hvacant ns package hpackage
    have hkeeps := Vacant.keeps_writeManifest k.manifestJson f hgone
    rw [hmanifest] at hkeeps
    refine ⟨(hstored rfl).shard ns package hpackage, hfits, ?_⟩
    rw [e.placeOf_shardPath_draft c ns (k.not_mem_slash hpackage), hkeeps.base]
    exact hkeeps.vacant

/-- A build that succeeds leaves an index that can be written again. -/
lemma Contents.settled_write (hd : d.IsGrounded) (h : (k.write c).exec d = (.ok (), e)) :
    k.Settled c e := by
  rw [write_eq, Action.exec_bind_eq_ok] at h
  obtain ⟨_, f, hdiscard, hfill⟩ := h
  have hedits := Disk.edits_discardFile hd c.isEntry_manifestPath.toIsNamed
  rw [hdiscard] at hedits
  exact settled_fill (hd.of_changesOnly hedits.toChangesOnly) hfill

/-! ### Writing again -/

/-- A file can be written by way of its draft, which is not there. -/
structure Clear (d : Disk) (p : Path) : Prop where
  admits : d.Admits p
  draft : d.Admits p.draft
  gone : d.root.dataAt? (d.placeOf p.draft) = none

lemma Settles.clear (h : Settles d p v) (hp : p.IsNamed) : Clear d p where
  admits := ⟨hp, h.reaches, h.fits, Disk.not_hasDirectory_of_dataAt? h.data⟩
  draft := ⟨p.isNamed_draft, by simpa using h.reaches, h.draftFits,
    Disk.not_hasDirectory_of_none h.draftGone⟩
  gone := Node.dataAt?_of_none h.draftGone

lemma Clear.of_edits {makes removes : List String → Prop} (h : Clear d p)
    (hedits : Disk.Edits makes removes d e) (hdraft : ¬ makes (d.placeOf p.draft)) : Clear e p where
  admits := hedits.admits h.admits
  draft := hedits.admits h.draft
  gone := by
    rw [hedits.placeOf]
    exact hedits.dataAt?_eq_none h.gone hdraft

/-- Where the way is clear, a value is written without a change to anything but its file. -/
lemma Clear.exec_writeJson (h : Clear d p) (hv : v.isWritable = true) :
    ∃ e, (writeJson p v).exec d = (.ok (), e) ∧
      Disk.Edits (· = d.placeOf p) (fun _ => False) d e ∧
      e.root.dataAt? (d.placeOf p) = some (fileOf v) := by
  obtain ⟨f, hwrite, hdrafted, hdraft⟩ := Disk.exec_writeFile_of_admits h.draft (fileOf v)
  rw [← hdrafted.placeOf] at hdraft
  obtain ⟨e, hmove, hmoved, hdata, hgone⟩ := Disk.exec_moveFile_of_admits
    (hdrafted.admits h.draft) (hdrafted.admits h.admits)
    (Disk.placeOf_draft_ne h.admits.named f) hdraft
  rw [hdrafted.placeOf, hdrafted.placeOf] at hmoved
  rw [hdrafted.placeOf] at hdata hgone
  refine ⟨e, ?_, ?_, hdata⟩
  · rw [writeJson_eq, Action.exec_bind_of_ok
      (Disk.exec_makeDirectories_of_directory h.admits.isDirectory_parent)]
    simp only [hv, Bool.not_true, Bool.false_eq_true, if_false]
    rw [Action.exec_bind_of_ok hwrite, hmove]
  · -- the draft is made and removed again
    have hedits : Disk.Edits (fun q => q = d.placeOf p ∨ q = d.placeOf p.draft)
        (· = d.placeOf p.draft) d e :=
      (hdrafted.mono (fun _ => Or.inr) fun _ => False.elim).trans
        (hmoved.mono (fun _ => Or.inl) fun _ => id)
    exact hedits.drop (hgone.trans h.gone.symm) (fun _ => id) fun _ => Or.inr

/-- From one disk to another no file and no directory changes. -/
abbrev Alike (d e : Disk) : Prop := Disk.Edits (fun _ => False) (fun _ => False) d e

lemma Settles.of_edits {makes removes : List String → Prop} (h : Settles d p v)
    (hedits : Disk.Edits makes removes d e) (hfile : ¬ makes (d.placeOf p))
    (hgone : ¬ removes (d.placeOf p)) (hdraft : ¬ makes (d.placeOf p.draft)) : Settles e p v where
  toStores := h.toStores.of_changesOnly hedits.toChangesOnly fun hp => hp.elim hfile hgone
  draftFits := h.draftFits
  draftGone := by
    obtain ⟨hnodata, hnodir⟩ := Node.get?_eq_none_iff.mp h.draftGone
    rw [hedits.placeOf]
    exact Node.get?_eq_none_iff.mpr
      ⟨hedits.dataAt?_eq_none hnodata hdraft, fun hdir => hnodir (hedits.made _ hdir)⟩

/-- What is settled is written again without a change. -/
lemma Settles.exec_writeJson (h : Settles d p v) (hp : p.IsNamed) :
    ∃ e, (writeJson p v).exec d = (.ok (), e) ∧ Alike d e := by
  obtain ⟨e, hwrite, hedits, hdata⟩ := (h.clear hp).exec_writeJson h.writable
  exact ⟨e, hwrite, hedits.drop (hdata.trans h.data.symm) (fun _ => Or.inr) fun _ => Or.inl⟩

lemma exec_writeEach_again (hslash : ∀ package ∈ names, '/' ∉ package.toList)
    (h : ∀ package ∈ names, Settles d (c.shardPath ns (.str package)) (value package)) :
    ∃ e, (writeEach c ns value names).exec d = (.ok PUnit.unit, e) ∧ Alike d e := by
  induction names generalizing d with
  | nil => exact ⟨d, rfl, .refl d⟩
  | cons package names ih =>
    have hhead := c.isEntry_shardPath ns (hslash package List.mem_cons_self)
    obtain ⟨f, hwrite, hsame⟩ := (h package List.mem_cons_self).exec_writeJson hhead.toIsNamed
    obtain ⟨e, hrest, hsame'⟩ := ih (fun p hp => hslash p (List.mem_cons_of_mem _ hp))
      fun p hp => (h p (List.mem_cons_of_mem _ hp)).of_edits hsame id id id
    exact ⟨e, by rw [writeEach_cons, Action.exec_bind_of_ok hwrite, hrest], hsame.trans hsame'⟩

/-- What a build has collected, at another time. -/
def Contents.restamp (k : Contents) (stamp : String) : Contents := { k with generatedAt := stamp }

/-- An index that is settled is written again, and only its manifest is another one. -/
lemma Contents.exec_write_again (h : k.Settled c d) (stamp : String) :
    ∃ e, ((k.restamp stamp).write c).exec d = (.ok (), e) ∧
      Disk.Edits (· = d.placeOf c.manifestPath) (· = d.placeOf c.manifestPath) d e ∧
      Stores e c.manifestPath (k.restamp stamp).manifestJson := by
  have hnamed := c.isEntry_manifestPath.toIsNamed
  have hclear := h.manifest.clear hnamed
  obtain ⟨d₁, hdiscard, hgone, -⟩ := Disk.exec_discardFile_of_admits hclear.admits
  have hshard : ∀ ns, ∀ package ∈ (k.packages ns).names,
      Settles d₁ (c.shardPath ns (.str package)) (k.shardJson ns package) := by
    intro ns package hpackage
    refine (h.shard ns package hpackage).of_edits hgone id ?_ id
    rw [d.placeOf_manifestPath, d.placeOf_shardPath c ns (k.not_mem_slash hpackage)]
    simp
  obtain ⟨d₂, hprimary, hsame⟩ := exec_writeEach_again (c := c)
    (fun _ => k.not_mem_slash) (hshard .primary)
  obtain ⟨d₃, hsecondary, hsame'⟩ := exec_writeEach_again (c := c)
    (fun _ => k.not_mem_slash) fun package hpackage =>
      (hshard .secondary package hpackage).of_edits hsame id id id
  have hbefore := hgone.trans ((hsame.trans hsame').mono (fun _ => False.elim) fun _ => False.elim)
  obtain ⟨e, hwrite, hedits, hdata⟩ :=
    (hclear.of_edits hbefore id).exec_writeJson (k.restamp stamp).manifest.isWritable
  rw [hbefore.placeOf] at hedits hdata
  have hall : Disk.Edits (· = d.placeOf c.manifestPath) (· = d.placeOf c.manifestPath) d e :=
    (hbefore.mono (fun _ => False.elim) fun _ => id).trans
      (hedits.mono (fun _ => id) fun _ => False.elim)
  refine ⟨e, ?_, hall, ⟨?_, h.manifest.fits, ?_⟩, hall.reaches h.manifest.reaches⟩
  · have hfill : ((k.restamp stamp).fillShards c).exec d₁ = (.ok PUnit.unit, d₃) :=
      (Action.exec_bind_of_ok hprimary).trans hsecondary
    rw [write_eq, Action.exec_bind_of_ok hdiscard, fill, Action.exec_bind_of_ok hfill]
    exact hwrite
  · exact (k.restamp stamp).manifest.isWritable
  · rwa [hall.placeOf]

end Index

end JavaAtlas
