import JavaAtlas.Proofs.Index.Files

/-!
# Writing an index

No two packages share a file, so every shard that is written stays as it was written while the
others follow. Writing an index stores its manifest and its shards; where it fails, the manifest
that was there before is gone unless nothing was changed or it was out of reach.
-/

namespace JavaAtlas

namespace Index

variable {base names : List String} {ns other : Namespace} {package : String}

/-! ### Files of their own -/

lemma Namespace.name_injective (h : ns.name = other.name) : ns = other := by
  revert h
  cases ns <;> cases other <;> decide

lemma shardFiles_iff :
    ShardFiles base ns names (base ++ [other.name, package ++ ".json"]) ↔
      other = ns ∧ package ∈ names := by
  constructor
  · rintro ⟨found, hfound, h | h⟩
    · simp only [List.append_cancel_left_eq, List.cons.injEq, and_true] at h
      exact ⟨Namespace.name_injective h.1, (String.append_left_inj _).mp h.2 ▸ hfound⟩
    · simp only [List.append_cancel_left_eq, List.cons.injEq, and_true] at h
      refine absurd h.2 (Path.append_ne_of_getLast (c := 'n') rfl ?_)
      have hlast : ".tmp".toList.getLast? = some 'p' := rfl
      rw [String.toList_append, List.getLast?_append, hlast]
      simp
  · rintro ⟨rfl, hmem⟩
    exact ⟨package, hmem, Or.inl rfl⟩

lemma not_shardFiles_manifest {file : String} : ¬ ShardFiles base ns names (base ++ [file]) := by
  rintro ⟨found, -, h | h⟩ <;> simp at h

lemma not_manifestFiles_shard {file : String} : ¬ ManifestFiles base (base ++ [ns.name, file]) := by
  rintro (h | h) <;> simp at h

/-! ### Shards -/

variable (c : Config) (d : Disk)

/-- The loop that writes values as the shards of packages. -/
def writeEach (ns : Namespace) (value : String → Json) (names : List String) :
    Action Disk PUnit :=
  forIn names PUnit.unit fun package _ => do
    writeJson (c.shardPath ns (.str package)) (value package)
    pure (.yield PUnit.unit)

lemma writeEach_cons (ns : Namespace) (value : String → Json) (package : String)
    (names : List String) :
    writeEach c ns value (package :: names) = (do
      writeJson (c.shardPath ns (.str package)) (value package)
      writeEach c ns value names) := by
  simp only [writeEach, List.forIn_cons, bind_assoc, pure_bind]

/-- Each value that is written stays stored until the loop has ended. -/
lemma exec_writeEach (ns : Namespace) (value : String → Json) (names : List String)
    (hslash : ∀ package ∈ names, '/' ∉ package.toList) (hnodup : names.Nodup) (d : Disk) :
    d.ChangesOnly (ShardFiles (d.placeOf c.indexDir) ns names)
        ((writeEach c ns value names).exec d).2 ∧
      (((writeEach c ns value names).exec d).1 = .ok PUnit.unit → ∀ package ∈ names,
        Stores ((writeEach c ns value names).exec d).2 (c.shardPath ns (.str package))
          (value package)) := by
  induction names generalizing d with
  | nil => exact ⟨.refl d, by simp⟩
  | cons package names ih =>
    have hhead := hslash package List.mem_cons_self
    rw [List.nodup_cons] at hnodup
    rw [writeEach_cons]
    rcases exec_writeJson (c.isEntry_shardPath ns hhead) (value package) d with
      ⟨failure, e, hwrite, hchange⟩ | ⟨e, hwrite, hchange, hstored⟩
    · rw [Action.exec_bind_of_error hwrite]
      refine ⟨hchange.mono ?_, by simp⟩
      rintro q rfl
      exact ⟨package, List.mem_cons_self, Or.inr (d.placeOf_shardPath_draft c ns hhead)⟩
    · rw [Action.exec_bind_of_ok hwrite]
      have hfirst : d.ChangesOnly (ShardFiles (d.placeOf c.indexDir) ns (package :: names)) e := by
        refine hchange.mono ?_
        rintro q (rfl | rfl)
        · exact ⟨package, List.mem_cons_self, Or.inl (d.placeOf_shardPath c ns hhead)⟩
        · exact ⟨package, List.mem_cons_self, Or.inr (d.placeOf_shardPath_draft c ns hhead)⟩
      obtain ⟨hrest, hothers⟩ := ih (fun p hp => hslash p (List.mem_cons_of_mem _ hp)) hnodup.2 e
      refine ⟨hfirst.trans ?_, fun hok other hother => ?_⟩
      · rw [hfirst.placeOf] at hrest
        refine hrest.mono ?_
        rintro q ⟨found, hfound, hq⟩
        exact ⟨found, List.mem_cons_of_mem _ hfound, hq⟩
      · rcases List.mem_cons.mp hother with rfl | hother
        · -- the packages that follow have other files
          refine hstored.of_changesOnly hrest ?_
          rw [e.placeOf_shardPath c ns hhead, shardFiles_iff]
          exact fun h => hnodup.1 h.2
        · exact hothers hok other hother

/-! ### The whole index -/

namespace Contents

variable (k : Contents)

def fillShards : Action Disk PUnit := do
  writeEach c .primary (k.shardJson .primary) (k.packages .primary).names
  writeEach c .secondary (k.shardJson .secondary) (k.packages .secondary).names

def fill : Action Disk Unit := do
  k.fillShards c
  writeJson c.manifestPath k.manifestJson

def write : Action Disk Unit :=
  writeIndex c k.generatedAt (.str k.version) (Json.ofText? k.secondaryVersion)
    (k.packages .primary) (k.packages .secondary)

lemma write_eq : k.write c = (do
    Disk.discardFile c.manifestPath
    k.fill c) := by
  have hversion : (Json.ofText? k.secondaryVersion).toOption = k.secondaryVersion.map .str := by
    cases k.secondaryVersion <;> rfl
  have hshards : ∀ ns, writeShards c ns (k.packages ns) = (do
      writeEach c ns (k.shardJson ns) (k.packages ns).names
      pure ()) := fun _ => rfl
  simp only [write, writeIndex, hshards, hversion, fill, fillShards, bind_assoc, pure_bind]
  rfl

/-- The places of the files of an index and of their drafts. -/
def Files (base : List String) (q : List String) : Prop :=
  ManifestFiles base q ∨ ∃ ns, ShardFiles base ns (k.packages ns).names q

lemma files_below {q : List String} (h : k.Files base q) : base <+: q := by
  rcases h with (rfl | rfl) | ⟨ns, found, -, rfl | rfl⟩
  all_goals exact List.prefix_append _ _

/-- Everything that a build has collected is stored. -/
structure Stored (d : Disk) : Prop where
  manifest : Stores d c.manifestPath k.manifestJson
  shard : ∀ ns, ∀ package ∈ (k.packages ns).names,
    Stores d (c.shardPath ns (.str package)) (k.shardJson ns package)

/-- The shards of one namespace are kept while those of the other are written. -/
lemma exec_fillShards (d : Disk) :
    d.ChangesOnly (fun q => ∃ ns, ShardFiles (d.placeOf c.indexDir) ns (k.packages ns).names q)
        ((k.fillShards c).exec d).2 ∧
      (((k.fillShards c).exec d).1 = .ok PUnit.unit →
        ∀ ns, ∀ package ∈ (k.packages ns).names,
          Stores ((k.fillShards c).exec d).2 (c.shardPath ns (.str package))
            (k.shardJson ns package)) := by
  have hshards := fun ns => exec_writeEach c ns (k.shardJson ns) (k.packages ns).names
    (fun _ => k.not_mem_slash) (k.tidy ns).nodup_names
  obtain ⟨hprimary, hstored⟩ := hshards .primary d
  rw [fillShards]
  match hrun : (writeEach c .primary (k.shardJson .primary) (k.packages .primary).names).exec d with
  | (.error failure, d₁) =>
    rw [Action.exec_bind_of_error hrun]
    rw [hrun] at hprimary
    exact ⟨hprimary.mono fun q hq => ⟨_, hq⟩, by simp⟩
  | (.ok _, d₁) =>
    rw [Action.exec_bind_of_ok hrun]
    rw [hrun] at hprimary hstored
    obtain ⟨hsecondary, hstored'⟩ := hshards .secondary d₁
    refine ⟨?_, fun hok ns package hpackage => ?_⟩
    · rw [hprimary.placeOf] at hsecondary
      exact (hprimary.mono fun q hq => ⟨_, hq⟩).trans (hsecondary.mono fun q hq => ⟨_, hq⟩)
    · match ns with
      | .primary =>
        refine (hstored rfl package hpackage).of_changesOnly hsecondary ?_
        rw [d₁.placeOf_shardPath c .primary (k.not_mem_slash hpackage), shardFiles_iff]
        exact fun h => Namespace.noConfusion h.1
      | .secondary => exact hstored' hok package hpackage

/-- After the shards the manifest is stored; until then it is as it was. -/
lemma exec_fill (d : Disk) :
    d.ChangesOnly (k.Files (d.placeOf c.indexDir)) ((k.fill c).exec d).2 ∧
      (((k.fill c).exec d).1 = .ok () → k.Stored c ((k.fill c).exec d).2) ∧
      (∀ failure, ((k.fill c).exec d).1 = .error failure →
        ((k.fill c).exec d).2.root.dataAt? (d.placeOf c.manifestPath) =
          d.root.dataAt? (d.placeOf c.manifestPath)) := by
  obtain ⟨hshards, hstored⟩ := k.exec_fillShards c d
  have hkept : ¬ ∃ ns, ShardFiles (d.placeOf c.indexDir) ns (k.packages ns).names
      (d.placeOf c.manifestPath) := by
    rw [d.placeOf_manifestPath]
    exact fun ⟨_, h⟩ => not_shardFiles_manifest h
  rw [fill]
  match hrun : (k.fillShards c).exec d with
  | (.error failure, d₁) =>
    rw [Action.exec_bind_of_error hrun]
    rw [hrun] at hshards
    exact ⟨hshards.mono fun q => Or.inr, by simp, fun _ _ => hshards.files _ hkept⟩
  | (.ok _, d₁) =>
    rw [Action.exec_bind_of_ok hrun]
    rw [hrun] at hshards hstored
    have hbefore := hshards.files _ hkept
    rcases exec_writeJson c.isEntry_manifestPath k.manifestJson d₁ with
      ⟨failure, e, hwrite, hchange⟩ | ⟨e, hwrite, hchange, hmanifest⟩
    · rw [hwrite]
      refine ⟨?_, by simp, fun _ _ => ?_⟩
      · rw [hshards.placeOf, d.placeOf_manifestPath_draft] at hchange
        refine (hshards.mono fun q => Or.inr).trans (hchange.mono ?_)
        rintro q rfl
        exact Or.inl (Or.inr rfl)
      · rw [← hbefore]
        refine hchange.files _ ?_
        rw [hshards.placeOf]
        exact Disk.placeOf_draft_ne c.isEntry_manifestPath.toIsNamed d
    · rw [hwrite]
      rw [hshards.placeOf, hshards.placeOf, d.placeOf_manifestPath_draft,
        d.placeOf_manifestPath] at hchange
      refine ⟨?_, fun _ => ⟨hmanifest.toStores, fun ns package hpackage => ?_⟩, by simp⟩
      · exact (hshards.mono fun q => Or.inr).trans (hchange.mono fun q hq => Or.inl hq)
      · refine (hstored rfl ns package hpackage).of_changesOnly hchange ?_
        rw [hshards.placeOf, d.placeOf_shardPath c ns (k.not_mem_slash hpackage)]
        exact not_manifestFiles_shard

/-- Writing an index changes no file but its own. It stores everything, or it fails: then it has
changed nothing, or the manifest that was there is removed unless it was not found. -/
theorem exec_write (d : Disk) :
    d.ChangesOnly (k.Files (d.placeOf c.indexDir)) ((k.write c).exec d).2 ∧
      (((k.write c).exec d).1 = .ok () → k.Stored c ((k.write c).exec d).2) ∧
      (∀ failure, ((k.write c).exec d).1 = .error failure → ((k.write c).exec d).2 = d ∨
        ((d.slot c.manifestPath ≠ .error .notFound →
            ((k.write c).exec d).2.root.dataAt? (d.placeOf c.manifestPath) = none) ∧
          (d.slot c.manifestPath = .error .notFound →
            ((k.write c).exec d).2.root.dataAt? (d.placeOf c.manifestPath) =
              d.root.dataAt? (d.placeOf c.manifestPath)))) := by
  rw [write_eq]
  rcases Disk.exec_discardFile c.isEntry_manifestPath d with
    ⟨failure, hdiscard⟩ | ⟨d₁, hdiscard, hchange, hgone, hkept⟩
  · rw [Action.exec_bind_of_error hdiscard]
    exact ⟨.refl d, by simp, fun _ _ => Or.inl rfl⟩
  · rw [Action.exec_bind_of_ok hdiscard]
    obtain ⟨hfill, hstored, hfailed⟩ := k.exec_fill c d₁
    rw [hchange.placeOf] at hfill hfailed
    refine ⟨?_, hstored, fun failure hfailure => Or.inr ?_⟩
    · refine (hchange.mono ?_).trans hfill
      rintro q rfl
      exact Or.inl (Or.inl (d.placeOf_manifestPath c))
    · rw [hfailed failure hfailure]
      exact ⟨hgone, fun hslot => by rw [hkept hslot]⟩

end Contents

end Index

end JavaAtlas
