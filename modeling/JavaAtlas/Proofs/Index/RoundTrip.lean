import JavaAtlas.Proofs.Disk.Directories
import JavaAtlas.Proofs.Index.Files

/-!
# Records stored and loaded

Writing a value succeeds where the directories of its path can be made and files be written at the
path and its draft. Every shard whose type names are distinct and whose numbers are short enough
is then loaded as it was, and so is every manifest, whatever characters their texts hold.
-/

namespace JavaAtlas

namespace Index

variable {d e : Disk} {p : Path} {v : Json}

/-! ### Writing -/

/-- The directories of a path can be made, and files be written then at the path and its draft. -/
def CanStore (d : Disk) (p : Path) : Prop :=
  ∃ e, (Disk.makeDirectories p.parent).exec d = (.ok (), e) ∧ e.Admits p ∧ e.Admits p.draft

/-- Once the directories of a path are made, a value is stored if files can be written at the path
and its draft, and it is not written otherwise. -/
lemma exec_writeJson_of_made (hd : d.IsGrounded)
    (hmade : (Disk.makeDirectories p.parent).exec d = (.ok (), e)) (hv : v.isWritable = true) :
    (e.Admits p ∧ e.Admits p.draft ∧
      ∃ f, (writeJson p v).exec d = (.ok (), f) ∧ p.IsNamed ∧ Stores f p v) ∨
    (¬ (e.Admits p ∧ e.Admits p.draft) ∧
      ∃ failure f, (writeJson p v).exec d = (.error failure, f)) := by
  have hchange := Disk.confined_makeDirectories d.cwd p.parent d rfl
  have hreach := Disk.prepares_makeDirectories hd p.parent
  rw [hmade] at hchange hreach
  have hground := hd.of_changesOnly hchange
  rw [writeJson_eq, Action.exec_bind_of_ok hmade]
  simp only [hv, Bool.not_true, Bool.false_eq_true, if_false]
  by_cases hdraft : e.Admits p.draft
  · obtain ⟨f, hwrite, hedits, hdata⟩ := Disk.exec_writeFile_of_admits hdraft (fileOf v)
    rw [Action.exec_bind_of_ok hwrite]
    rw [← hedits.placeOf] at hdata
    by_cases hp : e.Admits p
    · left
      have hpf := hedits.admits hp
      obtain ⟨g, hmove, hmoved, hstored, -⟩ := Disk.exec_moveFile_of_admits (hedits.admits hdraft)
        hpf (Disk.placeOf_draft_ne hp.named f) hdata
      rw [← hmoved.placeOf] at hstored
      exact ⟨hp, hdraft, g, hmove, hp.named,
        ⟨⟨hv, hp.fits, hstored⟩, hmoved.reaches hpf.reaches⟩⟩
    · right
      have hpf : ¬ f.Admits p := fun h => hp ⟨h.named, hreach, h.fits, fun hdir =>
        h.file (hedits.placeOf p ▸ hedits.directories _ hdir)⟩
      obtain ⟨failure, hmove⟩ := Disk.exec_moveFile_of_slot (hedits.admits hdraft) fun hnull =>
        (Disk.slot_of_reaches_of_not_admits (hedits.reaches hreach) hnull hpf).imp
          (fun h => ⟨_, h⟩) id
      exact ⟨fun h => hp h.1, failure, f, hmove⟩
  · right
    obtain ⟨failure, hwrite⟩ := Disk.exec_writeFile_of_not_admits p.isNamed_draft
      (Or.inr (hground.directory_start _)) hdraft (fileOf v)
    exact ⟨fun h => hdraft h.2, failure, e, Action.exec_bind_of_error hwrite⟩

/-- A value is written exactly where it can be stored. -/
lemma exec_writeJson_iff (hd : d.IsGrounded) (hv : v.isWritable = true) :
    (∃ f, (writeJson p v).exec d = (.ok (), f)) ↔ CanStore d p := by
  match hmake : (Disk.makeDirectories p.parent).exec d with
  | (.error failure, e) =>
    rw [writeJson_eq, Action.exec_bind_of_error hmake, CanStore, hmake]
    simp
  | (.ok (), e) =>
    obtain ⟨hp, hdraft, f, hrun, -⟩ | ⟨hnot, failure, f, hrun⟩ :=
      exec_writeJson_of_made hd hmake hv
    · exact ⟨fun _ => ⟨e, hmake, hp, hdraft⟩, fun _ => ⟨f, hrun⟩⟩
    · constructor
      · rintro ⟨g, hok⟩
        rw [hrun] at hok
        cases hok
      · rintro ⟨g, hok, hadmits⟩
        rw [hmake] at hok
        cases hok
        exact absurd hadmits hnot

/-- What is written is stored. -/
lemma stores_of_writeJson (hd : d.IsGrounded) (hv : v.isWritable = true)
    (h : (writeJson p v).exec d = (.ok (), e)) : p.IsNamed ∧ Stores e p v := by
  obtain ⟨f, hmake, hadmits⟩ := (exec_writeJson_iff hd hv).mp ⟨e, h⟩
  obtain ⟨-, -, g, hrun, hstores⟩ | ⟨hnot, -⟩ := exec_writeJson_of_made hd hmake hv
  · rw [hrun] at h
    cases h
    exact hstores
  · exact absurd hadmits hnot

/-- An object that reads back is read from the file that it was written to. -/
lemma readJson_of_writeJson (hd : d.IsGrounded) (hv : v.isWritable = true)
    (hobject : ∃ members, v = .obj members) (hread : Json.ReadsBack maxNesting v)
    (h : (writeJson p v).exec d = (.ok (), e)) : readJson e p = .ok (some v) := by
  obtain ⟨hp, hstores⟩ := stores_of_writeJson hd hv h
  exact readJson_of_stores hp hobject hstores hread

/-! ### Numbers that can be written -/

end Index

/-- The numbers of the lines of a shard's methods have so few digits that they are read. -/
def Shard.HasShortNumbers (s : Shard String) : Prop :=
  ∀ entry ∈ s.types, ∀ m ∈ entry.2.methods, ∀ n ∈ [m.lineStart, m.lineEnd],
    (Nat.toDigits 10 n.natAbs).length ≤ 4300

/-- What reads back can be written. -/
lemma Json.ReadsBack.isWritable {room : Nat} {v : Json} (h : Json.ReadsBack room v) :
    v.isWritable = true := by
  induction h with
  | null | bool | str => rfl
  | int h => simpa [Json.isWritable] using h
  | arr _ ih => simpa [Json.isWritable] using ih
  | obj _ _ ih =>
    simp only [Json.isWritable, Json.haveWritable_iff]
    exact ih

lemma Manifest.isWritable (m : Manifest String) : (m.map .str).toJson.isWritable = true :=
  Json.ReadsBack.isWritable (m.readsBack : Json.ReadsBack 3 _)

lemma Method.isWritable {m : Method String}
    (h : ∀ n ∈ [m.lineStart, m.lineEnd], (Nat.toDigits 10 n.natAbs).length ≤ 4300) :
    (m.map .str).toJson.isWritable = true := by
  have hlimit : Text.digitLimit = 4300 := rfl
  simpa [Method.toJson, Method.map, Parameter.toJson, Parameter.map, Json.isWritable, hlimit]
    using h

lemma TypeDecl.isWritable {d : TypeDecl String}
    (h : ∀ m ∈ d.methods, ∀ n ∈ [m.lineStart, m.lineEnd],
      (Nat.toDigits 10 n.natAbs).length ≤ 4300) :
    (d.map .str).toJson.isWritable = true := by
  have hsuper : (Json.ofOption (d.superType.map .str)).isWritable = true :=
    Json.ReadsBack.isWritable (Json.readsBack_ofOption d.superType : Json.ReadsBack 0 _)
  have hmethods := fun m hm => Method.isWritable (h m hm)
  simpa [TypeDecl.toJson, TypeDecl.map, Field.toJson, Field.map, Json.isWritable, hsuper]
    using hmethods

lemma Shard.isWritable {s : Shard String} (h : s.HasShortNumbers) :
    (s.map .str).toJson.isWritable = true := by
  simp only [Shard.toJson, Json.isWritable, Json.haveWritable_iff, List.mem_cons,
    List.not_mem_nil, or_false, forall_eq_or_imp, forall_eq]
  refine ⟨rfl, fun entry hentry => ?_⟩
  simp only [Shard.map, List.map_map, List.mem_map, Function.comp_apply] at hentry
  obtain ⟨e, he, rfl⟩ := hentry
  exact TypeDecl.isWritable (h e he)

/-! ### Loading -/

namespace Index

/-- Shards and manifests are written wherever a file can be stored, and what is loaded from the
file is what was written, with everything in its order. -/
theorem records_load_as_written {d : Disk} (hd : d.IsGrounded) (p : Path) :
    (∀ s : Shard String, (Ordered.keys s.types).Nodup → s.HasShortNumbers →
      ((∃ e, (writeJson p (s.map .str).toJson).exec d = (.ok (), e)) ↔ CanStore d p) ∧
      ∀ e, (writeJson p (s.map .str).toJson).exec d = (.ok (), e) →
        ∃ v, readJson e p = .ok (some v) ∧ Shard.ofJson v = .ok (s.map .str)) ∧
    ∀ m : Manifest String,
      ((∃ e, (writeJson p (m.map .str).toJson).exec d = (.ok (), e)) ↔ CanStore d p) ∧
      ∀ e, (writeJson p (m.map .str).toJson).exec d = (.ok (), e) →
        ∃ v, readJson e p = .ok (some v) ∧ Manifest.ofJson v = .ok (m.map .str) := by
  constructor
  · intro s hnames hnumbers
    have hwritable := Shard.isWritable hnumbers
    refine ⟨exec_writeJson_iff hd hwritable, fun e hrun => ⟨(s.map .str).toJson, ?_, ?_⟩⟩
    · exact readJson_of_writeJson hd hwritable ⟨_, rfl⟩ (Shard.readsBack hnames hwritable) hrun
    · exact Shard.ofJson_map s
  · intro m
    have hwritable := m.isWritable
    refine ⟨exec_writeJson_iff hd hwritable, fun e hrun => ⟨(m.map .str).toJson, ?_, ?_⟩⟩
    · exact readJson_of_writeJson hd hwritable ⟨_, rfl⟩ m.readsBack hrun
    · exact Manifest.ofJson_map m

def newShardPath : Path := ⟨"/", ["index", "a.json"]⟩

/-- A shard with texts that are escaped and numbers of either sign. -/
def oddShard : Shard String where
  package := "a\"b\\c\n"
  types := [("T\x01", {
    kind := .enumType
    superType := some ""
    interfaces := ["é", "\x0d"]
    fields := [⟨"f", "int", ["final"]⟩]
    methods := [⟨"m", "void", [⟨"p", "int"⟩], [], -7, 100000000000000000000⟩]
    sourcePath := "" })]

theorem oddShard_loads_as_written :
    bareDisk.IsGrounded ∧ (Ordered.keys oddShard.types).Nodup ∧ oddShard.HasShortNumbers ∧
      CanStore bareDisk newShardPath ∧
      ∃ e v, (writeJson newShardPath (oddShard.map .str).toJson).exec bareDisk = (.ok (), e) ∧
        readJson e newShardPath = .ok (some v) ∧ Shard.ofJson v = .ok (oddShard.map .str) := by
  have hd : bareDisk.IsGrounded := ⟨by decide, by decide, rfl, ⟨_, rfl⟩⟩
  have hnames : (Ordered.keys oddShard.types).Nodup := by decide
  have hnumbers : oddShard.HasShortNumbers := by
    unfold Shard.HasShortNumbers
    decide +kernel
  have hstore : CanStore bareDisk newShardPath := by
    refine ⟨_, rfl, ?_, ?_⟩
    · exact ⟨⟨by decide, by decide⟩, ⟨rfl, ⟨_, rfl⟩⟩, ⟨by decide, by decide, by decide⟩,
        Disk.not_hasDirectory_of_none rfl⟩
    · exact ⟨⟨by decide, by decide⟩, ⟨rfl, ⟨_, rfl⟩⟩, ⟨by decide, by decide, by decide⟩,
        Disk.not_hasDirectory_of_none rfl⟩
  obtain ⟨hwrites, hloads⟩ := (records_load_as_written hd newShardPath).1 oddShard hnames hnumbers
  obtain ⟨e, hrun⟩ := hwrites.mpr hstore
  obtain ⟨v, hread, hvalue⟩ := hloads e hrun
  exact ⟨hd, hnames, hnumbers, hstore, e, v, hrun, hread, hvalue⟩

end Index

end JavaAtlas
