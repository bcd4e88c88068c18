import JavaAtlas.Proofs.Disk.Effects

/-!
# Directories in reach

On a disk whose working directory is there, a path is followed from a directory. Making
directories then either leads to the directory or leaves a path that does not lead to one, and
what a path is asked for (a file, a directory) says that everything above it is in reach.
-/

namespace JavaAtlas

namespace Path

variable {p : Path}

lemma text_of_parts (h : p.parts ≠ []) : p.text = p.root ++ "/".intercalate p.parts := by
  rw [text, if_neg]
  simp [h]

/-- The text of a path ends in its name. -/
lemma text_eq_append (h : p.IsNamed) :
    ∃ front : String, p.text = front ++ p.name ∧ ∀ name, (p.withName name).text = front ++ name := by
  have hname (name : String) : (p.withName name).parts ≠ [] := by simp [withName]
  by_cases hparent : p.parent.parts = []
  · refine ⟨p.root, ?_, fun name => ?_⟩
    · rw [text_of_parts h.parts, h.parts_eq, hparent]
      simp
    · rw [text_of_parts (hname name)]
      have : p.parts.dropLast = [] := hparent
      simp [withName, this]
  · refine ⟨p.root ++ ("/".intercalate p.parent.parts ++ "/"), ?_, fun name => ?_⟩
    · rw [text_of_parts h.parts, h.parts_eq,
        String.intercalate_append_of_ne_nil hparent (by simp)]
      simp [String.append_assoc]
    · rw [text_of_parts (hname name)]
      have hparts : (p.withName name).parts = p.parent.parts ++ [name] := rfl
      rw [hparts, String.intercalate_append_of_ne_nil hparent (by simp)]
      simp [withName, String.append_assoc]

lemma text_draft (h : p.IsNamed) : p.draft.text = p.text ++ ".tmp" := by
  obtain ⟨front, htext, hname⟩ := text_eq_append h
  rw [draft, hname, htext, String.append_assoc]

/-- A path fits if one does whose name is longer. -/
lemma fits_of_append {ending : String} (hp : p.IsNamed)
    (h : (p.withName (p.name ++ ending)).Fits) : p.Fits where
  null := by
    have hnull := h.null
    simp only [Disk.hasNull, List.any_eq_false] at hnull ⊢
    intro part hpart
    rw [hp.parts_eq, List.mem_append, List.mem_singleton] at hpart
    rcases hpart with hpart | rfl
    · exact hnull part (List.mem_append_left _ hpart)
    · have hlong := hnull (p.name ++ ending) (List.mem_append_right _ (by simp))
      intro hmem
      refine hlong ?_
      simp only [List.contains_eq_mem, decide_eq_true_eq] at hmem ⊢
      rw [String.toList_append]
      exact List.mem_append_left _ hmem
  text := by
    obtain ⟨front, htext, hname⟩ := text_eq_append hp
    have hlong := h.text
    rw [hname, ← String.append_assoc, ← htext, String.utf8ByteSize_append] at hlong
    exact Nat.le_trans (Nat.le_add_right _ _) hlong
  name := by
    have hlong := h.name
    have hname : (p.withName (p.name ++ ending)).name = p.name ++ ending := by
      simp [withName, name]
    rw [hname, String.utf8ByteSize_append] at hlong
    exact Nat.le_trans (Nat.le_add_right _ _) hlong

/-- Above a path that is short enough, the paths are too. -/
lemma text_parent_le {n : Nat} (hn : 1 ≤ n) (hp : p.parts ≠ []) (h : p.text.utf8ByteSize ≤ n) :
    p.parent.text.utf8ByteSize ≤ n := by
  rw [text_of_parts hp, String.utf8ByteSize_append] at h
  by_cases hparent : p.parent.parts = []
  · rw [text, hparent]
    by_cases hroot : p.parent.root = ""
    · simp only [hroot, beq_self_eq_true, List.isEmpty_nil, Bool.and_self, if_true]
      exact hn
    · have : (p.parent.root == "") = false := by simpa using hroot
      simp only [this, Bool.false_and, Bool.false_eq_true, if_false, String.intercalate_nil,
        String.append_empty]
      exact Nat.le_trans (Nat.le_add_right _ _) h
  · have hsplit : p.parts = p.parent.parts ++ [p.parts.getLast hp] :=
      (List.dropLast_append_getLast hp).symm
    rw [hsplit, String.intercalate_append_of_ne_nil hparent (by simp)] at h
    simp only [String.utf8ByteSize_append] at h
    rw [text_of_parts hparent, String.utf8ByteSize_append]
    have hroot : p.parent.root = p.root := rfl
    rw [hroot]
    omega

lemma parent_of_nil (h : p.parts = []) : p.parent = p := by
  rw [parent, h, List.dropLast_nil, ← h]

lemma hasNull_parent (h : Disk.hasNull p = false) : Disk.hasNull p.parent = false := by
  simp only [Disk.hasNull, List.any_eq_false] at h ⊢
  exact fun part hpart => h part (List.dropLast_subset _ hpart)

end Path

namespace Disk

variable {d e : Disk} {p : Path} {root : Node} {place found : List String}

/-! ### The working directory -/

/-- The working directory is there, by a path that the system takes. -/
structure IsGrounded (d : Disk) : Prop where
  up : ".." ∉ d.cwd
  null : hasNull ⟨"/", d.cwd⟩ = false
  reaches : d.Reaches ⟨"/", d.cwd⟩

lemma placeOf_absolute (d : Disk) {parts : List String} (h : ".." ∉ parts) :
    d.placeOf ⟨"/", parts⟩ = parts :=
  Path.follow_of_not_mem h []

lemma resolve_eq (d : Disk) (p : Path) : p.resolve d.cwd = ⟨"/", d.placeOf p⟩ := rfl

namespace IsGrounded

lemma of_changesOnly {touched : List String → Prop} (hd : d.IsGrounded)
    (h : ChangesOnly touched d e) : e.IsGrounded where
  up := h.cwd ▸ hd.up
  null := h.cwd ▸ hd.null
  reaches := h.cwd ▸ h.reaches hd.reaches

lemma directory_cwd (hd : d.IsGrounded) : d.root.HasDirectory d.cwd := by
  have h := hd.reaches.directory
  rwa [placeOf_absolute d hd.up] at h

lemma directory_start (hd : d.IsGrounded) (p : Path) : d.root.HasDirectory (d.startOf p) := by
  rw [startOf]
  split
  · exact Node.hasDirectory_of_append d.cwd hd.directory_cwd
  · exact hd.directory_cwd

lemma up_placeOf (hd : d.IsGrounded) (p : Path) : ".." ∉ d.placeOf p := by
  refine Path.not_mem_follow ?_ p.parts
  rw [startOf]
  split
  · simp
  · exact hd.up

end IsGrounded

/-- Where a walk from a place leads to, a walk from the root does. -/
lemma walk_root (hup : ".." ∉ place) (hplace : walk root [] place = .ok place)
    {parts : List String} (h : walk root place parts = .ok found) :
    walk root [] found = .ok found := by
  induction parts generalizing place with
  | nil =>
    rw [walk, Except.ok.injEq] at h
    rwa [← h]
  | cons part rest ih =>
    obtain ⟨hdir, ⟨-, hrest⟩ | ⟨hpart, hshort, ⟨node, hnode⟩, hrest⟩⟩ := walk_cons_eq_ok h
    · have habove : ".." ∉ place.dropLast := fun hmem => hup (List.dropLast_subset _ hmem)
      refine ih habove ?_ hrest
      rcases List.eq_nil_or_concat' place with rfl | ⟨above, last, rfl⟩
      · exact hplace
      · rw [List.dropLast_concat] at habove ⊢
        rw [walk_append] at hplace
        cases hwalk : walk root [] above with
        | error _ => simp [hwalk] at hplace
        | ok way =>
          rw [eq_follow_of_walk hwalk]
          exact congrArg Except.ok (Path.follow_of_not_mem habove [])
    · refine ih ?_ ?_ hrest
      · simp only [List.mem_append, List.mem_singleton, not_or]
        exact ⟨hup, Ne.symm hpart⟩
      · rw [walk_append, hplace, ok_bind, walk_singleton hpart hdir,
          if_neg (Nat.not_lt.mpr hshort), hnode, if_neg (by simp)]

/-- A directory that is reached is reached from the root. -/
lemma reaches_absolute (hd : d.IsGrounded) (h : d.Reaches p) : d.Reaches ⟨"/", d.placeOf p⟩ := by
  have hup := hd.up_placeOf p
  have hstart : walk d.root [] (d.startOf p) = .ok (d.startOf p) := by
    have hcwd := hd.reaches.walk
    rw [placeOf_absolute d hd.up] at hcwd
    rw [startOf]
    split
    · rfl
    · exact hcwd
  have hstartUp : ".." ∉ d.startOf p := by
    rw [startOf]
    split
    · simp
    · exact hd.up
  constructor
  · rw [placeOf_absolute d hup]
    exact walk_root hstartUp hstart h.walk
  · rw [placeOf_absolute d hup]
    exact h.directory

/-! ### Files -/

/-- A path leads to a file only by its name. -/
lemma isNamed_of_locate {serial : Nat} {data : FileData} (hd : d.IsGrounded)
    (h : d.locate p = .ok place) (hfile : d.root.get? place = some (.file serial data)) :
    p.IsNamed := by
  have hnot : ¬ d.root.HasDirectory place := by
    rintro ⟨es, hes⟩
    simp [hfile] at hes
  obtain ⟨-, h⟩ := walk_of_locate h
  constructor
  · intro hnil
    rw [hnil, walk, Except.ok.injEq] at h
    exact hnot (h ▸ hd.directory_start p)
  · intro hname
    -- a last step up leads to a directory
    rcases List.eq_nil_or_concat' p.parts with hnil | ⟨front, last, hparts⟩
    · simp [Path.name, hnil] at hname
    · have hlast : last = ".." := by simpa [Path.name, hparts] using hname
      rw [hparts, walk_append] at h
      cases hwalk : walk d.root (d.startOf p) front with
      | error _ => simp [hwalk] at h
      | ok way =>
        simp only [hwalk, ok_bind] at h
        obtain ⟨hdir, ⟨-, hrest⟩ | ⟨hne, -⟩⟩ := walk_cons_eq_ok h
        · rw [walk, Except.ok.injEq] at hrest
          exact hnot (hrest ▸ Node.hasDirectory_dropLast hdir)
        · exact hne hlast

/-- A path to a file fits, its directory is reached and the file is there. -/
structure HasFile (d : Disk) (p : Path) : Prop where
  admits : d.Admits p
  data : d.root.dataAt? (d.placeOf p) ≠ none

lemma hasFile_of_isFile (hd : d.IsGrounded) (h : d.isFile p = .ok true) : d.HasFile p := by
  obtain ⟨serial, data, hstat⟩ := exists_stat_of_isFile h
  obtain ⟨hnull, hloc, hget⟩ := stat_eq_some_iff.mp hstat
  have hp := isNamed_of_locate hd hloc hget
  obtain ⟨htext, hname, hreach⟩ := reaches_of_locate hp hloc
  have hdata := Node.dataAt?_eq_some_iff.mpr ⟨serial, hget⟩
  refine ⟨⟨hp, hreach, ⟨hnull, htext, hname⟩, ?_⟩, by simp [hdata]⟩
  exact not_hasDirectory_of_dataAt? hdata

lemma isNamed_of_fileAt {data : FileData} (hd : d.IsGrounded) (h : d.fileAt p = .ok data) :
    p.IsNamed := by
  rw [fileAt] at h
  split at h
  · cases h
  cases hloc : d.locate p with
  | error reason => simp [hloc] at h
  | ok place =>
    rcases hget : d.root.get? place with _ | ⟨serial, x⟩ | es
    · simp [hloc, hget] at h
    · exact isNamed_of_locate hd hloc hget
    · simp [hloc, hget] at h

/-- Discarding a file removes that file, if anything. -/
lemma edits_discardFile (hd : d.IsGrounded) (hp : p.IsNamed) :
    Edits (fun _ => False) (· = d.placeOf p) d ((discardFile p).exec d).2 := by
  by_cases h : d.Admits p
  · obtain ⟨e, hrun, hedits, -⟩ := exec_discardFile_of_admits h
    rw [hrun]
    exact hedits
  · have hsame : ((discardFile p).exec d).2 = d := by
      rw [discardFile, Action.exec_bind_of_ok (Action.exec_outcome ..), removeFile, exec_attempt]
      by_cases hnull : hasNull p
      · rw [if_pos hnull]
        rfl
      rw [if_neg hnull]
      obtain ⟨reason, hslot⟩ | ⟨es, hslot⟩ :=
        slot_of_not_admits hp (Or.inr (hd.directory_start p)) (by simpa using hnull) h
      · simp only [hslot]
        split <;> rfl
      · simp only [hslot]
        rfl
    rw [hsame]
    exact .refl d

/-- Writing a file makes that file, or fails without a change. -/
lemma edits_writeFile (hd : d.IsGrounded) (hp : p.IsNamed) (data : FileData) :
    Edits (· = d.placeOf p) (fun _ => False) d ((writeFile p data).exec d).2 ∧
      (((writeFile p data).exec d).1 = .ok () →
        ((writeFile p data).exec d).2.root.dataAt? (d.placeOf p) = some data) := by
  by_cases h : d.Admits p
  · obtain ⟨e, hrun, hedits, hdata⟩ := exec_writeFile_of_admits h data
    rw [hrun]
    exact ⟨hedits, fun _ => hdata⟩
  · obtain ⟨failure, hrun⟩ :=
      exec_writeFile_of_not_admits hp (Or.inr (hd.directory_start p)) h data
    rw [hrun]
    exact ⟨.refl d, by simp⟩

/-! ### Asking for directories -/

lemma isDirectory_eq_ok_true_iff :
    d.isDirectory p = .ok true ↔
      hasNull p = false ∧ p.text.utf8ByteSize ≤ maxPathBytes ∧ d.Reaches p := by
  rw [isDirectory]
  constructor
  · intro h
    rcases hstat : d.stat p with failure | _ | ⟨serial, data⟩ | es
    · simp [hstat, Except.map] at h
    · simp [hstat, Except.map] at h
    · simp [hstat, Except.map, Node.isDirectory] at h
    · obtain ⟨hnull, hloc, hget⟩ := stat_eq_some_iff.mp hstat
      obtain ⟨htext, hwalk⟩ := walk_of_locate hloc
      exact ⟨hnull, htext, hwalk, es, hget⟩
  · rintro ⟨hnull, htext, hreach⟩
    obtain ⟨es, hes⟩ := hreach.directory
    have hloc : d.locate p = .ok (d.placeOf p) := by
      rw [locate, if_neg (Nat.not_lt.mpr htext), hreach.walk]
    rw [stat_eq_some_iff.mpr ⟨hnull, hloc, hes⟩]
    rfl

/-- Above a directory there are directories. -/
lemma isDirectory_parent (hp : p.parts ≠ []) (h : d.isDirectory p = .ok true) :
    d.isDirectory p.parent = .ok true := by
  rw [isDirectory_eq_ok_true_iff] at h ⊢
  obtain ⟨hnull, htext, hreach⟩ := h
  exact ⟨Path.hasNull_parent hnull, Path.text_parent_le (by decide) hp htext, hreach.parent⟩

lemma Admits.isDirectory_parent (h : d.Admits p) : d.isDirectory p.parent = .ok true := by
  rw [isDirectory_eq_ok_true_iff]
  exact ⟨Path.hasNull_parent h.fits.null,
    Path.text_parent_le (by decide) h.named.parts h.fits.text, h.reaches⟩

/-! ### Making directories -/

/-- Directories were made, or there is a reason why a path does not lead to one. -/
def Prepares (p : Path) (r : Except Failure Unit) (e : Disk) : Prop :=
  match r with
  | .ok _ => e.Reaches p
  | .error _ => e.isDirectory p ≠ .ok true

lemma isNamed_of_slot_free (hd : d.IsGrounded) (h : d.slot p = .ok (.free place)) :
    p.IsNamed := by
  rw [slot] at h
  split at h
  · cases h
  cases hwalk : walk d.root (d.startOf p) p.parts.dropLast with
  | error _ => simp [hwalk] at h
  | ok dir =>
    cases hlast : p.parts.getLast? with
    | none => simp [hwalk, hlast] at h
    | some last =>
      refine ⟨fun hnil => by simp [hnil] at hlast, fun hname => ?_⟩
      have hup : last = ".." := by simpa [Path.name, hlast] using hname
      obtain ⟨start, hstart⟩ := hd.directory_start p
      obtain ⟨node, hnode⟩ := exists_get?_of_walk hstart hwalk
      cases node with
      | file _ _ => simp [hwalk, hlast, walk, hnode] at h
      | directory es => simp [hwalk, hlast, walk, hnode, hup] at h

lemma reaches_of_makeDirectory (hd : d.IsGrounded)
    (h : (makeDirectory p).exec d = (.ok (), e)) : e.Reaches p := by
  have hchange := confined_makeDirectory d.cwd p d rfl
  rw [h] at hchange
  rw [makeDirectory, exec_attempt] at h
  split at h
  · cases h
  match hslot : d.slot p with
  | .error _ => simp [hslot] at h
  | .ok (.taken ..) => simp [hslot] at h
  | .ok (.free place) =>
    simp only [hslot, Prod.mk.injEq, true_and] at h
    have hp := isNamed_of_slot_free hd hslot
    obtain ⟨-, hname, hreach, ⟨_, -, hfree⟩ | ⟨-, hfree⟩⟩ :=
      slot_eq_ok hp (Or.inr (hd.directory_start p)) hslot
    · cases hfree
    cases hfree
    have hput : e.root.get? (e.placeOf p) = some (.directory []) := by
      rw [hchange.placeOf, ← h, fill, placeOf_eq hp]
      exact Node.get?_put_of_hasDirectory hreach.directory _ []
    have hparent := hchange.reaches hreach
    constructor
    · have hdir : walk e.root (e.startOf p) p.parent.parts = .ok (e.placeOf p.parent) :=
        hparent.walk
      rw [hp.parts_eq, walk_append, hdir, ok_bind, walk_singleton hp.name hparent.directory,
        if_neg (Nat.not_lt.mpr hname), ← placeOf_eq hp, hput, if_neg (by simp)]
    · exact ⟨[], hput⟩

/-- The slot of a directory is taken. -/
lemma slot_of_isDirectory (h : d.isDirectory p = .ok true) :
    ∃ place node, d.slot p = .ok (.taken place node) := by
  obtain ⟨-, htext, hreach⟩ := isDirectory_eq_ok_true_iff.mp h
  rw [slot, if_neg (Nat.not_lt.mpr htext)]
  rcases List.eq_nil_or_concat' p.parts with hnil | ⟨front, last, hparts⟩
  · simp [hnil, walk]
  · have hwalk := hreach.walk
    rw [hparts, walk_append] at hwalk
    cases hfront : walk d.root (d.startOf p) front with
    | error _ => simp [hfront] at hwalk
    | ok way =>
      rw [hfront, ok_bind] at hwalk
      simp [hparts, hfront, hwalk]

/-- A directory is made in a free slot. Otherwise nothing changes, and all is well if the path leads
to a directory. -/
lemma exec_ensureDirectory (p : Path) (d : Disk) :
    (∃ place, (makeDirectory p).exec d = (.ok (), d.fill place (.directory [])) ∧
      d.slot p = .ok (.free place) ∧
      (ensureDirectory p).exec d = (.ok (), d.fill place (.directory []))) ∨
    ∃ r, (ensureDirectory p).exec d = (r, d) ∧ (r = .ok () ↔ d.isDirectory p = .ok true) ∧
      ∀ path target, r = .error (.disk ⟨.notFound, path, target⟩) →
        d.slot p = .error .notFound := by
  -- where nothing is missing on the way, what the path leads to decides
  have hasked : ∀ reason, reason ≠ .notFound →
      (makeDirectory p).exec d = (.error (.disk ⟨reason, p, none⟩), d) →
      ∃ r, (ensureDirectory p).exec d = (r, d) ∧ (r = .ok () ↔ d.isDirectory p = .ok true) ∧
        ∀ path target, r = .error (.disk ⟨.notFound, path, target⟩) →
          d.slot p = .error .notFound := by
    intro reason hreason hmake
    rw [ensureDirectory, Action.exec_bind_of_ok (Action.exec_outcome ..), hmake]
    have hbeq : (reason == .notFound) = false := by simpa using hreason
    simp only [hbeq, Bool.false_eq_true, if_false]
    rw [Action.exec_bind_of_ok (Action.exec_get ..)]
    cases hthere : d.isDirectory p with
    | error failure =>
      obtain ⟨-, -, rfl⟩ := isDirectory_eq_error_iff.mp hthere
      rw [Action.exec_bind_of_error (Action.exec_ofExcept ..)]
      exact ⟨_, rfl, by simp, by simp⟩
    | ok there =>
      rw [Action.exec_bind_of_ok (Action.exec_ofExcept ..)]
      cases there with
      | false => exact ⟨_, rfl, by simp, by simp [hreason]⟩
      | true => exact ⟨_, rfl, by simp, by simp⟩
  by_cases hnull : hasNull p = true
  · have hmake : (makeDirectory p).exec d = (.error .nullInPath, d) := by
      rw [makeDirectory, exec_attempt, if_pos hnull]
    rw [ensureDirectory, Action.exec_bind_of_ok (Action.exec_outcome ..), hmake]
    exact Or.inr ⟨_, rfl, by simp [isDirectory_eq_ok_true_iff, hnull], by simp⟩
  cases hslot : d.slot p with
  | ok slot =>
    cases slot with
    | free place =>
      have hmake : (makeDirectory p).exec d = (.ok (), d.fill place (.directory [])) := by
        rw [makeDirectory, exec_attempt, if_neg hnull, hslot]
      refine Or.inl ⟨place, hmake, rfl, ?_⟩
      rw [ensureDirectory, Action.exec_bind_of_ok (Action.exec_outcome ..), hmake]
      rfl
    | taken place node =>
      have hmake : (makeDirectory p).exec d = (.error (.disk ⟨.alreadyExists, p, none⟩), d) := by
        rw [makeDirectory, exec_attempt, if_neg hnull, hslot]
      exact Or.inr (hslot ▸ hasked .alreadyExists (by simp) hmake)
  | error reason =>
    have hmake : (makeDirectory p).exec d = (.error (.disk ⟨reason, p, none⟩), d) := by
      rw [makeDirectory, exec_attempt, if_neg hnull, hslot]
    by_cases hreason : reason = .notFound
    · subst hreason
      rw [ensureDirectory, Action.exec_bind_of_ok (Action.exec_outcome ..), hmake]
      refine Or.inr ⟨_, rfl, ?_, fun _ _ _ => rfl⟩
      have hnot : d.isDirectory p ≠ .ok true := by
        intro h
        obtain ⟨place, node, htaken⟩ := slot_of_isDirectory h
        simp [hslot] at htaken
      simp [hnot]
    · exact Or.inr (hslot ▸ hasked reason hreason hmake)

lemma prepares_ensureDirectory (hd : d.IsGrounded) (p : Path) :
    Prepares p ((ensureDirectory p).exec d).1 ((ensureDirectory p).exec d).2 := by
  rcases exec_ensureDirectory p d with ⟨place, hmake, -, hrun⟩ | ⟨r, hrun, hthere, -⟩
  · rw [hrun]
    exact reaches_of_makeDirectory hd hmake
  · rw [hrun]
    match r with
    | .ok _ => exact (isDirectory_eq_ok_true_iff.mp (hthere.mp rfl)).2.2
    | .error failure => exact fun h => nomatch hthere.mpr h

lemma prepares_makeParents (hd : d.IsGrounded) (p : Path) (depth : Nat) :
    Prepares p ((makeParents p depth).exec d).1 ((makeParents p depth).exec d).2 := by
  induction depth generalizing p d with
  | zero => exact prepares_ensureDirectory hd p
  | succ depth ih =>
    have hfirst := prepares_ensureDirectory hd p
    have hsame := confined_ensureDirectory d.cwd p d rfl
    rw [makeParents, Action.exec_bind_of_ok (Action.exec_outcome ..)]
    match hrun : (ensureDirectory p).exec d with
    | (.ok _, e) =>
      rw [hrun] at hfirst
      exact hfirst
    | (.error failure, e) =>
      rw [hrun] at hfirst hsame
      simp only
      split
      · simp_all
      · split
        · exact hfirst
        · next hne =>
          have hparts : p.parts ≠ [] := by
            intro hnil
            rw [Path.parent_of_nil hnil, beq_self_eq_true] at hne
            exact hne rfl
          have hground := hd.of_changesOnly hsame
          have habove := ih hground p.parent
          have hmade := confined_makeParents e.cwd depth p.parent e rfl
          match hrest : (makeParents p.parent depth).exec e with
          | (.error other, f) =>
            rw [hrest] at habove
            rw [Action.exec_bind_of_error hrest]
            exact fun h => habove (isDirectory_parent hparts h)
          | (.ok _, f) =>
            rw [hrest] at hmade
            rw [Action.exec_bind_of_ok hrest]
            exact prepares_ensureDirectory (hground.of_changesOnly hmade) p
      · exact hfirst

/-- Directories are made up to a path, or the path does not lead to one afterwards. -/
lemma prepares_makeDirectories (hd : d.IsGrounded) (p : Path) :
    Prepares p ((makeDirectories p).exec d).1 ((makeDirectories p).exec d).2 :=
  prepares_makeParents hd p p.parts.length

/-- Directories that are there are not made again. -/
lemma exec_makeDirectories_of_directory (h : d.isDirectory p = .ok true) :
    (makeDirectories p).exec d = (.ok (), d) := by
  have hensure : (ensureDirectory p).exec d = (.ok (), d) := by
    rcases exec_ensureDirectory p d with ⟨place, -, hfree, -⟩ | ⟨r, hrun, hthere, -⟩
    · obtain ⟨_, _, htaken⟩ := slot_of_isDirectory h
      simp [hfree] at htaken
    · rw [hrun, hthere.mpr h]
  rw [makeDirectories]
  cases p.parts.length with
  | zero => exact hensure
  | succ depth =>
    rw [makeParents, Action.exec_bind_of_ok (Action.exec_outcome ..), hensure]
    rfl

lemma made_ensureDirectory (hd : d.IsGrounded) {q : List String}
    (h : ((ensureDirectory p).exec d).2.root.HasDirectory q) :
    d.root.HasDirectory q ∨ q = d.placeOf p := by
  rcases exec_ensureDirectory p d with ⟨place, -, hfree, hrun⟩ | ⟨r, hrun, -, -⟩
  · rw [hrun] at h
    have hp := isNamed_of_slot_free hd hfree
    obtain ⟨-, -, hreach, ⟨_, -, htaken⟩ | ⟨-, hplace⟩⟩ :=
      slot_eq_ok hp (Or.inr (hd.directory_start p)) hfree
    · cases htaken
    · cases hplace
      rw [placeOf_eq hp] at h ⊢
      exact (Node.hasDirectory_of_put hreach.directory rfl h).imp id And.right
  · rw [hrun] at h
    exact Or.inl h

/-- In a directory that is reached, no other directory is made than that of the path. -/
lemma made_makeDirectories (hd : d.IsGrounded) (hreach : d.Reaches p.parent) {q : List String}
    (h : ((makeDirectories p).exec d).2.root.HasDirectory q) :
    d.root.HasDirectory q ∨ q = d.placeOf p := by
  rw [makeDirectories] at h
  cases hdepth : p.parts.length with
  | zero =>
    rw [hdepth] at h
    exact made_ensureDirectory hd h
  | succ depth =>
    rw [hdepth, makeParents, Action.exec_bind_of_ok (Action.exec_outcome ..)] at h
    split at h
    · exact made_ensureDirectory hd h
    · next path target hmissing =>
      rcases exec_ensureDirectory p d with ⟨place, -, -, hrun⟩ | ⟨r, hrun, -, hnotFound⟩
      · simp [hrun] at hmissing
      · rw [hrun] at hmissing
        exact absurd (hnotFound path target hmissing) (slot_ne_notFound_of_reaches hreach)
    · exact made_ensureDirectory hd h

end Disk

end JavaAtlas
