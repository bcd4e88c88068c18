import JavaAtlas.Proofs.Disk.Lookup

/-!
# What file operations change

`Disk.ChangesOnly` compares the disk before an operation with the one after it: the directories
that were there stay, and so does every file outside of a set of places. A computation is confined
to a set of places if whatever it does changes the disk in this way, also where it fails.
-/

namespace JavaAtlas

namespace Disk

variable {d e f : Disk} {p : Path} {touched others : List String → Prop} {α β : Type}

/-- From one disk to another no directory is lost and no file changes outside of `touched`. -/
structure ChangesOnly (touched : List String → Prop) (d e : Disk) : Prop where
  cwd : e.cwd = d.cwd
  directories : ∀ q, d.root.HasDirectory q → e.root.HasDirectory q
  files : ∀ q, ¬ touched q → e.root.dataAt? q = d.root.dataAt? q

namespace ChangesOnly

lemma refl (d : Disk) : ChangesOnly touched d d := ⟨rfl, fun _ h => h, fun _ _ => rfl⟩

lemma trans (h : ChangesOnly touched d e) (h' : ChangesOnly touched e f) :
    ChangesOnly touched d f where
  cwd := h'.cwd.trans h.cwd
  directories q hq := h'.directories q (h.directories q hq)
  files q hq := (h'.files q hq).trans (h.files q hq)

lemma mono (hsub : ∀ q, touched q → others q) (h : ChangesOnly touched d e) :
    ChangesOnly others d e where
  cwd := h.cwd
  directories := h.directories
  files q hq := h.files q fun ht => hq (hsub q ht)

lemma placeOf (h : ChangesOnly touched d e) (p : Path) : e.placeOf p = d.placeOf p :=
  placeOf_congr h.cwd p

/-- A directory that is reached stays in reach. -/
lemma reaches (h : ChangesOnly touched d e) (hreach : d.Reaches p) : e.Reaches p where
  walk := by
    rw [h.placeOf, startOf, h.cwd]
    exact walk_of_directories h.directories hreach.directory hreach.walk
  directory := by
    rw [h.placeOf]
    exact h.directories _ hreach.directory

end ChangesOnly

lemma exec_attempt (p : Path) (act : Disk → Except DiskReason Disk) (d : Disk) :
    (attempt p act).exec d =
      if hasNull p = true then (.error .nullInPath, d)
      else match act d with
        | .ok e => (.ok (), e)
        | .error reason => (.error (.disk ⟨reason, p, none⟩), d) := by
  rw [attempt]
  by_cases h : hasNull p
  · simp only [h, if_true]
    rfl
  · simp only [h, if_false, Bool.false_eq_true]
    rw [Action.exec_bind_of_ok (Action.exec_get ..)]
    cases act d <;> rfl

lemma keeps_attempt {P : Disk → Prop} {act : Disk → Except DiskReason Disk}
    (h : ∀ d e, P d → hasNull p = false → act d = .ok e → P e) :
    Action.Keeps P (attempt p act) := by
  intro d hd
  rw [exec_attempt]
  split
  · exact hd
  · next hnull =>
    match hact : act d with
    | .ok e => exact h d e hd (by simpa using hnull) hact
    | .error reason => exact hd

/-! ### Confined computations -/

/-- Run in a working directory, a computation changes no file outside of `touched`. -/
def Confined (cwd : List String) (touched : List String → Prop) (act : Action Disk α) : Prop :=
  ∀ d : Disk, d.cwd = cwd → ChangesOnly touched d (act.exec d).2

namespace Confined

variable {cwd : List String} {x : Action Disk α}

lemma pure (a : α) : Confined cwd touched (Pure.pure a : Action Disk α) :=
  fun d _ => .refl d

lemma throw (e : Failure) : Confined cwd touched (MonadExcept.throw e : Action Disk α) :=
  fun d _ => .refl d

lemma ofExcept (r : Except Failure α) : Confined cwd touched (Action.ofExcept r) := by
  intro d _
  rw [Action.exec_ofExcept]
  exact .refl d

lemma outcome (h : Confined cwd touched x) : Confined cwd touched x.outcome :=
  fun d hd => h d hd

lemma bind {g : α → Action Disk β} (hx : Confined cwd touched x)
    (hg : ∀ a, Confined cwd touched (g a)) : Confined cwd touched (x >>= g) := by
  intro d hd
  have hfirst := hx d hd
  rw [Action.exec_bind]
  match hrun : x.exec d with
  | (.error _, s) => simpa only [hrun] using hfirst
  | (.ok a, s) =>
    simp only [hrun] at hfirst ⊢
    exact hfirst.trans (hg a s (hfirst.cwd.trans hd))

lemma get : Confined cwd touched (MonadState.get : Action Disk Disk) := fun d _ => .refl d

lemma ite (c : Prop) [Decidable c] {y : Action Disk α} (hx : Confined cwd touched x)
    (hy : Confined cwd touched y) : Confined cwd touched (if c then x else y) := by
  split
  · exact hx
  · exact hy

lemma attempt {act : Disk → Except DiskReason Disk}
    (h : ∀ d s, d.cwd = cwd → act d = .ok s → ChangesOnly touched d s) :
    Confined cwd touched (attempt p act) := by
  intro d hd
  rw [exec_attempt]
  split
  · exact .refl d
  · match hact : act d with
    | .ok s => exact h d s hd hact
    | .error reason => exact .refl d

end Confined

/-! ### Directories -/

lemma confined_makeDirectory (cwd : List String) (p : Path) :
    Confined cwd (fun _ => False) (makeDirectory p) := by
  refine Confined.attempt fun d s _ h => ?_
  match hslot : d.slot p with
  | .error _ => simp [hslot] at h
  | .ok (.taken ..) => simp [hslot] at h
  | .ok (.free place) =>
    simp only [hslot, Except.ok.injEq] at h
    subst h
    have hfree := get?_of_slot_free hslot
    have hplace : ¬ d.root.HasDirectory place := by
      rintro ⟨es, hes⟩
      rw [hfree] at hes
      cases hes
    exact ⟨rfl, fun q hq => Node.hasDirectory_put _ hplace hq,
      fun q _ => Node.dataAt?_put_directory hfree q⟩

lemma confined_ensureDirectory (cwd : List String) (p : Path) :
    Confined cwd (fun _ => False) (ensureDirectory p) := by
  refine (confined_makeDirectory cwd p).outcome.bind fun r => ?_
  split
  · exact .pure _
  · refine .ite _ (.throw _) (.bind .get fun d => .bind (.ofExcept _) fun b => ?_)
    exact .ite _ (.pure _) (.throw _)
  · exact .throw _

lemma confined_makeParents (cwd : List String) (depth : Nat) (p : Path) :
    Confined cwd (fun _ => False) (makeParents p depth) := by
  induction depth generalizing p with
  | zero => exact confined_ensureDirectory cwd p
  | succ depth ih =>
    refine (confined_ensureDirectory cwd p).outcome.bind fun r => ?_
    split
    · exact .pure _
    · exact .ite _ (.throw _) (.bind (ih p.parent) fun _ => confined_ensureDirectory cwd p)
    · exact .throw _

/-- Making directories changes no file. -/
lemma confined_makeDirectories (cwd : List String) (p : Path) :
    Confined cwd (fun _ => False) (makeDirectories p) :=
  confined_makeParents cwd _ p

/-! ### Files -/

lemma not_hasDirectory_of_dataAt? {n : Node} {place : List String} {data : FileData}
    (h : n.dataAt? place = some data) : ¬ n.HasDirectory place := by
  intro hdir
  rw [Node.dataAt?_of_hasDirectory hdir] at h
  cases h

lemma not_hasDirectory_of_none {n : Node} {place : List String} (h : n.get? place = none) :
    ¬ n.HasDirectory place := by
  rintro ⟨es, hes⟩
  rw [h] at hes
  cases hes

/-- A file put where no directory lies is the only one that changes. -/
lemma changesOnly_put {place : List String} {node : Node} (hnode : ¬ node.isDirectory)
    (hplace : ¬ d.root.HasDirectory place) (hcwd : e.cwd = d.cwd)
    (hroot : e.root = d.root.put place node) : ChangesOnly (· = place) d e where
  cwd := hcwd
  directories q hq := hroot ▸ Node.hasDirectory_put node hplace hq
  files q hq := by
    match node with
    | .directory _ => simp [Node.isDirectory] at hnode
    | .file serial data => exact hroot ▸ Node.dataAt?_put_file serial data hplace hq

/-- An entry that is removed, and no directory, is the only one that changes. -/
lemma changesOnly_remove {place : List String} (hplace : ¬ d.root.HasDirectory place)
    (hcwd : e.cwd = d.cwd) (hroot : e.root = d.root.remove place) :
    ChangesOnly (· = place) d e where
  cwd := hcwd
  directories _ hq := hroot ▸ Node.hasDirectory_remove hplace hq
  files _ hq := hroot ▸ Node.dataAt?_remove hplace hq

/-- A disk after files were made at some places and removed at others: the directories are the
same, and a file that was not made was there before. -/
structure Edits (makes removes : List String → Prop) (d e : Disk) : Prop
    extends ChangesOnly (fun q => makes q ∨ removes q) d e where
  made : ∀ q, e.root.HasDirectory q → d.root.HasDirectory q
  old : ∀ q data, ¬ makes q → e.root.dataAt? q = some data → d.root.dataAt? q = some data

namespace Edits

variable {makes removes makes' removes' : List String → Prop}

lemma refl (d : Disk) : Edits makes removes d d where
  toChangesOnly := .refl d
  made _ h := h
  old _ _ _ h := h

lemma trans (h : Edits makes removes d e) (h' : Edits makes removes e f) :
    Edits makes removes d f where
  toChangesOnly := h.toChangesOnly.trans h'.toChangesOnly
  made q hq := h.made q (h'.made q hq)
  old q data hq hdata := h.old q data hq (h'.old q data hq hdata)

lemma mono (hmakes : ∀ q, makes q → makes' q) (hremoves : ∀ q, removes q → removes' q)
    (h : Edits makes removes d e) : Edits makes' removes' d e where
  toChangesOnly := h.toChangesOnly.mono fun q => Or.imp (hmakes q) (hremoves q)
  made := h.made
  old q data hq := h.old q data fun hm => hq (hmakes q hm)

/-- A file that is as it was counts neither as made nor as removed. -/
lemma drop {place : List String} (h : Edits makes removes d e)
    (hsame : e.root.dataAt? place = d.root.dataAt? place)
    (hmakes : ∀ q, makes q → makes' q ∨ q = place)
    (hremoves : ∀ q, removes q → removes' q ∨ q = place) : Edits makes' removes' d e where
  cwd := h.cwd
  directories := h.directories
  made := h.made
  files q hq := by
    rw [not_or] at hq
    by_cases hplace : q = place
    · rw [hplace, hsame]
    · refine h.files q fun hchanged => ?_
      rcases hchanged with hm | hr
      · exact (hmakes q hm).elim hq.1 hplace
      · exact (hremoves q hr).elim hq.2 hplace
  old q data hq hdata := by
    by_cases hplace : q = place
    · rwa [hplace, ← hsame, ← hplace]
    · exact h.old q data (fun hm => (hmakes q hm).elim hq hplace) hdata

/-- Where no file was and none was made, none is. -/
lemma dataAt?_eq_none {q : List String} (h : Edits makes removes d e)
    (hbefore : d.root.dataAt? q = none) (hq : ¬ makes q) : e.root.dataAt? q = none := by
  match hdata : e.root.dataAt? q with
  | none => rfl
  | some data =>
    rw [h.old q data hq hdata] at hbefore
    cases hbefore

end Edits

/-- A path at which a file can be written, over the one that may be there. -/
structure Admits (d : Disk) (p : Path) : Prop where
  named : p.IsNamed
  reaches : d.Reaches p.parent
  fits : p.Fits
  file : ¬ d.root.HasDirectory (d.placeOf p)

lemma Edits.admits {makes removes : List String → Prop} (h : Edits makes removes d e)
    (hp : d.Admits p) : e.Admits p where
  named := hp.named
  reaches := h.reaches hp.reaches
  fits := hp.fits
  file hdir := hp.file (h.placeOf p ▸ h.made _ hdir)

/-- Where a file can be written, one lies already or nothing does. -/
lemma Admits.slot_eq (h : d.Admits p) :
    (∃ serial data, d.root.get? (d.placeOf p) = some (.file serial data) ∧
        d.slot p = .ok (.taken (d.placeOf p) (.file serial data))) ∨
      (d.root.get? (d.placeOf p) = none ∧ d.slot p = .ok (.free (d.placeOf p))) := by
  rw [slot_of_reaches h.named h.reaches h.fits]
  match hget : d.root.get? (d.placeOf p) with
  | none => exact Or.inr ⟨rfl, rfl⟩
  | some (.file serial data) => exact Or.inl ⟨serial, data, rfl, rfl⟩
  | some (.directory es) => exact absurd ⟨es, hget⟩ h.file

/-- What the slot of a path says when no file can be written there. -/
lemma slot_of_not_admits (hp : p.IsNamed)
    (hstart : p.parent.parts ≠ [] ∨ d.root.HasDirectory (d.startOf p)) (hnull : hasNull p = false)
    (h : ¬ d.Admits p) :
    (∃ reason, d.slot p = .error reason) ∨
      ∃ es, d.slot p = .ok (.taken (d.placeOf p) (.directory es)) := by
  match hslot : d.slot p with
  | .error reason => exact Or.inl ⟨reason, rfl⟩
  | .ok slot =>
    obtain ⟨htext, hname, hreach, hcases⟩ := slot_eq_ok hp hstart hslot
    have hadmits : ¬ d.root.HasDirectory (d.placeOf p) → d.Admits p :=
      fun hfile => ⟨hp, hreach, ⟨hnull, htext, hname⟩, hfile⟩
    obtain ⟨node, hget, rfl⟩ | ⟨hget, rfl⟩ := hcases
    · match node with
      | .directory es => exact Or.inr ⟨es, rfl⟩
      | .file serial data =>
        refine absurd (hadmits ?_) h
        exact not_hasDirectory_of_dataAt? (Node.dataAt?_eq_some_iff.mpr ⟨serial, hget⟩)
    · exact absurd (hadmits (not_hasDirectory_of_none hget)) h

/-- A file put into a directory makes that file and nothing else. -/
lemma edits_put {dir : List String} {name : String} {serial : Nat} {data : FileData}
    (hdir : d.root.HasDirectory dir) (hplace : ¬ d.root.HasDirectory (dir ++ [name]))
    (hcwd : e.cwd = d.cwd) (hroot : e.root = d.root.put (dir ++ [name]) (.file serial data)) :
    Edits (· = dir ++ [name]) (fun _ => False) d e ∧
      e.root.dataAt? (dir ++ [name]) = some data := by
  have hchange := changesOnly_put (by simp [Node.isDirectory]) hplace hcwd hroot
  refine ⟨⟨hchange.mono fun _ => Or.inl, fun q hq => ?_, fun q data hq hdata => ?_⟩, ?_⟩
  · rw [hroot] at hq
    exact Node.hasDirectory_of_put_file hdir hq
  · rwa [hchange.files q hq] at hdata
  · refine Node.dataAt?_eq_some_iff.mpr ⟨serial, ?_⟩
    rw [hroot]
    exact Node.get?_put_of_hasDirectory hdir _ []

lemma Admits.edits_put {serial : Nat} {data : FileData} (h : d.Admits p) (hcwd : e.cwd = d.cwd)
    (hroot : e.root = d.root.put (d.placeOf p) (.file serial data)) :
    Edits (· = d.placeOf p) (fun _ => False) d e ∧
      e.root.dataAt? (d.placeOf p) = some data := by
  have hfile := h.file
  rw [placeOf_eq h.named] at hfile hroot ⊢
  exact Disk.edits_put h.reaches.directory hfile hcwd hroot

/-- An entry that is removed, and no directory, is gone, and nothing else is. -/
lemma edits_remove {place : List String} (hplace : ¬ d.root.HasDirectory place)
    (hne : place ≠ []) (hcwd : e.cwd = d.cwd) (hroot : e.root = d.root.remove place) :
    Edits (fun _ => False) (· = place) d e ∧ e.root.get? place = none := by
  have hchange := changesOnly_remove hplace hcwd hroot
  have hgone : e.root.get? place = none := by
    rw [hroot]
    exact Node.get?_remove_self _ hne
  refine ⟨⟨hchange.mono fun _ => Or.inr, fun q hq => ?_, fun q old _ hold => ?_⟩, hgone⟩
  · rw [hroot] at hq
    exact Node.hasDirectory_of_remove hq
  · by_cases hq : q = place
    · rw [hq, Node.dataAt?_of_none hgone] at hold
      cases hold
    · rwa [hchange.files q hq] at hold

lemma exec_writeFile_of_admits (h : d.Admits p) (data : FileData) :
    ∃ e, (writeFile p data).exec d = (.ok (), e) ∧
      Edits (· = d.placeOf p) (fun _ => False) d e ∧
      e.root.dataAt? (d.placeOf p) = some data := by
  rw [writeFile, exec_attempt, if_neg (by simp [h.fits.null])]
  obtain ⟨serial, old, -, hslot⟩ | ⟨-, hslot⟩ := h.slot_eq
  · simp only [hslot]
    exact ⟨_, rfl, h.edits_put rfl rfl⟩
  · simp only [hslot]
    exact ⟨_, rfl, h.edits_put rfl rfl⟩

lemma exec_writeFile_of_not_admits (hp : p.IsNamed)
    (hstart : p.parent.parts ≠ [] ∨ d.root.HasDirectory (d.startOf p)) (h : ¬ d.Admits p)
    (data : FileData) : ∃ failure, (writeFile p data).exec d = (.error failure, d) := by
  rw [writeFile, exec_attempt]
  by_cases hnull : hasNull p
  · exact ⟨_, by rw [if_pos hnull]⟩
  rw [if_neg hnull]
  obtain ⟨reason, hslot⟩ | ⟨es, hslot⟩ :=
    slot_of_not_admits hp hstart (by simpa using hnull) h
  all_goals
    simp only [hslot]
    exact ⟨_, rfl⟩

/-- Writing a file makes that file and nothing else, and it succeeds only where the path fits and
its directory is there. -/
lemma exec_writeFile (hp : p.IsEntry) (data : FileData) (d : Disk) :
    (∃ failure, (writeFile p data).exec d = (.error failure, d)) ∨
      ∃ e, (writeFile p data).exec d = (.ok (), e) ∧ d.Admits p ∧
        Edits (· = d.placeOf p) (fun _ => False) d e ∧
        e.root.dataAt? (d.placeOf p) = some data := by
  by_cases h : d.Admits p
  · obtain ⟨e, hrun, hedits, hdata⟩ := exec_writeFile_of_admits h data
    exact Or.inr ⟨e, hrun, h, hedits, hdata⟩
  · exact Or.inl (exec_writeFile_of_not_admits hp.toIsNamed (Or.inl hp.parent) h data)

/-- A file taken from one place and put into a directory at another one. -/
lemma edits_move {origin dir : List String} {name : String} {data : FileData} (serial : Nat)
    (hdir : d.root.HasDirectory dir) (hplace : ¬ d.root.HasDirectory (dir ++ [name]))
    (horigin : d.root.dataAt? origin = some data) (hne : dir ++ [name] ≠ origin)
    (hcwd : e.cwd = d.cwd)
    (hroot : e.root = (d.root.remove origin).put (dir ++ [name]) (.file serial data)) :
    Edits (· = dir ++ [name]) (· = origin) d e ∧
      e.root.dataAt? (dir ++ [name]) = some data ∧ e.root.dataAt? origin = none := by
  have hfile := not_hasDirectory_of_dataAt? horigin
  have hroot' : d.root.HasDirectory [] := Node.hasDirectory_of_append dir hdir
  have hnil : origin ≠ [] := fun h => hfile (h ▸ hroot')
  obtain ⟨htaken, hgone⟩ :=
    edits_remove hfile hnil (e := { d with root := d.root.remove origin }) rfl rfl
  obtain ⟨hput, hdata⟩ := Disk.edits_put (htaken.directories _ hdir)
    (fun h => hplace (htaken.made _ h)) hcwd hroot
  refine ⟨?_, hdata, ?_⟩
  · exact (htaken.mono (fun _ => False.elim) fun _ => id).trans
      (hput.mono (fun _ => id) fun _ => False.elim)
  · rw [hput.files origin (by simpa using Ne.symm hne)]
    exact Node.dataAt?_of_none hgone

/-- A file is moved between paths at which files can be written. -/
lemma exec_moveFile_of_admits {source target : Path} {data : FileData} (hs : d.Admits source)
    (ht : d.Admits target) (hne : d.placeOf target ≠ d.placeOf source)
    (hdata : d.root.dataAt? (d.placeOf source) = some data) :
    ∃ e, (moveFile source target).exec d = (.ok (), e) ∧
      Edits (· = d.placeOf target) (· = d.placeOf source) d e ∧
      e.root.dataAt? (d.placeOf target) = some data ∧
      e.root.dataAt? (d.placeOf source) = none := by
  rw [moveFile, if_neg (by simp [hs.fits.null, ht.fits.null]),
    Action.exec_bind_of_ok (Action.exec_get ..)]
  obtain ⟨serial, hfile⟩ := Node.dataAt?_eq_some_iff.mp hdata
  have hsource : d.slot source = .ok (.taken (d.placeOf source) (.file serial data)) := by
    rw [slot_of_reaches hs.named hs.reaches hs.fits, hfile]
  simp only [hsource]
  rw [placeOf_eq ht.named] at hne ⊢
  obtain ⟨other, old, hget, htarget⟩ | ⟨hget, htarget⟩ := ht.slot_eq
  · rw [placeOf_eq ht.named] at hget htarget
    simp only [htarget, bne_iff_ne, ne_eq, hne, not_false_eq_true, if_true]
    -- the file in the way is removed first
    have hold := not_hasDirectory_of_dataAt? (Node.dataAt?_eq_some_iff.mpr ⟨other, hget⟩)
    obtain ⟨hgone, -⟩ := edits_remove hold (by simp)
      (e := { d with root := d.root.remove (d.placeOf target.parent ++ [target.name]) }) rfl rfl
    obtain ⟨hmove, hput⟩ := edits_move serial
      (e := { d.detach (d.placeOf target.parent ++ [target.name]) with
        root := (d.root.remove (d.placeOf target.parent ++ [target.name])).remove
          (d.placeOf source) }.fill (d.placeOf target.parent ++ [target.name])
            (.file serial data))
      (hgone.directories _ ht.reaches.directory) (fun h => hold (hgone.made _ h))
      ((hgone.files _ (by simpa using Ne.symm hne)).trans hdata) hne rfl rfl
    refine ⟨_, rfl, ⟨(hgone.toChangesOnly.mono ?_).trans hmove.toChangesOnly, ?_, ?_⟩, hput⟩
    · exact fun _ h => h.elim False.elim Or.inl
    · exact fun q hq => hgone.made q (hmove.made q hq)
    · exact fun q data hq h => hgone.old q data (fun hf => hf) (hmove.old q data hq h)
  · rw [placeOf_eq ht.named] at hget htarget
    simp only [htarget]
    obtain ⟨hmove, hput⟩ := edits_move serial
      (e := { d with root := d.root.remove (d.placeOf source) }.fill
        (d.placeOf target.parent ++ [target.name]) (.file serial data))
      ht.reaches.directory (not_hasDirectory_of_none hget) hdata hne rfl rfl
    exact ⟨_, rfl, hmove, hput⟩

/-- A file is not moved to a path where a directory lies or that leads nowhere. -/
lemma exec_moveFile_of_slot {source target : Path} (hs : d.Admits source)
    (h : hasNull target = false → (∃ reason, d.slot target = .error reason) ∨
      ∃ place es, d.slot target = .ok (.taken place (.directory es))) :
    ∃ failure, (moveFile source target).exec d = (.error failure, d) := by
  rw [moveFile]
  by_cases hnull : hasNull target = true
  · exact ⟨.nullInPath, by rw [if_pos (by simp [hnull])]; rfl⟩
  rw [Bool.not_eq_true] at hnull
  rw [if_neg (by simp [hs.fits.null, hnull]), Action.exec_bind_of_ok (Action.exec_get ..)]
  obtain ⟨serial, old, -, hslot⟩ | ⟨hget, hslot⟩ := hs.slot_eq
  · simp only [hslot]
    obtain ⟨reason, htarget⟩ | ⟨place, es, htarget⟩ := h hnull
    all_goals
      simp only [htarget]
      exact ⟨_, rfl⟩
  · simp only [hslot]
    exact ⟨_, rfl⟩

/-- Moving a file takes it from where it was and makes it where it goes, and it succeeds only where
the other path fits and its directory is there. -/
lemma exec_moveFile {source target : Path} {data : FileData} (hs : source.IsEntry)
    (ht : target.IsEntry) (hne : d.placeOf target ≠ d.placeOf source)
    (hdata : d.root.dataAt? (d.placeOf source) = some data) :
    (∃ failure, (moveFile source target).exec d = (.error failure, d)) ∨
      ∃ e, (moveFile source target).exec d = (.ok (), e) ∧ d.Admits target ∧
        Edits (· = d.placeOf target) (· = d.placeOf source) d e ∧
        e.root.dataAt? (d.placeOf target) = some data ∧
        e.root.dataAt? (d.placeOf source) = none := by
  by_cases hadmits : d.Admits source ∧ d.Admits target
  · obtain ⟨e, hrun, hedits, hput⟩ := exec_moveFile_of_admits hadmits.1 hadmits.2 hne hdata
    exact Or.inr ⟨e, hrun, hadmits.2, hedits, hput⟩
  left
  by_cases hsource : d.Admits source
  · refine exec_moveFile_of_slot hsource fun hnull => ?_
    have htarget : ¬ d.Admits target := fun h => hadmits ⟨hsource, h⟩
    exact (slot_of_not_admits ht.toIsNamed (Or.inl ht.parent) hnull htarget).imp id
      fun ⟨es, hslot⟩ => ⟨_, es, hslot⟩
  rw [moveFile]
  by_cases hnull : (hasNull source || hasNull target) = true
  · exact ⟨.nullInPath, by rw [if_pos hnull]; rfl⟩
  rw [if_neg hnull, Action.exec_bind_of_ok (Action.exec_get ..)]
  simp only [Bool.or_eq_true, not_or, Bool.not_eq_true] at hnull
  obtain ⟨reason, hslot⟩ | ⟨es, hslot⟩ := slot_of_not_admits hs.toIsNamed
    (Or.inl hs.parent) hnull.1 hsource
  · simp only [hslot]
    exact ⟨_, rfl⟩
  · -- a directory would lie where the file is
    obtain ⟨-, -, -, ⟨node, hget, hnode⟩ | ⟨-, hfree⟩⟩ :=
      slot_eq_ok hs.toIsNamed (Or.inl hs.parent) hslot
    · cases hnode
      rw [Node.dataAt?_of_hasDirectory ⟨es, hget⟩] at hdata
      cases hdata
    · cases hfree

/-- Nothing is moved from where nothing lies. -/
lemma exec_moveFile_of_none {source : Path} (target : Path) (hs : d.Admits source)
    (h : d.root.dataAt? (d.placeOf source) = none) :
    ∃ failure, (moveFile source target).exec d = (.error failure, d) := by
  rw [moveFile]
  by_cases hnull : (hasNull source || hasNull target) = true
  · exact ⟨.nullInPath, by rw [if_pos hnull]; rfl⟩
  rw [if_neg hnull, Action.exec_bind_of_ok (Action.exec_get ..)]
  obtain ⟨serial, data, hget, -⟩ | ⟨-, hslot⟩ := hs.slot_eq
  · rw [Node.dataAt?_eq_some_iff.mpr ⟨serial, hget⟩] at h
    cases h
  · simp only [hslot]
    exact ⟨_, rfl⟩

lemma exec_discardFile_of_admits (h : d.Admits p) :
    ∃ e, (discardFile p).exec d = (.ok (), e) ∧
      Edits (fun _ => False) (· = d.placeOf p) d e ∧ e.root.get? (d.placeOf p) = none := by
  rw [discardFile, Action.exec_bind_of_ok (Action.exec_outcome ..), removeFile, exec_attempt,
    if_neg (by simp [h.fits.null])]
  obtain ⟨serial, data, hget, hslot⟩ | ⟨hget, hslot⟩ := h.slot_eq
  · simp only [hslot]
    obtain ⟨hedits, hgone⟩ := edits_remove h.file (by simp [placeOf_eq h.named])
      (e := d.detach (d.placeOf p)) rfl rfl
    exact ⟨d.detach (d.placeOf p), rfl, hedits, hgone⟩
  · simp only [hslot]
    exact ⟨d, rfl, .refl d, hget⟩

/-- In a directory that is reached, what keeps a file from being written is that a directory has
its place, or that its path is too long. -/
lemma slot_of_reaches_of_not_admits (hreach : d.Reaches p.parent) (hnull : hasNull p = false)
    (h : ¬ d.Admits p) :
    d.slot p = .error .nameTooLong ∨
      ∃ place es, d.slot p = .ok (.taken place (.directory es)) := by
  have hdir : walk d.root (d.startOf p) p.parts.dropLast = .ok (d.placeOf p.parent) := hreach.walk
  rw [slot]
  by_cases hlong : maxPathBytes < p.text.utf8ByteSize
  · exact Or.inl (by rw [if_pos hlong])
  rw [if_neg hlong]
  simp only [hdir]
  cases hlast : p.parts.getLast? with
  | none => exact Or.inr ⟨_, _, rfl⟩
  | some last =>
    have hname : p.name = last := by rw [Path.name, hlast]; rfl
    simp only
    by_cases hup : last = ".."
    · obtain ⟨es, hes⟩ := hreach.directory
      obtain ⟨above, habove⟩ := Node.hasDirectory_dropLast hreach.directory
      simp only [walk, hes, hup, beq_self_eq_true, if_true, habove, Option.getD_some]
      exact Or.inr ⟨_, _, rfl⟩
    · have hp : p.IsNamed :=
        ⟨fun hnil => by simp [hnil] at hlast, hname ▸ hup⟩
      rw [walk_singleton hup hreach.directory, ← hname, ← placeOf_eq hp]
      by_cases htoo : maxNameBytes < p.name.utf8ByteSize
      · exact Or.inl (by simp only [htoo, if_true])
      · have hfits : p.Fits := ⟨hnull, Nat.le_of_not_lt hlong, Nat.le_of_not_lt htoo⟩
        obtain ⟨es, hes⟩ : d.root.HasDirectory (d.placeOf p) :=
          by_contra fun hfile => h ⟨hp, hreach, hfits, hfile⟩
        simp only [htoo, hes, if_false, reduceCtorEq, Option.getD_some]
        exact Or.inr ⟨_, _, rfl⟩

/-- In a directory that is reached, nothing is passed over but what is not there. -/
lemma exec_discardFile_of_not_admits (hreach : d.Reaches p.parent) (h : ¬ d.Admits p) :
    ∃ failure, (discardFile p).exec d = (.error failure, d) := by
  rw [discardFile, Action.exec_bind_of_ok (Action.exec_outcome ..), removeFile, exec_attempt]
  by_cases hnull : hasNull p
  · exact ⟨.nullInPath, by rw [if_pos hnull]; rfl⟩
  rw [if_neg hnull]
  obtain hslot | ⟨place, es, hslot⟩ :=
    slot_of_reaches_of_not_admits hreach (by simpa using hnull) h
  all_goals
    simp only [hslot]
    exact ⟨_, rfl⟩

/-- A file is discarded unless it is not found; any other reason is a failure. -/
lemma exec_discardFile (hp : p.IsEntry) (d : Disk) :
    (∃ failure, (discardFile p).exec d = (.error failure, d)) ∨
      ∃ e, (discardFile p).exec d = (.ok (), e) ∧ ChangesOnly (· = d.placeOf p) d e ∧
        (d.slot p ≠ .error .notFound → e.root.dataAt? (d.placeOf p) = none) ∧
        (d.slot p = .error .notFound → e = d) := by
  by_cases h : d.Admits p
  · obtain ⟨e, hrun, hedits, hgone⟩ := exec_discardFile_of_admits h
    have hslot : d.slot p ≠ .error .notFound := by
      obtain ⟨_, _, -, hslot⟩ | ⟨-, hslot⟩ := h.slot_eq <;> simp [hslot]
    exact Or.inr ⟨e, hrun, hedits.toChangesOnly.mono (by simp),
      fun _ => Node.dataAt?_of_none hgone, fun heq => absurd heq hslot⟩
  rw [discardFile, Action.exec_bind_of_ok (Action.exec_outcome ..), removeFile, exec_attempt]
  by_cases hnull : hasNull p
  · exact Or.inl ⟨.nullInPath, by rw [if_pos hnull]; rfl⟩
  rw [if_neg hnull]
  obtain ⟨reason, hslot⟩ | ⟨es, hslot⟩ :=
    slot_of_not_admits hp.toIsNamed (Or.inl hp.parent) (by simpa using hnull) h
  · simp only [hslot]
    by_cases hreason : reason = .notFound
    · subst hreason
      exact Or.inr ⟨d, rfl, .refl d, fun h => absurd rfl h, fun _ => rfl⟩
    · exact Or.inl ⟨.disk ⟨reason, p, none⟩, by simp [hreason]⟩
  · simp only [hslot]
    exact Or.inl ⟨_, rfl⟩

end Disk

end JavaAtlas
