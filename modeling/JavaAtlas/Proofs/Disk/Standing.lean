import JavaAtlas.Proofs.Disk.Spares

/-!
# Directories that stand

A directory that was made is there, and making it again changes nothing. What a directory lists, and
which of its entries are directories, depends on nothing but the entries at its place. So as long as
no entry changes, a directory is found to be the same on another disk.
-/

namespace JavaAtlas

namespace Disk

variable {d e : Disk} {p : Path} {name : String} {names : List String}

/-! ### Making directories -/

lemma isDirectory_of_makeDirectory (hd : d.IsGrounded)
    (h : (makeDirectory p).exec d = (.ok (), e)) : e.isDirectory p = .ok true := by
  have hreach := reaches_of_makeDirectory hd h
  rw [makeDirectory, exec_attempt] at h
  split at h
  · cases h
  · next hnull =>
    rcases hslot : d.slot p with reason | ⟨place, node⟩ | place
    · simp [hslot] at h
    · simp [hslot] at h
    · have hp := isNamed_of_slot_free hd hslot
      obtain ⟨htext, -⟩ := slot_eq_ok hp (Or.inr (hd.directory_start p)) hslot
      exact isDirectory_eq_ok_true_iff.mpr ⟨by simpa using hnull, htext, hreach⟩

lemma isDirectory_of_ensureDirectory (hd : d.IsGrounded)
    (h : (ensureDirectory p).exec d = (.ok (), e)) : e.isDirectory p = .ok true := by
  rcases exec_ensureDirectory p d with ⟨place, hmake, -, hrun⟩ | ⟨r, hrun, hthere, -⟩
  · rw [hrun] at h
    exact isDirectory_of_makeDirectory hd (hmake.trans h)
  · rw [hrun, Prod.mk.injEq] at h
    obtain ⟨hr, rfl⟩ := h
    exact hthere.mp hr

/-- Directories that are made are there. -/
lemma isDirectory_of_makeDirectories (hd : d.IsGrounded)
    (h : (makeDirectories p).exec d = (.ok (), e)) : e.isDirectory p = .ok true := by
  rw [makeDirectories] at h
  cases hdepth : p.parts.length with
  | zero =>
    rw [hdepth] at h
    exact isDirectory_of_ensureDirectory hd h
  | succ depth =>
    have hfirst := confined_ensureDirectory d.cwd p d rfl
    rw [hdepth, makeParents, Action.exec_bind_of_ok (Action.exec_outcome ..)] at h
    rcases hrun : (ensureDirectory p).exec d with ⟨failure | _, f⟩
    · rw [hrun] at h hfirst
      simp only at h
      split at h
      · simp_all
      · split at h
        · cases h
        · rw [Action.exec_bind_eq_ok] at h
          obtain ⟨_, g, hparents, h⟩ := h
          have habove := confined_makeParents f.cwd depth p.parent f rfl
          rw [hparents] at habove
          have hground := (hd.of_changesOnly hfirst).of_changesOnly habove
          exact isDirectory_of_ensureDirectory hground h
      · cases h
    · rw [hrun] at h
      cases h
      exact isDirectory_of_ensureDirectory hd hrun

/-- A directory is there, and at most it was made: no file has changed, and no other directory was
made unless some above it had to be. -/
structure Makes (d : Disk) (p : Path) (e : Disk) : Prop where
  change : d.ChangesOnly (fun _ => False) e
  there : e.isDirectory p = .ok true
  made : d.Reaches p.parent → ∀ q, e.root.HasDirectory q → d.root.HasDirectory q ∨ q = d.placeOf p

lemma makes_of_makeDirectories (hd : d.IsGrounded)
    (h : (makeDirectories p).exec d = (.ok (), e)) : d.Makes p e where
  change := by
    have hchange := confined_makeDirectories d.cwd p d rfl
    rwa [h] at hchange
  there := isDirectory_of_makeDirectories hd h
  made hreach q hq := made_makeDirectories hd hreach (by rwa [h])

lemma isDirectory_of_changesOnly {touched : List String → Prop} (h : d.ChangesOnly touched e)
    (hp : d.isDirectory p = .ok true) : e.isDirectory p = .ok true := by
  obtain ⟨hnull, htext, hreach⟩ := isDirectory_eq_ok_true_iff.mp hp
  exact isDirectory_eq_ok_true_iff.mpr ⟨hnull, htext, h.reaches hreach⟩

/-! ### The entries of a directory -/

/-- No entry of a proper tree is named like the way up. -/
lemma ne_up_of_proper {n : Node} {place : List String} (h : n.Proper)
    (hget : n.get? (place ++ [name]) ≠ none) : name ≠ ".." := by
  rintro rfl
  obtain ⟨node, hnode⟩ := Option.ne_none_iff_exists'.mp hget
  obtain ⟨es, hes⟩ := Node.hasDirectory_of_get?_append hnode
  rw [Node.get?_append, hes, Option.bind_some, Node.get?_directory_cons,
    Option.bind_eq_some_iff] at hnode
  obtain ⟨child, hchild, -⟩ := hnode
  cases h.get? hes with
  | directory _ up _ => exact up (Ordered.mem_keys_iff.mpr ⟨child, hchild⟩)

lemma isDirectory_of_list (h : d.list p = .ok names) : d.isDirectory p = .ok true := by
  rw [list] at h
  split at h
  · cases h
  · next hnull =>
    match hlocate : d.locate p with
    | .error _ => simp [hlocate] at h
    | .ok place =>
      match hget : d.root.get? place with
      | none => simp [hlocate, hget] at h
      | some (.file ..) => simp [hlocate, hget] at h
      | some (.directory es) =>
        simp [isDirectory, stat, hnull, hlocate, hget, Except.map, Node.isDirectory]

/-- The names in a directory are those of the entries at its place. -/
lemma list_of_isDirectory (h : d.isDirectory p = .ok true) :
    ∃ names, d.list p = .ok names ∧
      ∀ name, name ∈ names ↔ d.root.get? (d.placeOf p ++ [name]) ≠ none := by
  obtain ⟨hnull, htext, hreach⟩ := isDirectory_eq_ok_true_iff.mp h
  obtain ⟨es, hes⟩ := hreach.directory
  refine ⟨Ordered.keys es, ?_, fun name => ?_⟩
  · rw [list, if_neg (by simp [hnull]), locate, if_neg (Nat.not_lt.mpr htext), hreach.walk]
    simp only [hes]
  · rw [Ordered.mem_keys_iff, Node.get?_append, hes, Option.bind_some, Node.get?_directory_cons]
    cases Ordered.get? es name <;> simp

lemma any_isDirectory_iff {n : Node} {place : List String} :
    (n.get? place).any Node.isDirectory = true ↔ n.HasDirectory place := by
  rw [Node.HasDirectory]
  rcases n.get? place with _ | ⟨serial, data⟩ | es <;> simp [Node.isDirectory]

lemma placeOf_entry (hname : name ≠ "..") (d : Disk) (p : Path) :
    d.placeOf ⟨p.root, p.parts ++ [name]⟩ = d.placeOf p ++ [name] := by
  change Path.follow (d.startOf p) (p.parts ++ [name]) = _
  rw [Path.follow_append]
  exact Path.follow_of_not_mem (by simpa using Ne.symm hname) _

/-- Whether an entry of a directory is one itself is asked of its place, unless its name or its path
is too long. -/
lemma isDirectory_entry (h : d.Reaches p) (hname : name ≠ "..") :
    let q : Path := ⟨p.root, p.parts ++ [name]⟩
    d.isDirectory q =
      if hasNull q = true then .ok false
      else if maxPathBytes < q.text.utf8ByteSize ∨ maxNameBytes < name.utf8ByteSize then
        .error (.disk ⟨.nameTooLong, q, none⟩)
      else .ok ((d.root.get? (d.placeOf p ++ [name])).any Node.isDirectory) := by
  intro q
  have hwalk : walk d.root (d.startOf q) q.parts = walk d.root (d.placeOf p) [name] := by
    change walk d.root (d.startOf p) (p.parts ++ [name]) = _
    rw [walk_append, h.walk, ok_bind]
  rw [isDirectory, stat, locate, hwalk, walk_singleton hname h.directory]
  by_cases hnull : hasNull q = true
  · rw [if_pos hnull, if_pos hnull]
    rfl
  · rw [if_neg hnull, if_neg hnull]
    by_cases htext : maxPathBytes < q.text.utf8ByteSize
    · simp [htext, Except.map]
    · by_cases hlong : maxNameBytes < name.utf8ByteSize
      · simp [htext, hlong, Except.map]
      · cases hget : d.root.get? (d.placeOf p ++ [name]) <;> simp [htext, hlong, hget, Except.map]

/-- Which entries of a directory are directories is the same on two disks where the same
directories lie among its entries. -/
lemma isDirectory_entry_congr (hcwd : e.cwd = d.cwd) (hd : d.Reaches p) (he : e.Reaches p)
    (hname : name ≠ "..")
    (hsame : e.root.HasDirectory (d.placeOf p ++ [name]) ↔
      d.root.HasDirectory (d.placeOf p ++ [name])) :
    e.isDirectory ⟨p.root, p.parts ++ [name]⟩ = d.isDirectory ⟨p.root, p.parts ++ [name]⟩ := by
  have hentry : (e.root.get? (d.placeOf p ++ [name])).any Node.isDirectory =
      (d.root.get? (d.placeOf p ++ [name])).any Node.isDirectory := by
    rw [Bool.eq_iff_iff, any_isDirectory_iff, any_isDirectory_iff]
    exact hsame
  have hentry_d := isDirectory_entry hd hname
  have hentry_e := isDirectory_entry he hname
  rw [hentry_d, hentry_e, placeOf_congr hcwd, hentry]

end Disk

end JavaAtlas
