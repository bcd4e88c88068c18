import JavaAtlas.Disk.Basic
import JavaAtlas.Proofs.Action
import JavaAtlas.Proofs.Disk.Tree

/-!
# Paths and places

A path is followed through the tree to a place. Following it can fail, but where it leads does not
depend on the tree: `Disk.placeOf` is the place that a path means. A path can be handed to the
system if it fits, and it reaches a directory if every step on the way is one that is there.
-/

namespace JavaAtlas

namespace Path

variable {p : Path}

lemma follow_append (start xs ys : List String) :
    follow start (xs ++ ys) = follow (follow start xs) ys := List.foldl_append

lemma follow_cons (start : List String) (part : String) (rest : List String) :
    follow start (part :: rest) =
      follow (if part == ".." then start.dropLast else start ++ [part]) rest := rfl

lemma follow_of_not_mem {parts : List String} (h : ".." ∉ parts) (start : List String) :
    follow start parts = start ++ parts := by
  induction parts generalizing start with
  | nil => simp [follow]
  | cons part rest ih =>
    rw [List.mem_cons, not_or] at h
    rw [follow_cons, if_neg (by simpa using Ne.symm h.1), ih h.2]
    simp

lemma not_mem_follow {start : List String} (h : ".." ∉ start) (parts : List String) :
    ".." ∉ follow start parts := by
  induction parts generalizing start with
  | nil => exact h
  | cons part rest ih =>
    rw [follow_cons]
    refine ih ?_
    split
    · exact fun hmem => h (List.dropLast_subset _ hmem)
    · next hpart =>
      simp only [List.mem_append, List.mem_singleton, not_or]
      exact ⟨h, fun heq => hpart (by simp [← heq])⟩

lemma mem_follow {part : String} {start parts : List String}
    (h : part ∈ follow start parts) : part ∈ start ∨ part ∈ parts := by
  induction parts generalizing start with
  | nil => exact Or.inl h
  | cons first rest ih =>
    rw [follow_cons] at h
    rcases ih h with hstart | hrest
    · split at hstart
      · exact Or.inl (List.dropLast_subset _ hstart)
      · rw [List.mem_append, List.mem_singleton] at hstart
        exact hstart.imp id fun heq => by simp [heq]
    · exact Or.inr (List.mem_cons_of_mem _ hrest)

/-- A path that ends in the name of an entry. -/
structure IsNamed (p : Path) : Prop where
  parts : p.parts ≠ []
  name : p.name ≠ ".."

lemma IsNamed.parts_eq (h : p.IsNamed) : p.parts = p.parent.parts ++ [p.name] := by
  simp only [Path.parent, Path.name, List.getLast?_eq_some_getLast h.parts, Option.getD_some]
  exact (List.dropLast_append_getLast h.parts).symm

/-- A path to an entry of a directory that the path names too. -/
structure IsEntry (p : Path) : Prop extends IsNamed p where
  parent : p.parent.parts ≠ []

/-- A path that the system takes: without null characters, and short enough. -/
structure Fits (p : Path) : Prop where
  null : Disk.hasNull p = false
  text : p.text.utf8ByteSize ≤ Disk.maxPathBytes
  name : p.name.utf8ByteSize ≤ Disk.maxNameBytes

/-! ### Drafts -/

/-- Where a file is written before it is moved to its path. -/
def draft (p : Path) : Path := p.withName (p.name ++ ".tmp")

@[simp] lemma draft_parent (p : Path) : p.draft.parent = p.parent := by
  simp [draft, withName, parent]

@[simp] lemma draft_name (p : Path) : p.draft.name = p.name ++ ".tmp" := by
  simp [draft, withName, name]

lemma append_ne_of_getLast {s t suffix : String} {c : Char}
    (hs : suffix.toList.getLast? = some c) (ht : t.toList.getLast? ≠ some c) :
    s ++ suffix ≠ t := by
  intro h
  refine ht ?_
  rw [← h, String.toList_append, List.getLast?_append, hs]
  rfl

lemma isNamed_draft (p : Path) : p.draft.IsNamed where
  parts := by simp [draft, withName]
  name := by
    rw [draft_name]
    exact append_ne_of_getLast (c := 'p') rfl (by decide)

lemma IsEntry.draft (h : p.IsEntry) : p.draft.IsEntry where
  toIsNamed := p.isNamed_draft
  parent := by simpa using h.parent

end Path

namespace Disk

variable {d e : Disk} {p : Path} {root : Node} {place found : List String}

/-! ### Following segments -/

lemma walk_append (root : Node) (place xs ys : List String) :
    walk root place (xs ++ ys) = (walk root place xs >>= fun found => walk root found ys) := by
  induction xs generalizing place with
  | nil => rfl
  | cons part rest ih =>
    rw [List.cons_append, walk, walk]
    match root.get? place with
    | none => rfl
    | some (.file ..) => rfl
    | some (.directory es) =>
      simp only
      split
      · exact ih _
      · split
        · rfl
        · cases Ordered.get? es part with
          | none => rfl
          | some child => exact ih _

/-- A step to an entry of a directory. -/
lemma walk_singleton {name : String} (hname : name ≠ "..") (h : root.HasDirectory place) :
    walk root place [name] =
      if maxNameBytes < name.utf8ByteSize then .error .nameTooLong
      else if root.get? (place ++ [name]) = none then .error .notFound
      else .ok (place ++ [name]) := by
  obtain ⟨es, hes⟩ := h
  have hget : root.get? (place ++ [name]) = Ordered.get? es name := by
    rw [Node.get?_append, hes, Option.bind_some, Node.get?_directory_cons]
    cases Ordered.get? es name <;> simp
  rw [walk, hes, hget]
  simp only [beq_iff_eq, hname, if_false, walk]
  split
  · rfl
  · cases Ordered.get? es name <;> simp

/-- The steps of a walk from a directory, or to an entry that is there. -/
lemma walk_cons_eq_ok {part : String} {rest : List String}
    (h : walk root place (part :: rest) = .ok found) :
    root.HasDirectory place ∧
      ((part = ".." ∧ walk root place.dropLast rest = .ok found) ∨
        (part ≠ ".." ∧ part.utf8ByteSize ≤ maxNameBytes ∧
          (∃ node, root.get? (place ++ [part]) = some node) ∧
          walk root (place ++ [part]) rest = .ok found)) := by
  rw [walk] at h
  match hplace : root.get? place with
  | none => simp [hplace] at h
  | some (.file ..) => simp [hplace] at h
  | some (.directory es) =>
    refine ⟨⟨es, hplace⟩, ?_⟩
    simp only [hplace, beq_iff_eq] at h
    by_cases hup : part = ".."
    · rw [if_pos hup] at h
      exact Or.inl ⟨hup, h⟩
    · rw [if_neg hup] at h
      refine Or.inr ⟨hup, ?_⟩
      by_cases hlong : maxNameBytes < part.utf8ByteSize
      · simp [hlong] at h
      · rw [if_neg hlong] at h
        match hchild : Ordered.get? es part with
        | none => simp [hchild] at h
        | some child =>
          simp only [hchild] at h
          refine ⟨Nat.le_of_not_lt hlong, ⟨child, ?_⟩, h⟩
          rw [Node.get?_append, hplace, Option.bind_some, Node.get?_directory_cons, hchild]
          simp

/-- A walk leads where the path leads. -/
lemma eq_follow_of_walk {parts : List String} (h : walk root place parts = .ok found) :
    found = Path.follow place parts := by
  induction parts generalizing place with
  | nil =>
    rw [walk, Except.ok.injEq] at h
    exact h.symm
  | cons part rest ih =>
    rw [Path.follow_cons]
    obtain ⟨-, ⟨hup, hrest⟩ | ⟨hup, -, -, hrest⟩⟩ := walk_cons_eq_ok h
    · rw [if_pos (by simpa using hup)]
      exact ih hrest
    · rw [if_neg (by simpa using hup)]
      exact ih hrest

lemma exists_get?_of_walk {parts : List String} {node : Node} (hplace : root.get? place = some node)
    (h : walk root place parts = .ok found) : ∃ node, root.get? found = some node := by
  induction parts generalizing place node with
  | nil =>
    rw [walk, Except.ok.injEq] at h
    exact ⟨node, h ▸ hplace⟩
  | cons part rest ih =>
    obtain ⟨⟨es, hes⟩, ⟨-, hrest⟩ | ⟨-, -, ⟨child, hchild⟩, hrest⟩⟩ := walk_cons_eq_ok h
    · obtain ⟨above, hget⟩ := Node.hasDirectory_dropLast ⟨es, hes⟩
      exact ih hget hrest
    · exact ih hchild hrest

/-- What a walk of at least one step leads to is there. -/
lemma exists_get?_of_walk_of_ne {parts : List String} (hne : parts ≠ [])
    (h : walk root place parts = .ok found) : ∃ node, root.get? found = some node := by
  match parts with
  | part :: rest =>
    obtain ⟨⟨es, hes⟩, -⟩ := walk_cons_eq_ok h
    exact exists_get?_of_walk hes h

lemma hasDirectory_of_walk {parts : List String} (h : walk root place parts = .ok found)
    (hfound : root.HasDirectory found) : root.HasDirectory place := by
  match parts with
  | [] =>
    rw [walk, Except.ok.injEq] at h
    exact h ▸ hfound
  | part :: rest => exact (walk_cons_eq_ok h).1

/-- A walk to a directory goes through directories only, so that it can be repeated wherever they
still are. -/
lemma walk_of_directories {other : Node} {parts : List String}
    (hkept : ∀ q, root.HasDirectory q → other.HasDirectory q)
    (hfound : root.HasDirectory found) (h : walk root place parts = .ok found) :
    walk other place parts = .ok found := by
  induction parts generalizing place with
  | nil => rwa [walk] at h ⊢
  | cons part rest ih =>
    obtain ⟨hplace, ⟨hup, hrest⟩ | ⟨hup, hshort, -, hrest⟩⟩ := walk_cons_eq_ok h
    · obtain ⟨es, hes⟩ := hkept _ hplace
      rw [walk, hes]
      simp only [hup, beq_self_eq_true, if_true]
      exact ih hrest
    · have hnext := hkept _ (hasDirectory_of_walk hrest hfound)
      rw [← List.singleton_append, walk_append, walk_singleton hup (hkept _ hplace),
        if_neg (Nat.not_lt.mpr hshort)]
      obtain ⟨es, hes⟩ := hnext
      rw [hes, if_neg (by simp)]
      exact ih hrest

/-- A walk that meets a name that is too long meets it wherever the directories still are. -/
lemma walk_tooLong_of_directories {other : Node} {parts : List String}
    (hkept : ∀ q, root.HasDirectory q → other.HasDirectory q)
    (h : walk root place parts = .error .nameTooLong) :
    walk other place parts = .error .nameTooLong := by
  induction parts generalizing place with
  | nil => cases h
  | cons part rest ih =>
    have hplace : root.HasDirectory place := by
      rw [walk] at h
      match hget : root.get? place with
      | none => simp [hget] at h
      | some (.file ..) => simp [hget] at h
      | some (.directory es) => exact ⟨es, hget⟩
    by_cases hup : part = ".."
    · obtain ⟨es, hes⟩ := hplace
      obtain ⟨es', hes'⟩ := hkept _ ⟨es, hes⟩
      rw [walk, hes] at h
      rw [walk, hes']
      simp only [hup, beq_self_eq_true, if_true] at h ⊢
      exact ih h
    · rw [← List.singleton_append, walk_append, walk_singleton hup hplace] at h
      rw [← List.singleton_append, walk_append, walk_singleton hup (hkept _ hplace)]
      by_cases hlong : maxNameBytes < part.utf8ByteSize
      · rw [if_pos hlong]
        rfl
      rw [if_neg hlong] at h ⊢
      by_cases hnone : root.get? (place ++ [part]) = none
      · simp [hnone] at h
      rw [if_neg hnone, ok_bind] at h
      -- the walk goes on, so that a directory is here
      have hnext : root.HasDirectory (place ++ [part]) := by
        match rest with
        | [] => cases h
        | next :: rest =>
          rw [walk] at h
          match hget : root.get? (place ++ [part]) with
          | none => exact absurd hget hnone
          | some (.file ..) => simp [hget] at h
          | some (.directory es) => exact ⟨es, hget⟩
      obtain ⟨es, hes⟩ := hkept _ hnext
      rw [hes, if_neg (by simp)]
      exact ih h

/-! ### Places of paths -/

/-- The place that a path means. -/
def placeOf (d : Disk) (p : Path) : List String := Path.follow (d.startOf p) p.parts

/-- A path leads to a directory. -/
structure Reaches (d : Disk) (p : Path) : Prop where
  walk : walk d.root (d.startOf p) p.parts = .ok (d.placeOf p)
  directory : d.root.HasDirectory (d.placeOf p)

lemma placeOf_eq (h : p.IsNamed) (d : Disk) : d.placeOf p = d.placeOf p.parent ++ [p.name] := by
  rw [placeOf, h.parts_eq, Path.follow_append]
  exact Path.follow_of_not_mem (by simpa using Ne.symm h.name) _

lemma placeOf_congr (h : e.cwd = d.cwd) (p : Path) : e.placeOf p = d.placeOf p := by
  rw [placeOf, placeOf, startOf, startOf, h]

lemma placeOf_draft (d : Disk) (p : Path) :
    d.placeOf p.draft = d.placeOf p.parent ++ [p.name ++ ".tmp"] := by
  rw [placeOf_eq p.isNamed_draft, Path.draft_parent, Path.draft_name]

lemma placeOf_draft_ne (hp : p.IsNamed) (d : Disk) : d.placeOf p ≠ d.placeOf p.draft := by
  intro h
  rw [placeOf_eq hp, placeOf_draft] at h
  have hname := List.append_cancel_left h
  simp only [List.cons.injEq, and_true] at hname
  simpa using congrArg String.length hname

/-- The slots of an entry: its directory is there, and either the entry is there too or it is
not. -/
lemma slot_eq_ok {s : Slot} (hp : p.IsNamed)
    (hstart : p.parent.parts ≠ [] ∨ d.root.HasDirectory (d.startOf p)) (h : d.slot p = .ok s) :
    p.text.utf8ByteSize ≤ maxPathBytes ∧ p.name.utf8ByteSize ≤ maxNameBytes ∧
      d.Reaches p.parent ∧
      ((∃ node, d.root.get? (d.placeOf p) = some node ∧ s = .taken (d.placeOf p) node) ∨
        (d.root.get? (d.placeOf p) = none ∧ s = .free (d.placeOf p))) := by
  rw [slot] at h
  by_cases hlong : maxPathBytes < p.text.utf8ByteSize
  · simp [hlong] at h
  rw [if_neg hlong] at h
  match hwalk : walk d.root (d.startOf p) p.parts.dropLast with
  | .error reason => simp [hwalk] at h
  | .ok dir =>
    have hdir : dir = d.placeOf p.parent := eq_follow_of_walk hwalk
    have hlast : p.parts.getLast? = some p.name := by rw [hp.parts_eq]; simp
    have hthere : ∃ node, d.root.get? dir = some node := by
      rcases hstart with hne | ⟨es, hes⟩
      · exact exists_get?_of_walk_of_ne hne hwalk
      · exact exists_get?_of_walk hes hwalk
    obtain ⟨node, hnode⟩ := hthere
    match node with
    | .file .. => simp [hwalk, hlast, walk, hnode] at h
    | .directory es =>
      have hin : d.root.HasDirectory dir := ⟨es, hnode⟩
      simp only [hwalk, hlast, walk_singleton hp.name hin] at h
      have hreach : d.Reaches p.parent := ⟨hdir ▸ hwalk, hdir ▸ hin⟩
      rw [hdir, ← placeOf_eq hp] at h
      by_cases hname : maxNameBytes < p.name.utf8ByteSize
      · simp [hname] at h
      rw [if_neg hname] at h
      refine ⟨Nat.le_of_not_lt hlong, Nat.le_of_not_lt hname, hreach, ?_⟩
      match hget : d.root.get? (d.placeOf p) with
      | none =>
        simp only [hget, if_true, Except.ok.injEq] at h
        exact Or.inr ⟨rfl, h.symm⟩
      | some node =>
        simp only [hget, reduceCtorEq, if_false, Option.getD_some, Except.ok.injEq] at h
        exact Or.inl ⟨node, rfl, h.symm⟩

/-- In a directory that is reached, a path that fits has its slot. -/
lemma slot_of_reaches (hp : p.IsNamed) (hreach : d.Reaches p.parent) (hfits : p.Fits) :
    d.slot p = .ok (match d.root.get? (d.placeOf p) with
      | some node => .taken (d.placeOf p) node
      | none => .free (d.placeOf p)) := by
  have hlast : p.parts.getLast? = some p.name := by rw [hp.parts_eq]; simp
  have hdir : walk d.root (d.startOf p) p.parts.dropLast = .ok (d.placeOf p.parent) := hreach.walk
  rw [slot, if_neg (Nat.not_lt.mpr hfits.text)]
  simp only [hdir, hlast, walk_singleton hp.name hreach.directory, ← placeOf_eq hp,
    if_neg (Nat.not_lt.mpr hfits.name)]
  cases hget : d.root.get? (d.placeOf p) with
  | none => simp
  | some node => simp [hget]

/-- Above a directory that is reached, directories are. -/
lemma Reaches.parent (h : d.Reaches p) : d.Reaches p.parent := by
  rcases List.eq_nil_or_concat' p.parts with hnil | ⟨front, last, hparts⟩
  · have hsame : p.parent = p := by rw [Path.parent, hnil, List.dropLast_nil, ← hnil]
    rwa [hsame]
  · have hfront : p.parent.parts = front := by rw [Path.parent, hparts, List.dropLast_concat]
    have hall := h.walk
    rw [hparts, ← hfront, walk_append] at hall
    match hwalk : Disk.walk d.root (d.startOf p) p.parent.parts with
    | .error _ => simp [hwalk] at hall
    | .ok way =>
      obtain rfl : way = d.placeOf p.parent := eq_follow_of_walk hwalk
      rw [hwalk, ok_bind] at hall
      exact ⟨hwalk, (walk_cons_eq_ok hall).1⟩

/-- In a directory that is reached, nothing is missing on the way to a slot. -/
lemma slot_ne_notFound_of_reaches (h : d.Reaches p.parent) : d.slot p ≠ .error .notFound := by
  have hdir : walk d.root (d.startOf p) p.parts.dropLast = .ok (d.placeOf p.parent) := h.walk
  rw [slot, hdir]
  by_cases hlong : maxPathBytes < p.text.utf8ByteSize
  · simp [hlong]
  rw [if_neg hlong]
  cases p.parts.getLast? with
  | none => simp
  | some last =>
    -- a last name that is missing makes the slot a free one
    rcases hlast : walk d.root (d.placeOf p.parent) [last] with reason | found
    · cases reason <;> simp [hlast]
    · simp [hlast]

/-- Nothing lies in a free slot. -/
lemma get?_of_slot_free (h : d.slot p = .ok (.free place)) : d.root.get? place = none := by
  rw [slot] at h
  split at h
  · simp at h
  match hwalk : walk d.root (d.startOf p) p.parts.dropLast, hlast : p.parts.getLast? with
  | .error _, _ => simp [hwalk] at h
  | .ok _, none => simp [hwalk, hlast] at h
  | .ok dir, some last =>
    simp only [hwalk, hlast] at h
    match hdir : d.root.get? dir with
    | none =>
      simp only [walk, hdir, Except.ok.injEq, Slot.free.injEq] at h
      rw [← h]
      exact Node.get?_append_of_none hdir _
    | some (.file ..) => simp [walk, hdir] at h
    | some (.directory es) =>
      by_cases hup : last = ".."
      · simp [walk, hdir, hup] at h
      rw [walk_singleton hup ⟨es, hdir⟩] at h
      by_cases hname : maxNameBytes < last.utf8ByteSize
      · simp [hname] at h
      rw [if_neg hname] at h
      by_cases hget : d.root.get? (dir ++ [last]) = none
      · simp only [hget, if_true, Except.ok.injEq, Slot.free.injEq] at h
        rwa [← h]
      · simp [hget] at h

/-- Down to an entry that is there, nothing is missing on the way. -/
lemma walk_ne_notFound {parts : List String} {node : Node} (hup : ".." ∉ parts)
    (h : root.get? (place ++ parts) = some node) : walk root place parts ≠ .error .notFound := by
  induction parts generalizing place with
  | nil => simp [walk]
  | cons part rest ih =>
    rw [List.mem_cons, not_or] at hup
    have hdir : root.HasDirectory place := Node.hasDirectory_of_get?_append h
    rw [List.append_cons] at h
    rw [← List.singleton_append, walk_append, walk_singleton (Ne.symm hup.1) hdir]
    split
    · simp
    · match hget : root.get? (place ++ [part]) with
      | none => rw [Node.get?_append_of_none hget] at h; cases h
      | some child =>
        rw [if_neg (by simp)]
        exact ih hup.2 h

/-- Down to an entry that is there, only a name that is too long stops the way. -/
lemma walk_of_get? {parts : List String} {node : Node} (hup : ".." ∉ parts)
    (h : root.get? (place ++ parts) = some node) :
    walk root place parts = .ok (place ++ parts) ∨ walk root place parts = .error .nameTooLong := by
  induction parts generalizing place with
  | nil => simp [walk]
  | cons part rest ih =>
    rw [List.mem_cons, not_or] at hup
    have hdir : root.HasDirectory place := Node.hasDirectory_of_get?_append h
    rw [List.append_cons] at h ⊢
    rw [← List.singleton_append, walk_append, walk_singleton (Ne.symm hup.1) hdir]
    split
    · exact Or.inr rfl
    · cases hget : root.get? (place ++ [part]) with
      | none => rw [Node.get?_append_of_none hget] at h; cases h
      | some child =>
        rw [if_neg (by simp)]
        exact ih hup.2 h

/-- A path finds the file at its place, or some other reason why it cannot be had. -/
def InReach (d : Disk) (p : Path) : Prop :=
  d.root.dataAt? (d.placeOf p) ≠ none → d.slot p ≠ .error .notFound

/-- What keeps a path from its own place is a step up. -/
lemma inReach_of_not_mem (hp : p.IsEntry) (hup : ".." ∉ p.parts) (d : Disk) : d.InReach p := by
  intro hdata hslot
  have hparts : ".." ∉ p.parts.dropLast := fun hmem => hup (List.dropLast_subset _ hmem)
  have hplace : d.placeOf p = d.startOf p ++ p.parts.dropLast ++ [p.name] := by
    rw [placeOf_eq hp.toIsNamed, placeOf]
    exact congrArg (· ++ [p.name]) (Path.follow_of_not_mem hparts _)
  obtain ⟨data, hdata⟩ := Option.ne_none_iff_exists'.mp hdata
  obtain ⟨serial, hget⟩ := Node.dataAt?_eq_some_iff.mp hdata
  rw [hplace] at hget
  obtain ⟨es, hdir⟩ := Node.hasDirectory_of_get?_append hget
  have hwalk := walk_ne_notFound hparts hdir
  rw [slot] at hslot
  split at hslot
  · simp at hslot
  · match h : walk d.root (d.startOf p) p.parts.dropLast with
    | .error reason =>
      simp only [h, Except.error.injEq] at hslot
      exact hwalk (hslot ▸ h)
    | .ok dir =>
      simp only [h] at hslot
      split at hslot
      · simp at hslot
      · split at hslot <;> simp_all

/-! ### Reading -/

lemma walk_of_locate (h : d.locate p = .ok place) :
    p.text.utf8ByteSize ≤ maxPathBytes ∧ walk d.root (d.startOf p) p.parts = .ok place := by
  rw [locate] at h
  split at h
  · cases h
  · next htext => exact ⟨Nat.le_of_not_lt htext, h⟩

lemma eq_placeOf_of_locate (h : d.locate p = .ok place) : place = d.placeOf p :=
  eq_follow_of_walk (walk_of_locate h).2

/-- The entry that a path leads to lies at its place. -/
lemma stat_eq_some_iff {node : Node} :
    d.stat p = .ok (some node) ↔ hasNull p = false ∧ d.locate p = .ok (d.placeOf p) ∧
      d.root.get? (d.placeOf p) = some node := by
  rw [stat]
  constructor
  · intro h
    by_cases hnull : hasNull p
    · simp [hnull] at h
    rw [if_neg hnull] at h
    cases hloc : d.locate p with
    | error reason => cases reason <;> simp [hloc] at h
    | ok place =>
      obtain rfl := eq_placeOf_of_locate hloc
      rw [hloc, Except.ok.injEq] at h
      exact ⟨by simpa using hnull, rfl, h⟩
  · rintro ⟨hnull, hloc, hget⟩
    rw [if_neg (by simp [hnull]), hloc]
    exact congrArg Except.ok hget

lemma exists_stat_of_isFile (h : d.isFile p = .ok true) :
    ∃ serial data, d.stat p = .ok (some (.file serial data)) := by
  rw [isFile] at h
  rcases hstat : d.stat p with failure | _ | ⟨serial, data⟩ | es
  · simp [hstat, Except.map] at h
  · simp [hstat, Except.map] at h
  · exact ⟨serial, data, rfl⟩
  · simp [hstat, Except.map, Node.isDirectory] at h

lemma exists_fileAt_of_isFile (h : d.isFile p = .ok true) :
    ∃ data, d.fileAt p = .ok data := by
  obtain ⟨serial, data, hstat⟩ := exists_stat_of_isFile h
  obtain ⟨hnull, hlocate, hget⟩ := stat_eq_some_iff.mp hstat
  refine ⟨data, ?_⟩
  rw [fileAt, if_neg (by simp [hnull]), hlocate]
  simp only [hget]

/-- What a file holds is what lies at the place of its path. -/
lemma dataAt?_of_fileAt {data : FileData} (h : d.fileAt p = .ok data) :
    d.root.dataAt? (d.placeOf p) = some data := by
  rw [fileAt] at h
  split at h
  · simp at h
  match hloc : d.locate p with
  | .error _ => simp [hloc] at h
  | .ok place =>
    have hplace : place = d.placeOf p := eq_placeOf_of_locate hloc
    match hget : d.root.get? place with
    | none => simp [hloc, hget] at h
    | some (.directory _) => simp [hloc, hget] at h
    | some (.file serial x) =>
      simp only [hloc, hget, Except.ok.injEq] at h
      exact Node.dataAt?_eq_some_iff.mpr ⟨serial, by rw [← hplace, hget, h]⟩

/-- A path that fits leads from a directory it reaches to an entry that is there. -/
lemma locate_eq_ok {node : Node} (hp : p.IsNamed) (hfits : p.Fits) (hreach : d.Reaches p.parent)
    (h : d.root.get? (d.placeOf p) = some node) : d.locate p = .ok (d.placeOf p) := by
  rw [locate, if_neg (Nat.not_lt.mpr hfits.text), hp.parts_eq, walk_append]
  have hdir : walk d.root (d.startOf p) p.parent.parts = .ok (d.placeOf p.parent) := hreach.walk
  rw [hdir]
  change walk d.root (d.placeOf p.parent) [p.name] = _
  rw [walk_singleton hp.name hreach.directory, if_neg (Nat.not_lt.mpr hfits.name),
    ← placeOf_eq hp, h, if_neg (by simp)]

/-- A path that does not lead up leads to the entry at its place, unless a name is too long. -/
lemma locate_of_get? {node : Node} (hup : ".." ∉ p.parts)
    (h : d.root.get? (d.placeOf p) = some node) :
    d.locate p = .ok (d.placeOf p) ∨ d.locate p = .error .nameTooLong := by
  have hplace : d.placeOf p = d.startOf p ++ p.parts := Path.follow_of_not_mem hup _
  rw [locate]
  by_cases htext : maxPathBytes < p.text.utf8ByteSize
  · exact Or.inr (if_pos htext)
  · rw [if_neg htext, hplace]
    exact walk_of_get? hup (hplace ▸ h)

/-- Short names are never too long. -/
lemma walk_ne_tooLong {parts : List String}
    (h : ∀ part ∈ parts, part.utf8ByteSize ≤ maxNameBytes) :
    walk root place parts ≠ .error .nameTooLong := by
  induction parts generalizing place with
  | nil => simp [walk]
  | cons part rest ih =>
    have hpart := h part List.mem_cons_self
    have hrest : ∀ place, walk root place rest ≠ .error .nameTooLong :=
      fun place => ih fun other hother => h other (List.mem_cons_of_mem _ hother)
    rw [walk]
    match root.get? place with
    | none => simp
    | some (.file ..) => simp
    | some (.directory es) =>
      simp only [if_neg (Nat.not_lt.mpr hpart)]
      split
      · exact hrest _
      · cases Ordered.get? es part with
        | none => simp
        | some child => exact hrest _

lemma doesExist_eq_ok {node : Node} (hp : p.IsNamed) (hfits : p.Fits)
    (hreach : d.Reaches p.parent) (h : d.root.get? (d.placeOf p) = some node) :
    d.doesExist p = .ok true := by
  rw [doesExist, stat, if_neg (by simp [hfits.null]), locate_eq_ok hp hfits hreach h]
  simp [h, Except.map]

lemma doesExist_of_none (hp : p.IsNamed) (hfits : p.Fits) (hreach : d.Reaches p.parent)
    (h : d.root.get? (d.placeOf p) = none) : d.doesExist p = .ok false := by
  have hdir : walk d.root (d.startOf p) p.parent.parts = .ok (d.placeOf p.parent) := hreach.walk
  have hlocate : d.locate p = .error .notFound := by
    rw [locate, if_neg (Nat.not_lt.mpr hfits.text), hp.parts_eq, walk_append, hdir]
    change walk d.root (d.placeOf p.parent) [p.name] = _
    rw [walk_singleton hp.name hreach.directory, if_neg (Nat.not_lt.mpr hfits.name),
      ← placeOf_eq hp, h, if_pos rfl]
  rw [doesExist, stat, if_neg (by simp [hfits.null]), hlocate]
  rfl

/-- A name that is too long is met wherever the directories still are. -/
lemma locate_tooLong_of_directories {other : Disk} (hcwd : other.cwd = d.cwd)
    (hkept : ∀ q, d.root.HasDirectory q → other.root.HasDirectory q)
    (h : d.locate p = .error .nameTooLong) : other.locate p = .error .nameTooLong := by
  rw [locate, startOf] at h ⊢
  rw [hcwd]
  split at h
  · next hlong => rw [if_pos hlong]
  · next hshort =>
    rw [if_neg hshort]
    exact walk_tooLong_of_directories hkept h

/-- To ask for an entry fails only because of a name that is too long. -/
lemma stat_eq_error_iff {failure : Failure} :
    d.stat p = .error failure ↔ hasNull p = false ∧ d.locate p = .error .nameTooLong ∧
      failure = .disk ⟨.nameTooLong, p, none⟩ := by
  rw [stat]
  by_cases hnull : hasNull p
  · simp [hnull]
  · cases hlocate : d.locate p with
    | ok place => simp [hnull]
    | error reason => cases reason <;> simp [hnull, eq_comm]

lemma doesExist_eq_error_iff {failure : Failure} :
    d.doesExist p = .error failure ↔ hasNull p = false ∧ d.locate p = .error .nameTooLong ∧
      failure = .disk ⟨.nameTooLong, p, none⟩ := by
  rw [doesExist, ← stat_eq_error_iff]
  cases d.stat p <;> simp [Except.map]

lemma isDirectory_eq_error_iff {failure : Failure} :
    d.isDirectory p = .error failure ↔ hasNull p = false ∧ d.locate p = .error .nameTooLong ∧
      failure = .disk ⟨.nameTooLong, p, none⟩ := by
  rw [isDirectory, ← stat_eq_error_iff]
  cases d.stat p <;> simp [Except.map]

lemma doesExist_error_of_directories {other : Disk} {failure : Failure}
    (hcwd : other.cwd = d.cwd) (hkept : ∀ q, d.root.HasDirectory q → other.root.HasDirectory q)
    (h : d.doesExist p = .error failure) : other.doesExist p = .error failure := by
  obtain ⟨hnull, hlocate, hreason⟩ := doesExist_eq_error_iff.mp h
  exact doesExist_eq_error_iff.mpr
    ⟨hnull, locate_tooLong_of_directories hcwd hkept hlocate, hreason⟩

/-- To an entry that is there leads a path that fits, through a directory that it reaches. -/
lemma reaches_of_locate (hp : p.IsNamed) (h : d.locate p = .ok place) :
    p.text.utf8ByteSize ≤ maxPathBytes ∧ p.name.utf8ByteSize ≤ maxNameBytes ∧
      d.Reaches p.parent := by
  obtain ⟨htext, h⟩ := walk_of_locate h
  rw [hp.parts_eq, walk_append] at h
  cases hwalk : walk d.root (d.startOf p) p.parent.parts with
  | error _ => simp [hwalk] at h
  | ok dir =>
    simp only [hwalk, ok_bind] at h
    obtain rfl : dir = d.placeOf p.parent := eq_follow_of_walk hwalk
    obtain ⟨hdir, ⟨hup, -⟩ | ⟨-, hname, -, -⟩⟩ := walk_cons_eq_ok h
    · exact absurd hup hp.name
    · exact ⟨htext, hname, hwalk, hdir⟩

/-- A file is read exactly where its path fits, the directory is reached and the file is there. -/
lemma fileAt_eq_ok_iff {data : FileData} (hp : p.IsNamed) :
    d.fileAt p = .ok data ↔
      p.Fits ∧ d.Reaches p.parent ∧ d.root.dataAt? (d.placeOf p) = some data := by
  constructor
  · intro h
    have hdata := dataAt?_of_fileAt h
    rw [fileAt] at h
    by_cases hnull : hasNull p
    · simp [hnull] at h
    · match hloc : d.locate p with
      | .error _ => simp [hnull, hloc] at h
      | .ok place =>
        obtain ⟨htext, hname, hreach⟩ := reaches_of_locate hp hloc
        exact ⟨⟨by simpa using hnull, htext, hname⟩, hreach, hdata⟩
  · rintro ⟨hfits, hreach, h⟩
    obtain ⟨serial, hget⟩ := Node.dataAt?_eq_some_iff.mp h
    rw [fileAt, if_neg (by simp [hfits.null]), locate_eq_ok hp hfits hreach hget]
    simp only [hget]

end Disk

end JavaAtlas
