import JavaAtlas.Proofs.Disk.Tree

/-!
# Proper trees

In a proper tree the names in a directory are distinct, and none of them leads up. The places of
the files whose names have a certain form are listed in the order of the tree. As long as files of
other names and empty directories are put and files of other names are removed, a proper tree stays
proper and these lists stay as they are.
-/

namespace JavaAtlas

namespace Node

variable {n new : Node} {place q : List String} {es : List (String × Node)}

/-- The names in each directory are distinct, and none leads up. -/
inductive Proper : Node → Prop
  | file (serial : Nat) (data : FileData) : Proper (.file serial data)
  | directory {es : List (String × Node)} (nodup : (Ordered.keys es).Nodup)
      (up : ".." ∉ Ordered.keys es) (entries : ∀ entry ∈ es, Proper entry.2) :
      Proper (.directory es)

namespace Proper

lemma empty : (Node.directory []).Proper :=
  .directory List.nodup_nil (by simp) (by simp)

lemma cons {name : String} {child : Node} (h : (Node.directory es).Proper)
    (hname : name ∉ Ordered.keys es) (hup : name ≠ "..") (hchild : child.Proper) :
    (Node.directory ((name, child) :: es)).Proper := by
  cases h with
  | directory nodup up entries =>
    refine .directory (List.nodup_cons.mpr ⟨hname, nodup⟩) ?_ ?_
    · simp [Ne.symm hup, up]
    · simpa using ⟨hchild, fun a b => entries (a, b)⟩

lemma single {name : String} {child : Node} (hup : name ≠ "..") (hchild : child.Proper) :
    (Node.directory [(name, child)]).Proper :=
  empty.cons (by simp) hup hchild

lemma of_entries (h : n.entries = []) : n.Proper := by
  match n, h with
  | .file serial data, _ => exact .file serial data
  | .directory [], _ => exact empty

lemma child (h : (Node.directory es).Proper) {part : String} {child : Node}
    (hchild : Ordered.get? es part = some child) : child.Proper := by
  cases h with
  | directory _ _ entries => exact entries _ (Ordered.mem_of_get? hchild)

lemma getD_child (h : (Node.directory es).Proper) (part : String) :
    ((Ordered.get? es part).getD (.directory [])).Proper := by
  match hchild : Ordered.get? es part with
  | none => exact empty
  | some child => exact h.child hchild

lemma insert (h : (Node.directory es).Proper) {part : String} (hpart : part ≠ "..")
    (hnew : new.Proper) : (Node.directory (Ordered.insert es part new)).Proper := by
  cases h with
  | directory nodup up entries =>
    refine .directory (Ordered.nodup_keys_insert nodup part new) ?_ fun entry hentry => ?_
    · rw [Ordered.mem_keys_insert, not_or]
      exact ⟨Ne.symm hpart, up⟩
    · rcases Ordered.mem_insert hentry with rfl | hold
      · exact hnew
      · exact entries entry hold

lemma put (h : n.Proper) (hup : ".." ∉ place) (hnew : new.Proper) : (n.put place new).Proper := by
  induction place generalizing n with
  | nil => exact hnew
  | cons part rest ih =>
    rw [List.mem_cons, not_or] at hup
    match n with
    | .file .. => exact h
    | .directory es => exact h.insert (Ne.symm hup.1) (ih (h.getD_child part) hup.2)

lemma remove (h : n.Proper) (hup : ".." ∉ place) : (n.remove place).Proper := by
  induction place generalizing n with
  | nil => exact h
  | cons part rest ih =>
    rw [List.mem_cons, not_or] at hup
    match n, rest with
    | .file .., rest => rwa [remove_file]
    | .directory es, [] =>
      cases h with
      | directory nodup up entries =>
        have hkeys := Ordered.sublist_keys_erase es part
        exact .directory (hkeys.nodup nodup) (fun hmem => up (hkeys.subset hmem))
          fun entry hentry => entries entry (List.mem_of_mem_filter hentry)
    | .directory es, next :: rest =>
      rw [Node.remove]
      cases hchild : Ordered.get? es part with
      | none => exact h
      | some child => exact h.insert (Ne.symm hup.1) (ih (h.child hchild) hup.2)

lemma get? {m : Node} (h : n.Proper) (hget : n.get? place = some m) : m.Proper := by
  induction place generalizing n with
  | nil =>
    rw [get?_nil, Option.some.injEq] at hget
    exact hget ▸ h
  | cons part rest ih =>
    match n with
    | .file .. => simp at hget
    | .directory es =>
      rw [get?_directory_cons, Option.bind_eq_some_iff] at hget
      obtain ⟨child, hchild, hrest⟩ := hget
      exact ih (h.child hchild) hrest

end Proper

/-! ### What lies below a directory -/

lemma mem_descendantsOf {found : List String × Node} :
    found ∈ descendantsOf es ↔ ∃ entry ∈ es, found = ([entry.1], entry.2) ∨
      ∃ below ∈ entry.2.descendants, found = (entry.1 :: below.1, below.2) := by
  induction es with
  | nil => simp [descendantsOf]
  | cons entry rest ih =>
    simp only [descendantsOf, List.mem_append, List.mem_cons, List.mem_map, ih,
      exists_eq_or_imp, eq_comm (b := found), or_assoc]

lemma place_ne_nil {found : List String × Node} (h : found ∈ n.descendants) : found.1 ≠ [] := by
  match n with
  | .file .. => simp [descendants] at h
  | .directory es =>
    rw [descendants, mem_descendantsOf] at h
    obtain ⟨entry, -, rfl | ⟨below, -, rfl⟩⟩ := h <;> simp

/-- What a proper tree lists lies at the place under which it is listed. -/
lemma Proper.get?_of_mem (h : n.Proper) {found : List String × Node}
    (hmem : found ∈ n.descendants) : ".." ∉ found.1 ∧ n.get? found.1 = some found.2 := by
  induction h generalizing found with
  | file => simp [descendants] at hmem
  | @directory es nodup up entries ih =>
    rw [descendants, mem_descendantsOf] at hmem
    obtain ⟨entry, hentry, hfound⟩ := hmem
    have hget : Ordered.get? es entry.1 = some entry.2 := Ordered.get?_of_mem nodup hentry
    have hname : ".." ≠ entry.1 := fun heq => up (heq ▸ Ordered.mem_keys_of_mem hentry)
    rcases hfound with rfl | ⟨below, hbelow, rfl⟩
    · simp [get?_directory_cons, hget, hname]
    · obtain ⟨hup, hnode⟩ := ih entry hentry hbelow
      simp [get?_directory_cons, hget, hname, hup, hnode]

/-! ### Files of certain names -/

variable (named : String → Bool)

/-- The places below a node of the files whose names have a certain form. -/
def filesNamed (n : Node) : List (List String) :=
  (n.descendants.filter fun found =>
    named (found.1.getLast?.getD "") && !found.2.isDirectory).map Prod.fst

/-- The places of such files at an entry of a directory and below it. -/
def entryFiles (entry : String × Node) : List (List String) :=
  (if named entry.1 && !entry.2.isDirectory then [[entry.1]] else []) ++
    (entry.2.filesNamed named).map (entry.1 :: ·)

/-- The places of such files below a place. -/
def filesAt (n : Node) (place : List String) : List (List String) :=
  ((n.get? place).map (filesNamed named)).getD []

lemma filesNamed_directory (es : List (String × Node)) :
    (Node.directory es).filesNamed named = es.flatMap (entryFiles named) := by
  rw [filesNamed, descendants]
  induction es with
  | nil => rfl
  | cons entry rest ih =>
    -- below an entry, the last name of a place does not depend on the entry's
    have hbelow : ((entry.2.descendants.map fun found => (entry.1 :: found.1, found.2)).filter
        fun found => named (found.1.getLast?.getD "") && !found.2.isDirectory).map Prod.fst =
          (entry.2.filesNamed named).map (entry.1 :: ·) := by
      rw [List.filter_map, filesNamed, List.map_map, List.map_map]
      refine congrArg (List.map _) (List.filter_congr fun found hfound => ?_)
      simp [List.getLast?_cons_of_ne_nil (place_ne_nil hfound)]
    rw [descendantsOf, List.cons_append, List.filter_cons, List.filter_append, List.flatMap_cons,
      ← ih, entryFiles, ← hbelow]
    by_cases hentry : (named entry.1 && !entry.2.isDirectory) = true
    · simp [hentry]
    · simp [hentry]

lemma filesNamed_of_entries (h : n.entries = []) : n.filesNamed named = [] := by
  match n, h with
  | .file .., _ => rfl
  | .directory [], _ => rfl

lemma filesAt_of_entries (h : n.entries = []) (q : List String) : n.filesAt named q = [] := by
  match q with
  | [] => simp [filesAt, filesNamed_of_entries named h]
  | part :: rest => simp [filesAt, get?, h]

lemma filesAt_of_not_directory (h : ¬ n.HasDirectory place) (q : List String) :
    n.filesAt named (place ++ q) = [] := by
  rw [filesAt, get?_append]
  match hget : n.get? place with
  | none => rfl
  | some (.file serial data) => exact filesAt_of_entries named (n := .file serial data) rfl q
  | some (.directory es) => exact absurd ⟨es, hget⟩ h

lemma filesAt_nil (n : Node) : n.filesAt named [] = n.filesNamed named := by
  simp [filesAt]

lemma filesAt_directory_cons (es : List (String × Node)) (part : String) (q : List String) :
    (Node.directory es).filesAt named (part :: q) =
      ((Ordered.get? es part).map fun child => child.filesAt named q).getD [] := by
  rw [filesAt, get?_directory_cons]
  cases Ordered.get? es part <;> rfl

/-- What is listed is a file of such a name, and its place does not lead up. -/
lemma Proper.mem_filesAt (h : n.Proper) {below : List String}
    (hmem : below ∈ n.filesAt named place) :
    ".." ∉ below ∧ named (below.getLast?.getD "") = true ∧
      ∃ serial data, n.get? (place ++ below) = some (.file serial data) := by
  rw [filesAt] at hmem
  match hget : n.get? place with
  | none => simp [hget] at hmem
  | some m =>
    simp only [hget, Option.map_some, Option.getD_some, filesNamed, List.mem_map, List.mem_filter,
      Bool.and_eq_true] at hmem
    obtain ⟨⟨below, node⟩, ⟨hfound, hname, hfile⟩, rfl⟩ := hmem
    obtain ⟨hup, hnode⟩ := (h.get? hget).get?_of_mem hfound
    refine ⟨hup, hname, ?_⟩
    rw [get?_append, hget, Option.bind_some, hnode]
    match node with
    | .file serial data => exact ⟨serial, data, rfl⟩
    | .directory _ => simp [isDirectory] at hfile

lemma isDirectory_put (n new : Node) (part : String) (rest : List String) :
    (n.put (part :: rest) new).isDirectory = n.isDirectory := by
  cases n <;> rfl

lemma isDirectory_remove (n : Node) (place : List String) :
    (n.remove place).isDirectory = n.isDirectory := by
  match n, place with
  | .file .., place => rw [remove_file]
  | .directory es, [] => rfl
  | .directory es, [_] => rfl
  | .directory es, part :: _ :: _ =>
    rw [remove]
    cases Ordered.get? es part <;> rfl

/-- An entry that takes the place of another one is listed like it if its files are. -/
lemma filesAt_insert {part : String} {child : Node}
    (hentry : entryFiles named (part, child) =
      ((Ordered.get? es part).map fun old => entryFiles named (part, old)).getD [])
    (hbelow : ∀ q, child.filesAt named q =
      ((Ordered.get? es part).map fun old => old.filesAt named q).getD []) (q : List String) :
    (Node.directory (Ordered.insert es part child)).filesAt named q =
      (Node.directory es).filesAt named q := by
  match q with
  | [] =>
    rw [filesAt_nil, filesAt_nil, filesNamed_directory, filesNamed_directory]
    exact Ordered.flatMap_insert (entryFiles named) hentry
  | a :: q =>
    rw [filesAt_directory_cons, filesAt_directory_cons]
    by_cases ha : a = part
    · subst ha
      rw [Ordered.get?_insert_self]
      exact hbelow q
    · rw [Ordered.get?_insert_of_ne es child ha]

lemma entryFiles_of_entries {part : String} (h : n.entries = [])
    (hname : named part = false ∨ n.isDirectory = true) : entryFiles named (part, n) = [] := by
  rw [entryFiles, filesNamed_of_entries named h]
  rcases hname with hname | hname <;> simp [hname]

lemma get?_getD_child (es : List (String × Node)) (part next : String) (rest : List String) :
    ((Ordered.get? es part).getD (.directory [])).get? (next :: rest) =
      (Node.directory es).get? (part :: next :: rest) := by
  rw [get?_directory_cons]
  cases Ordered.get? es part with
  | none => simp
  | some child => rfl

/-- A directory whose entry changes below only, and is listed as before, is listed as before. -/
lemma filesAt_insert_child {part : String} {child : Node}
    (hdir : child.isDirectory = ((Ordered.get? es part).getD (.directory [])).isDirectory)
    (hbelow : ∀ q, child.filesAt named q =
      ((Ordered.get? es part).getD (.directory [])).filesAt named q) (q : List String) :
    (Node.directory (Ordered.insert es part child)).filesAt named q =
      (Node.directory es).filesAt named q := by
  have hlisted := hbelow []
  rw [filesAt_nil, filesAt_nil] at hlisted
  refine filesAt_insert named ?_ (fun q => ?_) q
  · rw [entryFiles, hdir, hlisted]
    match Ordered.get? es part with
    | none => exact entryFiles_of_entries named (n := .directory []) rfl (Or.inr rfl)
    | some old => rfl
  · rw [hbelow q]
    match Ordered.get? es part with
    | none => exact filesAt_of_entries named (n := .directory []) rfl q
    | some old => rfl

/-- The entries of a directory are files where no directory lies. -/
lemma entries_of_get? {part : String} {old : Node} (h : ¬ (Node.directory es).HasDirectory [part])
    (hget : Ordered.get? es part = some old) : old.entries = [] := by
  match old with
  | .file .. => rfl
  | .directory inner => exact absurd ⟨inner, by simp [get?_directory_cons, hget]⟩ h

/-- A file of another name or an empty directory is put where there is none of these files without
a change to their lists. -/
lemma filesAt_put (hplace : ¬ n.HasDirectory place) (hnew : new.entries = [])
    (hname : named (place.getLast?.getD "") = false ∨
      new.isDirectory = true ∧ n.get? place = none) (q : List String) :
    (n.put place new).filesAt named q = n.filesAt named q := by
  induction place generalizing n q with
  | nil =>
    have hn := filesAt_of_not_directory named hplace q
    rw [List.nil_append] at hn
    rw [hn]
    exact filesAt_of_entries named hnew q
  | cons part place ih =>
    match n, place with
    | .file .., place => rfl
    | .directory es, [] =>
      rw [put_directory_cons]
      change (Node.directory (Ordered.insert es part new)).filesAt named q = _
      have hnone : entryFiles named (part, new) = [] :=
        entryFiles_of_entries named hnew (hname.imp (by simp) And.left)
      refine filesAt_insert named ?_ (fun q => ?_) q
      · rw [hnone]
        match hget : Ordered.get? es part with
        | none => rfl
        | some old =>
          -- what is replaced is a file, and so it has another name, too
          have hother : named part = false := by
            rcases hname with hname | ⟨-, hfree⟩
            · simpa using hname
            · simp [get?_directory_cons, hget] at hfree
          exact (entryFiles_of_entries named (entries_of_get? hplace hget) (Or.inl hother)).symm
      · rw [filesAt_of_entries named hnew]
        match hget : Ordered.get? es part with
        | none => rfl
        | some old => exact (filesAt_of_entries named (entries_of_get? hplace hget) q).symm
    | .directory es, next :: rest =>
      rw [put_directory_cons]
      refine filesAt_insert_child named (isDirectory_put ..) (fun q => ih ?_ ?_ q) q
      · rintro ⟨inner, hinner⟩
        exact hplace ⟨inner, get?_getD_child es part next rest ▸ hinner⟩
      · rw [get?_getD_child]
        simpa using hname

/-- A file of another name is removed without a change to the lists. -/
lemma filesAt_remove (hn : n.Proper) (hplace : ¬ n.HasDirectory place)
    (hname : named (place.getLast?.getD "") = false) (q : List String) :
    (n.remove place).filesAt named q = n.filesAt named q := by
  induction place generalizing n q with
  | nil => rfl
  | cons part place ih =>
    match n, place with
    | .file .., place => rw [remove_file]
    | .directory es, [] =>
      rw [remove]
      cases q with
      | nil =>
        rw [filesAt_nil, filesAt_nil, filesNamed_directory, filesNamed_directory]
        cases hn with
        | directory nodup _ _ =>
          refine Ordered.flatMap_erase (entryFiles named) nodup fun old hget => ?_
          exact entryFiles_of_entries named (entries_of_get? hplace hget)
            (Or.inl (by simpa using hname))
      | cons a q =>
        rw [filesAt_directory_cons, filesAt_directory_cons]
        by_cases ha : a = part
        · subst ha
          rw [Ordered.get?_erase_self]
          cases hget : Ordered.get? es a with
          | none => rfl
          | some old => exact (filesAt_of_entries named (entries_of_get? hplace hget) q).symm
        · rw [Ordered.get?_erase_of_ne es ha]
    | .directory es, next :: rest =>
      rw [remove]
      cases hget : Ordered.get? es part with
      | none => rfl
      | some child =>
        refine filesAt_insert_child named (hget ▸ isDirectory_remove ..) (fun q => ?_) q
        rw [hget]
        refine ih (hn.child hget) ?_ (by simpa using hname) q
        rintro ⟨inner, hinner⟩
        exact hplace ⟨inner, by rw [get?_directory_cons, hget]; exact hinner⟩

end Node

end JavaAtlas
