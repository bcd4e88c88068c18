import JavaAtlas.Disk.Node
import JavaAtlas.Proofs.Ordered

/-!
# Trees of files

What lies at a place of a tree after an entry was put or removed at another one. Putting and
removing entries leaves the data of every file that does not lie at or below the place, and every
directory unless one is replaced.
-/

namespace JavaAtlas

namespace Node

variable {n new : Node} {place q rest : List String}

@[simp] lemma get?_nil (n : Node) : n.get? [] = some n := by
  simp [get?]

@[simp] lemma get?_file_cons (serial : Nat) (data : FileData) (part : String)
    (rest : List String) : (Node.file serial data).get? (part :: rest) = none := by
  simp [get?, entries]

lemma get?_directory_cons (es : List (String × Node)) (part : String) (rest : List String) :
    (Node.directory es).get? (part :: rest) = (Ordered.get? es part).bind (·.get? rest) := by
  rw [get?, entries]
  cases Ordered.get? es part <;> rfl

@[simp] lemma get?_empty_cons (part : String) (rest : List String) :
    (Node.directory []).get? (part :: rest) = none := by
  simp [get?_directory_cons]

lemma get?_insert_self (es : List (String × Node)) (part : String) (child : Node) :
    (Node.directory (Ordered.insert es part child)).get? (part :: rest) = child.get? rest := by
  simp [get?_directory_cons]

lemma get?_insert_of_ne (es : List (String × Node)) {part a : String} (child : Node)
    (h : a ≠ part) : (Node.directory (Ordered.insert es part child)).get? (a :: rest) =
      (Node.directory es).get? (a :: rest) := by
  rw [get?_directory_cons, get?_directory_cons, Ordered.get?_insert_of_ne es child h]

lemma get?_append (n : Node) (place rest : List String) :
    n.get? (place ++ rest) = (n.get? place).bind (·.get? rest) := by
  induction place generalizing n with
  | nil => simp
  | cons part place ih =>
    match n with
    | .file .. => simp
    | .directory es =>
      rw [List.cons_append, get?_directory_cons, get?_directory_cons]
      cases Ordered.get? es part with
      | none => rfl
      | some child => exact ih child

lemma get?_append_of_none (h : n.get? place = none) (rest : List String) :
    n.get? (place ++ rest) = none := by
  rw [get?_append, h]
  rfl

lemma get?_append_of_file {serial : Nat} {data : FileData}
    (h : n.get? place = some (.file serial data)) (part : String) (rest : List String) :
    n.get? (place ++ part :: rest) = none := by
  rw [get?_append, h, Option.bind_some, get?_file_cons]

/-! ### Files and directories -/

def data? : Node → Option FileData
  | .file _ data => some data
  | .directory _ => none

/-- What the file at a place holds, if a file lies there. -/
def dataAt? (n : Node) (place : List String) : Option FileData := (n.get? place).bind data?

/-- A directory lies at a place. -/
def HasDirectory (n : Node) (place : List String) : Prop :=
  ∃ es, n.get? place = some (.directory es)

lemma dataAt?_eq_some_iff {data : FileData} :
    n.dataAt? place = some data ↔ ∃ serial, n.get? place = some (.file serial data) := by
  rw [dataAt?]
  match h : n.get? place with
  | none => simp
  | some (.file serial x) => simp [data?]
  | some (.directory es) => simp [data?]

lemma dataAt?_of_get?_eq (h : n.get? place = new.get? q) : n.dataAt? place = new.dataAt? q := by
  rw [dataAt?, dataAt?, h]

lemma dataAt?_of_none (h : n.get? place = none) : n.dataAt? place = none := by
  rw [dataAt?, h]
  rfl

lemma dataAt?_of_hasDirectory (h : n.HasDirectory place) : n.dataAt? place = none := by
  obtain ⟨es, hes⟩ := h
  rw [dataAt?, hes]
  rfl

/-- Where neither a file nor a directory lies, nothing does. -/
lemma get?_eq_none_iff : n.get? place = none ↔ n.dataAt? place = none ∧ ¬ n.HasDirectory place := by
  rw [dataAt?, HasDirectory]
  match n.get? place with
  | none => simp
  | some (.file serial data) => simp [data?]
  | some (.directory es) => simp [data?]

/-- Every place above an entry is a directory. -/
lemma hasDirectory_of_get?_append {part : String} {node : Node}
    (h : n.get? (place ++ part :: rest) = some node) : n.HasDirectory place := by
  match hplace : n.get? place with
  | none => rw [get?_append_of_none hplace] at h; cases h
  | some (.file serial data) => rw [get?_append_of_file hplace] at h; cases h
  | some (.directory es) => exact ⟨es, hplace⟩

lemma hasDirectory_of_append (rest : List String) (h : n.HasDirectory (place ++ rest)) :
    n.HasDirectory place := by
  match rest with
  | [] => simpa using h
  | part :: rest =>
    obtain ⟨es, hes⟩ := h
    exact hasDirectory_of_get?_append hes

lemma hasDirectory_dropLast (h : n.HasDirectory place) : n.HasDirectory place.dropLast := by
  refine hasDirectory_of_append (place.drop (place.length - 1)) ?_
  rw [List.dropLast_eq_take, List.take_append_drop]
  exact h

/-! ### Putting an entry at a place -/

lemma put_directory_cons (es : List (String × Node)) (part : String) (rest : List String)
    (new : Node) : (Node.directory es).put (part :: rest) new =
      .directory (Ordered.insert es part
        (((Ordered.get? es part).getD (.directory [])).put rest new)) := rfl

lemma dataAt?_put_of_not_prefix (n new : Node) (h : ¬ place <+: q) :
    (n.put place new).dataAt? q = n.dataAt? q := by
  induction place generalizing n q with
  | nil => exact absurd List.nil_prefix h
  | cons part place ih =>
    match n, q with
    | .file .., q => rfl
    | .directory es, [] => rfl
    | .directory es, a :: q =>
      rw [put_directory_cons]
      by_cases ha : a = part
      · subst ha
        have hq : ¬ place <+: q := fun hp => h ((List.prefix_cons_inj a).mpr hp)
        rw [dataAt?_of_get?_eq (get?_insert_self es a _), ih _ hq, dataAt?, dataAt?,
          get?_directory_cons]
        match Ordered.get? es a, q with
        | some child, q => rfl
        | none, [] => rfl
        | none, b :: q => simp
      · exact dataAt?_of_get?_eq (get?_insert_of_ne es _ ha)

/-- What lies at or below the place is what was put there, unless a file stood in the way. -/
lemma get?_put_append (n new : Node) (place rest : List String) :
    (n.put place new).get? (place ++ rest) = new.get? rest ∨
      (n.put place new).get? (place ++ rest) = n.get? (place ++ rest) := by
  induction place generalizing n with
  | nil => exact Or.inl rfl
  | cons part place ih =>
    match n with
    | .file .. => exact Or.inr rfl
    | .directory es =>
      rw [put_directory_cons, List.cons_append, get?_insert_self, get?_directory_cons]
      match Ordered.get? es part, place with
      | some child, place => exact ih child
      | none, [] => exact Or.inl rfl
      | none, next :: place =>
        refine (ih (.directory [])).imp id fun h => ?_
        rw [Option.getD_none, h]
        simp

/-- What is put into a directory is found there. -/
lemma get?_put_of_hasDirectory {name : String} (h : n.HasDirectory place) (new : Node)
    (rest : List String) :
    (n.put (place ++ [name]) new).get? (place ++ name :: rest) = new.get? rest := by
  induction place generalizing n with
  | nil =>
    obtain ⟨es, hes⟩ := h
    rw [get?_nil, Option.some.injEq] at hes
    subst hes
    exact get?_insert_self es name _
  | cons part place ih =>
    obtain ⟨es, hes⟩ := h
    match n with
    | .file .. => simp at hes
    | .directory entries =>
      rw [get?_directory_cons] at hes
      match hchild : Ordered.get? entries part with
      | none => simp [hchild] at hes
      | some child =>
        rw [hchild, Option.bind_some] at hes
        rw [List.cons_append, put_directory_cons, List.cons_append, get?_insert_self, hchild]
        exact ih ⟨es, hes⟩

lemma hasDirectory_put (new : Node) (hplace : ¬ n.HasDirectory place)
    (h : n.HasDirectory q) : (n.put place new).HasDirectory q := by
  induction place generalizing n q with
  | nil =>
    -- the node itself is a file, below which there are no directories
    match n, q with
    | .directory es, q => exact absurd ⟨es, rfl⟩ hplace
    | .file .., [] => obtain ⟨es, hes⟩ := h; simp at hes
    | .file .., a :: q => obtain ⟨es, hes⟩ := h; simp at hes
  | cons part place ih =>
    match n, q with
    | .file .., q => exact h
    | .directory es, [] => exact ⟨_, rfl⟩
    | .directory es, a :: q =>
      rw [put_directory_cons]
      by_cases ha : a = part
      · subst ha
        rw [HasDirectory, get?_insert_self]
        match hchild : Ordered.get? es a with
        | none => simp [HasDirectory, get?_directory_cons, hchild] at h
        | some child =>
          simp only [HasDirectory, get?_directory_cons, hchild, Option.bind_some] at h hplace
          exact ih hplace h
      · rw [HasDirectory, get?_insert_of_ne es _ ha]
        exact h

/-- What is put into a directory is the only directory that is made, if it is one and empty. -/
lemma hasDirectory_of_put {name : String} (hdir : n.HasDirectory place) (hnew : new.entries = [])
    (h : (n.put (place ++ [name]) new).HasDirectory q) :
    n.HasDirectory q ∨ new.isDirectory = true ∧ q = place ++ [name] := by
  induction place generalizing n q with
  | nil =>
    obtain ⟨es, hes⟩ := hdir
    rw [get?_nil, Option.some.injEq] at hes
    subst hes
    match q with
    | [] => exact Or.inl ⟨es, rfl⟩
    | a :: q =>
      rw [List.nil_append, put_directory_cons] at h
      by_cases ha : a = name
      · subst ha
        rw [HasDirectory, get?_insert_self] at h
        obtain ⟨inner, hinner⟩ := h
        match q with
        | [] =>
          change (some new) = _ at hinner
          rw [Option.some.injEq] at hinner
          exact Or.inr ⟨by rw [hinner]; rfl, rfl⟩
        | b :: q => simp [put, get?, hnew] at hinner
      · rw [HasDirectory, get?_insert_of_ne es _ ha] at h
        exact Or.inl h
  | cons part place ih =>
    match n, q with
    | .file .., q => exact Or.inl h
    | .directory es, [] => exact Or.inl ⟨es, rfl⟩
    | .directory es, a :: q =>
      rw [List.cons_append, put_directory_cons] at h
      by_cases ha : a = part
      · subst ha
        rw [HasDirectory, get?_insert_self] at h
        match hchild : Ordered.get? es a with
        | none => simp [HasDirectory, get?_directory_cons, hchild] at hdir
        | some child =>
          simp only [HasDirectory, get?_directory_cons, hchild, Option.bind_some] at hdir ⊢
          rw [hchild] at h
          exact (ih hdir h).imp id fun ⟨hnode, heq⟩ => ⟨hnode, by rw [heq, List.cons_append]⟩
      · rw [HasDirectory, get?_insert_of_ne es _ ha] at h
        exact Or.inl h

/-- Putting a file into a directory makes no directory. -/
lemma hasDirectory_of_put_file {name : String} {serial : Nat} {data : FileData}
    (hdir : n.HasDirectory place)
    (h : (n.put (place ++ [name]) (.file serial data)).HasDirectory q) : n.HasDirectory q :=
  (hasDirectory_of_put hdir rfl h).resolve_right (by simp [isDirectory])

/-- Below a place that is not a directory nothing lies. -/
lemma get?_append_of_not_directory (h : ¬ n.HasDirectory place) (part : String)
    (rest : List String) : n.get? (place ++ part :: rest) = none := by
  match hget : n.get? (place ++ part :: rest) with
  | none => rfl
  | some node => exact absurd (hasDirectory_of_get?_append hget) h

/-- A file that is put where no directory lies changes no other file. -/
lemma dataAt?_put_file (serial : Nat) (data : FileData) (hplace : ¬ n.HasDirectory place)
    (hq : q ≠ place) : (n.put place (.file serial data)).dataAt? q = n.dataAt? q := by
  by_cases hprefix : place <+: q
  · obtain ⟨rest, rfl⟩ := hprefix
    match rest with
    | [] => simp at hq
    | part :: rest =>
      have hbefore := get?_append_of_not_directory hplace part rest
      rw [dataAt?_of_none hbefore]
      rcases get?_put_append n (.file serial data) place (part :: rest) with h | h
      · exact dataAt?_of_none (by rw [h, get?_file_cons])
      · exact dataAt?_of_none (by rw [h, hbefore])
  · exact dataAt?_put_of_not_prefix n _ hprefix

/-- An empty directory that is put where nothing lies changes no file. -/
lemma dataAt?_put_directory (hplace : n.get? place = none) (q : List String) :
    (n.put place (.directory [])).dataAt? q = n.dataAt? q := by
  by_cases hprefix : place <+: q
  · obtain ⟨rest, rfl⟩ := hprefix
    have hbefore := get?_append_of_none hplace rest
    rw [dataAt?_of_none hbefore]
    rcases get?_put_append n (.directory []) place rest with h | h
    · match rest with
      | [] => rw [dataAt?, h]; rfl
      | part :: rest => exact dataAt?_of_none (by rw [h, get?_empty_cons])
    · exact dataAt?_of_none (by rw [h, hbefore])
  · exact dataAt?_put_of_not_prefix n _ hprefix

/-! ### Removing the entry at a place -/

lemma remove_file (serial : Nat) (data : FileData) (place : List String) :
    (Node.file serial data).remove place = .file serial data := by
  match place with
  | [] => rfl
  | [_] => rfl
  | _ :: _ :: _ => rfl

lemma dataAt?_remove_of_not_prefix (n : Node) (h : ¬ place <+: q) :
    (n.remove place).dataAt? q = n.dataAt? q := by
  induction place generalizing n q with
  | nil => exact absurd List.nil_prefix h
  | cons part place ih =>
    match n, place, q with
    | .file .., place, q => rw [remove_file]
    | .directory es, [], [] => rfl
    | .directory es, [], a :: q =>
      have ha : a ≠ part := fun heq => h (by simp [heq])
      refine dataAt?_of_get?_eq ?_
      rw [remove, get?_directory_cons, get?_directory_cons, Ordered.get?_erase_of_ne es ha]
    | .directory es, next :: place, q =>
      rw [remove]
      match hchild : Ordered.get? es part, q with
      | none, q => rfl
      | some child, [] => rfl
      | some child, a :: q =>
        by_cases ha : a = part
        · subst ha
          have hq : ¬ next :: place <+: q := fun hp => h ((List.prefix_cons_inj a).mpr hp)
          rw [dataAt?_of_get?_eq (get?_insert_self es a _), ih _ hq, dataAt?, dataAt?,
            get?_directory_cons, hchild]
          rfl
        · exact dataAt?_of_get?_eq (get?_insert_of_ne es _ ha)

/-- Nothing is left at a place below the root that was removed. -/
lemma get?_remove_self (n : Node) (h : place ≠ []) : (n.remove place).get? place = none := by
  induction place generalizing n with
  | nil => exact absurd rfl h
  | cons part place ih =>
    match n, place with
    | .file .., place => rw [remove_file, get?_file_cons]
    | .directory es, [] => simp [remove, get?_directory_cons]
    | .directory es, next :: place =>
      rw [remove]
      match hchild : Ordered.get? es part with
      | none => simp [get?_directory_cons, hchild]
      | some child =>
        rw [get?_insert_self]
        exact ih child (by simp)

/-- An entry that is no directory is removed without a change to any other file. -/
lemma dataAt?_remove (hplace : ¬ n.HasDirectory place) (hq : q ≠ place) :
    (n.remove place).dataAt? q = n.dataAt? q := by
  by_cases hprefix : place <+: q
  · obtain ⟨rest, rfl⟩ := hprefix
    match place, rest with
    | [], rest => rfl
    | _ :: _, [] => simp at hq
    | first :: place, part :: rest =>
      rw [dataAt?_of_none (get?_append_of_not_directory hplace part rest)]
      refine dataAt?_of_none (get?_append_of_none ?_ (part :: rest))
      exact get?_remove_self n (by simp)
  · exact dataAt?_remove_of_not_prefix n hprefix

/-- Removing an entry makes no directory. -/
lemma hasDirectory_of_remove (h : (n.remove place).HasDirectory q) : n.HasDirectory q := by
  induction place generalizing n q with
  | nil => exact h
  | cons part place ih =>
    match n, place, q with
    | .file .., place, q => rwa [remove_file] at h
    | .directory es, place, [] => exact ⟨es, rfl⟩
    | .directory es, [], a :: q =>
      rw [remove, HasDirectory, get?_directory_cons] at h
      rw [HasDirectory, get?_directory_cons]
      by_cases ha : a = part
      · simp [ha] at h
      · rwa [Ordered.get?_erase_of_ne es ha] at h
    | .directory es, next :: place, a :: q =>
      rw [remove] at h
      match hchild : Ordered.get? es part with
      | none => simpa only [hchild] using h
      | some child =>
        simp only [hchild] at h
        by_cases ha : a = part
        · subst ha
          rw [HasDirectory, get?_insert_self] at h
          rw [HasDirectory, get?_directory_cons, hchild]
          exact ih h
        · rwa [HasDirectory, get?_insert_of_ne es _ ha] at h

lemma hasDirectory_remove (hplace : ¬ n.HasDirectory place) (h : n.HasDirectory q) :
    (n.remove place).HasDirectory q := by
  induction place generalizing n q with
  | nil => exact h
  | cons part place ih =>
    match n, place, q with
    | .file .., place, q => rwa [remove_file]
    | .directory es, [], [] => exact ⟨_, rfl⟩
    | .directory es, [], a :: q =>
      -- a directory at or below the entry would make the entry a directory
      have ha : a ≠ part := fun heq => hplace (hasDirectory_of_append q (heq ▸ h))
      rw [remove, HasDirectory, get?_directory_cons, Ordered.get?_erase_of_ne es ha,
        ← get?_directory_cons]
      exact h
    | .directory es, next :: place, q =>
      rw [remove]
      match hchild : Ordered.get? es part, q with
      | none, q => exact h
      | some child, [] => exact ⟨_, rfl⟩
      | some child, a :: q =>
        by_cases ha : a = part
        · subst ha
          rw [HasDirectory, get?_insert_self]
          simp only [HasDirectory, get?_directory_cons, hchild, Option.bind_some] at h hplace
          exact ih hplace h
        · rw [HasDirectory, get?_insert_of_ne es _ ha]
          exact h

end Node

end JavaAtlas
