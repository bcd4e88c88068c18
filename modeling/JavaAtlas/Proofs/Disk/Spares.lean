import JavaAtlas.Proofs.Disk.Directories
import JavaAtlas.Proofs.Disk.Proper

/-!
# Operations that spare files

A disk is proper if its tree is and its working directory is there. Making directories, and writing,
moving and removing files of other names, keeps it proper and spares the files of certain names:
below every place the same ones are listed, in the same order.
-/

namespace JavaAtlas

namespace Disk

variable {d e f : Disk} {p : Path} {place : List String} {new : Node} {named : String → Bool}

/-- The tree is proper and the working directory is there. -/
structure IsProper (d : Disk) : Prop extends IsGrounded d where
  tree : d.root.Proper

/-- From one disk to a proper one the files of certain names are listed alike. -/
structure Spares (named : String → Bool) (d e : Disk) : Prop where
  proper : e.IsProper
  files : ∀ q, e.root.filesAt named q = d.root.filesAt named q

namespace Spares

lemma refl (hd : d.IsProper) : Spares named d d := ⟨hd, fun _ => rfl⟩

lemma grounded (h : Spares named d e) (hcwd : f.cwd = e.cwd)
    (hkept : ∀ q, e.root.HasDirectory q → f.root.HasDirectory q) : f.IsGrounded := by
  have hchange : e.ChangesOnly (fun _ => True) f := ⟨hcwd, hkept, fun _ hq => absurd trivial hq⟩
  exact h.proper.toIsGrounded.of_changesOnly hchange

lemma put (h : Spares named d e) (hplace : ¬ e.root.HasDirectory place) (hup : ".." ∉ place)
    (hnew : new.entries = []) (hname : named (place.getLast?.getD "") = false ∨
      new.isDirectory = true ∧ e.root.get? place = none)
    (hcwd : f.cwd = e.cwd) (hroot : f.root = e.root.put place new) : Spares named d f where
  proper :=
    { toIsGrounded := h.grounded hcwd fun _ hq => hroot ▸ Node.hasDirectory_put new hplace hq
      tree := hroot ▸ h.proper.tree.put hup (.of_entries hnew) }
  files q := by rw [hroot, Node.filesAt_put named hplace hnew hname, h.files]

lemma remove (h : Spares named d e) (hplace : ¬ e.root.HasDirectory place) (hup : ".." ∉ place)
    (hname : named (place.getLast?.getD "") = false) (hcwd : f.cwd = e.cwd)
    (hroot : f.root = e.root.remove place) : Spares named d f where
  proper :=
    { toIsGrounded := h.grounded hcwd fun _ hq => hroot ▸ Node.hasDirectory_remove hplace hq
      tree := hroot ▸ h.proper.tree.remove hup }
  files q := by rw [hroot, Node.filesAt_remove named h.proper.tree hplace hname, h.files]

end Spares

/-! ### Directories -/

lemma keeps_makeDirectory (p : Path) : Action.Keeps (Spares named d) (makeDirectory p) := by
  refine keeps_attempt fun e f he _ h => ?_
  match hslot : e.slot p with
  | .error _ => simp [hslot] at h
  | .ok (.taken ..) => simp [hslot] at h
  | .ok (.free place) =>
    simp only [hslot, Except.ok.injEq] at h
    subst h
    have hground := he.proper.toIsGrounded
    have hfree := get?_of_slot_free hslot
    obtain ⟨-, -, -, ⟨_, -, htaken⟩ | ⟨-, hplace⟩⟩ :=
      slot_eq_ok (isNamed_of_slot_free hground hslot) (Or.inr (hground.directory_start p)) hslot
    · cases htaken
    · cases hplace
      exact he.put (not_hasDirectory_of_none hfree) (hground.up_placeOf p) rfl
        (Or.inr ⟨rfl, hfree⟩) rfl rfl

lemma keeps_ensureDirectory (p : Path) : Action.Keeps (Spares named d) (ensureDirectory p) := by
  refine (keeps_makeDirectory p).outcome.bind fun r => ?_
  split
  · exact .pure _
  · refine .ite (.throw _) (.bind .get fun e => .bind (.ofExcept _) fun b => ?_)
    exact .ite (.pure _) (.throw _)
  · exact .throw _

lemma keeps_makeParents (depth : Nat) (p : Path) :
    Action.Keeps (Spares named d) (makeParents p depth) := by
  induction depth generalizing p with
  | zero => exact keeps_ensureDirectory p
  | succ depth ih =>
    refine (keeps_ensureDirectory p).outcome.bind fun r => ?_
    split
    · exact .pure _
    · exact .ite (.throw _) (.bind (ih p.parent) fun _ => keeps_ensureDirectory p)
    · exact .throw _

lemma keeps_makeDirectories (p : Path) : Action.Keeps (Spares named d) (makeDirectories p) :=
  keeps_makeParents _ p

/-! ### Files of other names -/

/-- The slot of a named path is its place. -/
lemma IsGrounded.slot_eq_ok (hd : d.IsGrounded) (hp : p.IsNamed) {s : Slot}
    (h : d.slot p = .ok s) :
    (∃ node, d.root.get? (d.placeOf p) = some node ∧ s = .taken (d.placeOf p) node) ∨
      (d.root.get? (d.placeOf p) = none ∧ s = .free (d.placeOf p)) :=
  (Disk.slot_eq_ok hp (Or.inr (hd.directory_start p)) h).2.2.2

lemma getLast?_placeOf (hp : p.IsNamed) (d : Disk) :
    (d.placeOf p).getLast?.getD "" = p.name := by
  simp [placeOf_eq hp]

lemma Spares.put_file (h : Spares named d e) (hp : p.IsNamed) (hname : named p.name = false)
    (hplace : ¬ e.root.HasDirectory (e.placeOf p)) {serial : Nat} {data : FileData}
    (hcwd : f.cwd = e.cwd) (hroot : f.root = e.root.put (e.placeOf p) (.file serial data)) :
    Spares named d f :=
  h.put hplace (h.proper.up_placeOf p) rfl (Or.inl (by rwa [getLast?_placeOf hp])) hcwd hroot

lemma Spares.remove_file (h : Spares named d e) (hp : p.IsNamed) (hname : named p.name = false)
    (hplace : ¬ e.root.HasDirectory (e.placeOf p)) (hcwd : f.cwd = e.cwd)
    (hroot : f.root = e.root.remove (e.placeOf p)) : Spares named d f :=
  h.remove hplace (h.proper.up_placeOf p) (by rwa [getLast?_placeOf hp]) hcwd hroot

lemma not_hasDirectory_of_file {n : Node} {place : List String} {serial : Nat} {data : FileData}
    (h : n.get? place = some (.file serial data)) : ¬ n.HasDirectory place :=
  not_hasDirectory_of_dataAt? (Node.dataAt?_eq_some_iff.mpr ⟨serial, h⟩)

lemma keeps_writeFile (hp : p.IsNamed) (hname : named p.name = false) (data : FileData) :
    Action.Keeps (Spares named d) (writeFile p data) := by
  refine keeps_attempt fun e f he _ h => ?_
  match hslot : e.slot p with
  | .error _ => simp [hslot] at h
  | .ok s =>
    obtain ⟨node, hget, rfl⟩ | ⟨hget, rfl⟩ := he.proper.slot_eq_ok hp hslot
    · match node with
      | .directory _ => simp [hslot] at h
      | .file serial old =>
        simp only [hslot, Except.ok.injEq] at h
        subst h
        exact he.put_file hp hname (not_hasDirectory_of_file hget) rfl rfl
    · simp only [hslot, Except.ok.injEq] at h
      subst h
      exact he.put_file hp hname (not_hasDirectory_of_none hget) rfl rfl

lemma keeps_discardFile (hp : p.IsNamed) (hname : named p.name = false) :
    Action.Keeps (Spares named d) (discardFile p) := by
  have hremove : Action.Keeps (Spares named d) (removeFile p) := by
    refine keeps_attempt fun e f he _ h => ?_
    match hslot : e.slot p with
    | .error _ => simp [hslot] at h
    | .ok s =>
      obtain ⟨node, hget, rfl⟩ | ⟨hget, rfl⟩ := he.proper.slot_eq_ok hp hslot
      · match node with
        | .directory _ => simp [hslot] at h
        | .file serial old =>
          simp only [hslot, Except.ok.injEq] at h
          subst h
          exact he.remove_file hp hname (not_hasDirectory_of_file hget) rfl rfl
      · simp [hslot] at h
  refine hremove.outcome.bind fun r => ?_
  split
  · exact .ite (.pure _) (.throw _)
  · exact .throw _
  · exact .pure _

/-- Moving a file spares the others; a directory could hold some of them. -/
lemma spares_moveFile {source target : Path} (he : Spares named d e) (hs : source.IsNamed)
    (ht : target.IsNamed) (hsource : named source.name = false)
    (htarget : named target.name = false)
    (hfile : ¬ e.root.HasDirectory (e.placeOf source)) :
    Spares named d ((moveFile source target).exec e).2 := by
  rw [moveFile]
  by_cases hnull : (hasNull source || hasNull target) = true
  · rw [if_pos hnull]
    exact he
  rw [if_neg hnull, Action.exec_bind_of_ok (Action.exec_get ..)]
  cases hslot : e.slot source with
  | error _ => exact he
  | ok s =>
    obtain ⟨node, hget, rfl⟩ | ⟨-, rfl⟩ := he.proper.slot_eq_ok hs hslot
    · cases node with
      | directory es => exact absurd ⟨es, hget⟩ hfile
      | file serial data =>
        cases hto : e.slot target with
        | error _ => exact he
        | ok t =>
          obtain ⟨other, hold, rfl⟩ | ⟨hfree, rfl⟩ := he.proper.slot_eq_ok ht hto
          · cases other with
            | directory _ => exact he
            | file _ _ =>
              -- the file in the way is removed first
              have hplace := not_hasDirectory_of_file hold
              have hcleared : Spares named d { e with root := e.root.remove (e.placeOf target) } :=
                he.remove_file ht htarget hplace rfl rfl
              have htaken := hcleared.remove_file hs hsource (f := { e with
                  root := (e.root.remove (e.placeOf target)).remove (e.placeOf source) })
                (fun h => hfile (Node.hasDirectory_of_remove h)) rfl rfl
              change Spares named d (Action.exec (if _ then _ else _) e).2
              rw [Action.exec_ite]
              split
              · exact htaken.put_file ht htarget (fun h => hplace
                  (Node.hasDirectory_of_remove (Node.hasDirectory_of_remove h))) rfl rfl
              · exact he
          · have htaken : Spares named d { e with root := e.root.remove (e.placeOf source) } :=
              he.remove_file hs hsource hfile rfl rfl
            exact htaken.put_file ht htarget (fun h => not_hasDirectory_of_none hfree
              (Node.hasDirectory_of_remove h)) rfl rfl
    · exact he

end Disk

end JavaAtlas
