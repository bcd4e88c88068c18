import JavaAtlas.Proofs.Index.Store

/-!
# Retrieving a type by its name

A qualified name is taken apart at its last dot, and how it begins decides in which namespace its
package is looked for. What is retrieved is the declaration in that shard, with the text of the
file that its recorded path names.
-/

namespace JavaAtlas

open Index

lemma Text.splitLast_append {mark : Char} {before after : List Char} (h : mark ∉ after) :
    Text.splitLast mark (before ++ mark :: after) = (before, after) := by
  have hafter : ((before ++ mark :: after).reverse.takeWhile (· != mark)).reverse = after := by
    have hall : ∀ c ∈ after.reverse, (c != mark) = true := by
      intro c hc
      simpa using fun heq : c = mark => h (heq ▸ List.mem_reverse.mp hc)
    rw [List.reverse_append, List.reverse_cons, List.append_assoc,
      List.takeWhile_append_of_pos hall]
    simp
  rw [Text.splitLast, if_pos (by simp)]
  simp only [hafter, Prod.mk.injEq, and_true]
  rw [List.length_append, List.length_cons]
  have hlength : before.length + (after.length + 1) - after.length - 1 = before.length := by omega
  rw [hlength, List.take_left]

/-- A qualified name is split into the package and the name it was made from. -/
lemma splitQualifiedName_append {package name : String} (hpackage : package ≠ "")
    (hname : '.' ∉ name.toList) : splitQualifiedName (package ++ "." ++ name) = (package, name) := by
  have hdot : (package ++ "." ++ name).toList = package.toList ++ '.' :: name.toList := by simp
  rw [splitQualifiedName, hdot, Text.splitLast_append hname]
  simp [hpackage]

namespace Store

variable {c : Config} {d : Disk} {k : Contents}

lemma get?_shard (k : Contents) (ns : Namespace) (package name : String) :
    Ordered.get? ((k.shard ns package).map Json.str).types name =
      (Ordered.get? (k.types ns package) name).map (TypeDecl.map .str) :=
  Ordered.get?_map (TypeDecl.map Json.str) (k.types ns package) name

/-- The source of a type that a shard holds is what is read from the file of its recorded path. -/
theorem exec_getType {q : String} {shard : Shard Json} {decl : TypeDecl String}
    (hmanifest : loadManifest c d = .ok (some (k.manifest.map .str)))
    (hshard : loadShard c d (namespaceFor c q) (.str (splitQualifiedName q).1) = .ok (some shard))
    (hdecl : Ordered.get? shard.types (splitQualifiedName q).2 = some (decl.map .str)) :
    ((getType d q).exec (fresh c)).1 =
      Option.map (TypeSource.mk (decl.map .str) ·
          (k.sourcePath c (namespaceFor c q) decl.sourcePath).text) <$>
        readSource d (k.sourcePath c (namespaceFor c q) decl.sourcePath) := by
  have hholds := holds_fresh c d (k.manifest.map .str)
  obtain ⟨s, hs, hget⟩ := exec_getShard hholds (namespaceFor c q) (splitQualifiedName q).1
  rw [hshard] at hget
  have hpath : (resolveSource d (decl.map Json.str).sourcePath (namespaceFor c q)).exec s =
      (.ok (k.sourcePath c (namespaceFor c q) decl.sourcePath), s) :=
    exec_resolveSource hs decl.sourcePath (namespaceFor c q)
  rw [getType, Action.exec_bind_of_ok (exec_getManifest_fresh hmanifest)]
  simp only
  rw [Action.exec_bind_of_ok (Action.exec_get ..)]
  change ((getShard d (namespaceFor c q) (.str (splitQualifiedName q).1) >>= _).exec
    { fresh c with manifest := some (k.manifest.map .str) }).1 = _
  have hconfig : (fresh c).config = c := rfl
  rw [Action.exec_bind_of_ok hget]
  simp only [hdecl, hconfig]
  rw [Action.exec_bind_of_ok hpath]
  match readSource d (k.sourcePath c (namespaceFor c q) decl.sourcePath) with
  | .error _ => rfl
  | .ok none => rfl
  | .ok (some _) => rfl

/-- A type that a shard holds is retrieved if its file can be read. -/
lemma exec_getType_of_fileAt {q : String} {shard : Shard Json} {decl : TypeDecl String}
    {data : FileData} (hmanifest : loadManifest c d = .ok (some (k.manifest.map .str)))
    (hshard : loadShard c d (namespaceFor c q) (.str (splitQualifiedName q).1) = .ok (some shard))
    (hdecl : Ordered.get? shard.types (splitQualifiedName q).2 = some (decl.map .str))
    (hfile : d.fileAt (k.sourcePath c (namespaceFor c q) decl.sourcePath) = .ok data) :
    ((getType d q).exec (fresh c)).1 = .ok (some ⟨decl.map .str, Text.decodeLossy data.toBytes,
      (k.sourcePath c (namespaceFor c q) decl.sourcePath).text⟩) := by
  rw [exec_getType hmanifest hshard hdecl, readSource, hfile]
  rfl

lemma sourcePath_of_getType {q : String} {shard : Shard Json} {decl : TypeDecl String}
    {x : TypeSource} (hmanifest : loadManifest c d = .ok (some (k.manifest.map .str)))
    (hshard : loadShard c d (namespaceFor c q) (.str (splitQualifiedName q).1) = .ok (some shard))
    (hdecl : Ordered.get? shard.types (splitQualifiedName q).2 = some (decl.map .str))
    (h : ((getType d q).exec (fresh c)).1 = .ok (some x)) :
    x.sourcePath = (k.sourcePath c (namespaceFor c q) decl.sourcePath).text := by
  rw [exec_getType hmanifest hshard hdecl] at h
  match hread : readSource d (k.sourcePath c (namespaceFor c q) decl.sourcePath) with
  | .error _ => simp [hread] at h
  | .ok none => simp [hread] at h
  | .ok (some text) =>
    simp only [hread, map_ok, Option.map_some, Except.ok.injEq, Option.some.injEq] at h
    rw [← h]

/-- Without a shard for its package, a type is not retrieved. -/
theorem exec_getType_of_none {q : String} {m : Manifest Json}
    (hmanifest : loadManifest c d = .ok (some m))
    (hshard : loadShard c d (namespaceFor c q) (.str (splitQualifiedName q).1) = .ok none) :
    ((getType d q).exec (fresh c)).1 = .ok none := by
  obtain ⟨s, -, hget⟩ :=
    exec_getShard (holds_fresh c d m) (namespaceFor c q) (splitQualifiedName q).1
  rw [hshard] at hget
  rw [getType, Action.exec_bind_of_ok (exec_getManifest_fresh hmanifest)]
  simp only
  rw [Action.exec_bind_of_ok (Action.exec_get ..)]
  change ((getShard d (namespaceFor c q) (.str (splitQualifiedName q).1) >>= _).exec
    { fresh c with manifest := some m }).1 = _
  rw [Action.exec_bind_of_ok hget]
  rfl

lemma getManifest_eq_some {m : Manifest Json} {s : Store}
    (h : (getManifest d).exec (fresh c) = (.ok (some m), s)) :
    loadManifest c d = .ok (some m) ∧ Holds c d m s := by
  rw [getManifest, Action.exec_bind_of_ok (Action.exec_get ..)] at h
  change (Action.ofExcept (loadManifest c d) >>= _).exec (fresh c) = _ at h
  cases hload : loadManifest c d with
  | error e =>
    rw [hload, Action.exec_bind_of_error (Action.exec_ofExcept ..)] at h
    cases h
  | ok found =>
    rw [hload, Action.exec_bind_of_ok (Action.exec_ofExcept ..)] at h
    cases h
    exact ⟨rfl, holds_fresh c d m⟩

/-- A type that is retrieved stands in the shard of its package. -/
theorem exists_shard_of_getType {q : String} {x : TypeSource}
    (h : ((getType d q).exec (fresh c)).1 = .ok (some x)) :
    ∃ m shard, loadManifest c d = .ok (some m) ∧
      loadShard c d (namespaceFor c q) (.str (splitQualifiedName q).1) = .ok (some shard) ∧
      Ordered.get? shard.types (splitQualifiedName q).2 = some x.decl := by
  obtain ⟨t, h⟩ : ∃ t, (getType d q).exec (fresh c) = (.ok (some x), t) := ⟨_, Prod.ext h rfl⟩
  rcases hsplit : splitQualifiedName q with ⟨package, simple⟩
  rw [getType, Action.exec_bind_eq_ok] at h
  obtain ⟨found, s, hmanifest, h⟩ := h
  match found with
  | none => cases h
  | some m =>
    obtain ⟨hload, hs⟩ := getManifest_eq_some hmanifest
    obtain ⟨s', -, hget⟩ := exec_getShard hs (namespaceFor c q) package
    simp only [hsplit] at h
    rw [Action.exec_bind_of_ok (Action.exec_get ..), hs.config, Action.exec_bind_eq_ok] at h
    obtain ⟨found, s₁, hfound, h⟩ := h
    rw [hget, Prod.mk.injEq] at hfound
    match found with
    | none => cases h
    | some shard =>
      refine ⟨m, shard, hload, hfound.1, ?_⟩
      match hdecl : Ordered.get? shard.types simple with
      | none =>
        simp only [hdecl] at h
        cases h
      | some decl =>
        simp only [hdecl] at h
        obtain ⟨path, s₂, -, h⟩ := Action.exec_bind_eq_ok.mp h
        obtain ⟨text, s₃, -, h⟩ := Action.exec_bind_eq_ok.mp h
        match text with
        | none => cases h
        | some text =>
          cases h
          rfl

end Store

end JavaAtlas
