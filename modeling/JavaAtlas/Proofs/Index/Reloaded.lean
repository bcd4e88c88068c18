import JavaAtlas.Proofs.Index.Format

/-!
# Records loaded, written and loaded again

Reading a record is lenient: texts and objects pass for lists, texts, truth values and fractions for
line numbers, and what is missing has a default. Whatever is read has settled all of this. Its JSON
form holds every member, and reading that form changes nothing any more.
-/

namespace JavaAtlas

/-! ### Rounds of writing and reading -/

section Rounds

variable {α : Type} {read : Json → Except Failure α} {write : α → Json}

/-- A record after rounds of writing and reading. -/
def reloaded (read : Json → Except Failure α) (write : α → Json) : Nat → α → Except Failure α
  | 0, x => .ok x
  | rounds + 1, x => read (write x) >>= reloaded read write rounds

/-- Loading is a projection: what has been read, from whatever value, reads back from the form it is
written in as it is, and never drifts. -/
def LoadsOnce (read : Json → Except Failure α) (write : α → Json) : Prop :=
  ∀ v x, read v = .ok x → read (write x) = .ok x ∧ ∀ rounds, reloaded read write rounds x = .ok x

lemma reloaded_eq {x : α} (h : read (write x) = .ok x) (rounds : Nat) :
    reloaded read write rounds x = .ok x := by
  induction rounds with
  | zero => rfl
  | succ rounds ih => rw [reloaded, h, ok_bind, ih]

lemma loadsOnce (h : ∀ v x, read v = .ok x → read (write x) = .ok x) : LoadsOnce read write :=
  fun v x hx => ⟨h v x hx, reloaded_eq (h v x hx)⟩

end Rounds

/-! ### What is never read -/

/-- Nothing stands in place of null. -/
lemma Json.toOption_ne_null (v : Json) : v.toOption ≠ some .null := by
  cases v <;> simp [Json.toOption]

variable {v : Json}

lemma TypeDecl.superType_of_ofJson {d : TypeDecl Json} (h : TypeDecl.ofJson v = .ok d) :
    d.superType ≠ some .null := by
  simp only [TypeDecl.ofJson, bind_eq_ok, pure_eq_ok, Except.ok.injEq] at h
  obtain ⟨_, -, _, -, _, -, superType, -, _, -, _, -, _, -, _, -, _, -, _, -, _, -, _, -, rfl⟩ := h
  exact superType.toOption_ne_null

lemma Shard.superType_of_ofJson {s : Shard Json} (h : Shard.ofJson v = .ok s) :
    ∀ entry ∈ s.types, entry.2.superType ≠ some .null := by
  simp only [Shard.ofJson, bind_eq_ok, pure_eq_ok, Except.ok.injEq] at h
  obtain ⟨_, -, _, -, _, -, types, htypes, rfl⟩ := h
  intro entry hentry
  obtain ⟨read, -, hread⟩ := mem_of_mapM_ok htypes hentry
  obtain ⟨decl, hdecl, heq⟩ := bind_eq_ok.mp hread
  cases heq
  exact TypeDecl.superType_of_ofJson hdecl

lemma Manifest.secondaryVersion_of_ofJson {m : Manifest Json} (h : Manifest.ofJson v = .ok m) :
    m.secondaryVersion ≠ some .null := by
  simp only [Manifest.ofJson, bind_eq_ok, pure_eq_ok, Except.ok.injEq] at h
  obtain ⟨_, -, _, -, _, -, secondaryVersion, -, _, -, _, -, _, -, _, -, rfl⟩ := h
  exact secondaryVersion.toOption_ne_null

/-- Loading is a projection for every record of the index: what is read from any value reads back
from its own form as it is, however often it is written and read again. -/
theorem records_load_once :
    LoadsOnce Field.ofJson Field.toJson ∧ LoadsOnce Method.ofJson Method.toJson ∧
      LoadsOnce TypeDecl.ofJson TypeDecl.toJson ∧ LoadsOnce Shard.ofJson Shard.toJson ∧
      LoadsOnce Manifest.ofJson Manifest.toJson := by
  refine ⟨loadsOnce fun _ f _ => f.ofJson_toJson, loadsOnce fun _ m _ => m.ofJson_toJson,
    loadsOnce fun _ d h => ?_, loadsOnce fun _ s h => ?_, loadsOnce fun _ m h => ?_⟩
  · exact TypeDecl.ofJson_toJson (TypeDecl.superType_of_ofJson h)
  · exact Shard.ofJson_toJson (Shard.superType_of_ofJson h)
  · exact Manifest.ofJson_toJson (Manifest.secondaryVersion_of_ofJson h)

/-- A shard whose values are of other kinds than those that are written. -/
def looseShard : Json :=
  .obj [("package", .null), ("classes", .obj [("A", .obj [("super", .null), ("interfaces", .str "BC"),
    ("methods", .arr [.obj [("name", .int 3), ("lineStart", .str " 1_2 "), ("params", .obj []),
      ("modifiers", .obj [("final", .null)])]])])])]

theorem records_load_once_loose : ∃ s, Shard.ofJson looseShard = .ok s ∧
    Shard.ofJson s.toJson = .ok s ∧ reloaded Shard.ofJson Shard.toJson 2 s = .ok s ∧
    s.types.map (fun entry => (entry.1, entry.2.interfaces, entry.2.methods)) =
      [("A", [.str "B", .str "C"], [⟨.int 3, .str "", [], [.str "final"], 12, 12⟩])] := by
  match hread : Shard.ofJson looseShard with
  | .error e => cases hread
  | .ok s =>
    obtain ⟨-, -, -, hshard, -⟩ := records_load_once
    obtain ⟨hagain, hrounds⟩ := hshard _ _ hread
    refine ⟨s, rfl, hagain, hrounds 2, ?_⟩
    cases hread
    rfl

end JavaAtlas
