import JavaAtlas.Proofs.Index.Malformed

/-!
# Shards of any content

The file of a shard may hold any bytes. Whatever is no shard counts as no shard, with three
exceptions: a whole number with too many digits, lists and objects that nest too deep, and an
infinite number where the line of a method is asked for. The last is met only if everything that is
read before it can be read.
-/

namespace JavaAtlas

section Except

variable {ε α β : Type}

lemma bind_eq_error {x : Except ε α} {f : α → Except ε β} {e : ε} :
    (x >>= f) = .error e ↔ x = .error e ∨ ∃ a, x = .ok a ∧ f a = .error e := by
  cases x <;> simp

/-- A list that cannot be read is read up to its first item that cannot. -/
lemma exists_of_mapM_eq_error {f : α → Except ε β} {xs : List α} {e : ε}
    (h : xs.mapM f = .error e) : ∃ before x after, xs = before ++ x :: after ∧
      (∀ y ∈ before, ∃ b, f y = .ok b) ∧ f x = .error e := by
  induction xs with
  | nil => cases h
  | cons x xs ih =>
    rw [List.mapM_cons] at h
    rcases bind_eq_error.mp h with hx | ⟨b, hb, h⟩
    · exact ⟨[], x, xs, rfl, by simp, hx⟩
    · rcases bind_eq_error.mp h with hxs | ⟨bs, -, h⟩
      · obtain ⟨before, y, after, rfl, hbefore, hy⟩ := ih hxs
        exact ⟨x :: before, y, after, rfl, List.forall_mem_cons.mpr ⟨⟨b, hb⟩, hbefore⟩, hy⟩
      · cases h

lemma mapM_eq_error {f : α → Except ε β} {before : List α} {x : α} {e : ε} (after : List α)
    (hbefore : ∀ y ∈ before, ∃ b, f y = .ok b) (hx : f x = .error e) :
    (before ++ x :: after).mapM f = .error e := by
  induction before with
  | nil => rw [List.nil_append, List.mapM_cons, hx, error_bind]
  | cons y before ih =>
    obtain ⟨⟨b, hb⟩, hbefore⟩ := List.forall_mem_cons.mp hbefore
    rw [List.cons_append, List.mapM_cons, hb, ok_bind, ih hbefore, error_bind]

end Except

/-! ### Failures that are passed over -/

/-- The families of failures that the loading of a shard passes over. -/
def Index.shardFamilies : List FailureFamily := [.member, .kind, .value, .operation]

/-- A failure that the loading of a shard passes over. -/
def Failure.IsPassedOver (failure : Failure) : Prop := failure.family ∈ Index.shardFamilies

@[simp] lemma Failure.isPassedOver_iff (failure : Failure) : failure.IsPassedOver ↔
    failure.family = .member ∨ failure.family = .kind ∨ failure.family = .value ∨
      failure.family = .operation := by
  simp [IsPassedOver, Index.shardFamilies]

namespace Json

variable {v default : Json} {key : String} {e : Failure}

lemma isPassedOver_of_member (h : v.member key default = .error e) : e.IsPassedOver := by
  cases v <;> cases h <;> simp [Failure.family]

lemma isPassedOver_of_need (h : v.need key = .error e) : e.IsPassedOver := by
  cases v with
  | obj members =>
    simp only [need] at h
    split at h <;> cases h
    simp [Failure.family]
  | null | bool _ | int _ | float _ | str _ | arr _ =>
    cases h
    simp [Failure.family]

lemma isPassedOver_of_members (h : v.members = .error e) : e.IsPassedOver := by
  cases v <;> cases h <;> simp [Failure.family]

lemma isPassedOver_of_items (h : v.items = .error e) : e.IsPassedOver := by
  simp [Index.family_of_items h]

def IsInfinite (v : Json) : Prop := ∃ negative, v = .float (.infinite negative)

/-- A value that is no whole number is passed over, unless it is infinite. -/
lemma toInt_eq_error (h : v.toInt = .error e) :
    e.IsPassedOver ∨ v.IsInfinite ∧ e = .infiniteNumber := by
  cases v with
  | float x =>
    cases x with
    | infinite negative =>
      cases h
      exact Or.inr ⟨⟨negative, rfl⟩, rfl⟩
    | nan =>
      cases h
      exact Or.inl (by simp [Failure.family])
    | finite negative mantissa exponent => cases h
  | str s =>
    simp only [toInt] at h
    split at h <;> cases h <;> exact Or.inl (by simp [Failure.family])
  | bool b | int n => cases h
  | null | arr _ | obj _ =>
    cases h
    exact Or.inl (by simp [Failure.family])

lemma IsInfinite.toInt (h : v.IsInfinite) : v.toInt = .error .infiniteNumber := by
  obtain ⟨negative, rfl⟩ := h
  rfl

end Json

/-! ### Infinite numbers in a shard -/

lemma TypeKind.isPassedOver_of_ofJson {v : Json} {e : Failure} (h : TypeKind.ofJson v = .error e) :
    e.IsPassedOver := by
  cases v with
  | str s =>
    simp only [ofJson] at h
    split at h <;> cases h
    simp [Failure.family]
  | null | bool _ | int _ | float _ | arr _ | obj _ =>
    cases h
    simp [Failure.family]

lemma Field.isPassedOver_of_ofJson {v : Json} {e : Failure} (h : Field.ofJson v = .error e) :
    e.IsPassedOver := by
  rcases bind_eq_error.mp h with h | ⟨_, -, h⟩
  · exact Json.isPassedOver_of_member h
  rcases bind_eq_error.mp h with h | ⟨_, -, h⟩
  · exact Json.isPassedOver_of_member h
  rcases bind_eq_error.mp h with h | ⟨_, -, h⟩
  · exact Json.isPassedOver_of_member h
  rcases bind_eq_error.mp h with h | ⟨_, -, h⟩
  · exact Json.isPassedOver_of_items h
  · cases h

lemma Parameter.isPassedOver_of_ofJson {v : Json} {e : Failure}
    (h : Parameter.ofJson v = .error e) : e.IsPassedOver := by
  rcases bind_eq_error.mp h with h | ⟨_, -, h⟩
  · exact Json.isPassedOver_of_member h
  rcases bind_eq_error.mp h with h | ⟨_, -, h⟩
  · exact Json.isPassedOver_of_member h
  · cases h

variable {members : List (String × Json)} {v : Json} {e : Failure}

def memberOr (members : List (String × Json)) (key : String) (default : Json) : Json :=
  (Ordered.get? members key).getD default

/-- Reading a method meets an infinite number: it stands for the first line, or for the last one
where the first is read. -/
inductive Method.MeetsInfinity : Json → Prop
  | lineStart {members : List (String × Json)} {start : Json}
      (hstart : Ordered.get? members "lineStart" = some start) (h : start.IsInfinite) :
      MeetsInfinity (.obj members)
  | lineEnd {members : List (String × Json)} {stop : Json} {line : Int}
      (hstart : (memberOr members "lineStart" (.int 0)).toInt = .ok line)
      (hstop : Ordered.get? members "lineEnd" = some stop) (h : stop.IsInfinite) :
      MeetsInfinity (.obj members)

/-- Reading a declaration meets an infinite number: all that stands before the methods is read, and
so are the methods before the one that meets it. -/
inductive TypeDecl.MeetsInfinity : Json → Prop
  | methods {members : List (String × Json)} {kind : TypeKind} {interfaces items : List Json}
      {fields : List (Field Json)} {before after : List Json} {method : Json}
      (hkind : TypeKind.ofJson (memberOr members "kind" (.str TypeKind.classType.keyword)) =
        .ok kind)
      (hinterfaces : (memberOr members "interfaces" (.arr [])).items = .ok interfaces)
      (hitems : (memberOr members "fields" (.arr [])).items = .ok items)
      (hfields : items.mapM Field.ofJson = .ok fields)
      (hmethods : (memberOr members "methods" (.arr [])).items = .ok (before ++ method :: after))
      (hbefore : ∀ m ∈ before, ∃ read, Method.ofJson m = .ok read)
      (h : Method.MeetsInfinity method) : MeetsInfinity (.obj members)

/-- Reading a shard meets an infinite number: it has a package, and all types before the one that
meets it are read. -/
inductive Shard.MeetsInfinity : Json → Prop
  | types {members : List (String × Json)} {package decl : Json}
      {before after : List (String × Json)} {name : String}
      (hpackage : Ordered.get? members "package" = some package)
      (htypes : memberOr members "classes" (.obj []) = .obj (before ++ (name, decl) :: after))
      (hbefore : ∀ entry ∈ before, ∃ read, TypeDecl.ofJson entry.2 = .ok read)
      (h : TypeDecl.MeetsInfinity decl) : MeetsInfinity (.obj members)

namespace Method

/-- A value that is no method is passed over, unless an infinite number is met. -/
lemma ofJson_eq_error (h : Method.ofJson v = .error e) :
    e.IsPassedOver ∨ MeetsInfinity v ∧ e = .infiniteNumber := by
  rcases bind_eq_error.mp h with h | ⟨start, hstart, h⟩
  · exact Or.inl (Json.isPassedOver_of_member h)
  match v with
  | .null | .bool _ | .int _ | .float _ | .str _ | .arr _ => cases hstart
  | .obj members =>
  cases hstart
  rcases bind_eq_error.mp h with h | ⟨line, hline, h⟩
  · refine (Json.toInt_eq_error h).imp_right fun ⟨hinfinite, he⟩ => ⟨?_, he⟩
    cases hget : Ordered.get? members "lineStart" with
    | some start => exact .lineStart hget (by simpa [hget] using hinfinite)
    | none =>
      obtain ⟨negative, hfloat⟩ := hinfinite
      simp [hget] at hfloat
  rcases bind_eq_error.mp h with h | ⟨_, -, h⟩
  · exact Or.inl (Json.isPassedOver_of_member h)
  rcases bind_eq_error.mp h with h | ⟨_, -, h⟩
  · exact Or.inl (Json.isPassedOver_of_member h)
  rcases bind_eq_error.mp h with h | ⟨stop, hstop, h⟩
  · exact Or.inl (Json.isPassedOver_of_member h)
  cases hstop
  rcases bind_eq_error.mp h with h | ⟨_, -, h⟩
  · refine (Json.toInt_eq_error h).imp_right fun ⟨hinfinite, he⟩ => ⟨?_, he⟩
    cases hget : Ordered.get? members "lineEnd" with
    | some stop => exact .lineEnd hline hget (by simpa [hget] using hinfinite)
    | none =>
      obtain ⟨negative, hfloat⟩ := hinfinite
      simp [hget] at hfloat
  rcases bind_eq_error.mp h with h | ⟨_, -, h⟩
  · exact Or.inl (Json.isPassedOver_of_member h)
  rcases bind_eq_error.mp h with h | ⟨_, -, h⟩
  · exact Or.inl (Json.isPassedOver_of_items h)
  rcases bind_eq_error.mp h with h | ⟨_, -, h⟩
  · obtain ⟨-, p, -, -, -, hp⟩ := exists_of_mapM_eq_error h
    exact Or.inl (Parameter.isPassedOver_of_ofJson hp)
  rcases bind_eq_error.mp h with h | ⟨_, -, h⟩
  · exact Or.inl (Json.isPassedOver_of_member h)
  rcases bind_eq_error.mp h with h | ⟨_, -, h⟩
  · exact Or.inl (Json.isPassedOver_of_items h)
  · cases h

lemma MeetsInfinity.ofJson (h : MeetsInfinity v) : Method.ofJson v = .error .infiniteNumber := by
  cases h with
  | lineStart hstart h =>
    simp only [Method.ofJson, Json.member, hstart, Option.getD_some, ok_bind, h.toInt, error_bind]
  | lineEnd hstart hstop h =>
    rw [memberOr] at hstart
    simp only [Method.ofJson, Json.member, hstart, hstop, Option.getD_some, ok_bind, h.toInt,
      error_bind]

end Method

namespace TypeDecl

/-- A value that is no declaration is passed over, unless an infinite number is met. -/
lemma ofJson_eq_error (h : TypeDecl.ofJson v = .error e) :
    e.IsPassedOver ∨ MeetsInfinity v ∧ e = .infiniteNumber := by
  rcases bind_eq_error.mp h with h | ⟨_, hkind, h⟩
  · exact Or.inl (Json.isPassedOver_of_member h)
  match v with
  | .null | .bool _ | .int _ | .float _ | .str _ | .arr _ => cases hkind
  | .obj members =>
  cases hkind
  rcases bind_eq_error.mp h with h | ⟨kind, hkind, h⟩
  · exact Or.inl (TypeKind.isPassedOver_of_ofJson h)
  rcases bind_eq_error.mp h with h | ⟨_, -, h⟩
  · exact Or.inl (Json.isPassedOver_of_member h)
  rcases bind_eq_error.mp h with h | ⟨_, -, h⟩
  · exact Or.inl (Json.isPassedOver_of_member h)
  rcases bind_eq_error.mp h with h | ⟨_, hinterfaces, h⟩
  · exact Or.inl (Json.isPassedOver_of_member h)
  cases hinterfaces
  rcases bind_eq_error.mp h with h | ⟨interfaces, hinterfaces, h⟩
  · exact Or.inl (Json.isPassedOver_of_items h)
  rcases bind_eq_error.mp h with h | ⟨_, hitems, h⟩
  · exact Or.inl (Json.isPassedOver_of_member h)
  cases hitems
  rcases bind_eq_error.mp h with h | ⟨items, hitems, h⟩
  · exact Or.inl (Json.isPassedOver_of_items h)
  rcases bind_eq_error.mp h with h | ⟨fields, hfields, h⟩
  · obtain ⟨-, f, -, -, -, hf⟩ := exists_of_mapM_eq_error h
    exact Or.inl (Field.isPassedOver_of_ofJson hf)
  rcases bind_eq_error.mp h with h | ⟨_, hmethods, h⟩
  · exact Or.inl (Json.isPassedOver_of_member h)
  cases hmethods
  rcases bind_eq_error.mp h with h | ⟨methods, hmethods, h⟩
  · exact Or.inl (Json.isPassedOver_of_items h)
  rcases bind_eq_error.mp h with h | ⟨_, -, h⟩
  · obtain ⟨before, method, after, rfl, hbefore, hmethod⟩ := exists_of_mapM_eq_error h
    exact (Method.ofJson_eq_error hmethod).imp_right fun ⟨hmeets, he⟩ =>
      ⟨.methods hkind hinterfaces hitems hfields hmethods hbefore hmeets, he⟩
  · cases h

lemma MeetsInfinity.ofJson (h : MeetsInfinity v) : TypeDecl.ofJson v = .error .infiniteNumber := by
  cases h with
  | @methods _ _ _ _ _ _ after _ hkind hinterfaces hitems hfields hmethods hbefore h =>
    have hread := mapM_eq_error after hbefore h.ofJson
    rw [memberOr] at hkind hinterfaces hitems hmethods
    simp only [TypeDecl.ofJson, Json.member, ok_bind, hkind, hinterfaces, hitems, hfields, hmethods,
      hread, error_bind]

end TypeDecl

namespace Shard

/-- Read the declaration of a type under its name. -/
def readEntry (entry : String × Json) : Except Failure (String × TypeDecl Json) := do
  return (entry.1, ← TypeDecl.ofJson entry.2)

lemma readEntry_eq_error {entry : String × Json} :
    readEntry entry = .error e ↔ TypeDecl.ofJson entry.2 = .error e := by
  rw [readEntry]
  cases TypeDecl.ofJson entry.2 <;> simp

lemma exists_readEntry {entry : String × Json} :
    (∃ read, readEntry entry = .ok read) ↔ ∃ decl, TypeDecl.ofJson entry.2 = .ok decl := by
  rw [readEntry]
  cases TypeDecl.ofJson entry.2 <;> simp

/-- A value that is no shard is passed over, unless an infinite number is met. -/
lemma ofJson_eq_error (h : Shard.ofJson v = .error e) :
    e.IsPassedOver ∨ MeetsInfinity v ∧ e = .infiniteNumber := by
  rcases bind_eq_error.mp h with h | ⟨package, hpackage, h⟩
  · exact Or.inl (Json.isPassedOver_of_need h)
  obtain ⟨members, rfl⟩ : ∃ members, v = .obj members := by
    cases v with
    | obj members => exact ⟨members, rfl⟩
    | _ => cases hpackage
  rcases bind_eq_error.mp h with h | ⟨_, htypes, h⟩
  · exact Or.inl (Json.isPassedOver_of_member h)
  cases htypes
  rcases bind_eq_error.mp h with h | ⟨entries, hentries, h⟩
  · exact Or.inl (Json.isPassedOver_of_members h)
  rcases bind_eq_error.mp h with h | ⟨_, -, h⟩
  · obtain ⟨before, ⟨name, decl⟩, after, rfl, hbefore, hdecl⟩ := exists_of_mapM_eq_error h
    have hobject :
        memberOr members "classes" (.obj []) = .obj (before ++ (name, decl) :: after) := by
      rw [memberOr]
      revert hentries
      cases (Ordered.get? members "classes").getD (.obj []) <;> simp [Json.members]
    have hget : Ordered.get? members "package" = some package := by
      simp only [Json.need] at hpackage
      split at hpackage <;> cases hpackage
      assumption
    have hread : ∀ entry ∈ before, ∃ decl, TypeDecl.ofJson entry.2 = .ok decl :=
      fun entry hentry => exists_readEntry.mp (hbefore entry hentry)
    rcases TypeDecl.ofJson_eq_error (readEntry_eq_error.mp hdecl) with hpassed | ⟨hmeets, he⟩
    · exact Or.inl hpassed
    · exact Or.inr ⟨.types hget hobject hread hmeets, he⟩
  · cases h

lemma MeetsInfinity.ofJson (h : MeetsInfinity v) : Shard.ofJson v = .error .infiniteNumber := by
  cases h with
  | @types _ _ decl _ after name hpackage htypes hbefore h =>
    have hentry : readEntry (name, decl) = .error .infiniteNumber := readEntry_eq_error.mpr h.ofJson
    have hread := mapM_eq_error after
      (fun entry hentry => exists_readEntry.mpr (hbefore entry hentry)) hentry
    rw [memberOr] at htypes
    simp only [Shard.ofJson, Json.need, hpackage, Json.member, htypes, Json.members, ok_bind]
    change (List.mapM readEntry _ >>= _) = _
    rw [hread, error_bind]

end Shard

/-! ### Loading a shard -/

namespace Index

variable {c : Config} {d : Disk} {ns : Namespace} {package : Json} {data : FileData}
  {text : List Char} {failure : Failure} {s : Shard Json}

/-- The texts that make the loading of a shard fail, with the failure. -/
inductive UpsetsShard (text : List Char) : Failure → Prop
  /-- A whole number has too many digits. -/
  | digits {count : Nat}
      (h : Json.readWithin maxNesting text = .error (.tooManyDigits count)) :
      UpsetsShard text (.tooManyDigits count)
  /-- Lists and objects nest too deep. -/
  | nesting {container : String}
      (h : Json.readWithin maxNesting text = .error (.nestedTooDeep container)) :
      UpsetsShard text (.nestedTooDeep container)
  /-- A method has an infinite number for a line. -/
  | infinity {members : List (String × Json)}
      (h : Json.readWithin maxNesting text = .ok (.obj members))
      (hmeets : Shard.MeetsInfinity (.obj members)) : UpsetsShard text .infiniteNumber

lemma loadShard_of_object {members : List (String × Json)}
    (h : d.fileAt (c.shardPath ns package) = .ok data)
    (htext : Text.decodeStrict? data.toBytes = some text)
    (hobject : Json.readWithin maxNesting text = .ok (.obj members)) :
    loadShard c d ns package = passingOver shardFamilies (Shard.ofJson (.obj members)) := by
  obtain ⟨stem, hnamed, -⟩ := c.exists_name_shardPath ns package
  have hread := readJson_of_fileAt hnamed h
  simp only [htext, hobject] at hread
  rw [loadShard, hread]
  rfl

/-- A shard that is not read as an object is passed over. -/
lemma loadShard_of_unread (h : readJson d (c.shardPath ns package) = .ok none) :
    loadShard c d ns package = .ok none := by
  rw [loadShard, h]
  rfl

lemma loadShard_of_upsetsShard (h : d.fileAt (c.shardPath ns package) = .ok data)
    (htext : Text.decodeStrict? data.toBytes = some text) (hupsets : UpsetsShard text failure) :
    loadShard c d ns package = .error failure := by
  obtain ⟨stem, hnamed, -⟩ := c.exists_name_shardPath ns package
  have hread := readJson_of_fileAt hnamed h
  cases hupsets with
  | digits hparse =>
    simp only [htext, hparse] at hread
    rw [loadShard, hread]
    rfl
  | nesting hparse =>
    simp only [htext, hparse] at hread
    rw [loadShard, hread]
    rfl
  | infinity hparse hmeets =>
    rw [loadShard_of_object h htext hparse, hmeets.ofJson]
    rfl

/-- What loading comes to: it is upset, or there is an object that is taken for a shard, or there is
nothing that is a shard. -/
lemma loadShard_cases (h : d.fileAt (c.shardPath ns package) = .ok data) :
    (∃ failure text, Text.decodeStrict? data.toBytes = some text ∧ UpsetsShard text failure) ∨
    (∃ s text members, Text.decodeStrict? data.toBytes = some text ∧
      Json.readWithin maxNesting text = .ok (.obj members) ∧
      Shard.ofJson (.obj members) = .ok s) ∨
    loadShard c d ns package = .ok none := by
  obtain ⟨stem, hnamed, -⟩ := c.exists_name_shardPath ns package
  rcases readJson_cases hnamed h with
    ⟨text, htext, ⟨_, hparse⟩ | ⟨_, hparse⟩⟩ | ⟨text, members, htext, hparse⟩ | hnone
  · exact Or.inl ⟨_, text, htext, .digits hparse⟩
  · exact Or.inl ⟨_, text, htext, .nesting hparse⟩
  · have hload := loadShard_of_object h htext hparse
    cases hshard : Shard.ofJson (.obj members) with
    | ok s => exact Or.inr (Or.inl ⟨s, text, members, htext, hparse, hshard⟩)
    | error failure =>
      rcases Shard.ofJson_eq_error hshard with hpassed | ⟨hmeets, -⟩
      · rw [hshard, passingOver, if_pos (List.contains_iff_mem.mpr hpassed)] at hload
        exact Or.inr (Or.inr hload)
      · exact Or.inl ⟨_, text, htext, .infinity hparse hmeets⟩
  · exact Or.inr (Or.inr (loadShard_of_unread hnone))

/-- A loading that is upset, gives something or gives nothing fails only if it is upset, and gives
only what it can. -/
lemma loading_iff {α : Type} {load : Except Failure (Option α)} {Upset : Failure → Prop}
    {Gives : α → Prop} (hupset : ∀ failure, Upset failure → load = .error failure)
    (hgives : ∀ a, Gives a → load = .ok (some a))
    (hcases : (∃ failure, Upset failure) ∨ (∃ a, Gives a) ∨ load = .ok none) :
    (∀ failure, load = .error failure ↔ Upset failure) ∧
      ∀ a, load = .ok (some a) ↔ Gives a := by
  refine ⟨fun failure => ⟨fun hfails => ?_, hupset failure⟩, fun a => ⟨fun hloads => ?_, hgives a⟩⟩
  · rcases hcases with ⟨reason, hreason⟩ | ⟨a, ha⟩ | hnone
    · cases (hupset reason hreason).symm.trans hfails
      exact hreason
    · cases (hgives a ha).symm.trans hfails
    · cases hnone.symm.trans hfails
  · rcases hcases with ⟨reason, hreason⟩ | ⟨b, hb⟩ | hnone
    · cases (hupset reason hreason).symm.trans hloads
    · cases (hgives b hb).symm.trans hloads
      exact hb
    · cases hnone.symm.trans hloads

/-- A shard but for the line of its one method. -/
def infiniteLine : String :=
  "\x7b\"package\": \"p\", \"classes\": \x7b\"A\": \x7b\"methods\": " ++
    "[\x7b\"lineStart\": Infinity\x7d]\x7d\x7d\x7d"

/-- A home with that text for the shard of a package. -/
def infiniteDisk : Disk where
  root := .directory [("home", .directory [("index", .directory [("primary", .directory
    [("p.json", .file 0 (.bytes infiniteLine.toUTF8))])])])]
  cwd := []
  nextSerial := 1

lemma fileAt_infiniteDisk :
    infiniteDisk.fileAt (plainConfig.shardPath .primary (.str "p")) =
      .ok (.bytes infiniteLine.toUTF8) := by
  have hfile : infiniteDisk.isFile (plainConfig.shardPath .primary (.str "p")) = .ok true :=
    eq_ok_of_toOption (by decide +kernel)
  obtain ⟨data, hdata⟩ := Disk.exists_fileAt_of_isFile hfile
  have hplace : infiniteDisk.placeOf (plainConfig.shardPath .primary (.str "p")) =
      ["home", "index", "primary", "p.json"] := by
    decide +kernel
  have hsame := Disk.dataAt?_of_fileAt hdata
  rw [hplace] at hsame
  cases hsame
  exact hdata

def metInfinity {α : Type} : Except Failure α → Bool
  | .error .infiniteNumber => true
  | _ => false

lemma eq_error_of_metInfinity {α : Type} {r : Except Failure α} (h : metInfinity r = true) :
    r = .error .infiniteNumber := by
  unfold metInfinity at h
  split at h
  · rfl
  · cases h

lemma loadShard_infiniteDisk :
    loadShard plainConfig infiniteDisk .primary (.str "p") = .error .infiniteNumber :=
  eq_error_of_metInfinity (by decide +kernel)

end Index

end JavaAtlas
