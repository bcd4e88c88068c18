import JavaAtlas.Proofs.Index.Files

/-!
# Manifests of any content

The file of the manifest may hold any bytes. Most of what is not a manifest counts as no manifest,
but there are texts that loading does not get past: a whole number with too many digits, lists and
objects that nest too deep, and an object that has a version and, in place of the packages, a value
that has no members.
-/

namespace JavaAtlas

namespace Index

variable {c : Config} {d : Disk} {p : Path} {data : FileData} {text : List Char}
  {members : List (String × Json)} {failure : Failure} {m : Manifest Json}

/-- The texts that make the loading of a manifest fail, with the failure. -/
inductive Upsets (text : List Char) : Failure → Prop
  /-- A whole number has too many digits. -/
  | digits {count : Nat}
      (h : Json.readWithin maxNesting text = .error (.tooManyDigits count)) :
      Upsets text (.tooManyDigits count)
  /-- Lists and objects nest too deep. -/
  | nesting {container : String}
      (h : Json.readWithin maxNesting text = .error (.nestedTooDeep container)) :
      Upsets text (.nestedTooDeep container)
  /-- There is a version, and the packages are no object. -/
  | packages {members : List (String × Json)} {version packages : Json}
      (h : Json.readWithin maxNesting text = .ok (.obj members))
      (hversion : Ordered.get? members "corpusVersion" = some version)
      (hpackages : Ordered.get? members "packages" = some packages)
      (hkind : ∀ inner, packages ≠ .obj inner) :
      Upsets text (.noOperation packages.kindName "get")

/-! ### Reading the file -/

/-- Where there is a file, its bytes alone decide what is read. -/
lemma readJson_of_fileAt (hp : p.IsNamed) (h : d.fileAt p = .ok data) :
    readJson d p = match Text.decodeStrict? data.toBytes with
      | none => .ok none
      | some text => match Json.readWithin maxNesting text with
        | .ok (.obj members) => .ok (some (.obj members))
        | .ok _ => .ok none
        | .error .malformed => .ok none
        | .error (.tooManyDigits count) => .error (.tooManyDigits count)
        | .error (.nestedTooDeep container) => .error (.nestedTooDeep container) := by
  obtain ⟨hfits, hreach, hdata⟩ := (Disk.fileAt_eq_ok_iff hp).mp h
  obtain ⟨serial, hget⟩ := Node.dataAt?_eq_some_iff.mp hdata
  have hexists : d.doesExist p = .ok true := Disk.doesExist_eq_ok hp hfits hreach hget
  rw [readJson, hexists, h]
  simp only [ok_bind, if_true]
  cases Text.decodeStrict? data.toBytes with
  | none => rfl
  | some text =>
    show _ = _
    cases Json.readWithin maxNesting text with
    | ok v => cases v <;> rfl
    | error fault => cases fault <;> rfl

/-- Where there is a file, reading it meets too many digits or nests too deep, or its text is that of
an object, or it is read as nothing. -/
lemma readJson_cases (hp : p.IsNamed) (h : d.fileAt p = .ok data) :
    (∃ text, Text.decodeStrict? data.toBytes = some text ∧
      ((∃ count, Json.readWithin maxNesting text = .error (.tooManyDigits count)) ∨
        ∃ container, Json.readWithin maxNesting text = .error (.nestedTooDeep container))) ∨
    (∃ text members, Text.decodeStrict? data.toBytes = some text ∧
      Json.readWithin maxNesting text = .ok (.obj members)) ∨
    readJson d p = .ok none := by
  have hread := readJson_of_fileAt hp h
  match htext : Text.decodeStrict? data.toBytes with
  | none =>
    simp only [htext] at hread
    exact Or.inr (Or.inr hread)
  | some text =>
    simp only [htext] at hread
    match hparse : Json.readWithin maxNesting text with
    | .error (.tooManyDigits count) => exact Or.inl ⟨text, rfl, Or.inl ⟨count, hparse⟩⟩
    | .error (.nestedTooDeep container) => exact Or.inl ⟨text, rfl, Or.inr ⟨container, hparse⟩⟩
    | .ok (.obj members) => exact Or.inr (Or.inl ⟨text, members, rfl, hparse⟩)
    | .error .malformed | .ok .null | .ok (.bool _) | .ok (.int _) | .ok (.float _)
    | .ok (.str _) | .ok (.arr _) =>
      simp only [hparse] at hread
      exact Or.inr (Or.inr hread)

/-! ### Taking an object for a manifest -/

/-- A value that is no sequence is passed over. -/
lemma family_of_items {v : Json} (h : v.items = .error failure) : failure.family = .kind := by
  cases v <;> cases h <;> rfl

/-- An object with a version, whose packages are an object, fails to be a manifest only in a way
that is passed over. -/
lemma family_of_ofJson {inner : List (String × Json)} {version : Json}
    (hversion : Ordered.get? members "corpusVersion" = some version)
    (hinner : (Ordered.get? members "packages").getD (.obj []) = .obj inner)
    (h : Manifest.ofJson (.obj members) = .error failure) : failure.family = .kind := by
  simp only [Manifest.ofJson, Json.member, Json.need, hversion, hinner, ok_bind] at h
  cases hprimary : ((Ordered.get? inner "primary").getD (.arr [])).items with
  | error e =>
    rw [hprimary] at h
    cases h
    exact family_of_items hprimary
  | ok primary =>
    cases hsecondary : ((Ordered.get? inner "secondary").getD (.arr [])).items with
    | error e =>
      rw [hprimary, hsecondary] at h
      cases h
      exact family_of_items hsecondary
    | ok secondary =>
      rw [hprimary, hsecondary] at h
      cases h

/-- An object loads, as a manifest or as none, unless it has a version and the packages are no
object. -/
lemma exists_loaded (h : ∀ version packages, Ordered.get? members "corpusVersion" = some version →
    Ordered.get? members "packages" = some packages → ∃ inner, packages = .obj inner) :
    ∃ answer, passingOver [.member, .kind] (Manifest.ofJson (.obj members)) = .ok answer := by
  cases hversion : Ordered.get? members "corpusVersion" with
  | none => exact ⟨none, by simp [Manifest.ofJson, Json.member, Json.need, hversion, passingOver,
      Failure.family]⟩
  | some version =>
    have hobject : ∃ inner, (Ordered.get? members "packages").getD (.obj []) = .obj inner := by
      cases hpackages : Ordered.get? members "packages" with
      | none => exact ⟨[], rfl⟩
      | some packages => exact h version packages hversion hpackages
    obtain ⟨inner, hinner⟩ := hobject
    cases hread : Manifest.ofJson (.obj members) with
    | ok m => exact ⟨some m, rfl⟩
    | error failure =>
      have hfamily := family_of_ofJson hversion hinner hread
      exact ⟨none, by simp [passingOver, hfamily]⟩

/-- Packages that are no object have no member that could be asked for, which is not passed over. -/
lemma ofJson_of_packages {version packages : Json}
    (hversion : Ordered.get? members "corpusVersion" = some version)
    (hpackages : Ordered.get? members "packages" = some packages)
    (hkind : ∀ inner, packages ≠ .obj inner) :
    passingOver [.member, .kind] (Manifest.ofJson (.obj members)) =
      .error (.noOperation packages.kindName "get") := by
  have hread : Manifest.ofJson (.obj members) = .error (.noOperation packages.kindName "get") := by
    simp only [Manifest.ofJson, Json.need, hversion, Json.member, hpackages, Option.getD_some,
      ok_bind]
    rfl
  rw [hread]
  rfl

/-! ### Loading the manifest -/

/-- A manifest that is not read as an object is passed over. -/
lemma loadManifest_of_unread (h : readJson d c.manifestPath = .ok none) :
    loadManifest c d = .ok none := by
  rw [loadManifest, h]
  rfl

lemma loadManifest_of_object (h : d.fileAt c.manifestPath = .ok data)
    (htext : Text.decodeStrict? data.toBytes = some text)
    (hobject : Json.readWithin maxNesting text = .ok (.obj members)) :
    loadManifest c d = passingOver [.member, .kind] (Manifest.ofJson (.obj members)) := by
  have hread := readJson_of_fileAt c.isEntry_manifestPath.toIsNamed h
  simp only [htext, hobject] at hread
  rw [loadManifest, hread]
  rfl

lemma loadManifest_of_upsets (h : d.fileAt c.manifestPath = .ok data)
    (htext : Text.decodeStrict? data.toBytes = some text) (hupsets : Upsets text failure) :
    loadManifest c d = .error failure := by
  have hread := readJson_of_fileAt c.isEntry_manifestPath.toIsNamed h
  cases hupsets with
  | digits hparse =>
    simp only [htext, hparse] at hread
    rw [loadManifest, hread]
    rfl
  | nesting hparse =>
    simp only [htext, hparse] at hread
    rw [loadManifest, hread]
    rfl
  | packages hparse hversion hpackages hkind =>
    rw [loadManifest_of_object h htext hparse]
    exact ofJson_of_packages hversion hpackages hkind

/-- What loading comes to: it is upset, or there is an object that is taken for a manifest or
not, or there is nothing that is an object. -/
lemma loadManifest_cases (h : d.fileAt c.manifestPath = .ok data) :
    (∃ failure text, Text.decodeStrict? data.toBytes = some text ∧ Upsets text failure) ∨
    (∃ m text members, Text.decodeStrict? data.toBytes = some text ∧
      Json.readWithin maxNesting text = .ok (.obj members) ∧
      Manifest.ofJson (.obj members) = .ok m) ∨
    loadManifest c d = .ok none := by
  rcases readJson_cases c.isEntry_manifestPath.toIsNamed h with
    ⟨text, htext, ⟨_, hparse⟩ | ⟨_, hparse⟩⟩ | ⟨text, members, htext, hparse⟩ | hnone
  · exact Or.inl ⟨_, text, htext, .digits hparse⟩
  · exact Or.inl ⟨_, text, htext, .nesting hparse⟩
  · by_cases hpackages : ∀ version packages,
        Ordered.get? members "corpusVersion" = some version →
        Ordered.get? members "packages" = some packages → ∃ inner, packages = .obj inner
    · obtain ⟨answer, hanswer⟩ := exists_loaded hpackages
      have hload := loadManifest_of_object h htext hparse
      rw [hanswer] at hload
      cases answer with
      | none => exact Or.inr (Or.inr hload)
      | some m =>
        refine Or.inr (Or.inl ⟨m, text, members, htext, hparse, ?_⟩)
        cases hmanifest : Manifest.ofJson (.obj members) with
        | ok m' => simpa [passingOver, hmanifest] using hanswer
        | error failure =>
          simp only [passingOver, hmanifest] at hanswer
          split at hanswer <;> simp at hanswer
    · push Not at hpackages
      obtain ⟨version, packages, hversion, hpackages, hkind⟩ := hpackages
      exact Or.inl ⟨_, text, htext, .packages hparse hversion hpackages hkind⟩
  · exact Or.inr (Or.inr (loadManifest_of_unread hnone))

/-- Loading the manifest fails exactly on the texts that upset it, and gives a manifest exactly if
the file holds an object that is one; on any other content there is no manifest. -/
theorem manifest_loading_fails_iff (h : d.fileAt c.manifestPath = .ok data) :
    (∀ failure, loadManifest c d = .error failure ↔
      ∃ text, Text.decodeStrict? data.toBytes = some text ∧ Upsets text failure) ∧
    ∀ m, loadManifest c d = .ok (some m) ↔
      ∃ text members, Text.decodeStrict? data.toBytes = some text ∧
        Json.readWithin maxNesting text = .ok (.obj members) ∧
        Manifest.ofJson (.obj members) = .ok m := by
  have hupset : ∀ {text failure}, Text.decodeStrict? data.toBytes = some text →
      Upsets text failure → loadManifest c d = .error failure := loadManifest_of_upsets h
  have hloaded : ∀ {text members m}, Text.decodeStrict? data.toBytes = some text →
      Json.readWithin maxNesting text = .ok (.obj members) →
      Manifest.ofJson (.obj members) = .ok m → loadManifest c d = .ok (some m) := by
    intro text members m htext hparse hmanifest
    rw [loadManifest_of_object h htext hparse, hmanifest]
    rfl
  constructor
  · intro failure
    refine ⟨fun hfails => ?_, fun ⟨text, htext, hupsets⟩ => hupset htext hupsets⟩
    rcases loadManifest_cases h with ⟨reason, text, htext, hupsets⟩ |
      ⟨m, text, members, htext, hparse, hmanifest⟩ | hnone
    · have hreason := (hupset htext hupsets).symm.trans hfails
      cases hreason
      exact ⟨text, htext, hupsets⟩
    · cases hfails.symm.trans (hloaded htext hparse hmanifest)
    · cases hfails.symm.trans hnone
  · intro m
    refine ⟨fun hloads => ?_, fun ⟨text, members, htext, hparse, hmanifest⟩ =>
      hloaded htext hparse hmanifest⟩
    rcases loadManifest_cases h with ⟨reason, text, htext, hupsets⟩ |
      ⟨m', text, members, htext, hparse, hmanifest⟩ | hnone
    · cases hloads.symm.trans (hupset htext hupsets)
    · have hsame := (hloaded htext hparse hmanifest).symm.trans hloads
      cases hsame
      exact ⟨text, members, htext, hparse, hmanifest⟩
    · cases hloads.symm.trans hnone

/-! ### Packages that are a list -/

/-- An object that would be a manifest if its packages were not a list. -/
def listedPackages : Json := .obj [("corpusVersion", .str "1"), ("packages", .arr [])]

/-- A home whose manifest has a list of packages. -/
def listedDisk : Disk where
  root := .directory [("home", .directory [("index", .directory
    [("manifest.json", .file 0 (fileOf listedPackages))])])]
  cwd := []
  nextSerial := 1

lemma readsBack_listedPackages : Json.ReadsBack maxNesting listedPackages := by
  apply Json.ReadsBack.obj
  · decide
  · simp only [List.mem_cons, List.not_mem_nil, or_false, forall_eq_or_imp, forall_eq]
    exact ⟨.str _, .arr (by simp)⟩

lemma fileAt_listedDisk :
    listedDisk.fileAt plainConfig.manifestPath = .ok (fileOf listedPackages) := by
  have hfile : listedDisk.isFile plainConfig.manifestPath = .ok true :=
    eq_ok_of_toOption (by decide +kernel)
  obtain ⟨data, hdata⟩ := Disk.exists_fileAt_of_isFile hfile
  have hplace : listedDisk.placeOf plainConfig.manifestPath = ["home", "index", "manifest.json"] := by
    decide +kernel
  have hsame := Disk.dataAt?_of_fileAt hdata
  rw [hplace] at hsame
  cases hsame
  exact hdata

theorem manifest_loading_fails_listed :
    listedDisk.fileAt plainConfig.manifestPath = .ok (fileOf listedPackages) ∧
      loadManifest plainConfig listedDisk = .error (.noOperation "list" "get") := by
  obtain ⟨text, htext, hparse⟩ := decode_fileOf readsBack_listedPackages
  have hfails := (manifest_loading_fails_iff fileAt_listedDisk).1 (.noOperation "list" "get")
  refine ⟨fileAt_listedDisk, hfails.mpr ⟨text, htext, ?_⟩⟩
  exact .packages hparse rfl rfl (by simp)

/-- A malformed manifest is not always reported as absent. -/
theorem manifest_loading_not_total :
    ¬ ∀ data, listedDisk.fileAt plainConfig.manifestPath = .ok data →
      ∃ answer, loadManifest plainConfig listedDisk = .ok answer := by
  intro h
  obtain ⟨answer, hanswer⟩ := h _ fileAt_listedDisk
  have hfails : (loadManifest plainConfig listedDisk).toOption.isSome = false := by decide +kernel
  rw [hanswer] at hfails
  cases hfails

end Index

end JavaAtlas
