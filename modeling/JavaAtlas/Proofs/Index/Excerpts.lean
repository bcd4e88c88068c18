import JavaAtlas.Proofs.Index.Memory
import JavaAtlas.Proofs.Index.Recorded
import JavaAtlas.Proofs.Java.Signatures

/-!
# Methods with the lines around them

A method is looked up by its name, then without regard to case. With it come the lines around it,
from the file that its type is retrieved from. The lines that were recorded are those of the file
that the type was collected from; as long as the two files are one, every line of the method that is
there is shown.
-/

namespace JavaAtlas

open Index Store

/-! ### Numbered lines -/

namespace Text

variable {α : Type}

/-- What is taken out of a list by numbers is a piece of it. -/
lemma map_fst_filter_zipIdx (xs : List α) (start first last : Nat) :
    ((xs.zipIdx start).filter fun x => first ≤ x.2 ∧ x.2 ≤ last).map Prod.fst =
      (xs.take (last + 1 - start)).drop (first - start) := by
  induction xs generalizing start with
  | nil => simp
  | cons x xs ih =>
    rw [List.zipIdx_cons, List.filter_cons]
    by_cases hlast : start ≤ last
    · obtain ⟨n, hn⟩ : ∃ n, last + 1 - start = n + 1 := ⟨last - start, by omega⟩
      have hn' : last + 1 - (start + 1) = n := by omega
      rw [hn, List.take_succ_cons]
      by_cases hfirst : first ≤ start
      · have hzero : first - start = 0 := by omega
        have hzero' : first - (start + 1) = 0 := by omega
        rw [if_pos (by simp [hfirst, hlast]), List.map_cons, ih, hn', hzero, hzero', List.drop_zero,
          List.drop_zero]
      · obtain ⟨k, hk⟩ : ∃ k, first - start = k + 1 := ⟨first - start - 1, by omega⟩
        have hk' : first - (start + 1) = k := by omega
        rw [if_neg (by simp [hfirst]), ih, hn', hk, hk', List.drop_succ_cons]
    · have hzero : last + 1 - start = 0 := by omega
      have hzero' : last + 1 - (start + 1) = 0 := by omega
      rw [if_neg (by simp [hlast]), ih, hzero, hzero', List.take_zero, List.take_zero,
        List.drop_nil, List.drop_nil]

end Text

/-- The number of a line that is shown with a method: it lies three lines before it at most, or
behind it, and in the text. -/
def Shown (text : List Char) {α : Type} (m : Method α) (i : Int) : Prop :=
  max 1 (m.lineStart - 3) ≤ i ∧ i ≤ min ((Text.lines text).length : Int) (m.lineEnd + 3)

instance {α : Type} (text : List Char) (m : Method α) (i : Int) : Decidable (Shown text m i) :=
  inferInstanceAs (Decidable (_ ∧ _))

/-- The lines that are shown with a method, numbered from 1 in the text. -/
def shownLines (text : List Char) {α : Type} (m : Method α) : List (List Char) :=
  (((Text.lines text).zipIdx 1).filter fun line => Shown text m line.2).map Prod.fst

/-- The method with a name, or else the first one whose name differs in case only. -/
def selectedMethod (methods : List (Method String)) (name : String) : Option (Method String) :=
  (methods.find? fun m => m.name == name).or
    (methods.find? fun m => lowercase m.name == lowercase name)

/-! ### Excerpts -/

variable {text : List Char} {m : Method String} {methods : List (Method String)} {name : String}

/-- An excerpt is made of the lines that are shown. -/
lemma excerpt_eq (hstart : 1 ≤ m.lineStart) (hend : m.lineStart ≤ m.lineEnd) :
    excerpt text m.lineStart m.lineEnd = Text.joinLines (shownLines text m) := by
  have hcount : 1 ≤ (Text.lines text).length := by
    rw [Text.length_lines]
    omega
  have hlast : ¬ min ((Text.lines text).length : Int) (m.lineEnd + excerptContext) < 0 := by
    rw [excerptContext]
    omega
  have hshown : ∀ line : List Char × Nat, decide (Shown text m line.2) =
      decide ((max 1 (m.lineStart - 3)).toNat ≤ line.2 ∧
        line.2 ≤ (min ((Text.lines text).length : Int) (m.lineEnd + 3)).toNat) := by
    intro line
    rw [decide_eq_decide, Shown]
    omega
  simp only [excerpt, hlast, if_false, shownLines, hshown, Text.map_fst_filter_zipIdx]
  rw [excerptContext]
  congr 2
  omega

/-- Where a method stands on lines of the text, its first line is shown, and all its lines are if
they are all there. -/
lemma shown_of_lines (hstart : 1 ≤ m.lineStart) (hinside : m.lineStart ≤ (Text.lines text).length)
    (hend : m.lineStart ≤ m.lineEnd) :
    Shown text m m.lineStart ∧ (m.lineEnd ≤ (Text.lines text).length →
      ∀ i, m.lineStart ≤ i → i ≤ m.lineEnd → Shown text m i) := by
  simp only [Shown]
  refine ⟨by omega, fun hlast i hi hle => by omega⟩

/-! ### Methods by name -/

lemma selectedMethod_eq_none_iff :
    selectedMethod methods name = none ↔ ∀ m ∈ methods, lowercase m.name ≠ lowercase name := by
  rw [selectedMethod, Option.or_eq_none_iff, List.find?_eq_none, List.find?_eq_none]
  constructor
  · rintro ⟨-, h⟩ m hm heq
    exact h m hm (beq_iff_eq.mpr heq)
  · intro h
    refine ⟨fun m hm heq => h m hm ?_, fun m hm heq => h m hm (eq_of_beq heq)⟩
    rw [eq_of_beq heq]

lemma mem_of_selectedMethod (h : selectedMethod methods name = some m) : m ∈ methods := by
  rcases Option.or_eq_some_iff.mp h with h | ⟨-, h⟩
  · exact List.mem_of_find?_eq_some h
  · exact List.mem_of_find?_eq_some h

/-- Two declarations that are written alike have methods of the same names. -/
lemma names_of_map_eq {decl other : TypeDecl String} (h : decl.map Json.str = other.map .str) :
    decl.methods.map Method.name = other.methods.map Method.name := by
  have hnames : ∀ methods : List (Method String),
      (methods.map (Method.map Json.str)).map Method.name =
        (methods.map Method.name).map .str := fun methods => by
    rw [List.map_map, List.map_map]
    rfl
  have hmethods : decl.methods.map (Method.map Json.str) = other.methods.map (Method.map .str) :=
    congrArg TypeDecl.methods h
  refine List.map_injective_iff.mpr (fun _ _ => Json.str.inj) ?_
  rw [← hnames, ← hnames, hmethods]

namespace Store

variable {k : Contents}

lemma exists_fileAt_of_readSource {d : Disk} {p : Path} {text : List Char}
    (h : readSource d p = .ok (some text)) :
    ∃ data, d.fileAt p = .ok data ∧ text = Text.decodeLossy data.toBytes := by
  rw [readSource] at h
  split at h
  · next data hdata =>
    cases h
    exact ⟨data, hdata, rfl⟩
  · cases h
  · cases h

lemma findLowered_map (lowered : String) (methods : List (Method String)) :
    findLowered lowered (methods.map (Method.map .str)) =
      .ok ((methods.find? fun m => lowercase m.name == lowered).map (Method.map .str)) := by
  induction methods with
  | nil => rfl
  | cons m methods ih =>
    have hlower : lowerOf (m.map Json.str).name = .ok (lowercase m.name) := rfl
    rw [List.map_cons, findLowered, hlower, ok_bind, List.find?_cons]
    by_cases hm : (lowercase m.name == lowered) = true
    · rw [if_pos hm, hm]
      rfl
    · rw [if_neg hm, Bool.eq_false_iff.mpr hm, ih]

lemma findMethod_map (methods : List (Method String)) (name : String) :
    findMethod (methods.map (Method.map .str)) (.str name) =
      .ok ((selectedMethod methods name).map (Method.map .str)) := by
  have hequals : ((fun m : Method Json => m.name.equals (.str name)) ∘ Method.map Json.str) =
      fun m : Method String => m.name == name := rfl
  have hlower : lowerOf (.str name) = .ok (lowercase name) := rfl
  rw [findMethod, List.find?_map, hequals, selectedMethod]
  cases methods.find? fun m => m.name == name with
  | some m => rfl
  | none => rw [Option.map_none, hlower, ok_bind, findLowered_map, Option.none_or]

variable {c : Config} {d : Disk} {s t : Store} {q : String} {x : TypeSource}

/-- A method is looked for in the type that is retrieved. -/
lemma exec_getMethod (h : ((getType d q).exec s).1 = .ok (some x)) (name : Json) :
    ((getMethod d q name).exec s).1 = (findMethod x.decl.methods name).map (Option.map fun m =>
      ⟨m, excerpt x.text m.lineStart m.lineEnd, x.decl, x.sourcePath⟩) := by
  obtain ⟨s', h⟩ : ∃ s', (getType d q).exec s = (.ok (some x), s') := ⟨_, Prod.ext h rfl⟩
  rw [getMethod, Action.exec_bind_of_ok h]
  simp only
  cases hfind : findMethod x.decl.methods name with
  | error failure => rw [Action.exec_bind_of_error (Action.exec_ofExcept ..)]; rfl
  | ok found =>
    rw [Action.exec_bind_of_ok (Action.exec_ofExcept ..)]
    cases found <;> rfl

/-- A name looks up a type in the shard of a package that the manifest lists, in the namespace that
the name selects. -/
def LooksUp (c : Config) (d : Disk) (q package : String) : Prop :=
  ∃ m, loadManifest c d = .ok (some m) ∧ .str package ∈ m.packages (namespaceFor c q) ∧
    loadShard c d (namespaceFor c q) (.str (splitQualifiedName q).1) =
      loadShard c d (namespaceFor c q) (.str package)

/-- A type that was collected is looked up, and read from the file of its path. -/
lemma getType_of_collected (h : Serves c d k) {ns : Namespace} (hns : namespaceFor c q = ns)
    {package name : String} (hsplit : splitQualifiedName q = (package, name))
    (hmem : package ∈ (k.packages ns).names) {found : TypeDecl String}
    (hfound : Ordered.get? (k.types ns package) name = some found) {path : Path}
    (hpath : k.sourcePath c ns found.sourcePath = path) {data : FileData}
    (hdata : d.fileAt path = .ok data) :
    LooksUp c d q package ∧ ((getType d q).exec (fresh c)).1 =
      .ok (some ⟨found.map .str, Text.decodeLossy data.toBytes, path.text⟩) := by
  subst hns hpath
  constructor
  · refine ⟨_, h.manifest, ?_, by rw [hsplit]⟩
    cases hns : namespaceFor c q <;> rw [hns] at hmem <;>
      exact List.mem_map.mpr ⟨package, hmem, rfl⟩
  · refine exec_getType_of_fileAt h.manifest (by rw [hsplit]; exact h.shard _ package hmem) ?_ hdata
    rw [hsplit, get?_shard, hfound]
    rfl

/-- A type that is looked up in the index of a build and retrieved is one that was collected, read
from the file of its path. -/
lemma exists_of_getType (h : Serves c d k) {package : String} (hq : LooksUp c d q package)
    (hx : ((getType d q).exec (fresh c)).1 = .ok (some x)) :
    ∃ found,
      Ordered.get? (k.types (namespaceFor c q) package) (splitQualifiedName q).2 = some found ∧
      x.decl = found.map .str ∧
      x.sourcePath = (k.sourcePath c (namespaceFor c q) found.sourcePath).text ∧
      readSource d (k.sourcePath c (namespaceFor c q) found.sourcePath) = .ok (some x.text) := by
  obtain ⟨m, hm, hpackage, hsame⟩ := hq
  rw [h.manifest, Except.ok.injEq, Option.some.injEq] at hm
  subst hm
  have hlisted : (k.manifest.map Json.str).packages (namespaceFor c q) =
      (k.packages (namespaceFor c q)).names.map .str := by
    cases namespaceFor c q <;> rfl
  rw [hlisted, List.mem_map] at hpackage
  obtain ⟨_, hmem, heq⟩ := hpackage
  cases heq
  rw [h.shard _ package hmem] at hsame
  obtain ⟨-, shard, -, hshard, hdecl⟩ := exists_shard_of_getType hx
  rw [hsame, Except.ok.injEq, Option.some.injEq] at hshard
  rw [← hshard, get?_shard, Option.map_eq_some_iff] at hdecl
  obtain ⟨found, hfound, hdecl⟩ := hdecl
  have hentry : Ordered.get? ((k.shard (namespaceFor c q) package).map Json.str).types
      (splitQualifiedName q).2 = some (found.map Json.str) := by
    rw [get?_shard, hfound]
    rfl
  have hget := exec_getType h.manifest hsame hentry
  rw [hx] at hget
  refine ⟨found, hfound, hdecl.symm, ?_⟩
  match hread : readSource d (k.sourcePath c (namespaceFor c q) found.sourcePath) with
  | .error _ => simp [hread] at hget
  | .ok none => simp [hread] at hget
  | .ok (some text) =>
    simp only [hread, map_ok, Option.map_some, Except.ok.injEq, Option.some.injEq] at hget
    rw [hget]
    exact ⟨rfl, rfl⟩

end Store

namespace Index.Job

open Store

variable {j : Job} {d d' e : Disk} {s : Summary} {q package : String} {store : Store}
  {x : TypeSource}

/-- After a build that succeeds, as long as its index stays as it is, the methods of a type that is
looked up and retrieved are found by their names, and missed only if no name is the same without
regard to case. A method comes with the lines that are shown with it in the text of its type; if
that is the text of the file which the type was collected from, its first line is among them, and
all its lines are if they are all there. It is that text if the file is as it was and its recorded
path resolves to it. -/
theorem retrieved_method_shown (h : j.run d = (.ok s, d')) (hcwd : e.cwd = d'.cwd)
    (hmanifest : loadManifest j.config e = loadManifest j.config d')
    (hshards : ∀ ns package, loadShard j.config e ns package = loadShard j.config d' ns package)
    (hq : LooksUp j.config e q package) (hstore : Recalls j.config e store)
    (hx : ((getType e q).exec store).1 = .ok (some x)) :
    ∃ files file data u, j.files d (namespaceFor j.config q) = .ok files ∧ file ∈ files ∧
      d.fileAt file = .ok data ∧
      Index.readSource d j.config.maskComments file (j.base d.cwd (namespaceFor j.config q)) =
        .ok (some u) ∧
      x.decl = u.decl.map .str ∧
      (∀ name store, Recalls j.config e store →
        ((getMethod e q (.str name)).exec store).1 =
          .ok ((selectedMethod u.decl.methods name).map fun m =>
            ⟨m.map .str, Text.joinLines (shownLines x.text m), x.decl, x.sourcePath⟩)) ∧
      (∀ name, selectedMethod u.decl.methods name = none ↔
        ∀ m ∈ u.decl.methods, lowercase m.name ≠ lowercase name) ∧
      (x.text = Text.decodeLossy data.toBytes → ∀ m ∈ u.decl.methods,
        Shown x.text m m.lineStart ∧ (m.lineEnd ≤ (Text.lines x.text).length →
          ∀ i, m.lineStart ≤ i → i ≤ m.lineEnd → Shown x.text m i)) ∧
      (e.fileAt file = .ok data → file.IsPlain →
        (j.base d.cwd (namespaceFor j.config q) = none ∨ namespaceFor j.config q = .primary ∨
          j.SecondaryGiven ∨ j.base d.cwd (namespaceFor j.config q) =
            (j.cacheRoot .primary).map (·.resolve d.cwd)) →
        x.text = Text.decodeLossy data.toBytes) := by
  obtain ⟨k, hk, hwritten, hstored⟩ := stored_of_run h
  have hserves := hstored.serves.of_same hmanifest hshards
  have hsteady : ∀ t, Recalls j.config e t → ((getType e q).exec t).1 = .ok (some x) := by
    intro t ht
    have hsteady : SteadyIf True j.config e (getType e q) := steady_getType q
    rw [← hx]
    exact hsteady.same trivial ht hstore
  obtain ⟨found, hfound, hdecl, -, hsource⟩ :=
    exists_of_getType hserves hq (hsteady _ (recalls_fresh _ _))
  obtain ⟨files, hfiles, file, hfile, u, hread, -, -, rfl⟩ := hk.origin hfound
  obtain ⟨data, hdata, hparse⟩ := readSource_eq_some hread
  have hlines : ∀ m ∈ u.decl.methods, 1 ≤ m.lineStart ∧
      m.lineStart ≤ (Text.lines (Text.decodeLossy data.toBytes)).length ∧
      m.lineStart ≤ m.lineEnd := fun m hm => Java.lines_of_parseSource hparse hm
  refine ⟨files, file, data, u, hfiles, hfile, hdata, hread, hdecl, fun name t ht => ?_,
    fun name => selectedMethod_eq_none_iff, fun htext m hm => ?_, fun hkept hplain hled => ?_⟩
  · rw [exec_getMethod (hsteady t ht), hdecl]
    change (findMethod (u.decl.methods.map (Method.map .str)) (.str name)).map _ = _
    rw [findMethod_map]
    match hm : selectedMethod u.decl.methods name with
    | none => rfl
    | some m =>
      obtain ⟨hstart, -, hend⟩ := hlines m (mem_of_selectedMethod hm)
      rw [Option.map_some, Option.map_some, ← excerpt_eq hstart hend]
      rfl
  · obtain ⟨hstart, hinside, hend⟩ := hlines m hm
    exact shown_of_lines hstart (htext ▸ hinside) hend
  · have hcwd' : e.cwd = d.cwd := by
      rw [hcwd, hwritten]
      exact (k.exec_write j.config d).1.cwd
    obtain ⟨other, hother, htext⟩ := exists_fileAt_of_readSource hsource
    have hresolve := (resolve_sourcePath hk hfiles hfile hplain).mpr hled
    rw [(Java.parseSource_eq_some hparse).2.2] at hother
    rw [← hcwd'] at hresolve hother
    rw [htext, Disk.eq_of_fileAt_of_resolve hresolve hplain.up hother hkept]

/-- When a job has read a type and succeeds, it has collected the type; files that are named like
source files are as they were. -/
lemma exists_collected (hok : (j.run d).1.isOk = true) {ns : Namespace} {name : String} {β : Type}
    {seen : TypeDecl String → β} {b : β}
    (hread : (Ordered.get? ((j.packages d ns).toOption.getD []) package).bind
      (fun types => (Ordered.get? types name).map seen) = some b) :
    ∃ s d' k decl, j.run d = (.ok s, d') ∧ j.Collects d k ∧ Serves j.config d' k ∧
      package ∈ (k.packages ns).names ∧ Ordered.get? (k.types ns package) name = some decl ∧
      seen decl = b ∧ ∀ file data, isSourceName file.name = true → d.fileAt file = .ok data →
        d'.fileAt file = .ok data := by
  obtain ⟨s, d', hrun⟩ := exists_of_isOk hok
  obtain ⟨k, hk, -, hstored⟩ := stored_of_run hrun
  obtain ⟨hmem, decl, hdecl, hseen⟩ := hk.exists_type _ _ _ _ hread
  refine ⟨s, d', k, decl, hrun, hk, hstored.serves, hmem, hdecl, hseen, ?_⟩
  intro file data hname hdata
  have hkept := fileAt_run_of_isSourceName (j := j) hname hdata
  rwa [hrun] at hkept

/-- A home whose cache holds a type with a method. -/
def methodDisk : Disk where
  root := .directory [("home", .directory [("cache", .directory [("2", .directory [("client",
    .directory [("A.java", .file 0 (.bytes "package b;\nclass A\x7b\nint f();".toUTF8))])])])])]
  cwd := []
  nextSerial := 1

def methodFile : Path := ⟨"/", ["home", "cache", "2", "client", "A.java"]⟩

set_option maxRecDepth 100000 in
theorem retrieved_method_shown_cached : ∃ s d' x m, cachedJob.run methodDisk = (.ok s, d') ∧
    ((getType d' "b.A").exec (fresh cachedJob.config)).1 = .ok (some x) ∧
    ((getMethod d' "b.A" (.str "F")).exec (fresh cachedJob.config)).1 =
      .ok (some ⟨Method.map .str m, Text.joinLines (shownLines x.text m), x.decl, x.sourcePath⟩) ∧
    Shown x.text m m.lineStart := by
  have hok : (cachedJob.run methodDisk).1.isOk = true := by decide +kernel
  have hfiles : (cachedJob.files methodDisk .primary).toOption = some [methodFile] := by
    decide +kernel
  have hfound : (Ordered.get? ((cachedJob.packages methodDisk .primary).toOption.getD []) "b").bind
      (fun types => (Ordered.get? types "A").map fun decl =>
        (decl.sourcePath, decl.methods.map Method.name)) = some ("A.java", ["f"]) := by
    decide +kernel
  obtain ⟨s, d', k, decl, hrun, hk, hserves, hmem, hdecl, hseen, hkept⟩ :=
    exists_collected hok hfound
  obtain ⟨hrecorded, hnames⟩ := Prod.mk.inj hseen
  have hpath : k.sourcePath cachedJob.config .primary decl.sourcePath = methodFile := by
    rw [hrecorded, Contents.sourcePath]
    change ((_ : Path) / (if k.version == "" then _ else k.version) / "client" |>.join _) = _
    rw [hk.version]
    decide +kernel
  obtain ⟨hlooks, hget⟩ := getType_of_collected hserves (q := "b.A") (by decide) (by decide)
    hmem hdecl hpath (hkept _ _ (by decide) rfl)
  obtain ⟨files, file, data, u, hf, hfile, hdata, -, hsame, hmethod, hnone, hshown, htext⟩ :=
    retrieved_method_shown hrun rfl rfl (fun _ _ => rfl) hlooks (recalls_fresh _ _) hget
  have hns : namespaceFor cachedJob.config "b.A" = .primary := by decide
  rw [hns] at hf htext
  rw [hf, Except.toOption, Option.some.injEq] at hfiles
  rw [hfiles, List.mem_singleton] at hfile
  subst hfile
  rw [names_of_map_eq hsame] at hnames
  obtain ⟨m, hm, hname⟩ := List.map_eq_singleton_iff.mp hnames
  have hcase : (m.name == "F") = false ∧ (lowercase m.name == lowercase "F") = true := by
    rw [hname]
    decide
  have hselected : selectedMethod u.decl.methods "F" = some m := by
    simp [selectedMethod, hm, hcase.1, hcase.2]
  refine ⟨s, d', _, m, hrun, hget, ?_, ?_⟩
  · rw [hmethod "F" _ (recalls_fresh _ _), hselected]
    rfl
  · have hplain : methodFile.IsPlain := ⟨by decide, by decide, by decide, by decide, by decide⟩
    have hsource := htext (hkept _ _ (by decide) hdata) hplain (Or.inr (Or.inl rfl))
    exact (hshown hsource m (by simp [hm])).1

/-- Sources below a directory with a backslash in its name, and another file at that path with a
slash. -/
def slashedDisk : Disk where
  root := .directory [
    ("one", .directory [("x", .directory [("A.java", .file 0 (.bytes "".toUTF8))])]),
    ("one\\x", .directory [("A.java", .file 1 (.bytes
      "package p;\nclass A\x7b\nint f();".toUTF8))])]
  cwd := []
  nextSerial := 2

def slashedJob : Job := plainJob ⟨"/", ["one\\x"]⟩ "2"

def slashedFile : Path := ⟨"/", ["one\\x", "A.java"]⟩

set_option maxRecDepth 100000 in
/-- A method may come without the lines of the file that its type was collected from, though that
file is as it was, and from a text that does not have its first line. -/
theorem retrieved_method_not_shown : ∃ s d' data x y, slashedJob.run slashedDisk = (.ok s, d') ∧
    slashedJob.files slashedDisk .primary = .ok [slashedFile] ∧
    slashedDisk.fileAt slashedFile = .ok data ∧ d'.fileAt slashedFile = .ok data ∧
    ((getType d' "p.A").exec (fresh slashedJob.config)).1 = .ok (some x) ∧
    ((getMethod d' "p.A" (.str "f")).exec (fresh slashedJob.config)).1 = .ok (some y) ∧
    y.excerpt ≠ Text.joinLines (shownLines (Text.decodeLossy data.toBytes) y.method) ∧
    ¬ Shown x.text y.method y.method.lineStart := by
  have hok : (slashedJob.run slashedDisk).1.isOk = true := by decide +kernel
  have hfiles : slashedJob.files slashedDisk .primary = .ok [slashedFile] :=
    eq_ok_of_toOption (by decide +kernel)
  have hfound :
      (Ordered.get? ((slashedJob.packages slashedDisk .primary).toOption.getD []) "p").bind
        (fun types => (Ordered.get? types "A").map fun decl =>
          (decl.sourcePath, decl.methods.map fun m => (m.name, m.lineStart, m.lineEnd))) =
            some ("/one/x/A.java", [("f", 3, 3)]) := by
    decide +kernel
  obtain ⟨s, d', k, decl, hrun, -, hserves, hmem, hdecl, hseen, hkept⟩ :=
    exists_collected hok hfound
  obtain ⟨hrecorded, hmethods⟩ := Prod.mk.inj hseen
  have hpath : k.sourcePath slashedJob.config .primary decl.sourcePath =
      ⟨"/", ["one", "x", "A.java"]⟩ := by
    rw [hrecorded]
    rfl
  obtain ⟨-, hget⟩ := getType_of_collected hserves (q := "p.A") (by decide) (by decide)
    hmem hdecl hpath (hkept _ _ (by decide) rfl)
  obtain ⟨m, hm, hplace⟩ := List.map_eq_singleton_iff.mp hmethods
  obtain ⟨hname, hlines⟩ := Prod.mk.inj hplace
  obtain ⟨hstart, hend⟩ := Prod.mk.inj hlines
  have hselected : selectedMethod decl.methods "f" = some m := by
    simp [selectedMethod, hm, hname]
  have hmethod := exec_getMethod hget (.str "f")
  change _ = (findMethod (decl.methods.map (Method.map .str)) (.str "f")).map _ at hmethod
  rw [findMethod_map, hselected] at hmethod
  refine ⟨s, d', _, _, _, hrun, hfiles, rfl, hkept _ _ (by decide) rfl, hget, hmethod, ?_, ?_⟩
  · change excerpt (Text.decodeLossy (FileData.bytes "".toUTF8).toBytes) m.lineStart m.lineEnd ≠
      Text.joinLines (shownLines _ m)
    rw [← excerpt_eq (by omega) (by omega), hstart, hend]
    decide +kernel
  · change ¬ Shown (Text.decodeLossy (FileData.bytes "".toUTF8).toBytes) m m.lineStart
    have hcount :
        (Text.lines (Text.decodeLossy (FileData.bytes "".toUTF8).toBytes)).length = 1 := by
      decide +kernel
    rw [Shown, hcount, hstart, hend]
    decide

end Index.Job

end JavaAtlas
