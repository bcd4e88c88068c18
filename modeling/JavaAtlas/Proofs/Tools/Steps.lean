import JavaAtlas.Tools.Answer
import JavaAtlas.Proofs.Index.Job
import JavaAtlas.Proofs.Index.Memory
import JavaAtlas.Proofs.Index.Store

/-!
# The steps of a service

What each step of a service does to its disk and to its stores. A question is answered from the
store of the index alone. The build that a question starts, and every build that is asked for by
versions, is a job with its roots in the cache.
-/

namespace JavaAtlas

namespace Tools

open Index

/-! ### Builds from the cache -/

/-- The primary sources of a version in the cache. -/
def sourcesOf (c : Config) (version : String) : Path := c.cacheDir / version / "client"

lemma primarySourceDir_of_ne (c : Config) {version : String} (h : version ≠ "") :
    c.primarySourceDir (.str version) = .ok (sourcesOf c version) := by
  rw [Store.primarySourceDir_str, if_neg (by simpa using h)]
  rfl

/-- The build from the cache for given versions; the configured ones stand in for those that are
not given. -/
def cacheJob (c : Config) (amb : Ambient) (version secondaryVersion : Option String) : Job :=
  let version := (version.filter (· != "")).getD c.version
  let secondaryVersion := (secondaryVersion.filter (· != "")).or c.secondaryVersion
  { config := c
    sizes := amb.sizes
    generatedAt := amb.generatedAt
    primaryRoot := sourcesOf c version
    version := version
    secondaryRoot := c.secondarySourceDir (Json.ofText? secondaryVersion)
    secondaryVersion := secondaryVersion }

lemma given?_ofText? (v : Option String) :
    (Json.ofText? v).given? = (v.filter (· != "")).map .str := by
  match v with
  | none => rfl
  | some v => by_cases h : v = "" <;> simp [Json.ofText?, Json.given?, Json.truthy, Option.filter, h]

lemma cacheRequest_eq (c : Config) (amb : Ambient) (version secondaryVersion : Option String) :
    cacheRequest c (Json.ofText? version) (Json.ofText? secondaryVersion) =
      .ok (cacheJob c amb version secondaryVersion).request := by
  have hversion : ((version.filter (· != "")).map Json.str).getD (.str c.version) =
      .str ((version.filter (· != "")).getD c.version) := by
    cases version.filter (· != "") <;> rfl
  have hsecondary : ((secondaryVersion.filter (· != "")).map Json.str).getD
      (Json.ofText? c.secondaryVersion) =
        Json.ofText? ((secondaryVersion.filter (· != "")).or c.secondaryVersion) := by
    cases secondaryVersion.filter (· != "") <;> rfl
  -- an empty version can only be the configured one
  have hroot : c.primarySourceDir (.str ((version.filter (· != "")).getD c.version)) =
      .ok (sourcesOf c ((version.filter (· != "")).getD c.version)) := by
    rw [Store.primarySourceDir_str, sourcesOf]
    match h : version.filter (· != "") with
    | none => by_cases hc : c.version = "" <;> simp [hc]
    | some v =>
      have hv : v ≠ "" := by simpa using (Option.filter_eq_some_iff.mp h).2
      simp [hv]
  rw [cacheRequest, given?_ofText?, given?_ofText?, hversion, hsecondary, hroot]
  rfl

/-- A build from the cache runs its job. -/
lemma exec_buildFromCache (c : Config) (amb : Ambient) (version secondaryVersion : Option String)
    (w : Workspace) :
    (buildFromCache c amb.sizes amb.generatedAt (Json.ofText? version)
        (Json.ofText? secondaryVersion)).exec w =
      (build c amb.sizes amb.generatedAt (cacheJob c amb version secondaryVersion).request).exec
        w := by
  rw [buildFromCache, cacheRequest_eq c amb, Action.exec_bind_of_ok (Action.exec_ofExcept ..)]

namespace Service

variable {α β : Type}

/-! ### Parts of the state -/

lemma exec_onStore (act : Disk → Action Store α) (s : Service) :
    (onStore act).exec s =
      (((act s.disk).exec s.store).1, { s with store := ((act s.disk).exec s.store).2 }) := rfl

lemma exec_onDisk (act : Action Workspace α) (s : Service) :
    (onDisk act).exec s =
      ((act.exec (.ofDisk s.disk)).1, { s with disk := (act.exec (.ofDisk s.disk)).2.disk }) := rfl

lemma exec_hasIndex (s : Service) : hasIndex.exec s = (Store.isReady s.config s.disk, s) := by
  rw [hasIndex, Action.exec_bind_of_ok (Action.exec_get ..), Action.exec_ofExcept]

lemma exec_forgetIndex (s : Service) :
    forgetIndex.exec s = (.ok (), { s with store := s.store.forget }) := rfl

/-- The build of the configured version. -/
lemma exec_onDisk_cache (amb : Ambient) (version secondaryVersion : Option String) (s : Service) :
    (onDisk (buildFromCache s.config amb.sizes amb.generatedAt (Json.ofText? version)
        (Json.ofText? secondaryVersion))).exec s =
      (((cacheJob s.config amb version secondaryVersion).run s.disk).1,
        { s with disk := ((cacheJob s.config amb version secondaryVersion).run s.disk).2 }) := by
  rw [exec_onDisk, exec_buildFromCache]
  rfl

/-! ### Making sure of an index -/

def sourceDir (s : Service) : Path := sourcesOf s.config s.config.version

/-- What a service can do to make sure of an index: the outcome, and the disk and the store of the
index that it leaves. -/
inductive Ensures (amb : Ambient) (s : Service) : Except Failure Unit → Disk → Store → Prop
  /-- There is an index already. -/
  | ready (hready : Store.isReady s.config s.disk = .ok true) : Ensures amb s (.ok ()) s.disk s.store
  /-- There is none, and no sources to build it from. -/
  | refused (e : Failure) (hready : Store.isReady s.config s.disk ≠ .ok true)
      (hsource : Store.isReady s.config s.disk = .ok false →
        s.disk.isDirectory s.sourceDir ≠ .ok true) :
      Ensures amb s (.error e) s.disk s.store
  /-- There is none, and building it fails. -/
  | broken {e : Failure} {d : Disk} (hready : Store.isReady s.config s.disk = .ok false)
      (hsource : s.disk.isDirectory s.sourceDir = .ok true)
      (hrun : (cacheJob s.config amb none none).run s.disk = (.error e, d)) :
      Ensures amb s (.error e) d s.store
  /-- There was none, and it is built. -/
  | built {summary : Summary} {d : Disk} (hready : Store.isReady s.config s.disk = .ok false)
      (hsource : s.disk.isDirectory s.sourceDir = .ok true)
      (hrun : (cacheJob s.config amb none none).run s.disk = (.ok summary, d)) :
      Ensures amb s (.ok ()) d (.fresh s.store.config)

lemma ensures_buildIfMissing (amb : Ambient) (s : Service) :
    Ensures amb s ((buildIfMissing amb).exec s).1 ((buildIfMissing amb).exec s).2.disk
        ((buildIfMissing amb).exec s).2.store ∧
      ((buildIfMissing amb).exec s).2.config = s.config := by
  have hdir : s.config.primarySourceDir .null = .ok s.sourceDir := rfl
  rw [buildIfMissing]
  match hready : Store.isReady s.config s.disk with
  | .error e =>
    rw [Action.exec_bind_of_error ((exec_hasIndex s).trans (by rw [hready]))]
    exact ⟨.refused e (by simp [hready]) (by simp [hready]), rfl⟩
  | .ok true =>
    rw [Action.exec_bind_of_ok ((exec_hasIndex s).trans (by rw [hready]))]
    exact ⟨.ready hready, rfl⟩
  | .ok false =>
    rw [Action.exec_bind_of_ok ((exec_hasIndex s).trans (by rw [hready]))]
    simp only [Bool.false_eq_true, if_false]
    rw [Action.exec_bind_of_ok (Action.exec_get ..), hdir,
      Action.exec_bind_of_ok (Action.exec_ofExcept ..)]
    match hsource : s.disk.isDirectory s.sourceDir with
    | .error e =>
      rw [Action.exec_bind_of_error (Action.exec_ofExcept ..)]
      exact ⟨.refused e (by simp [hready]) (by simp [hsource]), rfl⟩
    | .ok false =>
      rw [Action.exec_bind_of_ok (Action.exec_ofExcept ..)]
      exact ⟨.refused _ (by simp [hready]) (by simp [hsource]), rfl⟩
    | .ok true =>
      rw [Action.exec_bind_of_ok (Action.exec_ofExcept ..)]
      simp only [if_true]
      have hbuild := exec_onDisk_cache amb none none s
      simp only [Json.ofText?] at hbuild
      match hrun : (cacheJob s.config amb none none).run s.disk with
      | (.error e, d) =>
        rw [hrun] at hbuild
        rw [Action.exec_bind_of_error hbuild]
        exact ⟨.broken hready hsource hrun, rfl⟩
      | (.ok summary, d) =>
        rw [hrun] at hbuild
        rw [Action.exec_bind_of_ok hbuild]
        exact ⟨.built hready hsource hrun, rfl⟩

/-- The phase and the error of a service do not matter to what it finds. -/
lemma Ensures.congr {amb : Ambient} {s t : Service} {r : Except Failure Unit} {d : Disk}
    {store : Store} (h : Ensures amb s r d store) (hdisk : t.disk = s.disk)
    (hconfig : t.config = s.config) (hstore : t.store = s.store) : Ensures amb t r d store := by
  have hdir : t.sourceDir = s.sourceDir := by rw [sourceDir, sourceDir, hconfig]
  cases h with
  | ready hready =>
    rw [← hdisk, ← hstore]
    exact .ready (by rwa [hconfig, hdisk])
  | refused e hready hsource =>
    rw [← hdisk, ← hstore]
    exact .refused e (by rwa [hconfig, hdisk]) (by rwa [hconfig, hdisk, hdir])
  | broken hready hsource hrun =>
    rw [← hstore]
    exact .broken (by rwa [hconfig, hdisk]) (by rwa [hdisk, hdir]) (by rwa [hconfig, hdisk])
  | built hready hsource hrun =>
    rw [← hstore]
    exact .built (by rwa [hconfig, hdisk]) (by rwa [hdisk, hdir]) (by rwa [hconfig, hdisk])

/-- The end of a build is told by the phase and the error alone. -/
lemma exec_settle (outcome : Except Failure α) (s : Service) :
    ∃ phase error, (settle outcome).exec s = (.ok (), { s with phase, error }) := by
  cases outcome with
  | error e => exact ⟨_, _, rfl⟩
  | ok a => exact ⟨_, _, rfl⟩

lemma ensures_runInitialize (amb : Ambient) (s : Service) :
    ∃ outcome t, (runInitialize amb).exec s = (.ok outcome, t) ∧
      Ensures amb s outcome t.disk t.store ∧ t.config = s.config := by
  obtain ⟨hensures, hconfig⟩ := ensures_buildIfMissing amb s
  obtain ⟨phase, error, hsettle⟩ :=
    exec_settle ((buildIfMissing amb).exec s).1 ((buildIfMissing amb).exec s).2
  have hrun : (runInitialize amb).exec s = (.ok ((buildIfMissing amb).exec s).1,
      { ((buildIfMissing amb).exec s).2 with phase, error }) := by
    rw [runInitialize, Action.exec_bind_of_ok (Action.exec_outcome ..),
      Action.exec_bind_of_ok hsettle]
    rfl
  exact ⟨_, _, hrun, hensures, hconfig⟩

/-- Making sure of an index is to build it if it is missing. -/
theorem ensures_ensureIndex (amb : Ambient) (s : Service) :
    Ensures amb s ((ensureIndex amb).exec s).1 ((ensureIndex amb).exec s).2.disk
        ((ensureIndex amb).exec s).2.store ∧
      ((ensureIndex amb).exec s).2.config = s.config := by
  obtain ⟨outcome, t, hrun, hensures, hconfig⟩ :=
    ensures_runInitialize amb { s with phase := .initializing }
  have hslow : (do
      modify fun s : Service => { s with phase := .initializing }
      Action.ofExcept (← runInitialize amb) : Action Service Unit).exec s = (outcome, t) := by
    rw [Action.exec_bind_of_ok (Action.exec_modify ..), Action.exec_bind_of_ok hrun,
      Action.exec_ofExcept]
  have hbuilt : Ensures amb s outcome t.disk t.store ∧ t.config = s.config :=
    ⟨hensures.congr rfl rfl rfl, hconfig⟩
  have husable : isUsable.exec s =
      if s.phase == .ready then (Store.isReady s.config s.disk, s) else (.ok false, s) := by
    rw [isUsable, Action.exec_bind_of_ok (Action.exec_get ..), Action.exec_ite, exec_hasIndex]
    rfl
  rw [ensureIndex]
  by_cases hphase : (s.phase == .ready) = true
  · rw [if_pos hphase] at husable
    match hready : Store.isReady s.config s.disk with
    | .error e =>
      rw [hready] at husable
      rw [Action.exec_bind_of_error husable]
      exact ⟨.refused e (by simp [hready]) (by simp [hready]), rfl⟩
    | .ok true =>
      rw [hready] at husable
      rw [Action.exec_bind_of_ok husable]
      exact ⟨.ready hready, rfl⟩
    | .ok false =>
      rw [hready] at husable
      rw [Action.exec_bind_of_ok husable]
      simp only [Bool.false_eq_true, if_false]
      rwa [hslow]
  · rw [if_neg hphase] at husable
    rw [Action.exec_bind_of_ok husable]
    simp only [Bool.false_eq_true, if_false]
    rwa [hslow]

end Service

/-! ### Questions -/

/-- Whether a question is answered by a walk through the packages of the manifest. -/
def IndexQuery.walks : IndexQuery → Bool
  | .search .. | .listTypes _ | .hierarchy .. => true
  | .listPackages _ | .getType _ | .getMethod .. => false

/-- A question is one look at the store, and an answer made from what was found. The look is steady,
one that does not walk whatever the manifest lists. -/
lemma exec_answerQuery (q : IndexQuery) :
    ∃ (α : Type) (ask : Disk → Action Store α) (reply : α → Json),
      (∀ s, (answerQuery q).exec s = (reply <$> ((ask s.disk).exec s.store).1,
        { s with store := ((ask s.disk).exec s.store).2 })) ∧
      ∀ c d, Store.SteadyIf (q.walks = true → Store.Unmistaken c d) c d (ask d) := by
  -- every branch of an answer returns at once
  have hreply : ∀ {α : Type} (ask : Disk → Action Store α) (next : α → Action Service Json),
      answerQuery q = Service.onStore ask >>= next → (∀ a, ∃ v, next a = pure v) →
      ∃ reply : α → Json, ∀ s, (answerQuery q).exec s = (reply <$> ((ask s.disk).exec s.store).1,
        { s with store := ((ask s.disk).exec s.store).2 }) := by
    intro α ask next hq hnext
    choose reply hreply using hnext
    refine ⟨reply, fun s => ?_⟩
    rw [hq, Action.exec_bind, Service.exec_onStore]
    cases ((ask s.disk).exec s.store).1 with
    | error e => rfl
    | ok a => simp only [hreply, Action.exec_pure, map_ok]
  cases q with
  | search query kind =>
    obtain ⟨reply, h⟩ := hreply _ _ rfl fun a => ⟨_, rfl⟩
    exact ⟨_, _, reply, h, fun _ _ =>
      (Store.steady_searchFor query kind).mono fun hapart => hapart rfl⟩
  | listTypes package =>
    obtain ⟨reply, h⟩ := hreply _ _ rfl fun a => ⟨_, rfl⟩
    exact ⟨_, _, reply, h, fun _ _ =>
      (Store.steady_typesWithin package).mono fun hapart => hapart rfl⟩
  | listPackages ns =>
    obtain ⟨reply, h⟩ := hreply _ _ rfl fun a => ⟨_, rfl⟩
    exact ⟨_, _, reply, h, fun _ _ => Store.steady_listPackages ns⟩
  | getType name =>
    obtain ⟨reply, h⟩ := hreply _ _ rfl (by rintro (_ | source) <;> exact ⟨_, rfl⟩)
    exact ⟨_, _, reply, h, fun _ _ => Store.steady_typeNamed name⟩
  | getMethod typeName method =>
    obtain ⟨reply, h⟩ := hreply _ _ rfl (by rintro (_ | source) <;> exact ⟨_, rfl⟩)
    exact ⟨_, _, reply, h, fun _ _ => Store.steady_methodNamed typeName method⟩
  | hierarchy name direction =>
    obtain ⟨reply, h⟩ := hreply _ _ rfl fun a => ⟨_, rfl⟩
    exact ⟨_, _, reply, h, fun _ _ =>
      (Store.steady_findHierarchy name direction).mono fun hapart => hapart rfl⟩

/-- A question changes nothing on the disk. -/
lemma disk_answerQuery (q : IndexQuery) (s : Service) :
    ((answerQuery q).exec s).2.disk = s.disk := by
  obtain ⟨α, ask, reply, hrun, -⟩ := exec_answerQuery q
  rw [hrun]

/-- An answer depends on the disk and on the store of the index alone. -/
lemma answerQuery_ext (q : IndexQuery) {s t : Service} (hdisk : s.disk = t.disk)
    (hstore : s.store = t.store) : ((answerQuery q).exec s).1 = ((answerQuery q).exec t).1 := by
  obtain ⟨α, ask, reply, hrun, -⟩ := exec_answerQuery q
  rw [hrun, hrun, hdisk, hstore]

/-- The answer to a question where no package is indexed. -/
def emptyAnswer : IndexQuery → Except Failure Json
  | .search query _ => (query.textFor "lower").map fun _ => listed "results" []
  | .listTypes _ => .ok (listed "classes" [])
  | .listPackages _ => .ok (listed "packages" [])
  | .getType name => .ok (failed ("Class not found: " ++ name.display))
  | .getMethod typeName method =>
    .ok (failed ("Method '" ++ method.display ++ "' not found in class " ++ typeName.display))
  | .hierarchy _ direction =>
    .ok (succeeded [("direction", .str direction.name), ("classes", .arr []), ("count", .int 0)])

/-- Where there is no manifest file there is no manifest. -/
lemma loadManifest_of_not_ready {d : Disk} (h : Store.isReady c d = .ok false) :
    loadManifest c d = .ok none := by
  rw [Store.isReady] at h
  simp only [loadManifest, readJson, h, ok_bind, Bool.false_eq_true, if_false, pure_eq_ok]

/-- Without a manifest every question has the empty answer. -/
lemma answerQuery_of_none (s : Service) (hnone : loadManifest s.config s.disk = .ok none)
    (hstore : s.store = .fresh s.config) (q : IndexQuery) :
    ((answerQuery q).exec s).1 = emptyAnswer q := by
  have hget : (Store.getManifest s.disk).exec s.store = (.ok none, s.store) := by
    rw [hstore, Store.getManifest, Action.exec_bind_of_ok (Action.exec_get ..)]
    simp only [Store.fresh, hnone]
    rfl
  have htext : ∀ operation v, (Store.textIfIndexed s.disk operation v).exec s.store =
      (.ok none, s.store) := fun _ _ => Action.exec_bind_of_ok hget
  cases q with
  | search query kind =>
    rw [answerQuery, Action.exec_bind_pure_fst, Service.exec_onStore, Store.searchFor, emptyAnswer]
    cases query.textFor "lower" with
    | error e => rfl
    | ok text =>
      rw [Action.exec_bind_of_ok (Action.exec_ofExcept ..), Store.search,
        Action.exec_bind_of_ok hget]
      rfl
  | listTypes package =>
    rw [answerQuery, Action.exec_bind_pure_fst, Service.exec_onStore]
    have hfound : ((Store.typesWithin s.disk package).exec s.store).1 = .ok [] := by
      cases package with
      | null =>
        rw [Store.typesWithin, Store.listTypes, Action.exec_bind_of_ok hget]
        rfl
      | bool _ | int _ | float _ | str _ | arr _ | obj _ =>
        exact congrArg Prod.fst (Action.exec_bind_of_ok (htext "lower" _))
    rw [hfound]
    rfl
  | listPackages ns =>
    rw [answerQuery, Action.exec_bind_pure_fst, Service.exec_onStore, Store.listPackages,
      Action.exec_bind_of_ok hget]
    rfl
  | getType name =>
    have hfound : (Store.typeNamed s.disk name).exec s.store = (.ok none, s.store) := by
      rw [Store.typeNamed, Action.exec_bind_of_ok (htext _ _)]
      rfl
    rw [answerQuery, answerGetType, Action.exec_bind, Service.exec_onStore, hfound]
    rfl
  | getMethod typeName method =>
    have hfound : (Store.methodNamed s.disk typeName method).exec s.store = (.ok none, s.store) := by
      rw [Store.methodNamed, Action.exec_bind_of_ok (htext _ _)]
      rfl
    rw [answerQuery, answerGetMethod, Action.exec_bind, Service.exec_onStore, hfound]
    rfl
  | hierarchy name direction =>
    rw [answerQuery, Action.exec_bind_pure_fst, Service.exec_onStore, Store.findHierarchy,
      Action.exec_bind_of_ok hget]
    rfl

/-! ### Answers that tell of no error -/

/-- The first letter of the error that an answer tells. -/
def errorInitial (r : Except Failure Json) : Option Char :=
  match r.bind (·.member "error" .null) with
  | .ok (.str message) => message.toList.head?
  | _ => none

lemma errorInitial_error (e : Failure) : errorInitial (.error e) = none := rfl

lemma errorInitial_failed (message : String) :
    errorInitial (.ok (failed message)) = message.toList.head? := rfl

lemma errorInitial_map {α : Type} {f : α → Json} (h : ∀ a, errorInitial (.ok (f a)) = none)
    (r : Except Failure α) : errorInitial (f <$> r) = none := by
  cases r with
  | error e => exact errorInitial_error e
  | ok a => exact h a

/-- What an answer from the index calls missing is a type or a method. -/
lemma errorInitial_answerQuery (q : IndexQuery) (s : Service) :
    errorInitial ((answerQuery q).exec s).1 ≠ some 'I' := by
  cases q with
  | search _ _ | listTypes _ | listPackages _ | hierarchy _ _ =>
    rw [answerQuery, Action.exec_bind_pure_fst, errorInitial_map fun _ => rfl]
    simp
  | getType name =>
    rw [answerQuery, answerGetType, Action.exec_bind]
    generalize (Service.onStore fun d => Store.typeNamed d name).exec s = done
    obtain ⟨e | _ | source, t⟩ := done
    · simp [errorInitial_error]
    · change errorInitial (.ok (failed _)) ≠ _
      rw [errorInitial_failed, String.toList_append]
      change some 'C' ≠ some 'I'
      decide
    · change none ≠ some 'I'
      simp
  | getMethod typeName method =>
    rw [answerQuery, answerGetMethod, Action.exec_bind]
    generalize (Service.onStore fun d => Store.methodNamed d typeName method).exec s = done
    obtain ⟨e | _ | source, t⟩ := done
    · simp [errorInitial_error]
    · change errorInitial (.ok (failed _)) ≠ _
      rw [errorInitial_failed]
      simp only [String.toList_append]
      change some 'M' ≠ some 'I'
      decide
    · change none ≠ some 'I'
      simp

/-- An answer from the index does not tell that there is none. -/
lemma answerQuery_ne_unavailable (q : IndexQuery) (s : Service) (e : Failure) :
    ((answerQuery q).exec s).1 ≠ .ok (unavailable e) := by
  intro h
  apply errorInitial_answerQuery q s
  rw [h, unavailable, errorInitial_failed, String.toList_append]
  rfl

/-! ### Direct answers -/

/-- Making the call graph changes the disk and the store of the call graph alone. -/
lemma exec_answerIngest (amb : Ambient) (dump : Json) (s : Service) :
    ∃ disk graph, ((answerIngest amb dump).exec s).2 = { s with disk, graph } := by
  rw [answerIngest]
  match Store.pathOf dump with
  | .error e => exact ⟨_, _, rfl⟩
  | .ok path =>
    rw [Action.exec_bind_of_ok (Action.exec_ofExcept ..)]
    match Config.expandUser amb.environment path with
    | .error e => exact ⟨_, _, rfl⟩
    | .ok path =>
      rw [Action.exec_bind_of_ok (Action.exec_ofExcept ..),
        Action.exec_bind_of_ok (Action.exec_get ..)]
      match s.disk.isFile path with
      | .error e => exact ⟨_, _, rfl⟩
      | .ok false => exact ⟨_, _, rfl⟩
      | .ok true =>
        rw [Action.exec_bind_of_ok (Action.exec_ofExcept ..)]
        simp only [if_true]
        rw [Action.exec_bind_of_ok (Action.exec_get ..)]
        generalize (CallGraph.Store.rebuild amb.sizes.batch path).run _ = done
        obtain ⟨_ | count, session⟩ := done <;> exact ⟨_, _, rfl⟩

section Direct

variable {α : Type} {P : Service → Prop}

lemma keeps_hasIndex : Action.Keeps P Service.hasIndex :=
  Action.Keeps.get.bind fun _ => .ofExcept _

lemma keeps_fromGraph {act : Action Service α} (h : act.Keeps P) (reply : α → Json) :
    (fromGraph act reply).Keeps P := by
  refine h.outcome.bind fun found => ?_
  split
  · exact .pure _
  · split
    · exact .pure _
    · exact .throw _

/-- To tell the state is to ask both stores. -/
lemma keeps_answerStatus (hversions : (Service.onStore Store.versions).Keeps P)
    (hlist : ∀ ns, (Service.onStore fun d => Store.listPackages d ns).Keeps P)
    (hstats : (Service.onGraph CallGraph.Store.stats).Keeps P) : answerStatus.Keeps P := by
  have hgraph : ∀ reply : Option CallGraph.Stats → Json,
      Action.Keeps P (do return reply (← Service.onGraph CallGraph.Store.stats)) :=
    fun reply => hstats.bind fun stats => .pure _
  refine keeps_hasIndex.bind fun ready => Action.Keeps.get.bind fun s => ?_
  simp only
  split
  · refine hversions.bind fun versions => ?_
    refine (hlist _).bind fun primary => ?_
    refine (hlist _).bind fun secondary => ?_
    exact (Action.Keeps.pure _).bind fun index => hgraph _
  · exact (Action.Keeps.pure _).bind fun index => hgraph _

/-- A request that needs no index asks the stores, or makes the call graph. -/
lemma keeps_answerDirect (amb : Ambient) {request : Request}
    (hversions : (Service.onStore Store.versions).Keeps P)
    (hlist : ∀ ns, (Service.onStore fun d => Store.listPackages d ns).Keeps P)
    (hgraph : ∀ {α : Type} (ask : Disk → Action CallGraph.Store α), (Service.onGraph ask).Keeps P)
    (hingest : ∀ dump, request = .ingest dump → (answerIngest amb dump).Keeps P) :
    (answerDirect amb request).Keeps P := by
  cases request with
  | refs typeName method callers => exact keeps_fromGraph (hgraph _) _
  | searchMethods query limit => exact keeps_fromGraph (hgraph _) _
  | callGraphStats =>
    refine (hgraph _).bind fun stats => ?_
    split
    · exact .pure _
    · exact Action.Keeps.get.bind fun _ => .pure _
  | ingest dump => exact hingest dump rfl
  | refused answer => exact .pure _
  | query | rebuild | status => exact keeps_answerStatus hversions hlist (hgraph _)

end Direct

/-! ### Requests -/

lemma exec_callTool {amb : Ambient} {tool : String} {args : Json} {request : Request}
    (h : readRequest tool args = .ok request) (s : Service) :
    (callTool amb tool args).exec s = (answer amb request).exec s := by
  rw [callTool, h, Action.exec_bind_of_ok (Action.exec_ofExcept ..)]

/-- A call makes sure of an index and answers a question, or it builds one, or it needs none. -/
lemma keeps_callTool {P : Service → Prop} {amb : Ambient}
    (hensure : (Service.ensureIndex amb).Keeps P) (hquery : ∀ q, (answerQuery q).Keeps P)
    (hrebuild : ∀ version secondaryVersion, (answer amb (.rebuild version secondaryVersion)).Keeps P)
    (hdirect : ∀ request, (answerDirect amb request).Keeps P) (tool : String) (args : Json) :
    (callTool amb tool args).Keeps P := by
  refine (Action.Keeps.ofExcept _).bind fun request => ?_
  cases request with
  | query q =>
    refine hensure.outcome.bind fun outcome => ?_
    split
    · exact hquery q
    · exact .pure _
  | rebuild version secondaryVersion => exact hrebuild version secondaryVersion
  | ingest | refs | searchMethods | callGraphStats | status | refused => exact hdirect _

/-- A question is answered once there is an index. -/
lemma exec_answer_of_ok {amb : Ambient} {s t : Service}
    (h : (Service.ensureIndex amb).exec s = (.ok (), t)) (q : IndexQuery) :
    (answer amb (.query q)).exec s = (answerQuery q).exec t := by
  rw [answer, Action.exec_bind_of_ok (Action.exec_outcome ..), h]

/-- Without an index the answer tells why there is none. -/
lemma exec_answer_of_error {amb : Ambient} {s t : Service} {e : Failure}
    (h : (Service.ensureIndex amb).exec s = (.error e, t)) (q : IndexQuery) :
    (answer amb (.query q)).exec s = (.ok (unavailable e), t) := by
  rw [answer, Action.exec_bind_of_ok (Action.exec_outcome ..), h]
  rfl

/-- A question first makes sure of an index. It is answered from what that leaves, or with the
reason why there is no index. -/
lemma exists_ensures (amb : Ambient) {tool : String} {args : Json} {q : IndexQuery}
    (hq : readRequest tool args = .ok (.query q)) (s : Service) :
    ∃ outcome store,
      Service.Ensures amb s outcome ((callTool amb tool args).exec s).2.disk store ∧
      (∀ e, outcome = .error e → ((callTool amb tool args).exec s).1 = .ok (unavailable e)) ∧
      (outcome = .ok () → ∀ t : Service, t.disk = ((callTool amb tool args).exec s).2.disk →
        t.store = store → ((callTool amb tool args).exec s).1 = ((answerQuery q).exec t).1) := by
  obtain ⟨hensures, -⟩ := Service.ensures_ensureIndex amb s
  rw [exec_callTool hq]
  match hrun : (Service.ensureIndex amb).exec s with
  | (.error e, u) =>
    rw [hrun] at hensures
    rw [exec_answer_of_error hrun]
    exact ⟨_, _, hensures, by simp, by simp⟩
  | (.ok _, u) =>
    rw [hrun] at hensures
    rw [exec_answer_of_ok hrun, disk_answerQuery]
    exact ⟨_, _, hensures, by simp, fun _ t hdisk hstore => answerQuery_ext q hdisk.symm hstore.symm⟩

/-- After a build that was asked for the store of the index has read nothing. -/
lemma exec_answer_rebuild (amb : Ambient) (version secondaryVersion : Json) (s : Service) :
    let done := (buildFromCache s.config amb.sizes amb.generatedAt version secondaryVersion).exec
      (.ofDisk s.disk)
    ∃ phase error, (answer amb (.rebuild version secondaryVersion)).exec s =
      (.ok (answerBuild done.1),
        { s with disk := done.2.disk, store := s.store.forget, phase, error }) := by
  intro done
  obtain ⟨phase, error, hsettle⟩ := Service.exec_settle done.1
    { s with disk := done.2.disk, store := s.store.forget, phase := .initializing }
  refine ⟨phase, error, ?_⟩
  have hrun : (Service.runRebuild amb version secondaryVersion).exec
      { s with phase := .initializing } =
        (.ok done.1, { s with disk := done.2.disk, store := s.store.forget, phase, error }) := by
    rw [Service.runRebuild, Action.exec_bind_of_ok (Action.exec_get ..),
      Action.exec_bind_of_ok (Action.exec_outcome ..), Service.exec_onDisk,
      Action.exec_bind_of_ok (Service.exec_forgetIndex _)]
    exact Action.exec_bind_of_ok hsettle
  rw [answer, Action.exec_bind_of_ok (Action.exec_modify ..), Action.exec_bind_of_ok hrun]
  rfl

/-! ### Small services -/

def plainAmbient : Ambient := ⟨⟨[], []⟩, .standard, "now"⟩

def tellsSuccess (r : Except Failure Json) : Bool :=
  (r.bind (·.member "success" .null)).toOption.any Json.truthy

lemma not_tellsSuccess_unavailable (e : Failure) : tellsSuccess (.ok (unavailable e)) = false := rfl

end Tools

end JavaAtlas
