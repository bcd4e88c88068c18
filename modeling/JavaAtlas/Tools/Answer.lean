import JavaAtlas.Tools.Service

/-!
# Answers of the tools

A request is answered with a JSON object that tells whether it succeeded. A failure that is no
part of an answer ends the request.
-/

namespace JavaAtlas

namespace Tools

open Service

/-- An answer with a list of results and their count. -/
def listed (name : String) (items : List Json) : Json :=
  succeeded [(name, .arr items), ("count", .int items.length)]

def answerGetType (name : Json) : Action Service Json := do
  match ← onStore fun d => Store.typeNamed d name with
  | none => return failed ("Class not found: " ++ name.display)
  | some source =>
    let decl := source.decl
    return succeeded [
      ("class_name", name), ("kind", .str decl.kind.keyword),
      ("super", Json.ofOption decl.superType), ("interfaces", .arr decl.interfaces),
      ("fields", Json.ofTexts
        (decl.fields.map fun f => f.type.display ++ " " ++ f.name.display)),
      ("methods", Json.ofTexts (decl.methods.map Method.signature)),
      ("source_path", .str source.sourcePath), ("source", .str (String.ofList source.text))]

def answerGetMethod (typeName method : Json) : Action Service Json := do
  match ← onStore fun d => Store.methodNamed d typeName method with
  | none =>
    return failed ("Method '" ++ method.display ++ "' not found in class " ++ typeName.display)
  | some source =>
    let m := source.method
    return succeeded [
      ("class_name", typeName), ("method_name", m.name), ("signature", .str m.signature),
      ("modifiers", .arr m.modifiers), ("line_start", .int m.lineStart),
      ("line_end", .int m.lineEnd), ("class_super", Json.ofOption source.owner.superType),
      ("source_path", .str source.sourcePath), ("source", .str (String.ofList source.excerpt))]

/-- Answer a question from the index that is there. -/
def answerQuery : IndexQuery → Action Service Json
  | .search query kind => do
    let hits ← onStore fun d => Store.searchFor d query kind
    return listed "results" (hits.map SearchHit.toJson)
  | .listTypes package => do
    let types ← onStore fun d => Store.typesWithin d package
    return listed "classes" (types.map TypeListing.toJson)
  | .listPackages ns => do
    return listed "packages" (← onStore fun d => Store.listPackages d ns)
  | .getType name => answerGetType name
  | .getMethod typeName method => answerGetMethod typeName method
  | .hierarchy name direction => do
    let types ← onStore fun d => Store.findHierarchy d name direction
    return succeeded [
      ("direction", .str direction.name),
      ("classes", .arr (types.map TypeListing.toHierarchyJson)), ("count", .int types.length)]

/-- The answer when the index cannot be made ready. -/
def unavailable (e : Failure) : Json := failed ("Index not available: " ++ e.message)

def callGraphMissing (e : Failure) : Json :=
  .obj [("success", .bool false), ("error", .str e.message), ("callgraph_missing", .bool true)]

/-- Answer from the call graph; that there is none yet is an answer too. -/
def fromGraph {α : Type} (act : Action Service α) (reply : α → Json) : Action Service Json := do
  match ← Action.outcome act with
  | .ok a => return reply a
  | .error e => if e.family == .callGraph then return callGraphMissing e else throw e

def answerBuild : Except Failure Index.Summary → Json
  | .ok summary => succeeded summary.members
  | .error e => failed e.message

def answerIngest (amb : Ambient) (dump : Json) : Action Service Json := do
  let path ← Action.ofExcept (Store.pathOf dump)
  let path ← Action.ofExcept (Config.expandUser amb.environment path)
  if ← Action.ofExcept ((← get).disk.isFile path) then
    let s ← get
    let session : CallGraph.Store.Session := ⟨.ofDisk s.disk, s.graph⟩
    let (outcome, session) := (CallGraph.Store.rebuild amb.sizes.batch path).run session
    set { s with disk := session.workspace.disk, graph := session.store }
    match outcome with
    | .ok count =>
      return succeeded [("records", .int count), ("db_path", .str s.graph.path.text)]
    | .error e => return failed e.message
  else return failed ("Dump file not found: " ++ path.text)

/-- Tell the phase, the manifest and the counts of the call graph. -/
def answerStatus : Action Service Json := do
  let ready ← hasIndex
  let s ← get
  let phase := [("ready", Json.bool ready), ("state", .str s.phase.name),
    ("error", Json.ofText? s.error)]
  let index ← if ready then do
      let (version, secondaryVersion) ← onStore Store.versions
      let primary ← onStore fun d => Store.listPackages d (some .primary)
      let secondary ← onStore fun d => Store.listPackages d (some .secondary)
      pure [("corpus_version", version), ("secondary_corpus_version", secondaryVersion),
        ("primary_packages", Json.int primary.length),
        ("secondary_packages", Json.int secondary.length)]
    else pure []
  let stats ← onGraph CallGraph.Store.stats
  let graph := match stats with
    | some stats => Json.obj stats.members
    | none => .null
  return succeeded [("status", .obj (phase ++ index ++ [("callgraph", graph)]))]

/-- Answer a request that needs no index. -/
def answerDirect (amb : Ambient) : Request → Action Service Json
  | .refs typeName method callers =>
    fromGraph
      (onGraph fun d =>
        if callers then CallGraph.Store.findCallers d typeName method
        else CallGraph.Store.findCallees d typeName method)
      fun refs => succeeded [
        ("direction", .str (if callers then "callers" else "callees")),
        ("refs", .arr (refs.map CallGraph.MethodRef.toJson)), ("count", .int refs.length)]
  | .searchMethods query limit => do
    fromGraph (onGraph fun d => CallGraph.Store.searchMethods d query (.int limit)) fun refs =>
      listed "methods" (refs.map CallGraph.MethodRef.toJson)
  | .callGraphStats => do
    match ← onGraph CallGraph.Store.stats with
    | some stats => return succeeded stats.members
    | none => return callGraphMissing (.callGraphMissing (← get).graph.path)
  | .ingest dump => answerIngest amb dump
  | .refused answer => return answer
  | _ => answerStatus

/-- Answer a request that has the service to itself. -/
def answer (amb : Ambient) : Request → Action Service Json
  | .query q => do
    match ← Action.outcome (ensureIndex amb) with
    | .ok _ => answerQuery q
    | .error e => return unavailable e
  | .rebuild version secondaryVersion => do
    modify fun s => { s with phase := .initializing }
    return answerBuild (← runRebuild amb version secondaryVersion)
  | r => answerDirect amb r

def callTool (amb : Ambient) (tool : String) (args : Json) : Action Service Json := do
  answer amb (← Action.ofExcept (readRequest tool args))

/-- The text that a server sends for a call of a tool. -/
def replyText (amb : Ambient) (tool : String) (args : Json) : Action Service String := do
  let args := if args.truthy then args else .obj []
  match ← Action.outcome (callTool amb tool args) with
  | .ok v => return v.print .answer
  | .error e => return (Json.obj [("error", .str e.message)]).print .compactAscii

end Tools

end JavaAtlas
