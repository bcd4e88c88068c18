import JavaAtlas.CallGraph.Query
import JavaAtlas.Index.Question

/-!
# Requests to tools

A call of a tool is read into a request before anything is done. An argument outside its choices
gives a refusal, which is an answer; arguments that are only used later are kept as they came.
-/

namespace JavaAtlas

namespace Tools

/-- A question to the index. -/
inductive IndexQuery
  | search (query : Json) (kind : Option SymbolKind)
  | listTypes (package : Json)
  | listPackages (ns : Option Namespace)
  | getType (name : Json)
  | getMethod (typeName method : Json)
  | hierarchy (name : Json) (direction : Descent)

/-- A call of a tool, its arguments read. -/
inductive Request
  /-- A question to the index, which is built first if need be. -/
  | query (q : IndexQuery)
  /-- Build the index anew. -/
  | rebuild (version secondaryVersion : Json)
  /-- The callers or the callees of a method. -/
  | refs (typeName method : Json) (callers : Bool)
  /-- Search the methods of the call graph. -/
  | searchMethods (query : Json) (limit : Int)
  /-- Count the call graph. -/
  | callGraphStats
  /-- Make the call graph from a dump. -/
  | ingest (dump : Json)
  /-- Tell the state of everything. -/
  | status
  /-- An answer that refuses an argument. -/
  | refused (answer : Json)

def failed (error : String) : Json := .obj [("success", .bool false), ("error", .str error)]

def succeeded (members : List (String × Json)) : Json := .obj (("success", .bool true) :: members)

/-- An argument read from its choices, or the refusal that names it. -/
def chosen {α : Type} (read : Json → Except Failure α) (what hint : String) (v : Json)
    (use : α → Request) : Request :=
  match read v with
  | .ok a => use a
  | .error _ =>
    .refused (failed ("Invalid " ++ what ++ ": " ++ v.display ++ ". Use " ++ hint ++ "."))

/-- An argument that need not be given, read from its choices. -/
def chosen? {α : Type} (read : Json → Except Failure α) (what hint : String) (v : Json)
    (use : Option α → Request) : Request :=
  if v.truthy then chosen read what hint v (fun a => use (some a)) else use none

/-- The two directions in the call graph; the first one is true. -/
def refDirection (v : Json) : Except Failure Bool :=
  match v with
  | .str "callers" => .ok true
  | .str "callees" => .ok false
  | _ => .error (.notAChoice v "direction")

/-- The least and the greatest number of methods that a tool gives. -/
def clampLimit (n : Int) : Int := max 1 (min n CallGraph.maxRefs)

def readRequest (tool : String) (args : Json) : Except Failure Request :=
  match tool with
  | "mc_search" => do
    let query ← args.member "query" (.str "")
    let kind ← args.member "type" .null
    return chosen? SymbolKind.ofJson "type" "class, method or field" kind fun kind =>
      .query (.search query kind)
  | "mc_list_classes" => do
    return .query (.listTypes (← args.member "package" (.str "")))
  | "mc_list_packages" => do
    let ns ← args.member "namespace" .null
    return chosen? Namespace.ofJson "namespace" "primary or secondary" ns fun ns =>
      .query (.listPackages ns)
  | "mc_get_class" => do
    return .query (.getType (← args.member "class_name" (.str "")))
  | "mc_get_method" => do
    let typeName ← args.member "class_name" (.str "")
    return .query (.getMethod typeName (← args.member "method_name" (.str "")))
  | "mc_find_hierarchy" => do
    let name ← args.member "class_name" (.str "")
    let direction ← args.member "direction" (.str Descent.subclasses.name)
    return chosen Descent.ofJson "direction" "subclasses or implementors" direction fun d =>
      .query (.hierarchy name d)
  | "mc_find_refs" => do
    let typeName ← args.member "class_name" (.str "")
    let method ← args.member "method_name" (.str "")
    let direction ← args.member "direction" (.str "callers")
    return chosen refDirection "direction" "callers or callees" direction fun callers =>
      .refs typeName method callers
  | "mc_search_methods" => do
    let query ← args.member "query" (.str "")
    let limit ← (← args.member "limit" (.int CallGraph.defaultSearchLimit)).toInt
    return .searchMethods query (clampLimit limit)
  | "mc_callgraph_stats" => return .callGraphStats
  | "mc_callgraph_ingest" => return .ingest (← args.member "dump_path" (.str ""))
  | "mc_index_status" => return .status
  | "mc_index_rebuild" => do
    let version ← args.member "version" .null
    return .rebuild version (← args.member "secondary_version" .null)
  | _ => .error (.unknownTool tool)

end Tools

end JavaAtlas
