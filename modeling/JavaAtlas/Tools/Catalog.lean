import JavaAtlas.Json.Value

/-!
# The catalogue of tools

Each tool is advertised with a description and a schema of its arguments.
-/

namespace JavaAtlas

namespace Tools

/-- An argument of a tool; it is one of `choices` unless there are none. -/
structure ToolParameter where
  name : String
  type : String
  description : String
  choices : List String
  deriving DecidableEq, Repr

/-- A tool as it is advertised. -/
structure Tool where
  name : String
  description : String
  parameters : List ToolParameter
  required : List String
  deriving DecidableEq, Repr

def ToolParameter.schema (p : ToolParameter) : Json :=
  let choices := if p.choices.isEmpty then [] else [("enum", Json.ofTexts p.choices)]
  .obj ([("type", .str p.type), ("description", .str p.description)] ++ choices)

def Tool.schema (t : Tool) : Json :=
  let required := if t.required.isEmpty then [] else [("required", Json.ofTexts t.required)]
  .obj ([("type", .str "object"),
    ("properties", .obj (t.parameters.map fun p => (p.name, p.schema)))] ++ required)

def Tool.toJson (t : Tool) : Json :=
  .obj [("name", .str t.name), ("description", .str t.description), ("inputSchema", t.schema)]

def sourceTools : List Tool := [
  { name := "mc_search"
    description :=
      "Search for game or modding API classes, methods, or fields by name. Case-insensitive " ++
      "substring match, at most 50 results."
    parameters := [
      ⟨"query", "string",
        "Class, method, or field name (or partial name)",
        []⟩,
      ⟨"type", "string",
        "Optional filter by symbol kind",
        ["class", "method", "field"]⟩]
    required := ["query"] },
  { name := "mc_list_classes"
    description := "List classes in a package and its sub-packages."
    parameters := [
      ⟨"package", "string",
        "Dotted package name (e.g., 'net.minecraft.client')",
        []⟩]
    required := ["package"] },
  { name := "mc_list_packages"
    description := "List indexed packages."
    parameters := [
      ⟨"namespace", "string",
        "Namespace filter (optional, lists both if not specified)",
        ["primary", "secondary"]⟩]
    required := [] },
  { name := "mc_get_class"
    description :=
      "Get the full decompiled source of a class, with its supertype, interfaces, fields and " ++
      "method signatures."
    parameters := [
      ⟨"class_name", "string",
        "Fully qualified class name (e.g., 'net.minecraft.client.Minecraft')",
        []⟩]
    required := ["class_name"] },
  { name := "mc_get_method"
    description :=
      "Get the source of one method with three lines of surrounding context."
    parameters := [
      ⟨"class_name", "string",
        "Fully qualified class name",
        []⟩,
      ⟨"method_name", "string",
        "Method name (e.g., 'tick', 'render')",
        []⟩]
    required := ["class_name", "method_name"] },
  { name := "mc_find_hierarchy"
    description :=
      "Find classes that extend or implement a type. Types are recorded by simple name (e.g., " ++
      "'LivingEntity')."
    parameters := [
      ⟨"class_name", "string",
        "Supertype or interface name as recorded in the index",
        []⟩,
      ⟨"direction", "string",
        "subclasses = extends the type, implementors = implements the interface",
        ["subclasses", "implementors"]⟩]
    required := ["class_name", "direction"] }]

def callGraphTools : List Tool := [
  { name := "mc_find_refs"
    description :=
      "Find callers (who calls this method) or callees (what this method calls) from the " ++
      "callgraph database. At most 100 results."
    parameters := [
      ⟨"class_name", "string",
        "Fully qualified class name",
        []⟩,
      ⟨"method_name", "string",
        "Method name to find references for",
        []⟩,
      ⟨"direction", "string",
        "callers = who calls this method, callees = what this method calls",
        ["callers", "callees"]⟩]
    required := ["class_name", "method_name", "direction"] },
  { name := "mc_search_methods"
    description := "Search methods in the callgraph by class or method name substring."
    parameters := [
      ⟨"query", "string",
        "Substring of a class or method name",
        []⟩,
      ⟨"limit", "integer",
        "Maximum results, 1 to 100 (default: 50)",
        []⟩]
    required := ["query"] },
  { name := "mc_callgraph_stats"
    description := "Get callgraph totals (edges, distinct callers, distinct callees)."
    parameters := []
    required := [] },
  { name := "mc_callgraph_ingest"
    description := "Rebuild the callgraph database from a TAB-delimited call dump."
    parameters := [
      ⟨"dump_path", "string",
        "Path to the call dump file",
        []⟩]
    required := ["dump_path"] }]

def indexTools : List Tool := [
  { name := "mc_index_status"
    description :=
      "Get status of the symbol index and callgraph database (versions, package counts)."
    parameters := []
    required := [] },
  { name := "mc_index_rebuild"
    description := "Rebuild the symbol index from cached decompiled sources."
    parameters := [
      ⟨"version", "string",
        "Corpus version (optional, defaults to configured version)",
        []⟩,
      ⟨"secondary_version", "string",
        "Secondary (API) corpus version (optional)",
        []⟩]
    required := [] }]

def catalog : List Tool := sourceTools ++ callGraphTools ++ indexTools

end Tools

end JavaAtlas
