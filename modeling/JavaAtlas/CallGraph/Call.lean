/-!
# Calls

A call is an edge of the call graph: a calling method, a called method and the line of the call,
where it is known.
-/

namespace JavaAtlas

/-- A method as the call graph knows it. -/
structure MethodId where
  type : String
  name : String
  descriptor : String
  deriving DecidableEq, Repr, Inhabited

/-- A call from one method to another. -/
structure Call where
  caller : MethodId
  callee : MethodId
  line : Option Int
  deriving DecidableEq, Repr, Inhabited

end JavaAtlas
