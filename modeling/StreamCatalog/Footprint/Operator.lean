import StreamCatalog.Footprint.Envelopes
import StreamCatalog.Footprint.Thinning
import StreamCatalog.Text.Quoted

/-!
# Footprint operators

An operator changes a footprint before it is stored.  Operators never fail on a
geometry that they have nothing to do with; they hand it back.  A chain applies
its operators in order, each to the result of the one before, and is an operator
itself.
-/

namespace StreamCatalog
namespace Footprint

/-- A way to change footprints. -/
inductive Operator where
  /-- Replace clusters of polygons by their boxes. -/
  | envelopes
  /-- Drop vertices whose triangle is not above the tolerance. -/
  | simplify (tolerance : Float)
  /-- One operator after the other. -/
  | chain (steps : List Operator)
  deriving Repr, Inhabited

namespace Operator

/-- The name of an operator. -/
def name : Operator → String
  | .envelopes => "subpolygons-to-envelopes"
  | .simplify _ => "simplify"
  | .chain _ => "chain"

/-- The steps of a chain; any other operator is its own only step. -/
def steps : Operator → List Operator
  | .chain steps => steps
  | op => [op]

/-- A chain as messages show it: the names of its steps. -/
def describe (op : Operator) : String :=
  "OperatorChain \x7b operators: [" ++
    ", ".intercalate (op.steps.map fun step => Text.quote step.name) ++ "] \x7d"

/-- The operator for footprints: envelopes, then dropping vertices if a tolerance
is given. -/
def footprint (tolerance : Option Float) : Operator :=
  .chain (.envelopes :: (tolerance.map simplify).toList)

mutual

/-- Apply an operator to a geometry. -/
def apply : Operator → Geometry → Except Breakdown Geometry
  | .envelopes, g => .ok (toEnvelopes g)
  | .simplify tolerance, g => thinGeometry tolerance g
  | .chain steps, g => applyAll steps g

/-- Apply operators one after the other. -/
def applyAll : List Operator → Geometry → Except Breakdown Geometry
  | [], g => .ok g
  | step :: steps, g => do applyAll steps (← apply step g)

end

end Operator
end Footprint
end StreamCatalog
