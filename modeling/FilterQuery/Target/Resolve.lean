import FilterQuery.Query
import FilterQuery.Target.Key
import FilterQuery.Trace

/-!
# Resolving targets

Under a strategy a target has a key only if its field is permitted and none
of its segments is reserved, checked in this order. Only a target that has a
key counts as referred to.

`Target.resolve` is the trace of that. The program itself goes over the path
once: each segment is looked at before it is put behind the key
(`Target.joinSegments`).
-/

namespace FilterQuery

namespace Target

/-- The key of a target. The field has to be permitted, whatever the segments
are, and no segment may be reserved; only then is the field referred to. -/
def resolve (s : Strategy) (t : Target) : Trace String := do
  Trace.ofExcept (s.assertAllowed t)
  if t.isReserved then Trace.fail (.invalidTarget t.pointer)
  else
    Trace.refer t.field
    return t.key

/-- The text by which an expression refers to a target. -/
def reference (s : Strategy) (t : Target) : Trace String := do
  return referenceTo (← t.resolve s)

/-- Put segments behind a key, one after the other, up to the first that is
reserved. -/
def joinSegments (t : Target) : (key : String) → List Segment → Except ConvertError String
  | key, [] => .ok key
  | key, segment :: rest =>
      if FilterQuery.isReserved segment.text then .error (.invalidTarget t.pointer)
      else joinSegments t (extendKey key segment.text) rest

end Target

namespace Resolver

def resolve (s : Strategy) (t : Target) : Resolver String := do
  ofExcept (s.assertAllowed t)
  let key ← ofExcept (t.joinSegments "" t.segments)
  record t.field
  return key

def reference (s : Strategy) (t : Target) : Resolver String := do
  return referenceTo (← resolve s t)

end Resolver

end FilterQuery
