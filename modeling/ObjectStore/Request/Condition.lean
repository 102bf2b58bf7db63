import ObjectStore.Request.Basic
import ObjectStore.Value.Conversion

/-!
Conditions under which the service carries out a request.
-/

namespace ObjectStore

structure AccessCondition where
  /-- An entity tag that must match, or a star. -/
  ifMatch : Value := .null
  ifNoneMatch : Value := .null
  ifModifiedSince : Value := .null
  ifUnmodifiedSince : Value := .null
  leaseId : Value := .null

namespace AccessCondition

def withIfMatch (condition : AccessCondition) (etag : Value) : AccessCondition :=
  { condition with ifMatch := etag }

end AccessCondition

namespace Request

/-- Sets a header to what a given value becomes. -/
def addGiven (name : String) (value : Value) (write : Value → Except Fault Value) :
    Act Fault Request Unit :=
  if value.truthy then do
    let written ← Act.ofExcept (write value)
    Act.change (·.setHeader name written)
  else pure ()

def addConditions : Option AccessCondition → Act Fault Request Unit
  | none => pure ()
  | some condition => do
    addGiven "If-Match" condition.ifMatch .ok
    addGiven "If-None-Match" condition.ifNoneMatch .ok
    addGiven "If-Modified-Since" condition.ifModifiedSince Value.toHeaderTime?
    addGiven "If-Unmodified-Since" condition.ifUnmodifiedSince Value.toHeaderTime?
    addGiven "x-ms-lease-id" condition.leaseId .ok

end Request

end ObjectStore
