import ObjectStore.Fault
import ObjectStore.SharedAccess.Flags

/-!
Arguments that scripts give by name. A name that nobody asked for is refused, and so is the lack of
one that is needed.
-/

namespace ObjectStore.Rehearsal

/-- All names must be known, and those that are needed must be given. -/
def checkNames (known needed given : List String) : Except Fault Unit :=
  match given.find? (!known.contains ·), needed.find? (!given.contains ·) with
  | some name, _ => .error (.misfit .type ("unexpected keyword argument '" ++ name ++ "'"))
  | none, some name => .error (.misfit .type ("missing argument '" ++ name ++ "'"))
  | none, none => .ok ()

/-- Values that are looked up in sets cannot be of types that change. -/
def checkHashable (values : List Value) : Except Fault Unit :=
  match values.findSome? Value.unhashable? with
  | some type => .error (.misfit .type ("unhashable type: '" ++ type ++ "'"))
  | none => .ok ()

inductive Described where
  | options
  | context
  | accountToken
  | resourceToken
  | flags (kind : SharedAccess.Flags.Kind)

namespace Described

def needed : Described → List String
  | accountToken => ["services", "resource_types", "permission", "expiry"]
  | resourceToken => ["service", "path"]
  | _ => []

def known (described : Described) : List String :=
  described.needed ++ match described with
  | options =>
    ["timeout", "maximum_execution_time", "location_mode", "retry_policy", "socket_timeout",
     "use_transactional_content_md5", "disable_content_md5_validation"]
  | context =>
    ["client_request_id", "user_headers", "log_level", "cancellation_token", "location_lock"]
  | accountToken => ["start", "ip", "protocol"]
  | resourceToken =>
    ["resource_type", "permission", "expiry", "start", "id", "ip", "protocol", "cache_control",
     "content_disposition", "content_encoding", "content_language", "content_type"]
  | flags kind => "_str" :: kind.grants.map Prod.snd

def check (described : Described) (given : List String) : Except Fault Unit :=
  checkNames described.known described.needed given

end Described

end ObjectStore.Rehearsal
