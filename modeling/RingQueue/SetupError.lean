import RingQueue.Number.Digits

/-! What can go wrong before a run starts, apart from reading the settings. -/
namespace RingQueue

open RingQueue.Number

inductive SetupError where
  | invalidSetting (text : String)
  | coreOutOfRange (core available : UInt64)
  /-- The system refused to bind a worker to a core. -/
  | pinning (core : UInt64) (cause : String)
  | unsupported (feature : String)
  deriving DecidableEq, Repr

namespace SetupError

def message : SetupError → String
  | invalidSetting text => "Invalid setting: " ++ text
  | coreOutOfRange core available =>
    "Core " ++ decimal core.toNat ++ " out of range (" ++ decimal available.toNat ++
      " cores online)"
  | pinning core cause =>
    "Failed to pin thread to core " ++ decimal core.toNat ++ ": " ++ cause
  | unsupported feature => "Unsupported on this platform: " ++ feature

/-- The error below, if this one only passes it on. -/
def cause? : SetupError → Option String
  | pinning _ cause => some cause
  | _ => none

end SetupError

/-- A worker can be bound to the cores from zero up to the count of those available. -/
def checkCore (available core : UInt64) : Except SetupError Unit :=
  if available ≤ core then .error (.coreOutOfRange core available) else .ok ()

end RingQueue
