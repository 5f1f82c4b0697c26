import LoongClaw.Contracts.Types

namespace LoongClaw.Kernel

open Foundation Contracts

/-!
# Execution planes and the harness broker

Adapters are code from outside the kernel.  What they return may depend on
anything, so each run of one is given the state `ω` of the world around it.
A dispatch says which adapter ran, if resolution got that far, and what the
caller of the plane receives.
-/

variable {ω : Type}

/-- The adapter a dispatch ran, with the core an extension was given. -/
structure AdapterRun where
  adapter : String
  delegatedCore : Option String
  deriving DecidableEq

structure Dispatch (ε α : Type) where
  reached : Option AdapterRun
  result : Except ε α

namespace Dispatch

variable {ε α : Type}

/-- No adapter was resolved. -/
def unresolved (error : ε) : Dispatch ε α where
  reached := none
  result := .error error

end Dispatch

structure CoreAdapter (CoreRequest Outcome ω : Type) where
  name : String
  executeCore : CoreRequest -> ω -> Except PlaneError Outcome

structure ExtensionAdapter (CoreRequest ExtensionRequest Outcome ω : Type) where
  name : String
  executeExtension : ExtensionRequest -> CoreAdapter CoreRequest Outcome ω -> ω ->
    Except PlaneError Outcome

/-- The registry that the connector, runtime, tool and memory planes share. -/
structure Plane (CoreRequest ExtensionRequest Outcome ω : Type) where
  coreAdapters : OrderedMap String (CoreAdapter CoreRequest Outcome ω)
  extensionAdapters : OrderedMap String (ExtensionAdapter CoreRequest ExtensionRequest Outcome ω)
  defaultCoreAdapter : Option String

namespace Plane

variable {CoreRequest ExtensionRequest Outcome : Type}

def new : Plane CoreRequest ExtensionRequest Outcome ω where
  coreAdapters := []
  extensionAdapters := []
  defaultCoreAdapter := none

variable (plane : Plane CoreRequest ExtensionRequest Outcome ω)

/-- The first core adapter registered becomes the default. -/
def registerCoreAdapter (adapter : CoreAdapter CoreRequest Outcome ω) :
    Plane CoreRequest ExtensionRequest Outcome ω :=
  { plane with
    coreAdapters := plane.coreAdapters.insert adapter.name adapter
    defaultCoreAdapter := plane.defaultCoreAdapter.or (some adapter.name) }

def registerExtensionAdapter (adapter : ExtensionAdapter CoreRequest ExtensionRequest Outcome ω) :
    Plane CoreRequest ExtensionRequest Outcome ω :=
  { plane with extensionAdapters := plane.extensionAdapters.insert adapter.name adapter }

def setDefaultCoreAdapter (name : String) :
    Except PlaneError (Plane CoreRequest ExtensionRequest Outcome ω) :=
  if plane.coreAdapters.contains name then .ok { plane with defaultCoreAdapter := some name }
  else .error (.coreAdapterNotFound name)

/-- The requested core, or the default one, under its registered name. -/
def resolveCore (coreName : Option String) :
    Except PlaneError (String × CoreAdapter CoreRequest Outcome ω) :=
  match coreName.or plane.defaultCoreAdapter with
  | none => .error .noDefaultCoreAdapter
  | some resolvedName =>
    match plane.coreAdapters.lookup resolvedName with
    | none => .error (.coreAdapterNotFound resolvedName)
    | some core => .ok (resolvedName, core)

def executeCore (coreName : Option String)
    (request : CoreRequest) (world : ω) : Dispatch PlaneError Outcome :=
  match plane.resolveCore coreName with
  | .error error => .unresolved error
  | .ok (resolvedName, core) =>
    { reached := some { adapter := resolvedName, delegatedCore := none }
      result := core.executeCore request world }

/-- The extension is looked up before its core, so a missing extension is
reported first. -/
def executeExtension (extensionName : String) (coreName : Option String)
    (request : ExtensionRequest)
    (world : ω) : Dispatch PlaneError Outcome :=
  match plane.extensionAdapters.lookup extensionName with
  | none => .unresolved (.extensionNotFound extensionName)
  | some extension =>
    match plane.resolveCore coreName with
    | .error error => .unresolved error
    | .ok (resolvedName, core) =>
      { reached := some { adapter := extensionName, delegatedCore := some resolvedName }
        result := extension.executeExtension request core world }

variable {plane : Plane CoreRequest ExtensionRequest Outcome ω} {coreName : Option String}
  {world : ω} {run : AdapterRun}

theorem resolveCore_name {resolved : String × CoreAdapter CoreRequest Outcome ω}
    (resolves : plane.resolveCore coreName = .ok resolved) :
    coreName.or plane.defaultCoreAdapter = some resolved.1 := by
  unfold resolveCore at resolves
  split at resolves
  · cases resolves
  · case h_2 resolvedName named =>
      split at resolves
      · cases resolves
      · cases resolves
        exact named

theorem executeCore_reached {request : CoreRequest}
    (reached : (plane.executeCore coreName request world).reached = some run) :
    coreName.or plane.defaultCoreAdapter = some run.adapter /\ run.delegatedCore = none := by
  unfold executeCore at reached
  split at reached
  · cases reached
  · case h_2 resolvedName core resolves =>
      cases reached
      exact ⟨resolveCore_name resolves, rfl⟩

theorem executeExtension_reached {extensionName : String} {request : ExtensionRequest}
    (reached : (plane.executeExtension extensionName coreName request world).reached = some run) :
    run.adapter = extensionName /\ ∃ core, coreName.or plane.defaultCoreAdapter = some core /\
        run.delegatedCore = some core := by
  unfold executeExtension at reached
  split at reached
  · cases reached
  · split at reached
    · cases reached
    · case h_2 resolvedName core resolves =>
        cases reached
        exact ⟨rfl, resolvedName, resolveCore_name resolves, rfl⟩

end Plane

abbrev ConnectorPlane (ω : Type) :=
  Plane ConnectorCommand ConnectorCommand ConnectorOutcome ω

abbrev RuntimePlane (ω : Type) :=
  Plane RuntimeCoreRequest RuntimeExtensionRequest PlaneOutcome ω

abbrev ToolPlane (ω : Type) :=
  Plane ToolCoreRequest ToolExtensionRequest PlaneOutcome ω

abbrev MemoryPlane (ω : Type) :=
  Plane MemoryCoreRequest MemoryExtensionRequest PlaneOutcome ω

structure HarnessAdapter (ω : Type) where
  name : String
  kind : HarnessKind
  execute : HarnessRequest -> ω -> Except HarnessError HarnessOutcome

structure HarnessBroker (ω : Type) where
  adapters : OrderedMap String (HarnessAdapter ω)

namespace HarnessBroker

def new : HarnessBroker ω where
  adapters := []

variable (broker : HarnessBroker ω)

def register (adapter : HarnessAdapter ω) : HarnessBroker ω :=
  { adapters := broker.adapters.insert adapter.name adapter }

/-- The named adapter of the route, or the first of the route's kind. -/
def select (route : ExecutionRoute) : Except HarnessError (HarnessAdapter ω) :=
  match route.adapter with
  | some adapterName =>
    match broker.adapters.lookup adapterName with
    | none => .error (.adapterNotFound adapterName)
    | some adapter => .ok adapter
  | none =>
    match broker.adapters.values.find? (fun candidate =>
        decide (candidate.kind = route.harnessKind)) with
    | none => .error (.adapterNotFound ("kind::" ++ route.harnessKind.debugName))
    | some adapter => .ok adapter

def execute (route : ExecutionRoute) (request : HarnessRequest) (world : ω) :
    Dispatch HarnessError HarnessOutcome :=
  match broker.select route with
  | .error error => .unresolved error
  | .ok adapter =>
    if adapter.kind = route.harnessKind then
      { reached := some { adapter := adapter.name, delegatedCore := none }
        result := adapter.execute request world }
    else
      .unresolved (.adapterKindMismatch adapter.name route.harnessKind adapter.kind)

end HarnessBroker

end LoongClaw.Kernel
