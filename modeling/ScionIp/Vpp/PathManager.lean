import ScionIp.Lib.Effects
import ScionIp.Vpp.Config

/-!
# The VPP path manager

`init` connects to VPP, creates a tap and an AF_XDP interface, writes the address filter into the
map the XDP program pins, and configures routes; `cleanup` takes the interfaces and the pin back.
Every external call has an outcome in `Externals`. The trace says which resources a call caused to
exist and whose deletion was attempted.
-/

namespace ScionIp.Vpp

open ScionIp.Lib

/-! ## External calls -/

/-- A request to VPP: the outcome of sending it, what each wait for the response returns, and the
response. Kind: D -/
structure VapiReply where
  execute : VapiErrorCode
  waits : List VapiErrorCode
  retval : ℤ
  swIfIndex : UInt32

/-- What the kernel says about a map. Source: `bpf.h`, `bpf_map_info`. Kind: D -/
structure BpfMapInfo where
  maxEntries : ℕ
  keySize : ℕ
  valueSize : ℕ
  deriving DecidableEq

/-- A route request: the index of the device, and the error numbers of the three calls that send the
request and read the answer. Kind: D -/
structure NetlinkReply where
  ifIndex : ℕ
  sendto : Option ℤ
  recvfrom : Option ℤ
  cbRun : Option ℤ

/-- The outcome of every external call. Kind: D -/
structure Externals where
  absolute : Except ErrorCode { path : Text // path ≠ [] }
  fileExists : Except ErrorCode Bool
  connect : VapiErrorCode
  tapCreate : VapiReply
  tapUp : VapiReply
  xdpCreate : VapiReply
  xdpUp : VapiReply
  bpfObjGet : ℤ
  bpfMapInfo : Option BpfMapInfo
  bpfMapUpdate : ℤ
  netlinkOpen : Bool
  netlinkBind : Option ℤ
  addRoute : NetlinkReply
  delRoute : NetlinkReply
  xdpDelete : VapiReply
  tapDelete : VapiReply
  remove : Except ErrorCode Bool

namespace VapiReply

variable (r : VapiReply)

/-- Source: `dataplane.hpp`, `Dataplane::executeReq`. Kind: D -/
def executeReq (err : VapiErrorCode) : Cpp Unit :=
  if err ≠ .VAPI_OK then .error (.thrown (.VapiError err "execute request")) else .ok ()

/-- The loop over the waits; without another one it waits for ever.
Source: `dataplane.hpp`, `Dataplane::waitForResponse`. Kind: D -/
def waitForResponse : List VapiErrorCode → Cpp Unit
  | [] => .error .stuck
  | err :: waits =>
      if err = .VAPI_EAGAIN then waitForResponse waits
      else if err ≠ .VAPI_OK then .error (.thrown (.VapiError err "wait_for_response"))
      else .ok ()

/-- Source: `dataplane.hpp`, `Dataplane::execAndWait`. Kind: D -/
def execAndWait : Cpp (ℤ × UInt32) := do
  executeReq r.execute
  waitForResponse r.waits
  return (r.retval, r.swIfIndex)

/-- The request with the check of the returned value that four functions make.
Source: `dataplane.cpp`, `TapInterface::create`, `XdpInterface::create` and both `destroy`.
Kind: D -/
def execAndCheck (what : String) : Cpp UInt32 := do
  let (retval, index) ← r.execAndWait
  if retval ≠ 0 then .error (.thrown (.DataplaneError retval what)) else .ok index

/-- The request is answered. Kind: D -/
def Answered : Prop := r.execute = .VAPI_OK ∧ waitForResponse r.waits = .ok ()

/-- The request is answered, and the answer is success. Kind: D -/
def Succeeds : Prop := r.Answered ∧ r.retval = 0

instance : Decidable r.Answered := inferInstanceAs (Decidable (_ ∧ _))

instance : Decidable r.Succeeds := inferInstanceAs (Decidable (_ ∧ _))

end VapiReply

/-- A failed call throws the error number. Source: `netlink.cpp`, `NetLinkRoute`. Kind: D -/
def throwErrno (what : String) (failed : Option ℤ) : Cpp Unit :=
  match failed with
  | some errno => .error (.thrown (.system_error ⟨.generic, errno⟩ what))
  | none => .ok ()

/-- Source: `netlink.cpp`, `NetLinkRoute::execute`. Kind: D -/
def netlinkExecute (reply : NetlinkReply) : Cpp Unit := do
  throwErrno "mnl_socket_sendto" reply.sendto
  throwErrno "mnl_socket_recvfrom" reply.recvfrom
  throwErrno "mnl_cb_run" reply.cbRun

/-- `addRoute` and `delRoute`, which differ in the message they send.
Source: `netlink.cpp`, `NetLinkRoute::addRoute`, `NetLinkRoute::delRoute`. Kind: D -/
def netlinkRoute (dev : Text) (reply : NetlinkReply) : Cpp Unit :=
  if reply.ifIndex = 0 then
    .error (.thrown (.runtime_error ("interface not found: " ++ String.ofList dev)))
  else netlinkExecute reply

/-- Source: `netlink.cpp`, `NetLinkRoute::NetLinkRoute`. Kind: D -/
def netlinkOpen (env : Externals) : Cpp Unit :=
  if ¬ env.netlinkOpen then
    .error (.thrown (.runtime_error "cannot netlink socket to route bus"))
  else throwErrno "mnl_socket_bind" env.netlinkBind

/-! ## The manager -/

/-- What the calls bring into being. Kind: D -/
inductive Resource where
  | tap (index : UInt32)
  | afXdp (index : UInt32)
  | pinnedMap (path : Text)
  deriving DecidableEq

/-- An entry of the trace. Kind: D -/
inductive Event where
  | created (r : Resource)
  | deleting (r : Resource)
  deriving DecidableEq

/-- Source: `dataplane.hpp`, `TapInterface`. Kind: D -/
structure TapInterface where
  name : Text
  addr : NetworkV6
  ifIndex : Option UInt32

/-- Source: `dataplane.hpp`, `XdpInterface`. Kind: D -/
structure XdpInterface where
  name : Text
  hostIf : Text
  program : Text
  rxQueues : UInt16
  ifIndex : Option UInt32

/-- The global objects, and the trace. The pointer to the dataplane is null or not; a negative file
descriptor is none. Source: `main.cpp`, `dp`, `tap`, `xdp`, and `ebpf.cpp`, `scionIpMap`. Kind: D -/
structure Manager where
  dp : Bool
  tap : TapInterface
  xdp : XdpInterface
  scionIpMap : ℤ
  events : List Event

/-- The objects when `main` begins. Kind: D -/
def Manager.start : Manager where
  dp := false
  tap := ⟨[], ⟨⟨List.Vector.replicate 16 0, 0⟩, 0⟩, none⟩
  xdp := ⟨[], [], [], 0, none⟩
  scionIpMap := -1
  events := []

/-- A function of the path manager. Kind: D -/
abbrev PathManager (α : Type) := EStateM Failure Manager α

/-- The trace grows. Kind: D -/
def record (es : List Event) : PathManager PUnit :=
  modify fun m => { m with events := m.events ++ es }

/-- `*dp`. Kind: D -/
def derefDataplane : PathManager PUnit := do
  let m ← get
  liftExcept (if m.dp then .ok ⟨⟩ else .error Failure.undefined)

/-- `std::optional::value`. Kind: D -/
def optionalValue {α : Type} (x : Option α) : Cpp α :=
  match x with
  | some a => .ok a
  | none => .error (.thrown .bad_optional_access)

/-- Source: `ebpf.cpp`, `SCION_IP_MAP`. Kind: D -/
def SCION_IP_MAP : Text := "/sys/fs/bpf/scion_ip".toList

/-- Source: `dataplane.cpp`, `setVppInterfaceUp`. Kind: D -/
def setVppInterfaceUp (reply : VapiReply) : PathManager ℤ := do
  derefDataplane
  let (retval, _) ← liftExcept reply.execAndWait
  return retval

/-- The statements of both `create`; the argument is `*dp`. A request that fails creates nothing,
one that succeeds creates what is recorded. Kind: D -/
def createInterface (reply : VapiReply) (what : String) (made : UInt32 → List Event)
    (remember : UInt32 → Manager → Manager) : PathManager UInt32 := do
  derefDataplane
  let index ← liftExcept (reply.execAndCheck what)
  record (made index)
  modify (remember index)
  return index

/-- Source: `dataplane.cpp`, `TapInterface::create`. Kind: D -/
def createTap (env : Externals) : PathManager UInt32 :=
  createInterface env.tapCreate "create tap interface" (fun index => [.created (.tap index)])
    fun index m => { m with tap := { m.tap with ifIndex := some index } }

/-- What the creation of an AF_XDP interface brings into being: a custom program pins its map by
name. Kind: D -/
def xdpEvents (program : Text) (index : UInt32) : List Event :=
  .created (.afXdp index) ::
    if program.isEmpty then [] else [.created (.pinnedMap SCION_IP_MAP)]

/-- Source: `dataplane.cpp`, `XdpInterface::create`. Kind: D -/
def createXdp (env : Externals) : PathManager UInt32 := do
  let m ← get
  createInterface env.xdpCreate "create af_xdp interface" (xdpEvents m.xdp.program)
    fun index m => { m with xdp := { m.xdp with ifIndex := some index } }

/-- The statements of both `destroy`. Kind: D -/
def destroyInterface (ifIndex : Option UInt32) (reply : VapiReply) (what : String)
    (resource : UInt32 → Resource) (forget : Manager → Manager) : PathManager PUnit := do
  derefDataplane
  match ifIndex with
  | none => return
  | some index =>
      record [.deleting (resource index)]
      let _ ← liftExcept (reply.execAndCheck what)
      modify forget

/-- Source: `dataplane.cpp`, `TapInterface::destroy`. Kind: D -/
def destroyTap (env : Externals) : PathManager PUnit := do
  let m ← get
  destroyInterface m.tap.ifIndex env.tapDelete "delete tap interface" .tap
    fun m => { m with tap := { m.tap with ifIndex := none } }

/-- Source: `dataplane.cpp`, `XdpInterface::destroy`. Kind: D -/
def destroyXdp (env : Externals) : PathManager PUnit := do
  let m ← get
  destroyInterface m.xdp.ifIndex env.xdpDelete "delete af_xdp interface" .afXdp
    fun m => { m with xdp := { m.xdp with ifIndex := none } }

/-! ## `ebpf.cpp` -/

/-- The value that is written is `scionIpValue`. Source: `ebpf.cpp`, `updateScionIpMap`. Kind: D -/
def updateScionIpMap (env : Externals) (config : TranslatorConfig) (fd : ℤ) : Cpp Bool :=
  if fd < 0 then .ok false
  else
    match env.bpfMapInfo with
    | none => .ok false
    | some info =>
        if info.maxEntries ≠ 1 ∨ info.keySize ≠ 4 ∨ info.valueSize ≠ 20 then .ok false
        else
          match config.hostAddr4 with
          | none => .error .undefined
          | some _ => .ok (env.bpfMapUpdate = 0)

/-- Source: `ebpf.cpp`, `initScionIpMap`. Kind: D -/
def initScionIpMap (env : Externals) (config : TranslatorConfig) : PathManager Bool := do
  modify fun m => { m with scionIpMap := env.bpfObjGet }
  if env.bpfObjGet < 0 then return false
  else liftExcept (updateScionIpMap env config env.bpfObjGet)

/-- A failed removal is only logged. Source: `ebpf.cpp`, `unpinScionIpMap`. Kind: D -/
def unpinScionIpMap (env : Externals) : PathManager PUnit := do
  let m ← get
  if m.scionIpMap < 0 then return
  else
    record [.deleting (.pinnedMap SCION_IP_MAP)]
    tryCatch
      (do
        let _ ← liftExcept (env.remove.mapError fun code =>
          Failure.thrown (.filesystem_error code "cannot remove"))
        return)
      (fun failure => if failure.isSystemError then return else throw failure)
    modify fun m => { m with scionIpMap := -1 }

/-! ## `main.cpp` -/

/-- The XDP program to load, if there is one. Source: `main.cpp`, `initDataplane`. Kind: D -/
def findProgram (env : Externals) : Cpp (Option Text) :=
  match env.absolute with
  | .error _ => .ok none
  | .ok path =>
      match env.fileExists with
      | .error code => .error (.thrown (.filesystem_error code "cannot get file status"))
      | .ok found => .ok (if found then some path.val else none)

/-- The statements about the tap. Source: `main.cpp`, `initDataplane`. Kind: D -/
def bringUpTap (env : Externals) (config : TranslatorConfig) : PathManager PUnit := do
  modify fun m => { m with tap := { m.tap with name := config.tapName, addr := config.hostAddr } }
  let _ ← createTap env
  let m ← get
  let _ ← liftExcept (optionalValue m.tap.ifIndex)
  let _ ← setVppInterfaceUp env.tapUp

/-- The statements about the AF_XDP interface. Source: `main.cpp`, `initDataplane`. Kind: D -/
def bringUpXdp (env : Externals) (config : TranslatorConfig) : PathManager PUnit := do
  modify fun m => { m with xdp := { m.xdp with
    name := "xdp".toList
    hostIf := config.hostInterface
    rxQueues := config.hostIfQueues.toUInt16 } }
  let _ ← createXdp env
  let m ← get
  let _ ← liftExcept (optionalValue m.xdp.ifIndex)
  let _ ← setVppInterfaceUp env.xdpUp

/-- Source: `main.cpp`, `initDataplane`. Kind: D -/
def initDataplane (env : Externals) (config : TranslatorConfig) : PathManager PUnit := do
  let program ← liftExcept (findProgram env)
  modify fun m => { m with xdp := { m.xdp with program := program.getD m.xdp.program } }
  bringUpTap env config
  bringUpXdp env config
  if program.isSome then
    let _ ← initScionIpMap env config

/-- Source: `main.cpp`, `cleanDataplane`. Kind: D -/
def cleanDataplane (env : Externals) : PathManager PUnit := do
  destroyXdp env
  destroyTap env
  unpinScionIpMap env

/-- A route that does not exist is only logged. Source: `main.cpp`, `configureRoutes`. Kind: D -/
def configureRoutes (env : Externals) (config : TranslatorConfig) : Cpp Unit := do
  netlinkOpen env
  netlinkRoute config.tapName env.addRoute
  match netlinkRoute config.hostInterface env.delRoute with
  | .error (.thrown (.system_error code what)) =>
      if code = ⟨.generic, ESRCH⟩ then .ok ()
      else .error (.thrown (.system_error code what))
  | other => other

/-- Source: `dataplane.cpp`, `Dataplane::Dataplane`. Kind: D -/
def connectDataplane (env : Externals) : PathManager PUnit := do
  liftExcept (if env.connect ≠ .VAPI_OK then
    .error (Failure.thrown (.VapiError env.connect "connect")) else .ok ⟨⟩)
  modify fun m => { m with dp := true }

/-- `catch (...) { return false; }` for one class of exceptions. Kind: D -/
def returnFalseOn (caught : Failure → Bool) (failure : Failure) : PathManager Bool :=
  if caught failure then return false else throw failure

/-- Source: `main.cpp`, `init`. Kind: D -/
def init (lib : Libraries) (env : Externals) (file : Option Text) : PathManager Bool := do
  match loadConfig lib file with
  | .error failure => returnFalseOn Failure.isRuntimeError failure
  | .ok config =>
      tryCatch
        (do
          connectDataplane env
          initDataplane env config
          tryCatch
            (do
              liftExcept (configureRoutes env config)
              return true)
            (returnFalseOn Failure.isSystemError))
        (returnFalseOn Failure.isRuntimeError)

/-- Source: `main.cpp`, `cleanup`. Kind: D -/
def cleanup (env : Externals) : PathManager PUnit := cleanDataplane env

/-- The statements behind `parseCommandLine`. Source: `main.cpp`, `main`. Kind: D -/
def main (lib : Libraries) (env : Externals) (file : Option Text) : PathManager ℤ := do
  if ¬ (← init lib env file) then
    cleanup env
    return -1
  return 0

end ScionIp.Vpp
