import CfsTelemetry.Flight.Answers
import CfsTelemetry.Lora.Config
import CfsTelemetry.Uplink.Orders

/-!
# The command plane of four applications

A ground command that the uplink application accepts becomes a message for the applications that
carry it out: the core application, the bridge and the LoRa application. The core application
passes two kinds of recovery commands on to the bridge, and route snapshots to the LoRa
application. Results come back to the uplink application. Every message waits in the pipe of its
receiver, in the order of sending; the bus may lose a message on its way into a pipe, and an
application that starts again loses what waits for it. The ground reaches the applications
through the uplink application: what it orders comes through a pipe only.
-/
namespace CfsTelemetry.Flight

open Run

/-- A message that waits for the bridge. -/
inductive BridgeOrder where
  | routeUpdate (msg : RouteUpdate)
  | config (cmd : ConfigCmd)
  | flightMode (cmd : Uplink.FlightModeCtrlCmd)
  | resetCounters
  | control (cmd : Core.BridgeCtrl)

/-- What a message of the uplink application is for the core application. -/
def forCore : Uplink.Message → Option Core.PipeMessage
  | .routeUpdate tlm => some (.state (.routeUpdate tlm))
  | .recovery tlm => some (.recovery tlm)
  | .viewpoint tlm => some (.viewpoint tlm)
  | .config tlm => some (.config (Mission.configCmd tlm))
  | .mode tlm => some (.mode tlm)
  | .diagnostic tlm => some (.diagnostic tlm)
  | .resetCounters .cfsCore => some (.command 1 Core.commandHeaderSize)
  | _ => none

/-- What a message of the uplink application is for the bridge. -/
def forBridge : Uplink.Message → Option BridgeOrder
  | .routeUpdate tlm => some (.routeUpdate tlm)
  | .config tlm => some (.config (Mission.configCmd tlm))
  | .flightMode cmd => some (.flightMode cmd)
  | .resetCounters .mavlinkBridge => some .resetCounters
  | _ => none

/-- What a message of the uplink application is for the LoRa application. -/
def forLora : Uplink.Message → Option Lora.Packet
  | .config tlm => some (.config (Mission.configCmd tlm))
  | .diagnostic tlm =>
    some (.diagnostic ⟨tlm.sourceSequence, tlm.diagAction, tlm.diagTarget, tlm.requestToken⟩)
  | .resetCounters .loraTdm => some (.groundCommand 1 Lora.commandHeaderSize 0)
  | _ => none

/-- What a route snapshot is for the LoRa application. -/
def snapshotPacket (snapshot : RouteUpdate) : Lora.Packet :=
  .telemetry (.routeSnapshot snapshot.routeType snapshot.waypointCount snapshot.waypoints)

/-- What the bridge meets when it takes a message. -/
structure BridgeEnv where
  env : Bridge.Env
  saved : Bridge.SaveResult
  path : String
  opened : Bridge.OpenResult

/-- The input of the bridge that a message is. -/
def BridgeOrder.input (met : BridgeEnv) : BridgeOrder → Bridge.Input
  | routeUpdate msg => .routeUpdate msg met.env
  | config cmd => .config cmd met.saved
  | flightMode cmd =>
    .setFlightMode ⟨cmd.sourceSequence, cmd.flightMode, cmd.waypointStartIndex⟩ met.env
  | resetCounters => .command .resetCounters
  | control .parserReset => .command .parserReset
  | control .serialReconnect => .serialReconnect met.path met.opened met.env

/-- Whether an input of the uplink application comes through its pipe of results. -/
def isResult : Uplink.Input → Bool
  | .received (.execResult _) => true
  | _ => false

/-- Whether a message of the core application is one that the ground orders. -/
def orderedCore : Core.PipeMessage → Bool
  | .state (.routeUpdate _) | .config _ | .viewpoint _ | .recovery _ | .mode _
  | .diagnostic _ => true
  | _ => false

/-- Whether an input of the bridge is one that the ground or the core application orders. -/
def orderedBridge : Bridge.Input → Bool
  | .routeUpdate .. | .config .. | .setFlightMode .. | .serialReconnect ..
  | .command .parserReset => true
  | _ => false

/-- Whether a message of the LoRa application is one that the ground orders, or a snapshot. -/
def orderedLora : Lora.Packet → Bool
  | .config _ | .diagnostic _ | .telemetry (.routeSnapshot ..) => true
  | _ => false

/-- Whether an input of the LoRa application is a message of its pipe. -/
def isPacket : Lora.Input → Bool
  | .packet _ => true
  | _ => false

/-! ## The system -/

/-- The applications, and what waits for each of them, oldest first. -/
structure System where
  uplink : Uplink.State
  core : Core.Application
  bridge : Bridge.State
  lora : Lora.App
  toCore : List Core.PipeMessage
  toBridge : List BridgeOrder
  toLora : List Lora.Packet
  results : List ExecResult

/-- Which pipes take the messages of an event. -/
structure Bus where
  core : Bool
  bridge : Bool
  lora : Bool
  uplink : Bool
  deriving DecidableEq, Repr

/-- A bus that loses nothing. -/
def Bus.lossless : Bus := ⟨true, true, true, true⟩

/-- Something that happens in the system. -/
inductive Event where
  /-- A round of the uplink application. -/
  | uplink (env : Uplink.Env) (input : Uplink.Input) (other : isResult input = false) (bus : Bus)
  /-- The uplink application takes the result that has waited longest. -/
  | takeResult (env : Uplink.Env) (bus : Bus)
  /-- The uplink application starts again. -/
  | restartUplink (load : Uplink.LoadIo) (resetType : UInt8) (countEnv markerEnv : Uplink.Env)
  /-- A round of the core application. -/
  | core (env : Core.Env) (message : Option Core.PipeMessage)
      (other : message.all (!orderedCore ·) = true) (bus : Bus)
  /-- The core application takes the message that has waited longest. -/
  | takeCore (env : Core.Env) (bus : Bus)
  /-- The core application starts again. -/
  | restartCore (io : StateFile.LoadIo)
  /-- Something else happens to the bridge. -/
  | bridge (input : Bridge.Input) (other : orderedBridge input = false) (bus : Bus)
  /-- The bridge takes the message that has waited longest. -/
  | takeBridge (met : BridgeEnv) (bus : Bus)
  /-- The bridge starts again. -/
  | restartBridge (config : Bridge.ConfigParams)
  /-- The LoRa application takes another message. -/
  | lora (env : Lora.PacketEnv) (packet : Lora.Packet) (other : orderedLora packet = false)
      (bus : Bus)
  /-- The LoRa application takes the message that has waited longest. -/
  | takeLora (env : Lora.PacketEnv) (bus : Bus)
  /-- Something happens on the link of the LoRa application. -/
  | radio (input : Lora.Input) (other : isPacket input = false)
  /-- The LoRa application starts again. -/
  | restartLora (io : StateFile.LoadIo) (stateFile : Option (List UInt8))

/-- The messages that a pipe takes. -/
def reach {Message : Type} (taken : Bool) (messages : List Message) : List Message :=
  if taken then messages else []

/-- The system after a round of the uplink application. -/
def afterUplink (bus : Bus) (round : Uplink.Env × Uplink.Input) (s : System) : System :=
  let uplink := Uplink.step s.uplink round
  let orders := Uplink.ordersBetween s.uplink uplink
  { s with
    uplink := uplink
    toCore := s.toCore ++ reach bus.core (orders.filterMap forCore)
    toBridge := s.toBridge ++ reach bus.bridge (orders.filterMap forBridge)
    toLora := s.toLora ++ reach bus.lora (orders.filterMap forLora) }

/-- The command for the bridge that an output of the core application is. -/
def coreControl : Core.Output → Option Core.BridgeCtrl
  | .message (.bridgeCtrl cmd) => some cmd
  | _ => none

/-- The commands for the bridge among what the core application has put out, newest first. -/
def coreControls (s : Core.State) : List Core.BridgeCtrl := s.outputs.filterMap coreControl

/-- The system after a round of the core application. -/
def afterCore (bus : Bus) (met : Core.Env × Option Core.PipeMessage) (s : System) : System :=
  let core := Core.round s.core met
  { s with
    core := core
    toBridge := s.toBridge ++ reach bus.bridge
      ((Channel.added (coreControls s.core.data) (coreControls core.data)).map .control)
    toLora := s.toLora ++ reach bus.lora
      ((Channel.added s.core.snapshots core.snapshots).map snapshotPacket)
    results := s.results ++ reach bus.uplink
      (Channel.added (coreResults s.core.data) (coreResults core.data)) }

/-- The system after an input of the bridge. -/
def afterBridge (bus : Bus) (input : Bridge.Input) (s : System) : System :=
  let bridge := Bridge.step s.bridge input
  { s with
    bridge := bridge
    results := s.results ++ reach bus.uplink
      (Channel.added (bridgeResults s.bridge) (bridgeResults bridge)) }

/-- The system after a message of the LoRa application. -/
def afterLora (bus : Bus) (env : Lora.PacketEnv) (packet : Lora.Packet) (s : System) : System :=
  let lora := Lora.processPacket env packet s.lora
  { s with
    lora := lora
    results := s.results ++ reach bus.uplink
      (Channel.added (loraResults s.lora) (loraResults lora)) }

/-- What an event brings about. Nothing is taken from an empty pipe. -/
def step (s : System) : Event → System
  | .uplink env input _ bus => afterUplink bus (env, input) s
  | .takeResult env bus =>
    match s.results with
    | [] => s
    | result :: rest =>
      afterUplink bus (env, .received (.execResult result)) { s with results := rest }
  | .restartUplink load resetType countEnv markerEnv =>
    { s with
      uplink := Uplink.init load resetType countEnv markerEnv s.uplink.stateFile
      results := [] }
  | .core env message _ bus => afterCore bus (env, message) s
  | .takeCore env bus =>
    match s.toCore with
    | [] => s
    | message :: rest => afterCore bus (env, some message) { s with toCore := rest }
  | .restartCore io =>
    { s with core := Core.startApplication io s.core.data.stateFile, toCore := [] }
  | .bridge input _ bus => afterBridge bus input s
  | .takeBridge met bus =>
    match s.toBridge with
    | [] => s
    | order :: rest => afterBridge bus (order.input met) { s with toBridge := rest }
  | .restartBridge config => { s with bridge := Bridge.initialState config, toBridge := [] }
  | .lora env packet _ bus => afterLora bus env packet s
  | .takeLora env bus =>
    match s.toLora with
    | [] => s
    | packet :: rest => afterLora bus env packet { s with toLora := rest }
  | .radio input _ => { s with lora := { s.lora with data := Lora.step s.lora.data input } }
  | .restartLora io stateFile => { s with lora := Lora.boot io stateFile, toLora := [] }

/-- What the applications start with. -/
structure Boot where
  load : Uplink.LoadIo
  resetType : UInt8
  countEnv : Uplink.Env
  markerEnv : Uplink.Env
  uplinkFile : Option (List UInt8)
  coreLoad : StateFile.LoadIo
  coreFile : Option (List UInt8)
  config : Bridge.ConfigParams
  loraLoad : StateFile.LoadIo
  loraFile : Option (List UInt8)

/-- The system after its start. -/
def Boot.system (boot : Boot) : System where
  uplink := Uplink.init boot.load boot.resetType boot.countEnv boot.markerEnv boot.uplinkFile
  core := Core.startApplication boot.coreLoad boot.coreFile
  bridge := Bridge.initialState boot.config
  lora := Lora.boot boot.loraLoad boot.loraFile
  toCore := []
  toBridge := []
  toLora := []
  results := []

/-- The round of the uplink application that an event is. -/
def uplinkRound (s : System) : Event → Option (Uplink.Env × Uplink.Input)
  | .uplink env input _ _ => some (env, input)
  | .takeResult env _ => s.results.head?.map fun result => (env, .received (.execResult result))
  | _ => none

/-- The round of the core application that an event is. -/
def coreRound (s : System) : Event → Option (Core.Env × Option Core.PipeMessage)
  | .core env message _ _ => some (env, message)
  | .takeCore env _ => s.toCore.head?.map fun message => (env, some message)
  | _ => none

/-- The input of the bridge that an event is. -/
def bridgeInput (s : System) : Event → Option Bridge.Input
  | .bridge input _ _ => some input
  | .takeBridge met _ => s.toBridge.head?.map (BridgeOrder.input met)
  | _ => none

/-- The message of the LoRa application that an event is. -/
def loraPacket (s : System) : Event → Option (Lora.PacketEnv × Lora.Packet)
  | .lora env packet _ _ => some (env, packet)
  | .takeLora env _ => s.toLora.head?.map fun packet => (env, packet)
  | _ => none

/-- The messages for other applications that an event orders. -/
def orders (s : System) (event : Event) : List Uplink.Message :=
  ((uplinkRound s event).bind (Uplink.ordered s.uplink)).toList

/-- The commands for the bridge that an event of the core application sends. -/
def controls (s : System) (event : Event) : List Core.BridgeCtrl :=
  match coreRound s event with
  | some met => Channel.added (coreControls s.core.data)
      (coreControls (Core.round s.core met).data)
  | none => []

/-- The route snapshots that an event of the core application publishes. -/
def snapshots (s : System) (event : Event) : List RouteUpdate :=
  match coreRound s event with
  | some met => Channel.added s.core.snapshots (Core.round s.core met).snapshots
  | none => []

/-- The results that an event reports. -/
def reported (s : System) (event : Event) : List ExecResult :=
  match coreRound s event, bridgeInput s event, loraPacket s event with
  | some met, _, _ => Channel.added (coreResults s.core.data)
      (coreResults (Core.round s.core met).data)
  | none, some input, _ => Channel.added (bridgeResults s.bridge)
      (bridgeResults (Bridge.step s.bridge input))
  | none, none, some (env, packet) => Channel.added (loraResults s.lora)
      (loraResults (Lora.processPacket env packet s.lora))
  | none, none, none => []

/-- The messages that the core application takes. -/
def takenCore (s : System) : Event → List Core.PipeMessage
  | .takeCore _ _ => s.toCore.take 1
  | _ => []

/-- The messages that the bridge takes. -/
def takenBridge (s : System) : Event → List BridgeOrder
  | .takeBridge _ _ => s.toBridge.take 1
  | _ => []

/-- The messages that the LoRa application takes. -/
def takenLora (s : System) : Event → List Lora.Packet
  | .takeLora _ _ => s.toLora.take 1
  | _ => []

/-- The results that the uplink application takes. -/
def takenResults (s : System) : Event → List ExecResult
  | .takeResult _ _ => s.results.take 1
  | _ => []

end CfsTelemetry.Flight
