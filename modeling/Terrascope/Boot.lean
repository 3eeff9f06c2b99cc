import Terrascope.Node

/-!
# Booting

A node comes up in two threads of work. The kernel runs `lora_init` before
`main`, which then initialises authentication, configuration, routing and the
neighbour table one after the other. The threads of the LoRa module wait for
`lora_init` only, so they run beside `main` from then on: `Booting` is the
node with where `main` is in its initialisation, and a run of it is one
interleaving of the two.

A step of `main` that fails makes `main` return, and nothing is initialised
after it.
-/

namespace Terrascope

open Transition

/-! ## The radio -/

/-- The fields of `struct lora_modem_config` that are set. The enumerations
are the numbers cast to them. -/
structure LoraModemConfig where
  frequency : UInt32
  bandwidth : UInt32
  datarate : UInt32
  codingRate : UInt32
  iqInverted : Bool
  publicNetwork : Bool
  txPower : Int8
  tx : Bool
deriving DecidableEq, Repr

/-- `lora_populate_modem_config`. -/
def loraPopulateModemConfig (cfg : TsConfig) : LoraModemConfig where
  frequency := cfg.loraFrequency
  bandwidth := cfg.loraBw.toUInt32
  datarate := cfg.loraSf.toUInt32
  codingRate := cfg.loraCr.toUInt32
  iqInverted := false
  publicNetwork := false
  txPower := cfg.loraTxPower
  tx := true

/-- `lora_init`: the configuration it passes to `lora_config`, if it comes
that far, and what it returns. `configRet` is what `lora_config` returns. -/
def loraInit (cfg : TsConfig) (deviceReady : Bool) (configRet : Int32) :
    Option LoraModemConfig × Int32 :=
  if deviceReady then
    (some (loraPopulateModemConfig cfg), if configRet < 0 then -Errno.EIO else 0)
  else (none, -Errno.ENODEV)

/-! ## `main` -/

/-- **Where `main` is in its initialisation.** -/
inductive MainPc where
  | authInit
  | configInit
  | routingInit
  | routingTableInit
  /-- Everything is initialised. -/
  | running
  | returned (ret : Int32)
deriving DecidableEq, Repr

/-- **A node that is coming up.** -/
structure Booting (τ : Type) where
  node : Node τ
  main : MainPc
  /-- The network key is in the key store. -/
  keyImported : Bool
  /-- What was last passed to `lora_config`. -/
  modem : Option LoraModemConfig
  /-- `lora_ready_sem` was given. -/
  loraReady : Bool

/-- **A step of the boot**, of `main` or of one of the node's threads. -/
inductive BootAct (τ : Type) where
  | tsAuthInit (ret : Int32)
  | tsConfigInit (subsysRet loadRet : Int32)
    (order : List (Sigma fun _ : List UInt8 => List UInt8))
  | tsRoutingInit
  | tsRoutingTableInit
  | node (act : NodeAct τ)

namespace Booting

variable {τ : Type}

/-- The node as the static initialisers leave it, and the routing state they
leave is what `ts_routing_init` would make of id 0. `lora_in_task` has
initialised its pool before it first receives. -/
def staticNode [Inhabited τ] (store : Zephyr.SettingsStore) : Node τ :=
  { Node.boot ⟨tsConfigDefaults, store⟩ with routing := Terrascope.tsRoutingInit 0 }

/-- **After `lora_init`**, which the kernel runs before `main`. -/
def afterLoraInit [Inhabited τ] (store : Zephyr.SettingsStore) (deviceReady : Bool)
    (configRet : Int32) : Booting τ :=
  let (modem, ret) := loraInit (tsConfigGet tsConfigDefaults) deviceReady configRet
  { node := staticNode store
    main := .authInit
    keyImported := false
    modem := modem
    loraReady := ret == 0 }

/-- The platform: no MAC is computed before the key is imported. -/
def platform (P : Platform) (s : Booting τ) : Platform :=
  if s.keyImported then P else { P with mac := fun _ => none }

/-- **One step.** -/
def step (P : Platform) (s : Booting τ) : BootAct τ → Option (Booting τ)
  | .tsAuthInit ret =>
    if s.main = .authInit then
      some (if ret = 0 then { s with keyImported := true, main := .configInit }
        else { s with main := .returned ret })
    else none
  | .tsConfigInit subsysRet loadRet order =>
    if s.main = .configInit then
      let (config, ret) := Terrascope.tsConfigInit s.node.config subsysRet loadRet order
      some { s with
        node := { s.node with config := config }
        main := if ret = 0 then .routingInit else .returned ret }
    else none
  | .tsRoutingInit =>
    if s.main = .routingInit then
      some { s with
        node := { s.node with routing := Terrascope.tsRoutingInit s.node.cfg.nodeId }
        main := .routingTableInit }
    else none
  | .tsRoutingTableInit =>
    if s.main = .routingTableInit then
      some { s with
        node := { s.node with table := Terrascope.tsRoutingTableInit }
        main := .running }
    else none
  | .node act =>
    if s.loraReady then
      (s.node.step (s.platform P) act).map (fun node => { s with node := node })
    else none

/-- What the step does that others can see. -/
def events (P : Platform) (s : Booting τ) : BootAct τ → List (NodeEvent τ)
  | .node act => s.node.events (s.platform P) act
  | _ => []

end Booting

end Terrascope
