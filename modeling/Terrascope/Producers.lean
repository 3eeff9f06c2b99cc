import Terrascope.Routing

/-!
# The messages a node originates

Three places of the firmware build a message of their own: the heartbeat
loop of `main`, the sensor work and the configuration path of the receive
task. Each takes its header from `ts_routing_prepare_header`; the key id of
the header is zero until the transmit task stamps it.
-/

namespace Terrascope

/-- A header before `ts_routing_prepare_header`, cleared by the message's
initialiser. -/
def TsRouteHeader.zero : TsRouteHeader := ⟨0, 0, 0, 0, 0⟩

/-- The message of `main`'s heartbeat loop; `now` is the uptime in seconds. -/
def heartbeatMsg (route : TsRouteHeader) (now : UInt32) : TsMsgLoraOutgoing :=
  ⟨route, .nodeStatus ⟨now, now, TsStatus.ok⟩⟩

/-- The message of `periodic_work_handler`, once the sensor was read. -/
def sensorMsg (route : TsRouteHeader) (now : UInt32) (temperature : Int32)
    (humidity pressure : UInt32) : TsMsgLoraOutgoing :=
  ⟨route, .telemetry ⟨now, temperature, humidity, pressure⟩⟩

/-- The acknowledgement of a configuration request: `strncpy` leaves room for
the terminator. -/
def configAckMsg (route : TsRouteHeader) (req : TsMsgConfigSet) (cfgRet : Int32) :
    TsMsgLoraOutgoing :=
  ⟨route, .configAck ⟨KeyBuf.ofText (req.key.cstr.take (TS_MSG_CONFIG_KEY_MAX - 1)),
    req.value, cfgRet⟩⟩

end Terrascope
