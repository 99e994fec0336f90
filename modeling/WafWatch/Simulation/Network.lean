import WafWatch.Host.IoError
import WafWatch.Net.Address

/-!
This module contains the network as one machine sees it: at which addresses it can listen.
-/

namespace WafWatch.Simulation

/--
The address is one of those that every machine has: any of its own ones, or one that leads to itself.
-/
def isOwn : Net.IpAddress → Bool
  | .v4 octets => octets.toList == [0, 0, 0, 0] || octets.toList.head? == some 127
  | .v6 groups =>
    let groups := groups.toList
    groups.all (· == 0) || groups == [0, 0, 0, 0, 0, 0, 0, 1]

/--
The network of a machine that has no addresses but the ones that every machine has.
-/
structure Network where
  /-- The addresses at which somebody listens already. -/
  busy : List Net.SocketAddress := []
  deriving Repr, Inhabited

namespace Network

/--
The port of a listener that does not ask for one.
-/
def freePort : UInt16 := 49152

def listen (network : Network) (address : Net.SocketAddress) : Except IoError Net.SocketAddress :=
  if !isOwn address.ip then .error .addressNotAvailable
  else if address.port == 0 then .ok { address with port := freePort }
  else if network.busy.contains address then .error .addressInUse
  else .ok address

end Network

end WafWatch.Simulation
