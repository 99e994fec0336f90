import WafWatch.Simulation.Network
import WafWatch.Simulation.Shell.Interpreter

/-!
This module contains machines for runs of the program: each is put together from a disk, some small programs
and a network. They stand in for the operating system, and nothing is proved about them.
-/

namespace WafWatch.Simulation

def machine (disk : Disk) (network : Network := {}) : Host where
  file := disk.view
  run := runCommand disk
  listen := network.listen

end WafWatch.Simulation
