import WorkspaceServers.Launch.Spec
import WorkspaceServers.Path.Basic

/-!
The machine that servers are launched on, as far as launching shows it.
-/

namespace WorkspaceServers.Launch

structure Command where
  program : Path
  arguments : List String
  toolchain : Option String
deriving DecidableEq

/-- The toolchain that the program is told of; without one of its own it inherits that of
its parent. -/
def Command.toolchainPath (command : Command) (inherited : Option Path) : Option Path :=
  (command.toolchain.map Path.ofString).or inherited

structure Machine where
  processId : UInt32
  find? : String → Option Path
  canRun : Command → Bool

def Spec.command (spec : Spec) (program : Path) : Command :=
  ⟨program, spec.arguments, spec.toolchain⟩

end WorkspaceServers.Launch
