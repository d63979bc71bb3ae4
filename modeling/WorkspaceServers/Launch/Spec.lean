import WorkspaceServers.Launch.Context

/-!
What a server is launched with, once every setting that it needs is known.
-/

namespace WorkspaceServers.Launch

def toolchainVariable : String := "SOURCEKIT_TOOLCHAIN_PATH"

structure MissingSetting where
  setting : Setting
deriving DecidableEq

def MissingSetting.message (missing : MissingSetting) : String :=
  "missing required launch context key '" ++ missing.setting.name ++ "'"

structure Spec where
  serverPath : String
  sdkPath : String
  target : String
  toolchain : Option String
deriving DecidableEq

namespace Spec

def require (context : Context) (setting : Setting) : Except MissingSetting String :=
  match context.get? setting.name with
  | some value => .ok value
  | none => .error ⟨setting⟩

def ofContext (context : Context) : Except MissingSetting Spec := do
  let serverPath ← require context .serverPath
  let sdkPath ← require context .sdkPath
  let target ← require context .target
  return ⟨serverPath, sdkPath, target, context.get? Setting.toolchain.name⟩

/-- The server's arguments. SDK and target go through to the compiler, each word behind
a flag of its own. -/
def arguments (spec : Spec) : List String :=
  ["--log-level", "info"] ++
    ["-sdk", spec.sdkPath, "-target", spec.target].flatMap fun word => ["-Xswiftc", word]

end Spec

end WorkspaceServers.Launch
