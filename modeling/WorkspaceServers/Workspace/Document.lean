import WorkspaceServers.Language
import WorkspaceServers.Path.FileUri

/-!
Documents of a workspace: a name is resolved under the document root, and the path so
found gives the URI and the language that a server is told.
-/

namespace WorkspaceServers.Workspace

def documentPath (root : Path) (name : String) : Path := root.extend name

def documentUri? (root : Path) (name : String) : Option String := (documentPath root name).fileUri?

def documentLanguage (root : Path) (name : String) : Language :=
  .ofPath (documentPath root name)

end WorkspaceServers.Workspace
