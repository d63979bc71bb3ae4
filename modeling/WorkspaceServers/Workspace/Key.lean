import WorkspaceServers.Text.Pieces

/-!
What a workspace is known by. The key joins the host of the resource and the slug with
a slash. The host is the resource without its scheme and without separators, so the
first slash of a key always stands between host and slug.
-/

namespace WorkspaceServers.Workspace

structure Identity where
  group : String
  resource : String
  slug : String
deriving DecidableEq

structure Key where
  text : String
deriving DecidableEq

/-- What stands behind the first `://`; the whole text if there is none. -/
def afterScheme (resource : List Char) : List Char :=
  match Text.splitAtMark? [':', '/', '/'] resource with
  | some (_, rest) => rest
  | none => resource

def isSeparator (c : Char) : Bool := c = '/' || c = '\\'

def host (resource : List Char) : List Char :=
  (afterScheme resource).filter fun c => !isSeparator c

namespace Key

def ofParts (resource slug : String) : Key :=
  ⟨String.ofList (host resource.toList ++ '/' :: slug.toList)⟩

end Key

def Identity.key (identity : Identity) : Key := .ofParts identity.resource identity.slug

end WorkspaceServers.Workspace
