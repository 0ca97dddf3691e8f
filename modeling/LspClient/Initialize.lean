import LspClient.FileUri
import LspClient.Message
import LspClient.Settings

/-!
# The initialize request

What the client tells a server about itself when it introduces itself.
-/

namespace LspClient.Initialize

def clientName : String := "ASP language server"

def clientVersion : String := "0.0.0"

/-- The name of a workspace that has no folder name of its own. -/
def unnamedWorkspace : String := "workspace"

/-- The name of the workspace folder: the last segment of its URI. -/
def folderName (root : FileUri) : String :=
  root.lastSegment?.getD unnamedWorkspace

def workspaceFolders : Option FileUri → Json
  | none => .null
  | some root => .arr [.obj [("name", .str (folderName root)), ("uri", .str root.render)]]

def capabilities : Json :=
  .obj
    [("general", .obj [("positionEncodings", .arr [.str "utf-16"])]),
      ("window", .obj [("showMessage", .obj [])])]

/-- The parameters of the request. `process` is what identifies the client's own process. -/
def params (process : Json) (root : Option FileUri) (level : TraceLevel) : Json :=
  .obj
    [("capabilities", capabilities),
      ("clientInfo", .obj [("name", .str clientName), ("version", .str clientVersion)]),
      ("processId", process),
      ("rootUri", (root.map fun u => Json.str u.render).getD .null),
      ("trace", .str level.name),
      ("workspaceFolders", workspaceFolders root)]

end LspClient.Initialize
