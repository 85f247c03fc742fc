import SiteGateway.Files.Tree
import SiteGateway.Route.Basic

/-!
# What is wrong with the settings
-/

namespace SiteGateway

inductive ConfigError
  /-- A path that cannot be read. -/
  | io (path : Text) (fault : FileFault)
  /-- A settings file that is not understood. -/
  | parse (path : Text)
  | invalid (reason : Text)
  | route (error : RouteError)
deriving DecidableEq, Repr

/-- The message; of a file that is not understood it tells only the path. -/
def ConfigError.message : ConfigError → Text
  | io path fault =>
    "failed to read ".toList ++ path ++ ": ".toList ++ fault.message.toList
  | parse path => "failed to parse ".toList ++ path
  | invalid reason => "invalid configuration: ".toList ++ reason
  | route error => error.message

end SiteGateway
