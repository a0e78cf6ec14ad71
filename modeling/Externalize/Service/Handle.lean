import Externalize.Service.Answer
import Externalize.Service.Request

/-!
# `Externalize.Service.Handle`: the service in its web framework

The web framework lets a call through if the name of its host can be spelled in ASCII.
-/

set_option autoImplicit false

namespace Externalize.Service

/-- The answer to a call; `key` is the key that is set, if one is. -/
def handle (key : Option Text) (call : Call) : Job Response :=
  answer (fun name => (HostName.toAscii name).isOk) key call

end Externalize.Service
