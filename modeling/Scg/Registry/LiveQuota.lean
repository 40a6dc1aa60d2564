import Scg.Registry.Identity

namespace Scg.Registry
open Config Gateway Transition Tables List

variable {env : Parsers} {limits : Limits} {live : LiveState} {s : State}
end Scg.Registry
