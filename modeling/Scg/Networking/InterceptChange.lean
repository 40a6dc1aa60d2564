import Scg.Config.Diff
import Scg.Networking.Fates

-- A reload sets the firewall up again only where the intercept blocks differ by name.
namespace Scg.Networking
open Config Net FirstMatch List Option

variable {packet : Packet}

def projected (rule : RuleConfig × InterceptConfig) : String × String × Proto × InterceptConfig :=
  (rule.1.name,rule.1.listenAddr,rule.1.listenProto,rule.2)

def Alike (one two : Intercepts) : Prop := (one.map projected).Perm (two.map projected)

section Alike
variable (alike : Alike one two)
include alike

end Alike

section Fates
end Fates

section Same
end Same

section Agreeing
end Agreeing

end Scg.Networking
