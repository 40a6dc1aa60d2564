import Scg.Relay.Tunnels

namespace Scg.Relay
open Net Policy Config

inductive RuleKind where
  | tcpEncrypt | tcpDecrypt | tcpRouting | udpRouting | dtlsEncrypt | dtlsDecrypt | wireguard | udpEncrypt
  deriving DecidableEq

def relay (std : Std) (host : Host) (ctx : RuleContext) : RuleKind → Machine
  | .tcpEncrypt => Streams.machine std .encrypt ctx
  | .tcpDecrypt => Streams.machine std .decrypt ctx
  | .tcpRouting => Streams.machine std .routing ctx
  | .udpRouting => Sessions.machine .routing ctx
  | .dtlsEncrypt => Sessions.machine .dtlsEncrypt ctx
  | .dtlsDecrypt => DtlsDecrypt.machine ctx
  | .wireguard => Wireguard.machine host ctx
  | .udpEncrypt => UdpEncrypt.machine std ctx

-- The one relay that asks no policy is idle only while its upstream is not an address.
def Mediated (std : Std) (ctx : RuleContext) (kind : RuleKind) : Prop :=
  kind = .udpEncrypt → ∃ e, std.parseSocket ctx.upstreamAddr = .error e

def openGate : Gate :=
  {cache := .new 10000 300,analyzer := none,policyManager := none}

theorem unchecked_forward (flow : Nat) (src dst : SocketAddr) : ¬ Gated [.forwarded flow src dst] := by
  intro gated
  have earlier := gated [] (.forwarded flow src dst) [] rfl _ rfl
  cases earlier

theorem udp_encrypt_gated_iff (std : Std) (ctx : RuleContext) :
    (UdpEncrypt.machine std ctx).AlwaysGated ↔ ∃ e, std.parseSocket ctx.upstreamAddr = .error e := by
  constructor
  · intro gated
    cases parsed : std.parseSocket ctx.upstreamAddr with
    | error e => exact ⟨e,rfl⟩
    | ok upstream =>
      obtain ⟨s,path,_,logged⟩ := UdpEncrypt.first_forwarded openGate upstream parsed
      have ordered := gated s path
      change Gated s.log at ordered
      rw [logged] at ordered
      exact absurd ordered (unchecked_forward _ _ _)
  · intro unparsed s path
    have silent := (UdpEncrypt.undialled_silent unparsed path).2
    change Gated s.log
    rw [silent]
    exact Precedence.preceded_nil

-- Every relay but the UDP-over-TLS encrypt relay is gated in every run.
theorem relay_gated_iff (std : Std) (host : Host) (ctx : RuleContext) (kind : RuleKind) :
    (relay std host ctx kind).AlwaysGated ↔ Mediated std ctx kind := by
  cases kind with
  | tcpEncrypt => exact ⟨fun _ => nofun,fun _ => Streams.streams_gated std .encrypt ctx⟩
  | tcpDecrypt => exact ⟨fun _ => nofun,fun _ => Streams.streams_gated std .decrypt ctx⟩
  | tcpRouting => exact ⟨fun _ => nofun,fun _ => Streams.streams_gated std .routing ctx⟩
  | udpRouting => exact ⟨fun _ => nofun,fun _ => Sessions.sessions_gated .routing ctx⟩
  | dtlsEncrypt => exact ⟨fun _ => nofun,fun _ => Sessions.sessions_gated .dtlsEncrypt ctx⟩
  | dtlsDecrypt => exact ⟨fun _ => nofun,fun _ => DtlsDecrypt.dtls_decrypt_gated ctx⟩
  | wireguard => exact ⟨fun _ => nofun,fun _ => Wireguard.wireguard_gated host ctx⟩
  | udpEncrypt =>
    have exactly := udp_encrypt_gated_iff std ctx
    exact ⟨fun gated _ => exactly.mp gated,fun mediated => exactly.mpr (mediated rfl)⟩

def connectedHost : Host := ⟨some,fun _ => rfl⟩

def tunnelRule : RuleContext :=
  {upstreamAddr := "192.0.2.1:9443",upstreamProto := .tcp,transparent := false,trafficClass := .normal,
    maxSessions := 1024,idleTtl := 60*10^9}

def denyingGate : Gate := {openGate with policyManager := some (.new .ipv4 none)}

-- The policy denies everything, and a datagram of 10.0.0.9:4000 reaches the upstream.
theorem udp_encrypt_unchecked :
    (∃ s, Transition.Reached (UdpEncrypt.system .ipv4 tunnelRule) s ∧ s.gate = denyingGate ∧
      s.log = [.forwarded 0 (.v4 0x0a000009 4000) (.v4 0xc0000201 9443)]) ∧
    (denyingGate.classifyAndCheckPolicy 0 tunnelRule.trafficClass (.v4 0x0a000009 4000)
      (.v4 0xc0000201 9443)).1 = false ∧
    ¬ (relay .ipv4 connectedHost tunnelRule .udpEncrypt).AlwaysGated := by
  have parsed : Std.ipv4.parseSocket tunnelRule.upstreamAddr = .ok (.v4 0xc0000201 9443) := by rfl
  obtain ⟨s,path,gate,logged⟩ :=
    UdpEncrypt.first_forwarded denyingGate (.v4 0x0a000009 4000) parsed
  refine ⟨⟨s,path,gate,logged⟩,by decide +kernel,?_⟩
  intro gated
  have ordered := gated s path
  change Gated s.log at ordered
  rw [logged] at ordered
  exact unchecked_forward _ _ _ ordered

end Scg.Relay
