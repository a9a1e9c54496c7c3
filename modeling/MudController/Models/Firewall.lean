import MudController.Platform

/-!
# `Models.Firewall` — the enforcer's configuration (`namib_shared::firewall_config`)

The rule types that the controller fills in and an enforcer receives.
-/

namespace MudController

inductive Protocol where
  | all
  | tcp
  | udp
  deriving DecidableEq

inductive Verdict where
  | accept
  | reject
  deriving DecidableEq

/-- One side of a rule as the controller can name it. -/
inductive RuleTargetHost where
  | firewallDevice
  | ip (addr : IpAddr)
  | hostname (name : String)
  deriving DecidableEq

structure RuleTarget where
  host : Option RuleTargetHost
  port : Option UInt16
  deriving DecidableEq

structure FirewallRule where
  ruleName : String
  src : RuleTarget
  dst : RuleTarget
  protocol : Protocol
  verdict : Verdict
  deriving DecidableEq

structure FirewallDevice where
  id : Int
  ipv4Addr : Option Ipv4Addr
  ipv6Addr : Option Ipv6Addr
  rules : List FirewallRule
  collectData : Bool
  deriving DecidableEq

structure EnforcerConfig where
  version : String
  devices : List FirewallDevice
  acmeDomain : String
  deriving DecidableEq

end MudController
