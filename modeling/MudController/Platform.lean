import MudController.Logic.Text
import MudController.Models.MudJson

/-!
# `Platform` — what the controller takes from its libraries

The addresses of the standard library, and, as parameters, the functions of third-party crates that the
services call: the text forms of addresses and of instants, the MAC address type of `namib_shared`, the
reading of a MUD file's JSON, the `url` and `glob` crates, the configured domain. Of a text form only its
round trip is assumed (`TextForm`); of the others nothing.
-/

namespace MudController

open Logic

/-- `std::net::Ipv4Addr`. -/
structure Ipv4Addr where
  bits : BitVec 32
  deriving DecidableEq

/-- `std::net::Ipv6Addr`. -/
structure Ipv6Addr where
  bits : BitVec 128
  deriving DecidableEq

/-- `std::net::IpAddr`. -/
inductive IpAddr where
  | v4 (addr : Ipv4Addr)
  | v6 (addr : Ipv6Addr)
  deriving DecidableEq

/-- An instant: `chrono`'s `DateTime<Utc>` and its `naive_utc()`, in nanoseconds since the epoch. -/
abbrev DateTime := Int

/-- `chrono::Duration::hours`. -/
def hours (n : Int) : Int := n * 3600 * 1000000000

/-- The libraries the controller is built on. -/
class Platform where
  /-- `namib_shared::macaddr::SerdeMacAddr`. -/
  MacAddr : Type
  decEqMacAddr : DecidableEq MacAddr
  macAddrText : TextForm MacAddr
  ipv4AddrText : TextForm Ipv4Addr
  ipv6AddrText : TextForm Ipv6Addr
  /-- The text `serde` writes for a `DateTime<Utc>`. -/
  dateTimeText : TextForm DateTime
  /-- `NaiveDateTime::to_string`. -/
  naiveDateTimeToString : DateTime → String
  /-- `serde_json::from_str::<MudJson>`: a fetched MUD file. -/
  mudJsonFromStr : String → Option MudJson
  /-- `Url::parse(..).is_ok()`. -/
  urlParses : String → Bool
  /-- `glob::Pattern::new`: the compiled matcher, or `none` where the pattern is rejected. -/
  globPattern : String → Option (String → Bool)
  /-- `acme_service::DOMAIN`. -/
  domain : String

variable [Platform]

/-- `SerdeMacAddr`. -/
abbrev MacAddr : Type := Platform.MacAddr

instance : DecidableEq MacAddr := Platform.decEqMacAddr
instance : TextForm MacAddr := Platform.macAddrText
instance : TextForm Ipv4Addr := Platform.ipv4AddrText
instance : TextForm Ipv6Addr := Platform.ipv6AddrText
instance : TextForm DateTime := Platform.dateTimeText

/-- `IpAddr::from_str`: an IPv4 address if the text is one, else an IPv6 address. -/
def IpAddr.parse (s : String) : Option IpAddr :=
  match (Logic.parse s : Option Ipv4Addr) with
  | some a => some (.v4 a)
  | none => (Logic.parse s : Option Ipv6Addr).map .v6

/-- `IpAddr::to_string`. -/
def IpAddr.toText : IpAddr → String
  | .v4 a => Logic.toText a
  | .v6 a => Logic.toText a

end MudController
