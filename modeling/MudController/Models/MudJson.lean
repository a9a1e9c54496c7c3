/-!
# `Models.MudJson` — the MUD file format (`json_models.rs`)

The fields of a deserialized MUD file that `parse_mud` reads.
-/

namespace MudController

namespace MudJson

structure AccessList where
  name : String

structure AccessLists where
  accessList : List AccessList

structure Policy where
  accessLists : AccessLists

structure Port where
  operator : Option String := none
  port : Option UInt32 := none
  lowerPort : Option UInt32 := none
  upperPort : Option UInt32 := none

structure Tcp where
  sourcePort : Option Port := none
  destinationPort : Option Port := none
  directionInitiated : Option String := none

structure Udp where
  sourcePort : Option Port := none
  destinationPort : Option Port := none

structure Ipv4 where
  protocol : Option UInt32 := none
  sourceIpv4Network : Option String := none
  destinationIpv4Network : Option String := none
  srcDnsname : Option String := none
  dstDnsname : Option String := none

structure Ipv6 where
  protocol : Option UInt32 := none
  sourceIpv6Network : Option String := none
  destinationIpv6Network : Option String := none
  srcDnsname : Option String := none
  dstDnsname : Option String := none

structure Matches where
  ipv4 : Option Ipv4 := none
  ipv6 : Option Ipv6 := none
  tcp : Option Tcp := none
  udp : Option Udp := none

structure Actions where
  forwarding : String

structure Ace where
  name : String
  aceMatches : Matches
  actions : Actions

structure Aces where
  ace : List Ace

structure Acl where
  name : String
  typeField : String
  aces : Aces

structure IetfAccessControlListAcls where
  acl : List Acl

structure MudDefinition where
  mudVersion : Int
  lastUpdate : String
  cacheValidity : Option Int := none
  systeminfo : Option String := none
  mfgName : Option String := none
  documentation : Option String := none
  modelName : Option String := none
  fromDevicePolicy : Policy
  toDevicePolicy : Policy
  extensions : Option (List String) := none
  masaServer : Option String := none

end MudJson

structure MudJson where
  mud : MudJson.MudDefinition
  acls : MudJson.IetfAccessControlListAcls

end MudController
