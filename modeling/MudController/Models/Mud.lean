import MudController.Logic.Json
import MudController.Platform

/-!
# `Models.Mud` — MUD profiles (`mud_models.rs`)

The profile types, and the `serde` encoding under which a profile is kept in the `data` column of
`mud_data`. The column's text is `serde_json`'s printing of the JSON value, so the model keeps the value.
-/

namespace MudController

open Logic

inductive AceAction where
  | accept
  | deny
  deriving DecidableEq

inductive AclType where
  | ipv6
  | ipv4
  deriving DecidableEq

inductive AclDirection where
  | fromDevice
  | toDevice
  deriving DecidableEq

inductive AceProtocol where
  | tcp
  | udp
  | protocol (num : UInt32)
  deriving DecidableEq

inductive AcePort where
  | single (port : UInt32)
  | range (lower upper : UInt32)
  deriving DecidableEq

structure AceMatches where
  protocol : Option AceProtocol := none
  directionInitiated : Option AclDirection := none
  addressMask : Option String := none
  dnsname : Option String := none
  sourcePort : Option AcePort := none
  destinationPort : Option AcePort := none
  deriving DecidableEq

/-- An access control entry. The source's field `matches` is `aceMatches` here. -/
structure Ace where
  name : String
  action : AceAction
  aceMatches : AceMatches
  deriving DecidableEq

structure Acl where
  name : String
  packetDirection : AclDirection
  aclType : AclType
  ace : List Ace
  deriving DecidableEq

structure MudData where
  url : String
  masaUrl : Option String
  lastUpdate : String
  systeminfo : Option String
  mfgName : Option String
  modelName : Option String
  documentation : Option String
  expiration : DateTime
  acllist : List Acl
  aclOverride : List Acl
  deriving DecidableEq

/-- A row of `mud_data`. -/
structure MudDbo where
  url : String
  data : Json
  createdAt : DateTime
  expiration : DateTime

/-- What `get_all_mud_expiration` selects of a row. -/
structure MudDboRefresh where
  url : String
  expiration : DateTime

/-! ## The derived encodings -/

def AceAction.name : AceAction → String
  | .accept => "Accept"
  | .deny => "Deny"

def AclType.name : AclType → String
  | .ipv6 => "IPV6"
  | .ipv4 => "IPV4"

def AclDirection.name : AclDirection → String
  | .fromDevice => "FromDevice"
  | .toDevice => "ToDevice"

instance : Serde AceAction where
  serialize := serializeName AceAction.name
  deserialize := deserializeName AceAction.name [.accept, .deny]
  deserialize_serialize a := by cases a <;> simp [serializeName, deserializeName, AceAction.name]
  serialize_ne_null _ := nofun

instance : Serde AclType where
  serialize := serializeName AclType.name
  deserialize := deserializeName AclType.name [.ipv6, .ipv4]
  deserialize_serialize a := by cases a <;> simp [serializeName, deserializeName, AclType.name]
  serialize_ne_null _ := nofun

instance : Serde AclDirection where
  serialize := serializeName AclDirection.name
  deserialize := deserializeName AclDirection.name [.fromDevice, .toDevice]
  deserialize_serialize a := by cases a <;> simp [serializeName, deserializeName, AclDirection.name]
  serialize_ne_null _ := nofun

/-- Adjacently tagged: the variant under `name`, its number under `num`. -/
instance : Serde AceProtocol where
  serialize
    | .tcp => .obj [("name", serialize "Tcp")]
    | .udp => .obj [("name", serialize "Udp")]
    | .protocol n => .obj [("name", serialize "Protocol"), ("num", serialize n)]
  deserialize
    | .obj fields => do
        let name ← requiredField String "name" fields
        if name = "Protocol" then
          (requiredField UInt32 "num" fields).map .protocol
        else do
          let num ← optionalField UInt32 "num" fields
          -- a variant without content takes no number
          if num.isSome then none
          else if name = "Tcp" then some .tcp
          else if name = "Udp" then some .udp
          else none
    | _ => none
  deserialize_serialize a := by
    cases a with
    | tcp => simp [requiredField, optionalField, field?]
    | udp => simp [requiredField, optionalField, field?]
    | protocol n => simp [requiredField, field?]
  serialize_ne_null a := by cases a <;> nofun

/-- Externally tagged: an object with the variant's name as its only field. -/
instance : Serde AcePort where
  serialize
    | .single p => .obj [("single", serialize p)]
    | .range l u => .obj [("range", .arr [serialize l, serialize u])]
  deserialize
    | .obj [("single", j)] => (deserialize j).map .single
    | .obj [("range", .arr [l, u])] =>
        (deserialize l).bind fun l => (deserialize u).map fun u => .range l u
    | _ => none
  deserialize_serialize a := by
    cases a with
    | single p =>
        show (deserialize (serialize p)).map _ = _
        rw [Serde.deserialize_serialize]
        rfl
    | range l u =>
        show ((deserialize (serialize l)).bind fun l => (deserialize (serialize u)).map fun u => _) = _
        rw [Serde.deserialize_serialize, Serde.deserialize_serialize]
        rfl
  serialize_ne_null a := by cases a <;> nofun

instance : Serde AceMatches where
  serialize m := .obj
    [("protocol", serializeOption m.protocol),
     ("direction_initiated", serializeOption m.directionInitiated),
     ("address_mask", serializeOption m.addressMask),
     ("dnsname", serializeOption m.dnsname),
     ("source_port", serializeOption m.sourcePort),
     ("destination_port", serializeOption m.destinationPort)]
  deserialize
    | .obj fields => do
        let protocol ← optionalField AceProtocol "protocol" fields
        let directionInitiated ← optionalField AclDirection "direction_initiated" fields
        let addressMask ← optionalField String "address_mask" fields
        let dnsname ← optionalField String "dnsname" fields
        let sourcePort ← optionalField AcePort "source_port" fields
        let destinationPort ← optionalField AcePort "destination_port" fields
        return { protocol, directionInitiated, addressMask, dnsname, sourcePort, destinationPort }
    | _ => none
  deserialize_serialize m := by simp [optionalField, field?]
  serialize_ne_null _ := nofun

instance : Serde Ace where
  serialize a := .obj
    [("name", serialize a.name), ("action", serialize a.action), ("matches", serialize a.aceMatches)]
  deserialize
    | .obj fields => do
        let name ← requiredField String "name" fields
        let action ← requiredField AceAction "action" fields
        let aceMatches ← requiredField AceMatches "matches" fields
        return { name, action, aceMatches }
    | _ => none
  deserialize_serialize a := by simp [requiredField, field?]
  serialize_ne_null _ := nofun

instance : Serde Acl where
  serialize a := .obj
    [("name", serialize a.name), ("packet_direction", serialize a.packetDirection),
     ("acl_type", serialize a.aclType), ("ace", serialize a.ace)]
  deserialize
    | .obj fields => do
        let name ← requiredField String "name" fields
        let packetDirection ← requiredField AclDirection "packet_direction" fields
        let aclType ← requiredField AclType "acl_type" fields
        let ace ← requiredField (List Ace) "ace" fields
        return { name, packetDirection, aclType, ace }
    | _ => none
  deserialize_serialize a := by simp [requiredField, field?]
  serialize_ne_null _ := nofun

variable [Platform]

/-- `DateTime<Utc>` as a JSON string. -/
instance : Serde DateTime where
  serialize t := .str (toText t)
  deserialize
    | .str s => parse s
    | _ => none
  deserialize_serialize t := parse_toText t
  serialize_ne_null _ := nofun

instance : Serde MudData where
  serialize d := .obj
    [("url", serialize d.url), ("masa_url", serializeOption d.masaUrl),
     ("last_update", serialize d.lastUpdate), ("systeminfo", serializeOption d.systeminfo),
     ("mfg_name", serializeOption d.mfgName), ("model_name", serializeOption d.modelName),
     ("documentation", serializeOption d.documentation), ("expiration", serialize d.expiration),
     ("acllist", serialize d.acllist), ("acl_override", serialize d.aclOverride)]
  deserialize
    | .obj fields => do
        let url ← requiredField String "url" fields
        let masaUrl ← optionalField String "masa_url" fields
        let lastUpdate ← requiredField String "last_update" fields
        let systeminfo ← optionalField String "systeminfo" fields
        let mfgName ← optionalField String "mfg_name" fields
        let modelName ← optionalField String "model_name" fields
        let documentation ← optionalField String "documentation" fields
        let expiration ← requiredField DateTime "expiration" fields
        let acllist ← requiredField (List Acl) "acllist" fields
        let aclOverride ← requiredField (List Acl) "acl_override" fields
        return { url, masaUrl, lastUpdate, systeminfo, mfgName, modelName, documentation,
                 expiration, acllist, aclOverride }
    | _ => none
  deserialize_serialize d := by simp [requiredField, optionalField, field?]
  serialize_ne_null _ := nofun

/-- `MudDbo::parse_data`: the stored profile, if the stored value is one. -/
def MudDbo.parseData (mud : MudDbo) : Option MudData := deserialize mud.data

/-- A row that stores `data` (as `serde_json::to_string` writes it) parses back to it. -/
@[simp] theorem MudDbo.parseData_serialize (url : String) (data : MudData)
    (createdAt expiration : DateTime) :
    (MudDbo.mk url (serialize data) createdAt expiration).parseData = some data :=
  Serde.deserialize_serialize data

end MudController
