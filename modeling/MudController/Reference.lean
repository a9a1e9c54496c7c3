import MudController.Models.User
import MudController.Routes.Auth

/-!
# `Reference` — a platform to run the controller on

One instance of `Platform`, for running the services on concrete inputs. Its text forms are those of the
libraries on the values such inputs use: IPv4 addresses in dotted decimal, MAC addresses as six pairs of
hexadecimal digits, IPv6 addresses as eight full groups (the library's text where no group starts with a
zero), instants of January 1970 in RFC 3339. A text is read only if it is what the printer writes.
-/

namespace MudController

open Logic

namespace Reference

/-! ## Addresses -/

def ipv4Print (a : Ipv4Addr) : List Char :=
  printGroups '.' (Nat.toDigits 10) (places 256 4 a.bits.toNat)

def ipv4Read (cs : List Char) : Ipv4Addr :=
  ⟨BitVec.ofNat 32 (ofPlaces 256 (readGroups '.' (fun g => Nat.ofDigitChars 10 g 0) cs))⟩

theorem ipv4Read_print (a : Ipv4Addr) : ipv4Read (ipv4Print a) = a := by
  obtain ⟨bits⟩ := a
  have hdot (g : Nat) : '.' ∉ Nat.toDigits 10 g := by
    intro hmem
    have hdigit : '.'.isDigit = true := Nat.isDigit_of_mem_toDigits (by decide) (by decide) hmem
    exact absurd hdigit (by decide)
  have hgroups : readGroups '.' (fun g => Nat.ofDigitChars 10 g 0) (ipv4Print ⟨bits⟩) =
      places 256 4 bits.toNat :=
    readGroups_printGroups (List.ne_nil_of_length_pos (by simp)) (fun g _ => hdot g)
      (fun g _ => Nat.ofDigitChars_ten_toDigits)
  unfold ipv4Read
  rw [hgroups, ofPlaces_places (by have := bits.isLt; omega), BitVec.ofNat_toNat, BitVec.setWidth_eq]

/-- The hexadecimal digits, in the case that `alphabet` has. -/
def hexPrint (alphabet : List Char) (k n : Nat) : List Char :=
  (places 16 k n).map (alphabet.getD · '0')

def hexRead (alphabet : List Char) (cs : List Char) : Nat := ofPlaces 16 (cs.map alphabet.idxOf)

/-- An alphabet of sixteen digits, none of them the separator. -/
def Alphabet (alphabet : List Char) : Prop :=
  (∀ d < 16, alphabet.idxOf (alphabet.getD d '0') = d) ∧ ∀ d < 16, alphabet.getD d '0' ≠ ':'

theorem hexRead_print {alphabet : List Char} (ha : Alphabet alphabet) {k n : Nat} (h : n < 16 ^ k) :
    hexRead alphabet (hexPrint alphabet k n) = n := by
  have hdigits : ((places 16 k n).map (alphabet.getD · '0')).map alphabet.idxOf = places 16 k n := by
    rw [List.map_map]
    refine (List.map_congr_left fun d hd => ?_).trans (List.map_id _)
    exact ha.1 d (lt_of_mem_places (by decide) hd)
  unfold hexRead hexPrint
  rw [hdigits, ofPlaces_places h]

/-- `count` groups of `k` hexadecimal digits. -/
def groupsPrint (alphabet : List Char) (count k n : Nat) : List Char :=
  printGroups ':' (hexPrint alphabet k) (places (16 ^ k) count n)

def groupsRead (alphabet : List Char) (k : Nat) (cs : List Char) : Nat :=
  ofPlaces (16 ^ k) (readGroups ':' (hexRead alphabet) cs)

theorem groupsRead_print {alphabet : List Char} (ha : Alphabet alphabet) {count k n : Nat}
    (hcount : 0 < count) (h : n < (16 ^ k) ^ count) :
    groupsRead alphabet k (groupsPrint alphabet count k n) = n := by
  have hsep (g : Nat) : ':' ∉ hexPrint alphabet k g := by
    intro hmem
    obtain ⟨d, hd, hcolon⟩ := List.mem_map.mp hmem
    exact ha.2 d (lt_of_mem_places (by decide) hd) hcolon
  have hgroups : readGroups ':' (hexRead alphabet) (groupsPrint alphabet count k n) =
      places (16 ^ k) count n :=
    readGroups_printGroups (List.ne_nil_of_length_pos (by simpa using hcount)) (fun g _ => hsep g)
      (fun g hg => hexRead_print ha (lt_of_mem_places (Nat.pow_pos (by decide)) hg))
  unfold groupsRead
  rw [hgroups, ofPlaces_places h]

def upperHex : List Char := "0123456789ABCDEF".toList

def lowerHex : List Char := "0123456789abcdef".toList

theorem upperHex_alphabet : Alphabet upperHex := ⟨by decide, by decide⟩

theorem lowerHex_alphabet : Alphabet lowerHex := ⟨by decide, by decide⟩

def macPrint (a : BitVec 48) : List Char := groupsPrint upperHex 6 2 a.toNat

def macRead (cs : List Char) : BitVec 48 := BitVec.ofNat 48 (groupsRead upperHex 2 cs)

theorem macRead_print (a : BitVec 48) : macRead (macPrint a) = a := by
  unfold macRead macPrint
  rw [groupsRead_print upperHex_alphabet (by decide) (by have := a.isLt; omega), BitVec.ofNat_toNat,
    BitVec.setWidth_eq]

def ipv6Print (a : Ipv6Addr) : List Char := groupsPrint lowerHex 8 4 a.bits.toNat

def ipv6Read (cs : List Char) : Ipv6Addr := ⟨BitVec.ofNat 128 (groupsRead lowerHex 4 cs)⟩

theorem ipv6Read_print (a : Ipv6Addr) : ipv6Read (ipv6Print a) = a := by
  obtain ⟨bits⟩ := a
  unfold ipv6Read ipv6Print
  rw [groupsRead_print lowerHex_alphabet (by decide) (by have := bits.isLt; omega), BitVec.ofNat_toNat,
    BitVec.setWidth_eq]

/-! ## Instants -/

def second : Int := 1000000000

/-- The seconds of a whole-second instant of January 1970. -/
def january? (t : DateTime) : Option Nat :=
  if 0 ≤ t ∧ t % second = 0 ∧ t / second < 31 * 86400 then some (t / second).toNat else none

/-- Two decimal digits. -/
def twoPrint (n : Nat) : List Char := [Nat.digitChar (n / 10 % 10), Nat.digitChar (n % 10)]

/-- The two-digit number at a position. -/
def twoRead (cs : List Char) (i : Nat) : Nat :=
  Nat.ofDigitChars 10 [cs.getD i '0', cs.getD (i + 1) '0'] 0

theorem two_digits : ∀ n < 100,
    Nat.ofDigitChars 10 [Nat.digitChar (n / 10 % 10), Nat.digitChar (n % 10)] 0 = n := by decide

/-- Date and time of a second of January 1970. -/
def januaryPrint (sep : Char) (s : Nat) : List Char :=
  "1970-01-".toList ++ twoPrint (s / 86400 + 1) ++ [sep] ++ twoPrint (s / 3600 % 24) ++ [':'] ++
    twoPrint (s / 60 % 60) ++ [':'] ++ twoPrint (s % 60)

/-- The stand-in for the text of another instant: its nanoseconds. -/
def otherPrint (t : DateTime) : List Char :=
  (if 0 ≤ t then ['@', '+'] else ['@', '-']) ++ Nat.toDigits 10 t.natAbs

def dateTimePrint (t : DateTime) : List Char :=
  match january? t with
  | some s => januaryPrint 'T' s ++ ['Z']
  | none => otherPrint t

def dateTimeRead (cs : List Char) : DateTime :=
  if cs.getD 0 '0' = '@' then
    let n : Int := Nat.ofDigitChars 10 (cs.drop 2) 0
    if cs.getD 1 '0' = '+' then n else -n
  else
    (((twoRead cs 8 - 1) * 86400 + twoRead cs 11 * 3600 + twoRead cs 14 * 60 + twoRead cs 17 : Nat) : Int)
      * second

theorem dateTimeRead_january {s : Nat} (h : s < 31 * 86400) :
    dateTimeRead (januaryPrint 'T' s ++ ['Z']) = s * second := by
  have hday := two_digits (s / 86400 + 1) (by omega)
  have hhour := two_digits (s / 3600 % 24) (by omega)
  have hminute := two_digits (s / 60 % 60) (by omega)
  have hsecond := two_digits (s % 60) (by omega)
  have hsum : (s / 86400 + 1 - 1) * 86400 + s / 3600 % 24 * 3600 + s / 60 % 60 * 60 + s % 60 = s := by omega
  have hstart : "1970-01-".toList = ['1', '9', '7', '0', '-', '0', '1', '-'] := by decide
  unfold dateTimeRead januaryPrint twoPrint twoRead
  rw [hstart]
  simp only [List.cons_append, List.nil_append, List.getD_cons_zero, List.getD_cons_succ, hday, hhour,
    hminute, hsecond, hsum, Char.reduceEq, if_false]

theorem dateTimeRead_other (t : Int) : dateTimeRead (otherPrint t) = t := by
  unfold dateTimeRead otherPrint
  by_cases h : 0 ≤ t
  · simp [h, Int.natAbs_of_nonneg h]
  · have hneg : -(t.natAbs : Int) = t := by omega
    rw [if_neg h]
    show (if '@' = '@' then
      (let n : Int := Nat.ofDigitChars 10 (Nat.toDigits 10 t.natAbs) 0
       if '-' = '+' then n else -n) else _) = t
    rw [if_pos rfl, if_neg (by decide), Nat.ofDigitChars_ten_toDigits]
    exact hneg

theorem dateTimeRead_print (t : Int) : dateTimeRead (dateTimePrint t) = t := by
  unfold dateTimePrint january?
  by_cases h : 0 ≤ t ∧ t % second = 0 ∧ t / second < 31 * 86400
  · rw [if_pos h]
    have hwhole : t % 1000000000 = 0 := h.2.1
    have hupper : t / 1000000000 < 31 * 86400 := h.2.2
    have hseconds : ((t / 1000000000).toNat : Int) * 1000000000 = t := by omega
    exact (dateTimeRead_january (by omega)).trans hseconds
  · rw [if_neg h]
    exact dateTimeRead_other t

/-- The text of a `NaiveDateTime`. -/
def naivePrint (t : DateTime) : List Char :=
  match january? t with
  | some s => januaryPrint ' ' s
  | none => otherPrint t

/-! ## Files, URLs and patterns -/

/-- A MUD file that lets the device reach `cloud.example`. -/
def mudFile : String := String.join
  ["\x7b \"ietf-mud:mud\": \x7b \"mud-version\": 1, \"mud-url\": \"https://mud.example/lamp\", ",
   "\"last-update\": \"1970-01-01T00:00:00+00:00\", \"is-supported\": true, ",
   "\"from-device-policy\": \x7b \"access-lists\": \x7b \"access-list\": [ \x7b \"name\": \"from\" \x7d ] \x7d \x7d, ",
   "\"to-device-policy\": \x7b \"access-lists\": \x7b \"access-list\": [] \x7d \x7d \x7d, ",
   "\"ietf-access-control-list:acls\": \x7b \"acl\": [ \x7b \"name\": \"from\", ",
   "\"type\": \"ipv4-acl-type\", \"aces\": \x7b \"ace\": [ \x7b \"name\": \"cloud.example\", ",
   "\"matches\": \x7b \"ipv4\": \x7b \"ietf-acldns:dst-dnsname\": \"cloud.example\" \x7d \x7d, ",
   "\"actions\": \x7b \"forwarding\": \"accept\" \x7d \x7d ] \x7d \x7d ] \x7d \x7d"]

/-- What the file says. -/
def mudFileJson : MudJson where
  mud :=
    { mudVersion := 1
      lastUpdate := "1970-01-01T00:00:00+00:00"
      fromDevicePolicy := ⟨⟨[⟨"from"⟩]⟩⟩
      toDevicePolicy := ⟨⟨[]⟩⟩ }
  acls := ⟨[{ name := "from"
              typeField := "ipv4-acl-type"
              aces := ⟨[{ name := "cloud.example"
                          aceMatches := { ipv4 := some { dstDnsname := some "cloud.example" } }
                          actions := ⟨"accept"⟩ }]⟩ }]⟩

/-- The URLs of a web server: a scheme and what follows it. -/
def webUrl (url : String) : Bool :=
  ("https://".toList.isPrefixOf url.toList && url.toList.length > 8) ||
    ("http://".toList.isPrefixOf url.toList && url.toList.length > 7)

/-- The patterns of the shipped roles: everything, a last component in any directory, or a plain text. -/
def glob (pattern : String) : Option (String → Bool) :=
  if pattern = "**" then some fun _ => true
  else if "**/".toList.isPrefixOf pattern.toList then
    some fun text => text.toList = pattern.toList.drop 3 ||
      (pattern.toList.drop 2).isSuffixOf text.toList
  else some fun text => text = pattern

end Reference

/-- The reference platform. -/
@[reducible] def Reference.platform : Platform where
  MacAddr := BitVec 48
  decEqMacAddr := inferInstance
  macAddrText := .canonical macPrint macRead macRead_print
  ipv4AddrText := .canonical ipv4Print ipv4Read ipv4Read_print
  ipv6AddrText := .canonical ipv6Print ipv6Read ipv6Read_print
  dateTimeText := .canonical dateTimePrint dateTimeRead dateTimeRead_print
  naiveDateTimeToString t := String.ofList (naivePrint t)
  mudJsonFromStr text := if text = mudFile then some mudFileJson else none
  urlParses := webUrl
  globPattern := glob
  domain := "controller.example"

/-! ## Profiles and devices -/

/-- A profile with these ACLs and overrides. -/
def Reference.profile (acllist aclOverride : List Acl) : MudData where
  url := "https://mud.example/lamp"
  masaUrl := none
  lastUpdate := "1970-01-01T00:00:00+00:00"
  systeminfo := none
  mfgName := none
  modelName := none
  documentation := none
  expiration := 0
  acllist := acllist
  aclOverride := aclOverride

/-- An entry that only names its host. -/
def Reference.hostAce (action : AceAction) (name : String) : Ace where
  name := name
  action := action
  aceMatches := { dnsname := some name }

section

attribute [local instance] Reference.platform

/-- A device without addresses, identity or references. -/
def Reference.device : Device where
  id := 0
  name := none
  ipv4Addr := none
  ipv6Addr := none
  macAddr := none
  duid := none
  hostname := ""
  vendorClass := ""
  mudUrl := none
  collectInfo := false
  lastInteraction := 0
  roomId := none
  clipart := none

/-- The row of a device with these columns. -/
def Reference.row (id : Int) (ipv4Addr : Option String) (macAddr : Option (BitVec 48))
    (duid mudUrl : Option String) : DeviceDbo :=
  { Reference.device.toDbo with
    id := id, ipv4Addr := ipv4Addr, macAddr := macAddr, duid := duid, mudUrl := mudUrl }

/-- Tables with these rows. -/
def Reference.tables (devices : List DeviceDbo) (mudData : List MudDbo) (config : List Config) : Tables where
  devices := devices
  deviceSeq := devices.length
  mudData := mudData
  config := config
  rooms := []

/-- A world with these tables in which no fetch succeeds and no time passes. -/
def Reference.offline (tables : Tables) (schema : Schema tables) : World where
  db := ⟨tables, schema⟩
  clock _ := 0
  network _ _ := .error .reqwestError
  tasks := []

/-- An empty devices table. -/
def Reference.noDevices : World := Reference.offline (Reference.tables [] [] []) (by decide)

/-- One stored device, at 10.0.0.5, without a MUD URL. -/
def Reference.oneDevice : World :=
  Reference.offline (Reference.tables [Reference.row 1 (some "10.0.0.5") (some 1) none none] [] [])
    (by decide)

end

/-- The address of a MUD file. -/
def lampUrl : String := "https://mud.example/lamp"

/-- A user who signs up under a name. -/
def signupUser (username : String) : User where
  id := 0
  username := username
  password := ""
  salt := []
  lastInteraction := 0
  roles := []
  permissions := []

/-- A caller who may do everything. -/
def rootAuth : AuthToken := ⟨["**"]⟩

end MudController
