import MudController.Logic.Calendar
import MudController.Models.Device
import MudController.Error

/-!
# `Services.Log` — the DNS queries of an enforcer's log (`log_service.rs`)

`parse_log_line` for one line, on the day `today` and with the rows of `devices`: the date and the time of the
line, the device that asked, and the domain it asked for, which a background task is to record. The regular
expression and the parser of times are parameters (`LogFormat`).
-/

namespace MudController

open Logic

/-! ## Dates (`chrono`) -/

/-- `MIN_YEAR` of `chrono`: `i32::MIN >> 13`. -/
abbrev minYear : Int := -262144

/-- `MAX_YEAR` of `chrono`: `i32::MAX >> 13`. -/
abbrev maxYear : Int := 262143

/-- `chrono::NaiveDate`. -/
abbrev NaiveDate := DateIn minYear maxYear

/-- `NaiveDate::with_year`. -/
def NaiveDate.withYear (date : NaiveDate) (year : Int) : Option NaiveDate := DateIn.ofYmd year date.month date.day

/-! ## Texts -/

/-- `MONTHS`. -/
def months : String := "JanFebMarAprMayJunJulAugSepOctNovDec"

/-- `str::find` from the byte `start` on: the byte at which `pattern` occurs first. -/
def findChars (pattern : List Char) : List Char → Nat → Option Nat
  | [], start => if pattern.isPrefixOf [] then some start else none
  | c :: cs, start =>
    if pattern.isPrefixOf (c :: cs) then some start else findChars pattern cs (start + c.utf8Size)

/-- `str::find`. -/
def findText (s pattern : String) : Option Nat := findChars pattern.toList s.toList 0

/-- `str::parse::<u32>`. -/
def parseU32 (s : String) : Option Nat := (unsigned? s.toList).bind fun n => if n < 2 ^ 32 then some n else none

/-- The groups of a line that matches `LOG_FORMAT`. -/
structure LogCaptures where
  month : String
  day : String
  time : String
  domain : String
  ip : String

/-- The crates that a line is read with. -/
class LogFormat where
  /-- `LOG_FORMAT.captures`. -/
  captures : String → Option LogCaptures
  /-- `str::parse::<NaiveTime>`. -/
  timeParses : String → Bool

/-! ## A line -/

/-- `Option::ok_or_else`, and `?` on a parse. -/
def orError {α : Type} (o : Option α) (e : Error) : Except Error α :=
  match o with
  | some a => .ok a
  | none => .error e

/-- The date of a line: the current year is assumed, or the one before if the date were still to come. -/
def resolveDate (today : NaiveDate) (month dayOfMonth : String) : Except Error NaiveDate := do
  let month := (← orError (findText months month) .noneError) / 3 + 1
  let dayOfMonth ← orError (parseU32 dayOfMonth) .parseIntError
  let date ← orError (DateIn.ofYmd today.year month dayOfMonth) .noneError
  if date > today then orError (NaiveDate.withYear date (today.year - 1)) .noneError else return date

variable [Platform]

/-- `device_service::find_by_ip`. -/
def findByIp (devices : List DeviceDbo) (ip : String) : Except Error Device := do
  let device ← orError (devices.find? fun d => d.ipv4Addr = some ip || d.ipv6Addr = some ip)
    (.databaseError .rowNotFound)
  return Device.fromDbo device

/-- `parse_log_line`: the arguments of `neo4things_service::add_device_connection`, which it spawns. -/
def parseLogLine [LogFormat] (today : NaiveDate) (devices : List DeviceDbo) (line : String) :
    Except Error (Option (Device × String)) :=
  match LogFormat.captures line with
  | none => return none
  | some m => do
    -- the date and the time are only printed
    let _ ← resolveDate today m.month m.day
    if !LogFormat.timeParses m.time then throw .chronoParseError
    let ip ← orError (IpAddr.parse m.ip) .addrParseError
    let device ← findByIp devices ip.toText
    return some (device, m.domain)

end MudController
