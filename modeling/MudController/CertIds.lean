import MudController.Approval
import MudController.Rpc

/-!
# `CertIds` — which certificates have an id

Of the 38 characters of a digest an id keeps those that are no marks, so there are 20 of them exactly if at most
18 of the six-bit groups of the digest begin with five ones (`certId_wellFormed_iff`). Whatever is made an id is
well-formed; for other digests the slice panics, and with it the task that accepts connections. `listen` is
followed over the channels that come in and the decisions about enforcers in between: it has panicked exactly if
some channel had no such certificate (`panicked_iff`), and all ids that it has stored or served are well-formed
(`ids_wellFormed`).
-/

namespace MudController

open Logic Base64

/-- Twenty lower-case letters and digits. -/
def CertId.WellFormed (id : CertId) : Prop :=
  id.text.length = 20 ∧ ∀ c ∈ id.text.toList, c.isLower = true ∨ c.isDigit = true

/-! ## What is kept of a character -/

/-- What a character becomes, unless it is dropped. -/
def keptChar (c : Char) : Option Char :=
  if c.isUpper then some c.toLower else if isMark c then none else some c

/-- The pattern and the replacement, on one character. -/
theorem replaced_eq (c : Char) :
    (match CertId.captures c with
      | some m => (CertId.replacement m).toList
      | none => [c]) = (keptChar c).toList := by
  unfold CertId.captures keptChar
  by_cases hupper : c.isUpper = true
  · simp [hupper, CertId.replacement, CertId.toLowercase]
  · by_cases hmark : c = '_' ∨ c = '-'
    · have hdropped : isMark c = true := by simpa [isMark, or_comm] using hmark
      simp [hupper, hmark, hdropped, CertId.replacement]
    · have hkept : isMark c = false := by simpa [isMark, and_comm] using hmark
      simp [hupper, hmark, hkept]

/-- Only marks are dropped. -/
theorem keptChar_isSome (c : Char) : (keptChar c).isSome = !isMark c := by
  unfold keptChar
  by_cases hupper : c.isUpper = true
  · have hkept : isMark c = false := by
      rw [isMark, Bool.or_eq_false_iff, decide_eq_false_iff_not, decide_eq_false_iff_not]
      constructor <;> (rintro rfl; exact absurd hupper (by decide))
    rw [if_pos hupper, hkept]
    rfl
  · rw [if_neg hupper]
    cases isMark c <;> rfl

theorem keptChar_urlSafe : ∀ n < 64, (keptChar (urlSafe n)).all (fun c => c.isLower || c.isDigit) = true := by
  decide

theorem utf8Size_of_lower_or_digit {c : Char} (h : c.isLower = true ∨ c.isDigit = true) : c.utf8Size = 1 := by
  rw [Char.utf8Size_eq_one_iff]
  rcases h with hlower | hdigit
  · have hle : c.val ≤ 122 := of_decide_eq_true ((Bool.and_eq_true _ _).mp hlower).2
    exact UInt32.le_trans hle (by decide)
  · have hle : c.val ≤ 57 := of_decide_eq_true ((Bool.and_eq_true _ _).mp hdigit).2
    exact UInt32.le_trans hle (by decide)

/-! ## What is kept of a digest -/

/-- The characters that ids of this digest are cut from. -/
def keptChars (digest : List UInt8) : List Char := (encode urlSafe digest).filterMap keptChar

theorem lower_or_digit_of_mem_keptChars {digest : List UInt8} {c : Char} (h : c ∈ keptChars digest) :
    c.isLower = true ∨ c.isDigit = true := by
  obtain ⟨encoded, hencoded, hc⟩ := List.mem_filterMap.mp h
  obtain ⟨i, -, rfl⟩ := List.mem_map.mp hencoded
  have hall := (Option.all_eq_true _ _).mp (keptChar_urlSafe _ (sextet_lt digest i)) c hc
  simpa using hall

/-- Every group that begins with five ones costs a character. -/
theorem length_keptChars (digest : List UInt8) :
    (keptChars digest).length + onesGroups digest = (8 * digest.length + 5) / 6 := by
  have hmarks := List.length_eq_countP_add_countP isMark (l := encode urlSafe digest)
  rw [countP_isMark_encode, length_encode] at hmarks
  have hkept : (keptChars digest).length = (encode urlSafe digest).countP (fun c => ¬isMark c = true) := by
    rw [keptChars, List.length_filterMap_eq_countP]
    exact List.countP_congr fun c _ => by simp [keptChar_isSome]
  omega

theorem length_keptChars_digest (digest : Vector UInt8 28) :
    (keptChars digest.toList).length + onesGroups digest.toList = 38 := by
  rw [length_keptChars, Vector.length_toList]

section

variable [CertCrates]

theorem fullText_eq (hlaw : CertCrates.Lawful) (cert : List UInt8) :
    CertId.fullText cert = String.ofList (keptChars (CertCrates.sha3_224 cert).toList) := by
  unfold CertId.fullText keptChars
  rw [hlaw.replaces, hlaw.encodes, String.toList_ofList, List.filterMap_eq_flatMap_toList]
  exact congrArg String.ofList (congrArg (List.flatMap · _) (funext replaced_eq))

/-- **The id of a certificate.** -/
theorem certId_new_eq (hlaw : CertCrates.Lawful) (cert : List UInt8) :
    CertId.new cert =
      if onesGroups (CertCrates.sha3_224 cert).toList ≤ 18 then
        some ⟨String.ofList ((keptChars (CertCrates.sha3_224 cert).toList).take 20)⟩
      else none := by
  have hascii : ∀ c ∈ keptChars (CertCrates.sha3_224 cert).toList, c.utf8Size = 1 :=
    fun c hc => utf8Size_of_lower_or_digit (lower_or_digit_of_mem_keptChars hc)
  have hlength := length_keptChars_digest (CertCrates.sha3_224 cert)
  unfold CertId.new CertId.sliceTo splitAtByte
  rw [fullText_eq hlaw, String.toList_ofList, splitChars_ascii hascii]
  by_cases hones : onesGroups (CertCrates.sha3_224 cert).toList ≤ 18
  · rw [if_pos hones, if_pos (by omega)]
    rfl
  · rw [if_neg hones, if_neg (by omega)]
    rfl

theorem wellFormed_of_new (hlaw : CertCrates.Lawful) {cert : List UInt8} {id : CertId}
    (h : CertId.new cert = some id) : id.WellFormed := by
  have hlength := length_keptChars_digest (CertCrates.sha3_224 cert)
  rw [certId_new_eq hlaw] at h
  split at h
  · next hones =>
    cases h
    constructor
    · rw [String.length_ofList, List.length_take]
      omega
    · intro c hc
      rw [String.toList_ofList] at hc
      exact lower_or_digit_of_mem_keptChars (List.mem_of_mem_take hc)
  · cases h

theorem certId_new_isSome_iff (hlaw : CertCrates.Lawful) (cert : List UInt8) :
    (CertId.new cert).isSome = true ↔ onesGroups (CertCrates.sha3_224 cert).toList ≤ 18 := by
  rw [certId_new_eq hlaw]
  split <;> simp_all

/-! ## Channels -/

variable [Platform]

/-- The id that the enforcer behind a channel is known by. -/
def Channel.clientId (channel : Channel) : Option CertId :=
  (channel.peerCertificates.bind List.head?).bind CertId.new

/-- What a channel must have to be accepted: an address, and a certificate of whose digest enough is kept. -/
def Channel.Acceptable (channel : Channel) : Prop :=
  channel.peerAddr.isSome = true ∧ ∃ cert others, channel.peerCertificates = some (cert :: others) ∧
    onesGroups (CertCrates.sha3_224 cert).toList ≤ 18

theorem acceptChannel_eq_some_iff {channel : Channel} {future : EnforcerAction (Option NamibRpcServer)} :
    acceptChannel channel = some future ↔
      ∃ clientIp clientId, channel.peerAddr = some clientIp ∧ channel.clientId = some clientId ∧
        serveClient clientIp clientId = future := by
  unfold acceptChannel Channel.clientId
  rcases channel with ⟨peerAddr, peerCertificates⟩
  cases peerAddr <;> cases peerCertificates.bind List.head? <;> simp [Option.bind_eq_some_iff]

/-- The closure panics on the other channels. -/
theorem acceptChannel_isSome_iff (hlaw : CertCrates.Lawful) (channel : Channel) :
    (acceptChannel channel).isSome = true ↔ channel.Acceptable := by
  rw [Option.isSome_iff_exists]
  constructor
  · rintro ⟨future, hfuture⟩
    obtain ⟨clientIp, clientId, haddr, hid, -⟩ := acceptChannel_eq_some_iff.mp hfuture
    obtain ⟨cert, hcert, hnew⟩ := Option.bind_eq_some_iff.mp hid
    obtain ⟨certs, hcerts, hhead⟩ := Option.bind_eq_some_iff.mp hcert
    obtain ⟨others, rfl⟩ := List.head?_eq_some_iff.mp hhead
    refine ⟨by rw [haddr]; rfl, cert, others, hcerts, ?_⟩
    rw [← certId_new_isSome_iff hlaw, hnew]
    rfl
  · rintro ⟨haddr, cert, others, hcerts, hones⟩
    obtain ⟨clientIp, haddr⟩ := Option.isSome_iff_exists.mp haddr
    obtain ⟨clientId, hnew⟩ := Option.isSome_iff_exists.mp ((certId_new_isSome_iff hlaw cert).mpr hones)
    have hid : channel.clientId = some clientId := by
      unfold Channel.clientId
      rw [hcerts]
      exact hnew
    exact ⟨_, acceptChannel_eq_some_iff.mpr ⟨clientIp, clientId, haddr, hid, rfl⟩⟩

/-- **Which certificates have an id.** The digest of a certificate may be any: it has an id, and one that is
    well-formed, exactly if at most 18 of the 37 whole groups of six bits of its digest begin with five ones.
    With other digests the slice panics, also where it runs for a connection. -/
theorem certId_wellFormed_iff (hlaw : CertCrates.Lawful) (cert : List UInt8) :
    ((∃ id, CertId.new cert = some id ∧ id.WellFormed) ↔
      onesGroups (CertCrates.sha3_224 cert).toList ≤ 18) ∧
    ∀ clientIp others, (acceptChannel ⟨some clientIp, some (cert :: others)⟩).isSome = true ↔
      onesGroups (CertCrates.sha3_224 cert).toList ≤ 18 := by
  constructor
  · rw [← certId_new_isSome_iff hlaw]
    constructor
    · rintro ⟨id, hid, -⟩
      rw [hid]
      rfl
    · intro h
      obtain ⟨id, hid⟩ := Option.isSome_iff_exists.mp h
      exact ⟨id, hid, wellFormed_of_new hlaw hid⟩
  · intro clientIp others
    rw [acceptChannel_isSome_iff hlaw]
    constructor
    · rintro ⟨-, cert', others', hcerts, hones⟩
      cases hcerts
      exact hones
    · intro hones
      exact ⟨rfl, cert, others, rfl, hones⟩

end

namespace Reference

/-- The digest of the certificate that consists of the byte 12. -/
def digestOf12 : Vector UInt8 28 :=
  #v[207, 219, 122, 31, 160, 69, 17, 79, 238, 40, 141, 46, 144, 102, 195, 3, 20, 42, 239, 182, 54, 237, 24, 52, 61,
    241, 162, 114]

/-- The crates, with these digests. -/
@[reducible] def certCrates (digest : List UInt8 → Vector UInt8 28) : CertCrates where
  sha3_224 := digest
  encodeUrlSafeNoPad octets := String.ofList (encode urlSafe octets)
  replaceAll _ text f := String.ofList (text.toList.flatMap fun c =>
    match CertId.captures c with
    | some m => (f m).toList
    | none => [c])

theorem certCrates_lawful (digest : List UInt8 → Vector UInt8 28) : @CertCrates.Lawful (certCrates digest) :=
  @CertCrates.Lawful.mk (certCrates digest) (fun _ => rfl) (fun _ _ => rfl)

example : @CertId.new (certCrates fun _ => digestOf12) [12] = some ⟨"z9t6h6bfeuuki0ukgbda"⟩ := by decide

theorem cert12_wellFormed :
    ∃ id, @CertId.new (certCrates fun _ => digestOf12) [12] = some id ∧ id.WellFormed :=
  letI := platform
  (@certId_wellFormed_iff (certCrates fun _ => digestOf12) platform (certCrates_lawful _) [12]).1.mpr (by decide)

/-- A digest of ones only leaves one character. -/
theorem onesDigest_panics :
    ¬∀ digest : Vector UInt8 28,
      ∃ id, @CertId.new (certCrates fun _ => digest) [12] = some id ∧ id.WellFormed := by
  intro h
  obtain ⟨id, hid, -⟩ := h (Vector.replicate 28 0xff)
  have hpanics : @CertId.new (certCrates fun _ => Vector.replicate 28 0xff) [12] = none := by decide
  rw [hpanics] at hid
  cases hid

end Reference

/-! ## Listening

Channels come in one after another, each of them when the future for the one before it has been awaited; enforcers
may be allowed or forbidden in between.
-/

section

variable [CertCrates] [Platform]

/-- What happens to the controller's enforcers. -/
inductive ListenEvent where
  | connection (channel : Channel)
  | decision (certId : String) (allowed : Bool)

/-- What has become of `listen`: the servers that it has made so far, and whether a closure has panicked, which
    ends it. -/
structure Listening where
  world : EnforcerWorld
  servers : List NamibRpcServer
  panicked : Bool

def Listening.next (l : Listening) : ListenEvent → Listening
  | .decision certId allowed =>
    { l with world := EnforcerCall.after l.world (.setEnforcerAllowed certId allowed) }
  | .connection channel =>
    if l.panicked then l
    else match acceptChannel channel with
      | none => { l with panicked := true }
      | some future =>
        let (result, world) := future.run l.world
        { l with world := world, servers := l.servers ++ result.toOption.join.toList }

/-- `listen`, from an empty table on. -/
def listen (clock : Nat → DateTime) (events : List ListenEvent) : Listening :=
  events.foldl Listening.next ⟨.start clock, [], false⟩

/-- The closure panics on the event. -/
def ListenEvent.Panics : ListenEvent → Prop
  | .connection channel => acceptChannel channel = none
  | .decision _ _ => False

theorem panicked_next_iff (l : Listening) (e : ListenEvent) :
    (l.next e).panicked = true ↔ l.panicked = true ∨ e.Panics := by
  cases e with
  | decision certId allowed => simp [Listening.next, ListenEvent.Panics]
  | connection channel =>
      unfold Listening.next ListenEvent.Panics
      cases hpanicked : l.panicked <;> cases haccept : acceptChannel channel <;> simp [hpanicked, haccept]

theorem panicked_foldl_iff (events : List ListenEvent) (l : Listening) :
    (events.foldl Listening.next l).panicked = true ↔ l.panicked = true ∨ ∃ e ∈ events, e.Panics := by
  induction events generalizing l with
  | nil => simp
  | cons e events ih => rw [List.foldl_cons, ih, panicked_next_iff, List.exists_mem_cons_iff, or_assoc]

/-- **What ends `listen`.** It has panicked exactly if a channel has come in that it cannot accept. -/
theorem panicked_iff (hlaw : CertCrates.Lawful) (clock : Nat → DateTime) (events : List ListenEvent) :
    (listen clock events).panicked = true ↔ ∃ channel, .connection channel ∈ events ∧ ¬channel.Acceptable := by
  have hstart : (listen clock events).panicked = true ↔ ∃ e ∈ events, e.Panics := by
    rw [listen, panicked_foldl_iff]
    simp
  have hpanics (channel : Channel) : (ListenEvent.connection channel).Panics ↔ ¬channel.Acceptable := by
    rw [← acceptChannel_isSome_iff hlaw, Option.not_isSome_iff_eq_none]
    rfl
  rw [hstart]
  constructor
  · rintro ⟨e, he, hpanic⟩
    cases e with
    | connection channel => exact ⟨channel, he, (hpanics channel).mp hpanic⟩
    | decision certId allowed => cases hpanic
  · rintro ⟨channel, hchannel, hnot⟩
    exact ⟨_, hchannel, (hpanics channel).mpr hnot⟩

/-! ### Ids that are stored and served -/

omit [CertCrates] in
/-- The future registers the enforcer, and serves it if it is approved. -/
theorem run_serveClient (clientIp : SocketAddr) (clientId : CertId) (w : EnforcerWorld) :
    (serveClient clientIp clientId).run w =
      (.ok (if w.approvals clientId.text = some true then some ⟨clientIp, clientId⟩ else none),
        EnforcerCall.after w (.registerEnforcer clientIp.ip clientId)) := by
  have hattempt : EnforcerAction.run (EnforcerService.registerEnforcer clientIp.ip clientId).attempt w =
      (.ok ((EnforcerService.registerEnforcer clientIp.ip clientId).run w).1,
        EnforcerCall.after w (.registerEnforcer clientIp.ip clientId)) :=
    Prog.run_attempt EnforcerStmt.exec _ w
  have happroved := register_ok_iff clientIp.ip clientId w
  unfold serveClient
  rw [EnforcerAction.run_bind_ok hattempt]
  cases hresult : ((EnforcerService.registerEnforcer clientIp.ip clientId).run w).1 with
  | error e =>
      rw [if_neg fun h => by simp [happroved.mpr h] at hresult]
      rfl
  | ok _ =>
      rw [if_pos (happroved.mp hresult)]
      rfl

/-- All ids are well-formed: those in the table and those of the servers. -/
structure Listening.WellFormed (l : Listening) : Prop where
  rows : ∀ certId, (l.world.enforcer certId).isSome = true → CertId.WellFormed ⟨certId⟩
  servers : ∀ server ∈ l.servers, server.clientId.WellFormed

theorem wellFormed_next (hlaw : CertCrates.Lawful) {l : Listening} (h : l.WellFormed) (e : ListenEvent) :
    (l.next e).WellFormed := by
  cases e with
  | decision certId allowed =>
      refine ⟨fun id hid => ?_, h.servers⟩
      rcases (EnforcerCall.enforcer_isSome_after _ l.world id).mp hid with hid | hevent
      · exact h.rows id hid
      · cases hevent
  | connection channel =>
      simp only [Listening.next]
      split
      · exact h
      · split
        · exact ⟨h.rows, h.servers⟩
        · next future hfuture =>
          obtain ⟨clientIp, clientId, -, hid, rfl⟩ := acceptChannel_eq_some_iff.mp hfuture
          obtain ⟨cert, -, hnew⟩ := Option.bind_eq_some_iff.mp hid
          have hwell : clientId.WellFormed := wellFormed_of_new hlaw hnew
          rw [run_serveClient]
          constructor
          · intro id hrow
            rcases (EnforcerCall.enforcer_isSome_after _ l.world id).mp hrow with hrow | hevent
            · exact h.rows id hrow
            · cases hevent
              exact hwell
          · intro s hs
            rcases List.mem_append.mp hs with hs | hs
            · exact h.servers s hs
            · obtain ⟨-, hserver⟩ := Option.ite_none_right_eq_some.mp (Option.mem_toList.mp hs)
              cases hserver
              exact hwell

/-- **Ids in use.** -/
theorem ids_wellFormed (hlaw : CertCrates.Lawful) (clock : Nat → DateTime) (events : List ListenEvent) :
    (listen clock events).WellFormed := by
  have hstart : Listening.WellFormed ⟨.start clock, [], false⟩ :=
    ⟨fun _ hrow => absurd hrow (by simp [EnforcerWorld.start, EnforcerWorld.enforcer]), by simp⟩
  exact List.foldlRecOn events Listening.next hstart fun _ hl e _ => wellFormed_next hlaw hl e

end

end MudController
