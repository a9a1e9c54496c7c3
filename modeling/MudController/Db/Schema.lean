import MudController.Db.Tables

/-!
# `Db.Schema` — when a writing statement satisfies the schema

One lemma per statement. Writes to `config`, the clearing of addresses and the upsert of a profile always
succeed; an insert or update of a device succeeds exactly if its unique columns are free and the rows it
refers to exist.
-/

namespace MudController

open Logic

variable [Platform]

theorem Schema.upsertConfig {t : Tables} (h : Schema t) (key value : String) :
    Schema (t.upsertConfig key value) :=
  ⟨h.deviceIds, h.deviceSeq, h.ipv4Unique, h.ipv6Unique, h.macDuidUnique, h.mudUrlRef, h.roomIdRef,
    h.mudUrls, nodup_map_key_upsertRow h.configKeys, h.roomIds⟩

theorem Schema.upsertMud {t : Tables} (h : Schema t) (row : MudDbo) : Schema (t.upsertMud row) :=
  ⟨h.deviceIds, h.deviceSeq, h.ipv4Unique, h.ipv6Unique, h.macDuidUnique,
    fun d hd url hurl => mem_map_key_upsertRow.mpr (.inr (h.mudUrlRef d hd url hurl)),
    h.roomIdRef, nodup_map_key_upsertRow h.mudUrls, h.configKeys, h.roomIds⟩

/-- A device row after its IPv4 address was taken away. -/
def DeviceDbo.withoutIpv4 (addr : String) (d : DeviceDbo) : DeviceDbo :=
  if d.ipv4Addr = some addr then { d with ipv4Addr := none } else d

/-- A device row after its IPv6 address was taken away. -/
def DeviceDbo.withoutIpv6 (addr : String) (d : DeviceDbo) : DeviceDbo :=
  if d.ipv6Addr = some addr then { d with ipv6Addr := none } else d

/-- A function of device rows that takes addresses away and nothing else. -/
structure Clears (g : DeviceDbo → DeviceDbo) : Prop where
  id : ∀ d, (g d).id = d.id
  ipv4Addr : ∀ d, (g d).ipv4Addr = d.ipv4Addr ∨ (g d).ipv4Addr = none
  ipv6Addr : ∀ d, (g d).ipv6Addr = d.ipv6Addr ∨ (g d).ipv6Addr = none
  macAddr : ∀ d, (g d).macAddr = d.macAddr
  duid : ∀ d, (g d).duid = d.duid
  mudUrl : ∀ d, (g d).mudUrl = d.mudUrl
  roomId : ∀ d, (g d).roomId = d.roomId

theorem clears_withoutIpv4 (addr : String) : Clears (DeviceDbo.withoutIpv4 addr) := by
  constructor <;> intro d <;> unfold DeviceDbo.withoutIpv4 <;>
    by_cases h : d.ipv4Addr = some addr <;> simp [h]

theorem clears_withoutIpv6 (addr : String) : Clears (DeviceDbo.withoutIpv6 addr) := by
  constructor <;> intro d <;> unfold DeviceDbo.withoutIpv6 <;>
    by_cases h : d.ipv6Addr = some addr <;> simp [h]

theorem Clears.id_fun : Clears (fun d => d) :=
  ⟨fun _ => rfl, fun _ => .inl rfl, fun _ => .inl rfl, fun _ => rfl, fun _ => rfl, fun _ => rfl,
    fun _ => rfl⟩

theorem Clears.comp {f g : DeviceDbo → DeviceDbo} (hf : Clears f) (hg : Clears g) :
    Clears (fun d => f (g d)) where
  id d := (hf.id _).trans (hg.id d)
  ipv4Addr d := by
    rcases hf.ipv4Addr (g d) with h | h
    · rw [h]
      exact hg.ipv4Addr d
    · exact .inr h
  ipv6Addr d := by
    rcases hf.ipv6Addr (g d) with h | h
    · rw [h]
      exact hg.ipv6Addr d
    · exact .inr h
  macAddr d := (hf.macAddr _).trans (hg.macAddr d)
  duid d := (hf.duid _).trans (hg.duid d)
  mudUrl d := (hf.mudUrl _).trans (hg.mudUrl d)
  roomId d := (hf.roomId _).trans (hg.roomId d)

theorem Clears.macDuid {g : DeviceDbo → DeviceDbo} (hg : Clears g) (d : DeviceDbo) :
    (g d).macDuid = d.macDuid := by
  unfold DeviceDbo.macDuid
  rw [hg.macAddr, hg.duid]

/-- A column that clearing leaves alone is the same list of values. -/
theorem Clears.map_eq {β : Type} {g : DeviceDbo → DeviceDbo} {f : DeviceDbo → β}
    (hf : ∀ d, f (g d) = f d) (l : List DeviceDbo) : (l.map g).map f = l.map f := by
  rw [List.map_map]
  exact List.map_congr_left fun d _ => hf d

/-- Taking addresses away violates no constraint. -/
theorem Schema.clear {t : Tables} (h : Schema t) {g : DeviceDbo → DeviceDbo} (hg : Clears g) :
    Schema { t with devices := t.devices.map g } where
  deviceIds := by
    show ((t.devices.map g).map (·.id)).Nodup
    rw [Clears.map_eq hg.id]
    exact h.deviceIds
  deviceSeq d hd := by
    obtain ⟨d₀, hd₀, rfl⟩ := List.mem_map.mp hd
    rw [hg.id]
    exact h.deviceSeq d₀ hd₀
  ipv4Unique := nodup_filterMap_map (fun d _ => hg.ipv4Addr d) h.ipv4Unique
  ipv6Unique := nodup_filterMap_map (fun d _ => hg.ipv6Addr d) h.ipv6Unique
  macDuidUnique := nodup_filterMap_map (fun d _ => .inl (hg.macDuid d)) h.macDuidUnique
  mudUrlRef d hd url hurl := by
    obtain ⟨d₀, hd₀, rfl⟩ := List.mem_map.mp hd
    rw [hg.mudUrl] at hurl
    exact h.mudUrlRef d₀ hd₀ url hurl
  roomIdRef d hd id hid := by
    obtain ⟨d₀, hd₀, rfl⟩ := List.mem_map.mp hd
    rw [hg.roomId] at hid
    exact h.roomIdRef d₀ hd₀ id hid
  mudUrls := h.mudUrls
  configKeys := h.configKeys
  roomIds := h.roomIds

/-! ## Inserting and updating a device -/

/-- The unique columns of `row` are free among the rows that `other` selects. -/
structure Free (t : Tables) (row : DeviceDbo) (other : DeviceDbo → Prop) : Prop where
  ipv4Addr : ∀ d ∈ t.devices, other d → ∀ a, d.ipv4Addr = some a → row.ipv4Addr ≠ some a
  ipv6Addr : ∀ d ∈ t.devices, other d → ∀ a, d.ipv6Addr = some a → row.ipv6Addr ≠ some a
  macDuid : ∀ d ∈ t.devices, other d → ∀ x, d.macDuid = some x → row.macDuid ≠ some x

/-- The rows that `row` refers to exist. -/
structure Refers (t : Tables) (row : DeviceDbo) : Prop where
  mudUrl : ∀ url ∈ row.mudUrl, url ∈ t.mudData.map (·.url)
  roomId : ∀ id ∈ row.roomId, id ∈ t.rooms.map (·.roomId)

theorem Schema.updateDevice {t : Tables} (h : Schema t) {row : DeviceDbo}
    (hmem : row.id ∈ t.devices.map (·.id)) (hfree : Free t row fun d => d.id ≠ row.id) (href : Refers t row) :
    Schema (t.updateDevice row) where
  deviceIds := by
    show ((replaceRow (·.id) row t.devices).map (·.id)).Nodup
    rw [map_key_replaceRow]
    exact h.deviceIds
  deviceSeq d hd := by
    rcases mem_of_mem_replaceRow hd with rfl | ⟨hd, _⟩
    · obtain ⟨d₀, hd₀, he⟩ := List.mem_map.mp hmem
      rw [← he]
      exact h.deviceSeq d₀ hd₀
    · exact h.deviceSeq d hd
  ipv4Unique := nodup_filterMap_replaceRow h.deviceIds h.ipv4Unique hfree.ipv4Addr
  ipv6Unique := nodup_filterMap_replaceRow h.deviceIds h.ipv6Unique hfree.ipv6Addr
  macDuidUnique := nodup_filterMap_replaceRow h.deviceIds h.macDuidUnique hfree.macDuid
  mudUrlRef d hd url hurl := by
    rcases mem_of_mem_replaceRow hd with rfl | ⟨hd, _⟩
    · exact href.mudUrl url hurl
    · exact h.mudUrlRef d hd url hurl
  roomIdRef d hd id hid := by
    rcases mem_of_mem_replaceRow hd with rfl | ⟨hd, _⟩
    · exact href.roomId id hid
    · exact h.roomIdRef d hd id hid
  mudUrls := h.mudUrls
  configKeys := h.configKeys
  roomIds := h.roomIds

/-- An update into a pair of MAC address and DUID that another row has is refused. -/
theorem not_schema_updateDevice {t : Tables} {row d : DeviceDbo} {x : MacAddr × String}
    (hmem : row.id ∈ t.devices.map (·.id)) (hd : d ∈ t.devices) (hid : d.id ≠ row.id)
    (hdx : d.macDuid = some x) (hrow : row.macDuid = some x) : ¬ Schema (t.updateDevice row) := by
  intro h
  have hself : row ∈ (t.updateDevice row).devices := mem_replaceRow_self hmem
  have hother : d ∈ (t.updateDevice row).devices := mem_replaceRow_other hd hid
  have heq := eq_of_nodup_filterMap h.macDuidUnique hother hself hdx hrow
  exact hid (heq ▸ rfl)

theorem Schema.insertDevice {t : Tables} (h : Schema t) {row : DeviceDbo} (hfree : Free t row fun _ => True)
    (href : Refers t row) : Schema (t.insertDevice row) where
  deviceIds := by
    show ((t.devices ++ [{ row with id := t.deviceSeq + 1 }]).map DeviceDbo.id).Nodup
    rw [List.map_append]
    refine List.nodup_append'.mpr ⟨h.deviceIds, List.nodup_singleton _, ?_⟩
    intro id hid hnew
    obtain ⟨d, hd, rfl⟩ := List.mem_map.mp hid
    have hle := h.deviceSeq d hd
    have heq : d.id = t.deviceSeq + 1 := by simpa using hnew
    omega
  deviceSeq d hd := by
    rcases List.mem_append.mp hd with hd | hd
    · have hle := h.deviceSeq d hd
      show d.id ≤ t.deviceSeq + 1
      omega
    · rw [List.mem_singleton.mp hd]
      exact Int.le_refl _
  ipv4Unique := nodup_filterMap_append h.ipv4Unique fun d hd => hfree.ipv4Addr d hd trivial
  ipv6Unique := nodup_filterMap_append h.ipv6Unique fun d hd => hfree.ipv6Addr d hd trivial
  macDuidUnique := nodup_filterMap_append h.macDuidUnique fun d hd => hfree.macDuid d hd trivial
  mudUrlRef d hd url hurl := by
    rcases List.mem_append.mp hd with hd | hd
    · exact h.mudUrlRef d hd url hurl
    · rw [List.mem_singleton.mp hd] at hurl
      exact href.mudUrl url hurl
  roomIdRef d hd id hid := by
    rcases List.mem_append.mp hd with hd | hd
    · exact h.roomIdRef d hd id hid
    · rw [List.mem_singleton.mp hd] at hid
      exact href.roomId id hid
  mudUrls := h.mudUrls
  configKeys := h.configKeys
  roomIds := h.roomIds

/-- What a write that the schema allowed has shown: a column that it wrote was free among the rows that are
    still there beside the new one. -/
theorem free_of_schema {t t' : Tables} (h : Schema t') {row row' : DeviceDbo} {other : DeviceDbo → Prop}
    (hrow : row' ∈ t'.devices) (hipv4 : row'.ipv4Addr = row.ipv4Addr) (hipv6 : row'.ipv6Addr = row.ipv6Addr)
    (hpair : row'.macDuid = row.macDuid) (hothers : ∀ d ∈ t.devices, other d → d ∈ t'.devices ∧ d ≠ row') :
    Free t row other := by
  refine ⟨?_, ?_, ?_⟩
  · intro d hd hother a ha hrowa
    obtain ⟨hd', hne⟩ := hothers d hd hother
    exact hne (eq_of_nodup_filterMap h.ipv4Unique hd' hrow ha (hipv4.trans hrowa))
  · intro d hd hother a ha hrowa
    obtain ⟨hd', hne⟩ := hothers d hd hother
    exact hne (eq_of_nodup_filterMap h.ipv6Unique hd' hrow ha (hipv6.trans hrowa))
  · intro d hd hother x hx hrowx
    obtain ⟨hd', hne⟩ := hothers d hd hother
    exact hne (eq_of_nodup_filterMap h.macDuidUnique hd' hrow hx (hpair.trans hrowx))

/-- A row whose references exist can be inserted exactly if its unique columns are free. -/
theorem Schema.insertDevice_iff {t : Tables} (h : Schema t) {row : DeviceDbo} (href : Refers t row) :
    Schema (t.insertDevice row) ↔ Free t row fun _ => True := by
  refine ⟨fun hschema => ?_, fun hfree => h.insertDevice hfree href⟩
  have hrow : { row with id := t.deviceSeq + 1 } ∈ (t.insertDevice row).devices :=
    List.mem_append_right _ (List.mem_singleton_self _)
  refine free_of_schema hschema hrow rfl rfl rfl fun d hd _ => ⟨List.mem_append_left _ hd, ?_⟩
  rintro rfl
  have hle : t.deviceSeq + 1 ≤ t.deviceSeq := h.deviceSeq _ hd
  omega

/-- A stored row whose references exist can be updated exactly if no other row has its unique columns. -/
theorem Schema.updateDevice_iff {t : Tables} (h : Schema t) {row : DeviceDbo}
    (hmem : row.id ∈ t.devices.map (·.id)) (href : Refers t row) :
    Schema (t.updateDevice row) ↔ Free t row fun d => d.id ≠ row.id := by
  refine ⟨fun hschema => ?_, fun hfree => h.updateDevice hmem hfree href⟩
  refine free_of_schema hschema (mem_replaceRow_self hmem) rfl rfl rfl fun d hd hne => ?_
  exact ⟨mem_replaceRow_other hd hne, fun heq => hne (heq ▸ rfl)⟩

end MudController
