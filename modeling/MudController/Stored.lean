import MudController.Logic.JsonText
import MudController.Models.Mud

/-!
# `Stored` — profiles in the database

The column `data` of `mud_data` holds a text, which `serde_json` wrote; a row of the model has the value of
that text (`MudDbo.ofText`). A profile is nested eight levels deep at most, so whatever it is, its text is read
back as the profile (`stored_profile_read`).
-/

namespace MudController

open Logic

/-! ## How deep the encodings are -/

theorem depth_string (s : String) : (serialize s).depth ≤ 0 := Nat.le_refl 0

theorem depth_aclDirection (direction : AclDirection) : (serialize direction).depth ≤ 0 := Nat.le_refl 0

theorem depth_aceProtocol (protocol : AceProtocol) : (serialize protocol).depth ≤ 1 := by
  cases protocol <;> exact Nat.le_refl 1

theorem depth_acePort (port : AcePort) : (serialize port).depth ≤ 2 := by
  cases port with
  | single p => exact Nat.le_succ 1
  | range l u => exact Nat.le_refl 2

theorem depth_aceMatches (aceMatches : AceMatches) : (serialize aceMatches).depth ≤ 3 := by
  refine depth_obj_le ?_
  simp only [List.forall_mem_cons]
  have hstring (s : Option String) : (serializeOption s).depth ≤ 2 :=
    depth_option_le (fun a => Nat.le_trans (depth_string a) (Nat.zero_le 2)) s
  have hport := depth_option_le depth_acePort
  refine ⟨?_, ?_, hstring _, hstring _, hport _, hport _, List.forall_mem_nil _⟩
  · exact depth_option_le (fun a => Nat.le_succ_of_le (depth_aceProtocol a)) _
  · exact depth_option_le (fun a => Nat.le_trans (depth_aclDirection a) (Nat.zero_le 2)) _

theorem depth_ace (ace : Ace) : (serialize ace).depth ≤ 4 := by
  refine depth_obj_le ?_
  simp only [List.forall_mem_cons]
  exact ⟨Nat.zero_le 3, Nat.zero_le 3, depth_aceMatches _, List.forall_mem_nil _⟩

theorem depth_acl (acl : Acl) : (serialize acl).depth ≤ 6 := by
  refine depth_obj_le ?_
  simp only [List.forall_mem_cons]
  exact ⟨Nat.zero_le 5, Nat.zero_le 5, Nat.zero_le 5, depth_list_le fun a _ => depth_ace a,
    List.forall_mem_nil _⟩

section

variable [Platform]

theorem depth_mudData (data : MudData) : (serialize data).depth ≤ 8 := by
  have hstring (s : Option String) : (serializeOption s).depth ≤ 7 :=
    depth_option_le (fun a => Nat.le_trans (depth_string a) (Nat.zero_le 7)) s
  have hacls (acls : List Acl) : (serialize acls).depth ≤ 7 := depth_list_le fun a _ => depth_acl a
  refine depth_obj_le ?_
  simp only [List.forall_mem_cons]
  exact ⟨Nat.zero_le 7, hstring _, Nat.zero_le 7, hstring _, hstring _, hstring _, hstring _, Nat.zero_le 7,
    hacls _, hacls _, List.forall_mem_nil _⟩

/-! ## Rows -/

/-- The row whose column `data` has this text, if it is the text of a value. -/
def MudDbo.ofText (url text : String) (createdAt expiration : DateTime) : Option MudDbo :=
  (Json.read text).map fun data => ⟨url, data, createdAt, expiration⟩

/-- The row with the text of a profile is the one that the model stores. -/
theorem MudDbo.ofText_toJsonString (url : String) (data : MudData) (createdAt expiration : DateTime) :
    MudDbo.ofText url (toJsonString data) createdAt expiration =
      some ⟨url, serialize data, createdAt, expiration⟩ := by
  unfold MudDbo.ofText toJsonString
  rw [Json.read_write (Nat.le_trans (depth_mudData data) (by decide))]
  rfl

/-- **Stored profiles are read back.** The text of a profile parses to the profile, and a row with this text
    yields it. -/
theorem stored_profile_read (data : MudData) :
    fromJsonStr MudData (toJsonString data) = some data ∧
    ∀ url createdAt expiration,
      (MudDbo.ofText url (toJsonString data) createdAt expiration).bind MudDbo.parseData = some data := by
  refine ⟨fromJsonStr_toJsonString (Nat.le_trans (depth_mudData data) (by decide)), ?_⟩
  intro url createdAt expiration
  rw [MudDbo.ofText_toJsonString]
  exact MudDbo.parseData_serialize url data createdAt expiration

end

example : toJsonString (AcePort.range 9000 9050) = "\x7b\"range\":[9000,9050]\x7d" := by decide

example : toJsonString (AceProtocol.protocol 17) = "\x7b\"name\":\"Protocol\",\"num\":17\x7d" := by decide

end MudController
