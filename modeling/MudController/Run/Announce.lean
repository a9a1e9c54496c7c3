import MudController.Routes.Mud
import MudController.Run.Config

/-!
# `Run.Announce` — calls that announce what they write

A version bump as its two statements, and `update_mud` as what it does after each of its statements: it
reads the row of a profile, writes it back with the override inside, and bumps the version.
-/

namespace MudController

open Logic

variable [Platform]

/-! ## The bump -/

/-- The counter that a row of the configuration holds: 0 where it is no number. -/
def rowCounter (row : Option Config) : UInt64 := (row.bind fun entry => parse entry.value).getD 0

/-- A bump reads the counter, and stores one more than it read. -/
theorem updateConfigVersion_eq :
    updateConfigVersion = .stmt (.selectConfig ConfigKeys.firewallConfigVersion.asRef) fun row =>
      setConfigValue ConfigKeys.firewallConfigVersion.asRef (rowCounter row + 1) := by
  refine congrArg (Prog.stmt (Stmt.selectConfig ConfigKeys.firewallConfigVersion.asRef)) (funext fun row => ?_)
  cases row with
  | none => rfl
  | some entry =>
      unfold rowCounter
      simp only [Prog.bind, Prog.pure_eq, Option.bind_some]
      cases (parse entry.value : Option UInt64) <;> rfl

/-- The statements of a version bump: they concern the configuration only. -/
def Stmt.Bumps : Stmt → Prop
  | .selectConfig _ => True
  | .upsertConfig _ _ => True
  | _ => False

theorem setConfigValue_bumps {α : Type} [TextForm α] (key : String) (value : α) :
    (setConfigValue key value).All Stmt.Bumps :=
  Prog.All.bind (Prog.All.bind (Prog.All.call trivial) fun r => by cases r <;> trivial) fun _ => trivial

theorem updateConfigVersion_bumps : updateConfigVersion.All Stmt.Bumps := by
  rw [updateConfigVersion_eq]
  exact ⟨trivial, fun row => setConfigValue_bumps _ _⟩

/-! ## `update_mud` -/

/-- `update_mud` about to write back the row it has read. -/
def storeOverride (mud : MudDbo) (data : MudData) (aclOverride : List Acl) : Action MudData := do
  upsertMud (withOverride mud data aclOverride)
  updateConfigVersion
  return { data with aclOverride := aclOverride }

/-- `update_mud` with the answer to its lookup. -/
def afterEditLookup (mudUpdateDto : MudUpdateDto) (row : Option MudDbo) : Action MudData :=
  match row with
  | none => Prog.fail (.responseError 404 (some "Couldn't find MUD-Profile"))
  | some mud =>
    match mud.parseData with
    | none => Prog.fail .serdeError
    | some data => storeOverride mud data (mudUpdateDto.aclOverride.getD [])

theorem updateMud_granted {auth : AuthToken} (h : auth.Grants .mudWrite) (query : MudUpdateQueryDto)
    (mudUpdateDto : MudUpdateDto) :
    updateMud auth query mudUpdateDto = .stmt (.selectMud query.mudUrl) (afterEditLookup mudUpdateDto) := by
  unfold updateMud AuthToken.requirePermission
  rw [show requireOneOf .mudWrite auth.permissions = .ok () from h]
  rfl

theorem updateMud_denied {auth : AuthToken} {e : Error}
    (h : requireOneOf .mudWrite auth.permissions = .error e) (query : MudUpdateQueryDto)
    (mudUpdateDto : MudUpdateDto) : updateMud auth query mudUpdateDto = .done (.error e) := by
  unfold updateMud AuthToken.requirePermission
  rw [h]
  rfl

end MudController
