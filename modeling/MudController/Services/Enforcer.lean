import MudController.Db.Enforcers

/-!
# `Services.Enforcer` — the enforcers that may connect (`enforcer_service.rs`)
-/

namespace MudController

open Logic

namespace EnforcerService

variable [Platform]

/-- `register_enforcer`: the contact is recorded also if it is turned away. -/
def registerEnforcer (ipAddr : IpAddr) (certId : CertId) : EnforcerAction Unit := do
  let lastInteraction ← EnforcerAction.stmt .now
  match ← EnforcerAction.stmt (.selectAllowed certId.text) with
  | some allowed =>
    let _ ← EnforcerAction.execute (EnforcerAction.stmt (.updateSeen lastInteraction ipAddr.toText certId.text))
    if allowed then return ()
    else Prog.fail .enforcerNotAllowed
  | none =>
    let _ ← EnforcerAction.execute (EnforcerAction.stmt (.insertEnforcer
      { certId := certId.text
        lastIpAddress := ipAddr.toText
        lastInteraction := lastInteraction
        allowed := false }))
    Prog.fail .enforcerNotAllowed

omit [Platform] in
/-- `set_enforcer_allowed`. -/
def setEnforcerAllowed (certId : String) (allowed : Bool) : EnforcerAction EnforcerDbo := do
  let _ ← EnforcerAction.execute (EnforcerAction.stmt (.updateAllowed allowed certId))
  EnforcerAction.fetchOne (EnforcerAction.stmt (.selectEnforcer certId))

end EnforcerService

end MudController
