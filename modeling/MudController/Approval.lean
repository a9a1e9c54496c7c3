import MudController.Logic.Gate
import MudController.Reference
import MudController.Services.Enforcer

/-!
# `Approval` — the approval of enforcers over a run

The table of enforcers is a gate (`Logic.Gate`) on the ids of certificates: registering is a contact, setting
`allowed` a decision (`approvals_after`). So a registration is let through exactly if the last decision about
its certificate, made after its first contact, was to allow it (`approval_exact`).
-/

namespace MudController

open Logic EnforcerService

/-! ## Rows after a write -/

/-- An `UPDATE` changes the row with the key, and no other. -/
theorem EnforcerWorld.enforcer_update (w : EnforcerWorld) (certId other : String)
    (f : EnforcerDbo → EnforcerDbo) (hf : ∀ row, (f row).certId = row.certId) :
    (w.update certId f hf).enforcer other =
      (w.enforcer other).map fun row => if other = certId then f row else row := by
  have hkey (row : EnforcerDbo) : (if row.certId = certId then f row else row).certId = row.certId := by
    split
    · exact hf row
    · rfl
  show (w.table.rows.map fun row => if row.certId = certId then f row else row).find? (·.certId = other) =
    (w.table.rows.find? (·.certId = other)).map _
  rw [List.find?_map]
  have hsame : (fun row : EnforcerDbo => decide (row.certId = other)) ∘
      (fun row => if row.certId = certId then f row else row) = fun row => decide (row.certId = other) :=
    funext fun row => by simp only [Function.comp, hkey]
  rw [hsame]
  cases hfind : w.table.rows.find? (fun row => decide (row.certId = other)) with
  | none => rfl
  | some row =>
      have hid : row.certId = other := by simpa using List.find?_some hfind
      simp [hid]

theorem EnforcerWorld.enforcer_update_other (w : EnforcerWorld) {certId other : String} (h : other ≠ certId)
    (f : EnforcerDbo → EnforcerDbo) (hf : ∀ row, (f row).certId = row.certId) :
    (w.update certId f hf).enforcer other = w.enforcer other := by
  rw [w.enforcer_update certId other f hf]
  simp only [if_neg h]
  exact Option.map_id' 

theorem EnforcerWorld.enforcer_update_self (w : EnforcerWorld) (certId : String) (f : EnforcerDbo → EnforcerDbo)
    (hf : ∀ row, (f row).certId = row.certId) :
    (w.update certId f hf).enforcer certId = (w.enforcer certId).map f := by
  rw [w.enforcer_update certId certId f hf]
  simp only [if_pos]

theorem EnforcerWorld.ne_of_unknown {w : EnforcerWorld} {certId : String} (h : w.enforcer certId = none) :
    ∀ row ∈ w.table.rows, row.certId ≠ certId := by
  intro row hrow
  simpa using List.find?_eq_none.mp h row hrow

/-- An `UPDATE` of a key that no row has changes nothing. -/
theorem EnforcerWorld.update_unknown {w : EnforcerWorld} {certId : String} (h : w.enforcer certId = none)
    (f : EnforcerDbo → EnforcerDbo) (hf : ∀ row, (f row).certId = row.certId) : w.update certId f hf = w := by
  have hother := EnforcerWorld.ne_of_unknown h
  obtain ⟨⟨rows, certIds⟩, clock⟩ := w
  have hrows : (rows.map fun row => if row.certId = certId then f row else row) = rows :=
    (List.map_congr_left fun row hrow => if_neg (hother row hrow)).trans (List.map_id' rows)
  unfold EnforcerWorld.update EnforcerTable.update
  simp only [hrows]

/-- A new row is the one of its key. -/
theorem EnforcerWorld.enforcer_append {w : EnforcerWorld} {row : EnforcerDbo}
    (h : w.enforcer row.certId = none) (certIds : ((w.table.rows ++ [row]).map (·.certId)).Nodup)
    (other : String) :
    EnforcerWorld.enforcer { w with table := ⟨w.table.rows ++ [row], certIds⟩ } other =
      if other = row.certId then some row else w.enforcer other := by
  show (w.table.rows ++ [row]).find? (·.certId = other) = _
  rw [List.find?_append]
  by_cases hother : other = row.certId
  · subst hother
    rw [show w.table.rows.find? _ = none from h, if_pos rfl]
    simp
  · rw [if_neg hother]
    simp [Ne.symm hother, EnforcerWorld.enforcer]

/-! ## Calls -/

/-- The world after the clock has been read. -/
def EnforcerWorld.tick (w : EnforcerWorld) : EnforcerWorld := { w with clock := fun n => w.clock (n + 1) }

/-- The two statements of `set_enforcer_allowed`. -/
theorem run_setEnforcerAllowed (certId : String) (allowed : Bool) (w : EnforcerWorld) :
    (setEnforcerAllowed certId allowed).run w =
      (EnforcerAction.fetchOne (EnforcerAction.stmt (.selectEnforcer certId))).run
        (w.update certId (.decided allowed) (EnforcerDbo.decided_certId allowed)) := by
  have hupdate : (EnforcerStmt.updateAllowed allowed certId).exec w = (.ok (w.affected certId),
      w.update certId (.decided allowed) (EnforcerDbo.decided_certId allowed)) := rfl
  exact EnforcerAction.run_bind_ok (EnforcerAction.run_execute_ok (EnforcerAction.run_stmt_of_exec hupdate))

/-- A decision about a known enforcer. -/
theorem run_setEnforcerAllowed_known {w : EnforcerWorld} {certId : String} {row : EnforcerDbo}
    (h : w.enforcer certId = some row) (allowed : Bool) :
    (setEnforcerAllowed certId allowed).run w = (.ok (row.decided allowed),
      w.update certId (.decided allowed) (EnforcerDbo.decided_certId allowed)) := by
  have hrow := w.enforcer_update_self certId (.decided allowed) (EnforcerDbo.decided_certId allowed)
  rw [h, Option.map_some] at hrow
  rw [run_setEnforcerAllowed]
  exact EnforcerAction.run_fetchOne_some (EnforcerAction.run_stmt_of_exec (congrArg (·, _) hrow))

/-- A decision about an unknown enforcer fails, and has no effect. -/
theorem run_setEnforcerAllowed_unknown {w : EnforcerWorld} {certId : String}
    (h : w.enforcer certId = none) (allowed : Bool) :
    (setEnforcerAllowed certId allowed).run w = (.error (.databaseError .rowNotFound), w) := by
  rw [run_setEnforcerAllowed, EnforcerWorld.update_unknown h]
  exact EnforcerAction.run_fetchOne_none (EnforcerAction.run_stmt_of_exec (congrArg (·, w) h))

/-- A call of `enforcer_service` that writes. -/
inductive EnforcerCall where
  | registerEnforcer (ipAddr : IpAddr) (certId : CertId)
  | setEnforcerAllowed (certId : String) (allowed : Bool)

/-- The certificate that a call concerns. -/
def EnforcerCall.certId : EnforcerCall → String
  | .registerEnforcer _ certId => certId.text
  | .setEnforcerAllowed certId _ => certId

/-- A registration is a contact, and setting `allowed` a decision. -/
def EnforcerCall.event : EnforcerCall → GateEvent String
  | .registerEnforcer _ certId => .contact certId.text
  | .setEnforcerAllowed certId allowed => .decision certId allowed

/-- The certificate has registered. -/
def Registered (certId : String) (calls : List EnforcerCall) : Prop :=
  ∃ ipAddr, .registerEnforcer ipAddr ⟨certId⟩ ∈ calls

theorem contact_mem_iff (certId : String) (calls : List EnforcerCall) :
    .contact certId ∈ calls.map EnforcerCall.event ↔ Registered certId calls := by
  constructor
  · intro h
    obtain ⟨call, hcall, hevent⟩ := List.mem_map.mp h
    cases call with
    | registerEnforcer ipAddr id =>
        cases hevent
        exact ⟨ipAddr, hcall⟩
    | setEnforcerAllowed id allowed => cases hevent
  · rintro ⟨ipAddr, hcall⟩
    exact List.mem_map.mpr ⟨_, hcall, rfl⟩

/-- Only setting `allowed` is a decision. -/
theorem event_eq_decision_iff {call : EnforcerCall} {certId : String} {allowed : Bool} :
    call.event = .decision certId allowed ↔ call = .setEnforcerAllowed certId allowed := by
  constructor
  · intro h
    cases call with
    | registerEnforcer ipAddr id => cases h
    | setEnforcerAllowed id allowed' =>
        cases h
        rfl
  · rintro rfl
    rfl

/-- The last decision about the certificate is to allow it, and was made after it had registered. -/
def Approved (certId : String) (calls : List EnforcerCall) : Prop :=
  ∃ before after, calls = before ++ .setEnforcerAllowed certId true :: after ∧ Registered certId before ∧
    ∀ allowed, .setEnforcerAllowed certId allowed ∉ after

theorem admitted_iff (certId : String) (calls : List EnforcerCall) :
    Admitted certId (calls.map EnforcerCall.event) ↔ Approved certId calls := by
  constructor
  · rintro ⟨before, after, hsplit, hcontact, hlast⟩
    obtain ⟨first, rest, rfl, rfl, hrest⟩ := List.map_eq_append_iff.mp hsplit
    obtain ⟨call, last, rfl, hcall, rfl⟩ := List.map_eq_cons_iff.mp hrest
    rw [event_eq_decision_iff.mp hcall]
    refine ⟨first, last, rfl, (contact_mem_iff certId first).mp hcontact, fun allowed hmem => ?_⟩
    exact hlast allowed (List.mem_map.mpr ⟨_, hmem, rfl⟩)
  · rintro ⟨before, after, rfl, hregistered, hlast⟩
    refine ⟨before.map EnforcerCall.event, after.map EnforcerCall.event, by simp [EnforcerCall.event],
      (contact_mem_iff certId before).mpr hregistered, fun allowed hmem => ?_⟩
    obtain ⟨call, hcall, hevent⟩ := List.mem_map.mp hmem
    exact hlast allowed (event_eq_decision_iff.mp hevent ▸ hcall)

/-- The table as a gate. -/
def EnforcerWorld.approvals (w : EnforcerWorld) : Gate String := fun certId => (w.enforcer certId).map (·.allowed)

/-- No enforcers. -/
def EnforcerWorld.start (clock : Nat → DateTime) : EnforcerWorld := ⟨⟨[], List.nodup_nil⟩, clock⟩

section

variable [Platform]

/-- The row of a first contact. -/
def newEnforcer (ipAddr : IpAddr) (certId : CertId) (lastInteraction : DateTime) : EnforcerDbo where
  certId := certId.text
  lastIpAddress := ipAddr.toText
  lastInteraction := lastInteraction
  allowed := false

/-- The possible outcomes of `register_enforcer`: a known enforcer is let through if it is allowed, an unknown
    one is stored and turned away. -/
inductive Registers (w : EnforcerWorld) (ipAddr : IpAddr) (certId : CertId) :
    Except Error Unit × EnforcerWorld → Prop where
  | known (row : EnforcerDbo) (h : w.enforcer certId.text = some row) :
      Registers w ipAddr certId
        (if row.allowed then .ok () else .error .enforcerNotAllowed,
          w.tick.update certId.text (.seen (w.clock 0) ipAddr.toText) (EnforcerDbo.seen_certId _ _))
  | new (h : w.enforcer certId.text = none)
      (certIds : ((w.table.rows ++ [newEnforcer ipAddr certId (w.clock 0)]).map (·.certId)).Nodup) :
      Registers w ipAddr certId
        (.error .enforcerNotAllowed,
          { w.tick with table := ⟨w.table.rows ++ [newEnforcer ipAddr certId (w.clock 0)], certIds⟩ })

theorem registerEnforcer_registers (ipAddr : IpAddr) (certId : CertId) (w : EnforcerWorld) :
    Registers w ipAddr certId ((registerEnforcer ipAddr certId).run w) := by
  have hnow : EnforcerStmt.now.exec w = (w.clock 0, w.tick) := rfl
  unfold registerEnforcer
  rw [EnforcerAction.run_bind_ok (EnforcerAction.run_stmt_of_exec hnow)]
  cases hrow : w.enforcer certId.text with
  | some row =>
      have hselect : (EnforcerStmt.selectAllowed certId.text).exec w.tick = (some row.allowed, w.tick) :=
        congrArg (fun r : Option EnforcerDbo => (r.map (·.allowed), w.tick)) hrow
      have hupdate : (EnforcerStmt.updateSeen (w.clock 0) ipAddr.toText certId.text).exec w.tick =
          (.ok (w.affected certId.text),
            w.tick.update certId.text (.seen (w.clock 0) ipAddr.toText) (EnforcerDbo.seen_certId _ _)) := rfl
      have hknown : Registers w ipAddr certId _ := .known row hrow
      rw [EnforcerAction.run_bind_ok (EnforcerAction.run_stmt_of_exec hselect)]
      simp only
      rw [EnforcerAction.run_bind_ok (EnforcerAction.run_execute_ok (EnforcerAction.run_stmt_of_exec hupdate))]
      cases hallowed : row.allowed with
      | true =>
          rw [hallowed] at hknown
          exact hknown
      | false =>
          rw [hallowed] at hknown
          exact hknown
  | none =>
      have hselect : (EnforcerStmt.selectAllowed certId.text).exec w.tick = (none, w.tick) :=
        congrArg (fun r : Option EnforcerDbo => (r.map (·.allowed), w.tick)) hrow
      have hfree : (newEnforcer ipAddr certId (w.clock 0)).certId ∉ w.table.rows.map (·.certId) := by
        intro hmem
        obtain ⟨row, hrow', hid⟩ := List.mem_map.mp hmem
        exact EnforcerWorld.ne_of_unknown hrow row hrow' hid
      have hinsert : (EnforcerStmt.insertEnforcer (newEnforcer ipAddr certId (w.clock 0))).exec w.tick =
          (.ok 1, { w.tick with table := ⟨w.table.rows ++ [newEnforcer ipAddr certId (w.clock 0)],
            (nodup_map_append EnforcerDbo.certId _ w.table.rows).mpr ⟨w.table.certIds, hfree⟩⟩ }) :=
        dif_pos hfree
      rw [EnforcerAction.run_bind_ok (EnforcerAction.run_stmt_of_exec hselect)]
      simp only
      refine (EnforcerAction.run_bind_ok
        (EnforcerAction.run_execute_ok (EnforcerAction.run_stmt_of_exec hinsert))).symm ▸ ?_
      exact .new hrow _

/-! ## Runs -/

/-- The world after a call. -/
def EnforcerCall.after (w : EnforcerWorld) : EnforcerCall → EnforcerWorld
  | .registerEnforcer ipAddr certId => ((EnforcerService.registerEnforcer ipAddr certId).run w).2
  | .setEnforcerAllowed certId allowed => ((EnforcerService.setEnforcerAllowed certId allowed).run w).2

/-- A call leaves the rows of other certificates as they are. -/
theorem EnforcerCall.enforcer_after_other (call : EnforcerCall) (w : EnforcerWorld) {certId : String}
    (h : certId ≠ call.certId) : (call.after w).enforcer certId = w.enforcer certId := by
  cases call with
  | registerEnforcer ipAddr id =>
      show ((EnforcerService.registerEnforcer ipAddr id).run w).2.enforcer certId = _
      have hregisters := registerEnforcer_registers ipAddr id w
      generalize (EnforcerService.registerEnforcer ipAddr id).run w = outcome at hregisters ⊢
      cases hregisters with
      | known row hrow => exact w.tick.enforcer_update_other h _ _
      | new hrow certIds => exact (EnforcerWorld.enforcer_append hrow certIds certId).trans (if_neg h)
  | setEnforcerAllowed id allowed =>
      show ((EnforcerService.setEnforcerAllowed id allowed).run w).2.enforcer certId = _
      cases hrow : w.enforcer id with
      | none => rw [run_setEnforcerAllowed_unknown hrow]
      | some row =>
          rw [run_setEnforcerAllowed_known hrow]
          exact w.enforcer_update_other h _ _

/-- The approval of a certificate after a call that concerns it. -/
theorem EnforcerCall.approvals_after_self (call : EnforcerCall) (w : EnforcerWorld) :
    (call.after w).approvals call.certId = w.approvals.step call.event call.certId := by
  cases call with
  | registerEnforcer ipAddr id =>
      refine Eq.trans ?_ (Gate.step_contact_self w.approvals id.text).symm
      show (((EnforcerService.registerEnforcer ipAddr id).run w).2.enforcer id.text).map _ = _
      have hregisters := registerEnforcer_registers ipAddr id w
      generalize (EnforcerService.registerEnforcer ipAddr id).run w = outcome at hregisters ⊢
      unfold EnforcerWorld.approvals
      cases hregisters with
      | known row hrow =>
          have hafter := w.tick.enforcer_update_self id.text (.seen (w.clock 0) ipAddr.toText)
            (EnforcerDbo.seen_certId _ _)
          rw [hafter, show w.tick.enforcer id.text = some row from hrow, hrow]
          rfl
      | new hrow certIds =>
          have hafter := (EnforcerWorld.enforcer_append hrow certIds id.text).trans (if_pos rfl)
          rw [hrow]
          exact congrArg (Option.map (·.allowed)) hafter
  | setEnforcerAllowed id allowed =>
      refine Eq.trans ?_ (Gate.step_decision_self w.approvals id allowed).symm
      show (((EnforcerService.setEnforcerAllowed id allowed).run w).2.enforcer id).map _ = _
      unfold EnforcerWorld.approvals
      cases hrow : w.enforcer id with
      | none =>
          rw [run_setEnforcerAllowed_unknown hrow, hrow]
          rfl
      | some row =>
          rw [run_setEnforcerAllowed_known hrow, w.enforcer_update_self, hrow]
          rfl

/-- **The table is a gate.** -/
theorem EnforcerCall.approvals_after (call : EnforcerCall) (w : EnforcerWorld) :
    (call.after w).approvals = w.approvals.step call.event := by
  funext certId
  by_cases h : certId = call.certId
  · rw [h]
    exact call.approvals_after_self w
  · have hother : (call.after w).approvals certId = w.approvals certId :=
      congrArg (Option.map _) (call.enforcer_after_other w h)
    rw [hother]
    cases call with
    | registerEnforcer ipAddr id => exact (Gate.step_contact_other _ h).symm
    | setEnforcerAllowed id allowed => exact (Gate.step_decision_other _ h allowed).symm

/-- Only a registration adds an enforcer. -/
theorem EnforcerCall.enforcer_isSome_after (call : EnforcerCall) (w : EnforcerWorld) (certId : String) :
    ((call.after w).enforcer certId).isSome = true ↔
      (w.enforcer certId).isSome = true ∨ call.event = .contact certId := by
  have hstep := Gate.step_isSome_iff w.approvals call.event certId
  rw [← call.approvals_after] at hstep
  unfold EnforcerWorld.approvals at hstep
  rwa [Option.isSome_map, Option.isSome_map] at hstep

/-- The world after these calls, from one without enforcers. -/
def enforcersAfter (clock : Nat → DateTime) (calls : List EnforcerCall) : EnforcerWorld :=
  calls.foldl EnforcerCall.after (.start clock)

/-- A run is a run of the gate. -/
theorem approvals_enforcersAfter (clock : Nat → DateTime) (calls : List EnforcerCall) :
    (enforcersAfter clock calls).approvals = Gate.after (calls.map EnforcerCall.event) := by
  induction calls using List.reverseRecOn with
  | nil => rfl
  | append_singleton calls call ih =>
      rw [List.map_append, List.map_singleton, Gate.after_append_singleton, ← ih, ← call.approvals_after]
      unfold enforcersAfter
      rw [List.foldl_append]
      rfl

/-- A registration is let through exactly if the enforcer is known and allowed. -/
theorem register_ok_iff (ipAddr : IpAddr) (certId : CertId) (w : EnforcerWorld) :
    ((registerEnforcer ipAddr certId).run w).1 = .ok () ↔ w.approvals certId.text = some true := by
  have hregisters := registerEnforcer_registers ipAddr certId w
  generalize (registerEnforcer ipAddr certId).run w = outcome at hregisters ⊢
  unfold EnforcerWorld.approvals
  cases hregisters with
  | known row hrow =>
      rw [hrow]
      cases hallowed : row.allowed <;> simp [hallowed]
  | new hrow certIds =>
      rw [hrow]
      simp

/-- The enforcers that have registered are the ones with a row. -/
theorem enforcer_isSome_iff (clock : Nat → DateTime) (calls : List EnforcerCall) (certId : String) :
    ((enforcersAfter clock calls).enforcer certId).isSome ↔ Registered certId calls := by
  rw [← contact_mem_iff, ← gate_knows_iff, ← approvals_enforcersAfter clock]
  unfold EnforcerWorld.approvals
  rw [Option.isSome_map]

/-- Registering again leaves the decision as it is. -/
theorem registerEnforcer_keeps {w : EnforcerWorld} {certId : CertId} {row : EnforcerDbo}
    (h : w.enforcer certId.text = some row) (ipAddr : IpAddr) :
    ∃ row', ((registerEnforcer ipAddr certId).run w).2.enforcer certId.text = some row' ∧
      row'.allowed = row.allowed := by
  have hregisters := registerEnforcer_registers ipAddr certId w
  generalize (registerEnforcer ipAddr certId).run w = outcome at hregisters ⊢
  cases hregisters with
  | known row' hrow =>
      rw [h] at hrow
      cases hrow
      have hafter := w.tick.enforcer_update_self certId.text (.seen (w.clock 0) ipAddr.toText)
        (EnforcerDbo.seen_certId _ _)
      rw [show w.tick.enforcer certId.text = some row from h, Option.map_some] at hafter
      exact ⟨_, hafter, rfl⟩
  | new hrow certIds =>
      rw [h] at hrow
      cases hrow

/-- **Approval is explicit and exact.** After any calls on an empty table: an enforcer has a row exactly if it
    has registered, and is let through exactly if the last decision about it was to allow it and was made after
    it had registered. A decision about an unknown certificate fails and changes nothing; registering again
    leaves the decision as it is; and no call changes the row of another certificate. -/
theorem approval_exact (clock : Nat → DateTime) (calls : List EnforcerCall) :
    (∀ certId, ((enforcersAfter clock calls).enforcer certId).isSome ↔ Registered certId calls) ∧
    (∀ ipAddr certId, ((registerEnforcer ipAddr certId).run (enforcersAfter clock calls)).1 = .ok () ↔
      Approved certId.text calls) ∧
    (∀ certId allowed, ¬ Registered certId calls →
      (setEnforcerAllowed certId allowed).run (enforcersAfter clock calls) =
        (.error (.databaseError .rowNotFound), enforcersAfter clock calls)) ∧
    (∀ ipAddr certId row, (enforcersAfter clock calls).enforcer certId.text = some row →
      ∃ row', ((registerEnforcer ipAddr certId).run (enforcersAfter clock calls)).2.enforcer certId.text =
        some row' ∧ row'.allowed = row.allowed) ∧
    (∀ (call : EnforcerCall) (certId : String), certId ≠ call.certId →
      (call.after (enforcersAfter clock calls)).enforcer certId =
        (enforcersAfter clock calls).enforcer certId) := by
  refine ⟨enforcer_isSome_iff clock calls, ?_, ?_, ?_, ?_⟩
  · intro ipAddr certId
    rw [register_ok_iff, approvals_enforcersAfter, gate_admits_iff, admitted_iff]
  · intro certId allowed hnew
    rw [← enforcer_isSome_iff clock, Option.not_isSome_iff_eq_none] at hnew
    exact run_setEnforcerAllowed_unknown hnew allowed
  · intro ipAddr certId row hrow
    exact registerEnforcer_keeps hrow ipAddr
  · intro call certId hother
    exact call.enforcer_after_other _ hother

end

end MudController
