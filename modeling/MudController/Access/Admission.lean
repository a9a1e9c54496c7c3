import MudController.Access.Origin
import MudController.Approval

/-!
# `Access.Admission` — which enforcers are let in, under concurrency

Enforcers make contact while others do, and while requests decide about them. The statements of a run that create a
row or set `allowed` are the events of a gate (`Logic.Gate`), in the order in which they were executed
(`approvals_run`). An enforcer is let in exactly if the gate admits it at the turn at which its contact looks; and
then a request of somebody who may update enforcers has admitted it (`admission`).
-/

namespace MudController

open Logic

section

variable [Platform]

/-- The first contact with an enforcer, or a decision about it. -/
def BackendStmt.gateEvent : BackendStmt → Option (GateEvent String)
  | .enforcer (.insertEnforcer row) => some (.contact row.certId)
  | .enforcer (.updateAllowed allowed certId) => some (.decision certId allowed)
  | _ => none

/-- A new row admits nobody. -/
def BackendStmt.AdmitsNobody : BackendStmt → Prop
  | .enforcer (.insertEnforcer row) => row.allowed = false
  | _ => True

/-- One event of the gate, or none. -/
def gateStep (gate : Gate String) (event : Option (GateEvent String)) : Gate String := event.elim gate gate.step

/-- The decisions in force. -/
abbrev Backend.approvals (b : Backend) : Gate String := b.enforcerWorld.approvals

omit [Platform] in
theorem EnforcerWorld.approvals_update (w : EnforcerWorld) (certId : String) (f : EnforcerDbo → EnforcerDbo)
    (hf : ∀ row, (f row).certId = row.certId) (other : String) :
    (w.update certId f hf).approvals other =
      if other = certId then (w.enforcer certId).map fun row => (f row).allowed else w.approvals other := by
  unfold EnforcerWorld.approvals
  by_cases h : other = certId
  · subst h
    rw [w.enforcer_update_self other f hf, if_pos rfl]
    simp [Option.map_map, Function.comp_def]
  · rw [w.enforcer_update_other h f hf, if_neg h]

/-- **One statement, at the gate.** -/
theorem EnforcerStmt.approvals_exec (s : EnforcerStmt) (w : EnforcerWorld)
    (h : BackendStmt.AdmitsNobody (.enforcer s)) :
    (s.exec w).2.approvals = gateStep w.approvals (BackendStmt.gateEvent (.enforcer s)) := by
  cases s with
  | now | selectAllowed certId | selectEnforcer certId => rfl
  | updateSeen lastInteraction lastIpAddress certId =>
      funext other
      refine (w.approvals_update certId _ _ other).trans ?_
      by_cases hother : other = certId
      · subst hother
        rw [if_pos rfl]
        rfl
      · rw [if_neg hother]
        rfl
  | updateAllowed allowed certId =>
      funext other
      refine (w.approvals_update certId _ _ other).trans ?_
      by_cases hother : other = certId
      · subst hother
        rw [if_pos rfl]
        refine Eq.trans ?_ (Gate.step_decision_self w.approvals other allowed).symm
        unfold EnforcerWorld.approvals
        rw [Option.map_map]
        rfl
      · rw [if_neg hother]
        exact (Gate.step_decision_other w.approvals hother allowed).symm
  | insertEnforcer row =>
      funext other
      change (dite _ _ _ : Except DbError Nat × EnforcerWorld).2.approvals other =
        w.approvals.step (.contact row.certId) other
      by_cases hfree : row.certId ∉ w.table.rows.map (·.certId)
      · have hrow : w.enforcer row.certId = none := by
          refine List.find?_eq_none.mpr fun r hr => ?_
          simpa using fun he : r.certId = row.certId => hfree (he ▸ List.mem_map_of_mem hr)
        rw [dif_pos hfree]
        refine (congrArg (Option.map (·.allowed)) (EnforcerWorld.enforcer_append hrow _ other)).trans ?_
        by_cases hother : other = row.certId
        · subst hother
          rw [if_pos rfl, Gate.step_contact_self]
          simp [EnforcerWorld.approvals, hrow, show row.allowed = false from h]
        · rw [if_neg hother, Gate.step_contact_other _ hother]
          rfl
      · rw [dif_neg hfree]
        by_cases hother : other = row.certId
        · -- the row that is there stands
          subst hother
          rw [Gate.step_contact_self]
          obtain ⟨known, hknown, hid⟩ := List.mem_map.mp (not_not.mp hfree)
          have hrow : w.enforcer row.certId = some known := hid ▸ find?_of_mem w.table.certIds hknown
          simp [EnforcerWorld.approvals, hrow]
        · exact (Gate.step_contact_other _ hother).symm

theorem BackendStmt.approvals_exec (s : BackendStmt) (b : Backend) (h : s.AdmitsNobody) :
    (s.exec b).2.approvals = gateStep b.approvals s.gateEvent := by
  cases s with
  | enforcer s => exact s.approvals_exec b.enforcerWorld h
  | upsertUserConfig config =>
      change (b.upsertUserConfig config).2.approvals = b.approvals
      unfold Backend.upsertUserConfig
      split <;> rfl
  | insertRoom name color | updateRoom room | deleteRoom name =>
      dsimp only [BackendStmt.exec]
      unfold Backend.writeRooms
      split <;> rfl
  | _ => rfl

/-! ## Runs -/

variable [Crypto] {b : Backend} {calls : List Call} {sched : List Nat}

/-- No call admits an enforcer by creating its row. -/
theorem admitsNobody {i k : Nat} {x : Seen} (hx : ApiAnswered b calls sched i k x) : x.stmt.AdmitsNobody := by
  obtain ⟨p, hp⟩ := hx.next
  obtain ⟨c, hc⟩ := exists_call hp
  obtain ⟨s, answer⟩ := x
  cases c with
  | request r =>
      obtain ⟨seen, _, hentitled⟩ := exists_entitled hc hx
      cases hentitled with
      | anyone hpublic =>
          cases s with
          | enforcer s => exact absurd hpublic id
          | _ => trivial
      | signup hopen hvalid hhash => trivial
      | promote hopen hfirst => trivial
      | login hfound hpassword => trivial
      | token haccepted hlicence =>
          rcases hlicence with hlicence | ⟨_, id, rfl, _⟩
          · cases s with
            | enforcer s =>
                cases s with
                | insertEnforcer row => exact absurd hlicence id
                | _ => trivial
            | _ => trivial
          · trivial
  | contact ipAddr certId =>
      obtain ⟨seen, _, hentitled⟩ :=
        Pool.saw_of_follows (apiPool_procs hc) (contact_follows ipAddr certId) hx
      cases hentitled with
      | first hnow hunknown => rfl
      | _ => trivial
  | background p =>
      have hall : (respond (.ofWorld p)).All BackendStmt.AdmitsNobody :=
        Prog.All.bind (ofWorld_all (Prog.All.of_forall (fun _ => trivial) p)) fun _ => trivial
      have hfollows : (respond (.ofWorld p)).Follows (fun _ s => s.AdmitsNobody) [] := hall.follows fun _ _ hs => hs
      obtain ⟨seen, _, hnobody⟩ := Pool.saw_of_follows (apiPool_procs hc) hfollows hx
      exact hnobody

/-- The events at the gate ahead of turn `j`. -/
def gateEvents (b : Backend) (calls : List Call) (sched : List Nat) (j : Nat) : List (GateEvent String) :=
  (poolAt b calls sched j).trace.reverse.filterMap fun turn => turn.2.gateEvent

/-- **A run is a run of the gate.** -/
theorem approvals_run (hnone : b.enforcers.rows = []) (j : Nat) :
    (stateAt b calls sched j).approvals = Gate.after (gateEvents b calls sched j) := by
  induction j with
  | zero =>
      have hstart : b.approvals = fun _ => none := by
        funext certId
        unfold Backend.approvals EnforcerWorld.approvals EnforcerWorld.enforcer Backend.enforcerWorld
        rw [hnone]
        rfl
      exact hstart
  | succ j ih =>
      rcases Pool.exists_answeredAt BackendStmt.exec (apiPool b calls) sched j with ⟨i, x, hx⟩ | hsame
      · rw [stateAt_succ hx, x.stmt.approvals_exec _ (admitsNobody hx), ih]
        unfold gateEvents poolAt
        rw [hx.trace, List.reverse_cons, List.filterMap_append]
        cases hevent : x.stmt.gateEvent with
        | none => simp [gateStep, hevent]
        | some event =>
            simp only [hevent, List.filterMap_cons, List.filterMap_nil, gateStep, Option.elim_some]
            rw [Gate.after_append_singleton]
      · have hpool : poolAt b calls sched (j + 1) = poolAt b calls sched j := hsame
        unfold gateEvents stateAt
        rw [hpool]
        exact ih

/-- Who decides about an enforcer. -/
theorem updateAllowed_asked {i k : Nat} {allowed : Bool} {certId : String} {answer : Except DbError Nat}
    (hx : ApiAnswered b calls sched i k ⟨.enforcer (.updateAllowed allowed certId), answer⟩) :
    ∃ auth, AskedAt b calls sched i k auth (.updateEnforcer certId allowed)
      (.enforcer (.updateAllowed allowed certId)) := by
  obtain ⟨r, seen, hc, hsaw, hasks⟩ := exists_asked hx fun h => h
  cases hasks with
  | token haccepted hlicence hasks =>
      cases hasks with
      | idle h => exact absurd h fun h => h
      | decision => exact ⟨_, askedAt hc hsaw haccepted hlicence hx⟩

omit [Crypto] in
/-- What a contact has seen when it is over. -/
theorem contact_path {ipAddr : IpAddr} {certId : CertId} {seen : List Seen} {r : Except Error ApiResponse}
    (h : (respond (.ofEnforcers (EnforcerService.registerEnforcer ipAddr certId))).Path seen (.done r)) :
    ∃ found, ⟨.enforcer (.selectAllowed certId.text), found⟩ ∈ seen ∧
      (r = .ok .other → found = some true) ∧
      (found = some true → r = .ok .other ∨
        ∃ t e, ⟨.enforcer (.updateSeen t ipAddr.toText certId.text), .error e⟩ ∈ seen) := by
  obtain ⟨t, tail, rfl, hnow⟩ := Prog.Path.of_stmt h
  obtain ⟨found, rest, rfl, hlook⟩ := hnow.of_stmt
  refine ⟨found, List.mem_cons_of_mem _ List.mem_cons_self, ?_⟩
  cases found with
  | none =>
      refine ⟨?_, nofun⟩
      obtain ⟨answer, last, rfl, hinsert⟩ := hlook.of_stmt
      rintro rfl
      cases answer with
      | error e => exact nomatch hinsert.of_done.2
      | ok n => exact nomatch hinsert.of_done.2
  | some allowed =>
      obtain ⟨answer, last, rfl, hseen⟩ := hlook.of_stmt
      cases answer with
      | error e =>
          obtain ⟨rfl, hr⟩ := hseen.of_done
          refine ⟨?_, fun _ => .inr ⟨t, e, ?_⟩⟩
          · rintro rfl
            cases hr
          · exact List.mem_cons_of_mem _ (List.mem_cons_of_mem _ List.mem_cons_self)
      | ok n =>
          cases allowed with
          | false =>
              obtain ⟨rfl, hr⟩ := hseen.of_done
              refine ⟨?_, nofun⟩
              rintro rfl
              cases hr
          | true =>
              obtain ⟨rfl, hr⟩ := hseen.of_done
              exact ⟨fun _ => rfl, fun _ => .inl (Prog.done.inj hr)⟩

/-- **Who is let in.** In every interleaving, a contact that is over was let in exactly if, at the turn at which it
    looked, the last decision about its certificate was to admit it and was made after its row was created; and that
    decision was a request of somebody who may update enforcers. -/
theorem admission (hnone : b.enforcers.rows = []) {i j : Nat} {ipAddr : IpAddr} {certId : CertId}
    {r : Except Error ApiResponse} (hcall : calls[i]? = some (.contact ipAddr certId))
    (hdone : (poolAt b calls sched j).procs[i]? = some (.done r)) :
    ∃ k < j, (∃ found, ApiAnswered b calls sched i k ⟨.enforcer (.selectAllowed certId.text), found⟩) ∧
      (r = .ok .other ↔ Admitted certId.text (gateEvents b calls sched k)) ∧
      (r = .ok .other → ∃ i' k' auth, k' < k ∧ auth.Grants .enforcerUpdate ∧
        AskedAt b calls sched i' k' auth (.updateEnforcer certId.text true)
          (.enforcer (.updateAllowed true certId.text))) := by
  obtain ⟨seen, hpath, hsaw⟩ := Pool.exists_saw (apiPool_procs hcall) hdone
  obtain ⟨found, hfound, hlet, hback⟩ := contact_path hpath
  obtain ⟨k, hk, hlook⟩ := hsaw.mem hfound
  have hgate : found = some true ↔ Admitted certId.text (gateEvents b calls sched k) := by
    rw [← gate_admits_iff, ← approvals_run hnone]
    have hanswer : (stateAt b calls sched k).approvals certId.text = found := hlook.answer
    rw [hanswer]
  have hiff : r = .ok .other ↔ found = some true := by
    refine ⟨hlet, fun hadmitted => ?_⟩
    rcases hback hadmitted with hok | ⟨t, e, hrefused⟩
    · exact hok
    · -- the stamp of the contact is never refused
      obtain ⟨_, _, hat⟩ := hsaw.mem hrefused
      exact nomatch hat.answer
  refine ⟨k, hk, ⟨found, hlook⟩, hiff.trans hgate, fun hok => ?_⟩
  obtain ⟨before, after, hevents, _, _⟩ := hgate.mp (hlet hok)
  have hmem : GateEvent.decision certId.text true ∈ gateEvents b calls sched k := by
    rw [hevents]
    exact List.mem_append_right before List.mem_cons_self
  obtain ⟨⟨i', s⟩, hturn, hs⟩ := List.mem_filterMap.mp hmem
  obtain ⟨k', hk', answer, hat⟩ := Pool.exists_of_mem_trace rfl (List.mem_reverse.mp hturn)
  cases s with
  | enforcer s =>
      cases s with
      | updateAllowed allowed certId' =>
          obtain ⟨rfl, rfl⟩ := GateEvent.decision.inj (Option.some.inj hs)
          obtain ⟨auth, hasked⟩ := updateAllowed_asked hat
          exact ⟨i', k', auth, hk', hasked.licence, hasked⟩
      | insertEnforcer row => exact nomatch Option.some.inj hs
      | _ => cases hs
  | _ => cases hs

end

section

attribute [local instance] Reference.platform Reference.crypto

/-- An enforcer makes contact, is admitted, and makes contact again. -/
def gateCalls : List Call :=
  [.contact (.v4 ⟨0x0A000002⟩) ⟨"k2j4l6m8n0p2q4r6s8t0"⟩,
    .request (.authenticated (some (headerPrefix ++ Reference.token)) (.updateEnforcer "k2j4l6m8n0p2q4r6s8t0" true)),
    .contact (.v4 ⟨0x0A000002⟩) ⟨"k2j4l6m8n0p2q4r6s8t0"⟩]

def gateSched : List Nat := [0, 0, 0, 1, 1, 1, 1, 1, 1, 2, 2, 2]

set_option maxRecDepth 20000 in
theorem gate_let_in : (poolAt sessionBackend gateCalls gateSched 12).procs[2]? = some (.done (.ok .other)) := by
  unfold poolAt apiPool gateCalls
  simp only [List.map_cons, Call.program, authenticated_eq]
  rfl

theorem admission_again : ∃ k < 12,
    (∃ found, ApiAnswered sessionBackend gateCalls gateSched 2 k ⟨.enforcer (.selectAllowed "k2j4l6m8n0p2q4r6s8t0"), found⟩) ∧
    ((Except.ok .other : Except Error ApiResponse) = .ok .other ↔
      Admitted "k2j4l6m8n0p2q4r6s8t0" (gateEvents sessionBackend gateCalls gateSched k)) ∧
    ((Except.ok .other : Except Error ApiResponse) = .ok .other → ∃ i' k' auth, k' < k ∧
      auth.Grants .enforcerUpdate ∧
      AskedAt sessionBackend gateCalls gateSched i' k' auth (.updateEnforcer "k2j4l6m8n0p2q4r6s8t0" true)
        (.enforcer (.updateAllowed true "k2j4l6m8n0p2q4r6s8t0"))) :=
  admission rfl rfl gate_let_in

end

end MudController
