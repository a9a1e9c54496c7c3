import MudController.Error
import MudController.Logic.Prog
import MudController.Logic.Rows
import MudController.Platform

/-!
# `Db.Enforcers` — the table of enforcers and its statements

The statements of `enforcer_service`. They concern a table of their own, so they run on it and on the clock
alone.
-/

namespace MudController

open Logic

/-- `CertId`: the text that a certificate is known by. -/
structure CertId where
  text : String
  deriving DecidableEq

/-- A row of `enforcers`; `EnforcerDto` has the same fields. -/
structure EnforcerDbo where
  certId : String
  lastIpAddress : String
  lastInteraction : DateTime
  allowed : Bool
  deriving DecidableEq

/-- The table, with its primary key. -/
structure EnforcerTable where
  rows : List EnforcerDbo
  certIds : (rows.map (·.certId)).Nodup

/-- The database and the clock. -/
structure EnforcerWorld where
  table : EnforcerTable
  clock : Nat → DateTime

/-- `SELECT * FROM enforcers WHERE cert_id = $1`. -/
def EnforcerWorld.enforcer (w : EnforcerWorld) (certId : String) : Option EnforcerDbo :=
  w.table.rows.find? (·.certId = certId)

/-- `UPDATE enforcers SET … WHERE cert_id = …`, with a change that leaves the key alone. -/
def EnforcerTable.update (t : EnforcerTable) (certId : String) (f : EnforcerDbo → EnforcerDbo)
    (hf : ∀ row, (f row).certId = row.certId) : EnforcerTable where
  rows := t.rows.map fun row => if row.certId = certId then f row else row
  certIds := by
    have hkeys (row : EnforcerDbo) : (if row.certId = certId then f row else row).certId = row.certId := by
      split
      · exact hf row
      · rfl
    rw [List.map_map]
    exact (List.map_congr_left fun row _ => hkeys row) ▸ t.certIds

/-- The world after such an `UPDATE`. -/
def EnforcerWorld.update (w : EnforcerWorld) (certId : String) (f : EnforcerDbo → EnforcerDbo)
    (hf : ∀ row, (f row).certId = row.certId) : EnforcerWorld :=
  { w with table := w.table.update certId f hf }

/-- The row of an `UPDATE` that records a contact. -/
def EnforcerDbo.seen (lastInteraction : DateTime) (lastIpAddress : String) (row : EnforcerDbo) : EnforcerDbo :=
  { row with lastInteraction := lastInteraction, lastIpAddress := lastIpAddress }

/-- The row of an `UPDATE` that records a decision. -/
def EnforcerDbo.decided (allowed : Bool) (row : EnforcerDbo) : EnforcerDbo := { row with allowed := allowed }

@[simp] theorem EnforcerDbo.seen_certId (lastInteraction : DateTime) (lastIpAddress : String) (row : EnforcerDbo) :
    (row.seen lastInteraction lastIpAddress).certId = row.certId := rfl

@[simp] theorem EnforcerDbo.decided_certId (allowed : Bool) (row : EnforcerDbo) :
    (row.decided allowed).certId = row.certId := rfl

inductive EnforcerStmt where
  | now
  | selectAllowed (certId : String)
  | selectEnforcer (certId : String)
  | updateSeen (lastInteraction : DateTime) (lastIpAddress certId : String)
  | updateAllowed (allowed : Bool) (certId : String)
  | insertEnforcer (row : EnforcerDbo)

/-- The answer to a statement. -/
abbrev EnforcerStmt.Answer : EnforcerStmt → Type
  | .now => DateTime
  | .selectAllowed _ => Option Bool
  | .selectEnforcer _ => Option EnforcerDbo
  | .updateSeen _ _ _ => Except DbError Nat
  | .updateAllowed _ _ => Except DbError Nat
  | .insertEnforcer _ => Except DbError Nat

/-- The rows that an `UPDATE … WHERE cert_id = …` affects. -/
def EnforcerWorld.affected (w : EnforcerWorld) (certId : String) : Nat :=
  (w.table.rows.filter (·.certId = certId)).length

/-- What a statement does. -/
def EnforcerStmt.exec : (s : EnforcerStmt) → EnforcerWorld → s.Answer × EnforcerWorld
  | .now, w => (w.clock 0, { w with clock := fun n => w.clock (n + 1) })
  | .selectAllowed certId, w => ((w.enforcer certId).map (·.allowed), w)
  | .selectEnforcer certId, w => (w.enforcer certId, w)
  | .updateSeen lastInteraction lastIpAddress certId, w =>
      (.ok (w.affected certId), w.update certId (.seen lastInteraction lastIpAddress)
        (EnforcerDbo.seen_certId lastInteraction lastIpAddress))
  | .updateAllowed allowed certId, w =>
      (.ok (w.affected certId), w.update certId (.decided allowed) (EnforcerDbo.decided_certId allowed))
  | .insertEnforcer row, w =>
      if h : row.certId ∉ w.table.rows.map (·.certId) then
        (.ok 1, { w with table := ⟨w.table.rows ++ [row], (nodup_map_append _ row _).mpr ⟨w.table.certIds, h⟩⟩ })
      else (.error .constraint, w)

/-- A call of `enforcer_service`. -/
abbrev EnforcerAction (α : Type) := Prog EnforcerStmt EnforcerStmt.Answer Error α

namespace EnforcerAction

variable {α : Type}

/-- Run a call by itself. -/
def run (p : EnforcerAction α) (w : EnforcerWorld) : Except Error α × EnforcerWorld :=
  Prog.run EnforcerStmt.exec p w

/-- Execute a statement and go on with its answer. -/
def stmt (s : EnforcerStmt) : EnforcerAction s.Answer := Prog.call s

/-- `execute(conn).await?`. -/
def execute (p : EnforcerAction (Except DbError α)) : EnforcerAction α := do
  match ← p with
  | .ok a => return a
  | .error e => Prog.fail (.databaseError e)

/-- `fetch_one(conn).await?`. -/
def fetchOne (p : EnforcerAction (Option α)) : EnforcerAction α := do
  match ← p with
  | some a => return a
  | none => Prog.fail (.databaseError .rowNotFound)

variable {β : Type} {w w' : EnforcerWorld}

theorem run_bind_ok {p : EnforcerAction α} {f : α → EnforcerAction β} {a : α} (h : run p w = (.ok a, w')) :
    run (p >>= f) w = run (f a) w' := Prog.run_bind_ok _ h

theorem run_bind_error {p : EnforcerAction α} {f : α → EnforcerAction β} {e : Error}
    (h : run p w = (.error e, w')) : run (p >>= f) w = (.error e, w') := Prog.run_bind_error _ h

theorem run_stmt_of_exec {s : EnforcerStmt} {a : s.Answer} (h : s.exec w = (a, w')) :
    run (stmt s) w = (.ok a, w') := by
  show (Except.ok (s.exec w).1, (s.exec w).2) = _
  rw [h]

theorem run_execute_ok {p : EnforcerAction (Except DbError α)} {a : α} (h : run p w = (.ok (.ok a), w')) :
    run (execute p) w = (.ok a, w') := run_bind_ok h

theorem run_fetchOne_some {p : EnforcerAction (Option α)} {a : α} (h : run p w = (.ok (some a), w')) :
    run (fetchOne p) w = (.ok a, w') := run_bind_ok h

theorem run_fetchOne_none {p : EnforcerAction (Option α)} (h : run p w = (.ok none, w')) :
    run (fetchOne p) w = (.error (.databaseError .rowNotFound), w') := run_bind_ok h

end EnforcerAction

end MudController
