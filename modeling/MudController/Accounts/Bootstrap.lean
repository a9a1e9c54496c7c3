import MudController.Logic.Interleave
import MudController.Reference
import MudController.Run.Accounts

/-!
# `Accounts.Bootstrap` — the first user

`insert` stores a user, counts the users, and makes the new one an administrator if it counts one. Here any
number of signups under different names take turns, statement by statement, on an empty table. One of them
becomes administrator exactly if no second user is stored before the first signup has counted
(`bootstrap_iff`); otherwise nobody ever does.
-/

namespace MudController

open Logic

/-- The signups, as they are started. -/
def signupPool (db : Accounts) (callers : List User) :
    Pool AccountStmt AccountStmt.Answer Error Int Accounts :=
  Pool.start db (callers.map UserService.insert)

/-- Exactly one user holds the role of administrators. -/
def OneAdmin (db : Accounts) : Prop := ∃! user, user ∈ db.users ∧ db.Holds user.id roleIdAdmin

/-- A signup that is about to store the second user finds no other one that is about to count. -/
def firstHasCounted (P : Pool AccountStmt AccountStmt.Answer Error Int Accounts) (i : Nat) : Bool :=
  match P.procs[i]? with
  | some (.stmt (.insertUser _ _ _) _) =>
    !(P.state.users.length == 1 && P.procs.any fun p => p.next? == some .countUsers)
  | _ => true

/-- The turn of call `i` does not overtake the count of the first signup. -/
abbrev FirstHasCounted (P : Pool AccountStmt AccountStmt.Answer Error Int Accounts) (i : Nat) : Prop :=
  firstHasCounted P i = true

/-! ## Where a signup can be -/

/-- The end of a signup that was to make its user an administrator. -/
def promoted (id : Int) : Except DbError Nat → AccountAction Int
  | .ok _ => .done (.ok id)
  | .error e => .done (.error (.databaseError e))

/-- The places where a signup can be. -/
inductive SignupPhase where
  | inserting
  | counting (id : Int)
  | promoting (id : Int)
  | finished (r : Except Error Int)

/-- What a signup has left to do. -/
def SignupPhase.call (user : User) : SignupPhase → AccountAction Int
  | .inserting => UserService.insert user
  | .counting id => Prog.stmt .countUsers (promoteFirst id)
  | .promoting id => Prog.stmt (.insertUserRole id roleIdAdmin) (promoted id)
  | .finished r => .done r

/-- A signup with the answer to its insert. -/
def inserted : Except DbError Int → AccountAction Int
  | .ok id => Prog.stmt .countUsers (promoteFirst id)
  | .error e => .done (.error (.databaseError e))

theorem insert_eq (user : User) :
    UserService.insert user = Prog.stmt (.insertUser user.username user.password user.salt) inserted := by
  refine congrArg (Prog.stmt (AccountStmt.insertUser _ _ _)) (funext fun answer => ?_)
  cases answer <;> rfl

/-- A signup that has counted one user is about to make it an administrator. -/
theorem promoteFirst_one (user : User) (id : Int) : promoteFirst id 1 = (SignupPhase.promoting id).call user := by
  refine congrArg (Prog.stmt (AccountStmt.insertUserRole id roleIdAdmin)) (funext fun answer => ?_)
  cases answer <;> rfl

/-- The signups of the callers at their places. -/
def callsAt (callers : List User) (phases : List SignupPhase) : List (AccountAction Int) :=
  List.zipWith SignupPhase.call callers phases

theorem callsAt_set {callers : List User} {phases : List SignupPhase} {i : Nat} {user : User}
    (h : callers[i]? = some user) (phase : SignupPhase) :
    (callsAt callers phases).set i (phase.call user) = callsAt callers (phases.set i phase) := by
  unfold callsAt
  induction callers generalizing phases i with
  | nil => cases h
  | cons caller callers ih =>
      cases phases with
      | nil => rfl
      | cons old phases =>
          cases i with
          | zero =>
              cases h
              rfl
          | succ i => exact congrArg (old.call caller :: ·) (ih h)

/-- What one turn of a signup does to its place and to the accounts. -/
inductive SignupTurn (user : User) (db : Accounts) : SignupPhase → SignupPhase → Accounts → Prop where
  | insert (h : AccountSchema (db.withUser user)) :
      SignupTurn user db .inserting (.counting (db.userSeq + 1)) ⟨db.withUser user, h⟩
  | taken (h : ¬ AccountSchema (db.withUser user)) :
      SignupTurn user db .inserting (.finished (.error (.databaseError .constraint))) db
  | countFirst (id : Int) (h : db.users.length = 1) : SignupTurn user db (.counting id) (.promoting id) db
  | countLater (id : Int) (h : db.users.length ≠ 1) : SignupTurn user db (.counting id) (.finished (.ok id)) db
  | promote (id : Int) (h : AccountSchema (db.insertUserRole id roleIdAdmin)) :
      SignupTurn user db (.promoting id) (.finished (.ok id)) ⟨db.insertUserRole id roleIdAdmin, h⟩
  | refuse (id : Int) (h : ¬ AccountSchema (db.insertUserRole id roleIdAdmin)) :
      SignupTurn user db (.promoting id) (.finished (.error (.databaseError .constraint))) db

theorem SignupPhase.turn {user : User} {phase : SignupPhase} {s : AccountStmt}
    {k : s.Answer → AccountAction Int} (h : phase.call user = Prog.stmt s k) (db : Accounts) :
    ∃ phase', SignupTurn user db phase phase' (s.exec db).2 ∧ k (s.exec db).1 = phase'.call user := by
  cases phase with
  | inserting =>
      unfold SignupPhase.call at h
      rw [insert_eq] at h
      cases h
      by_cases hschema : AccountSchema (db.withUser user)
      · have hexec : (AccountStmt.insertUser user.username user.password user.salt).exec db =
            (.ok (db.userSeq + 1), ⟨db.withUser user, hschema⟩) :=
          Accounts.write_ok (·.insertUser user.username user.password user.salt) hschema _
        rw [hexec]
        exact ⟨_, .insert hschema, rfl⟩
      · have hexec : (AccountStmt.insertUser user.username user.password user.salt).exec db =
            (.error .constraint, db) :=
          Accounts.write_refused (·.insertUser user.username user.password user.salt) hschema _
        rw [hexec]
        exact ⟨_, .taken hschema, rfl⟩
  | counting id =>
      cases h
      by_cases hone : db.users.length = 1
      · refine ⟨_, .countFirst id hone, ?_⟩
        show promoteFirst id db.users.length = _
        rw [hone]
        exact promoteFirst_one user id
      · exact ⟨_, .countLater id hone, promoteFirst_ne_one hone⟩
  | promoting id =>
      cases h
      by_cases hschema : AccountSchema (db.insertUserRole id roleIdAdmin)
      · have hexec : (AccountStmt.insertUserRole id roleIdAdmin).exec db =
            (.ok 1, ⟨db.insertUserRole id roleIdAdmin, hschema⟩) :=
          Accounts.write_ok (·.insertUserRole id roleIdAdmin) hschema _
        rw [hexec]
        exact ⟨_, .promote id hschema, rfl⟩
      · have hexec : (AccountStmt.insertUserRole id roleIdAdmin).exec db = (.error .constraint, db) :=
          Accounts.write_refused (·.insertUserRole id roleIdAdmin) hschema _
        rw [hexec]
        exact ⟨_, .refuse id hschema, rfl⟩
  | finished r => cases h

/-- **What a turn of the pool does.** Nothing, or it moves one signup on. -/
theorem signup_turn {callers : List User} {phases : List SignupPhase}
    {P : Pool AccountStmt AccountStmt.Answer Error Int Accounts} (hprocs : P.procs = callsAt callers phases)
    (i : Nat) :
    Pool.step AccountStmt.exec P i = P ∨
    ∃ user phase phase' db', callers[i]? = some user ∧ phases[i]? = some phase ∧
      SignupTurn user P.state phase phase' db' ∧ (Pool.step AccountStmt.exec P i).state = db' ∧
      (Pool.step AccountStmt.exec P i).procs = callsAt callers (phases.set i phase') := by
  rcases Pool.step_cases P i with hstep | ⟨s, k, hproc, hstep⟩
  · exact .inl hstep
  · right
    rw [hprocs] at hproc
    obtain ⟨user, phase, huser, hphase, hcall⟩ := List.getElem?_zipWith_eq_some.mp hproc
    obtain ⟨phase', hturn, hnext⟩ := SignupPhase.turn hcall P.state
    refine ⟨user, phase, phase', _, huser, hphase, hturn, by rw [hstep], ?_⟩
    rw [hstep]
    show P.procs.set i _ = _
    rw [hprocs, hnext, callsAt_set huser]

/-! ## The invariants -/

/-- A signup that does not matter to who becomes administrator any more, or not yet. -/
structure SignupPhase.Settled (db : Accounts) (phase : SignupPhase) : Prop where
  promoting : ∀ id, phase ≠ .promoting id
  counting : ∀ id, phase = .counting id → 2 ≤ db.users.length

/-- The states from which exactly one administrator comes out. -/
inductive OneComes (db : Accounts) (phases : List SignupPhase) : Prop where
  | empty (husers : db.users = [])
      (hphases : ∀ (j : Nat) (phase : SignupPhase), phases[j]? = some phase → phase = .inserting)
  | counting (i : Nat) (row : UserDbo) (hi : phases[i]? = some (SignupPhase.counting row.id))
      (husers : db.users = [row]) (hroles : db.usersRoles = [])
      (hothers : ∀ j : Nat, j ≠ i → ∀ phase : SignupPhase, phases[j]? = some phase → phase = .inserting)
  | promoting (i : Nat) (row : UserDbo) (hi : phases[i]? = some (SignupPhase.promoting row.id))
      (hrow : row ∈ db.users) (hroles : db.usersRoles = [])
      (hothers : ∀ j : Nat, j ≠ i → ∀ phase : SignupPhase, phases[j]? = some phase → phase.Settled db)
  | promoted (row : UserDbo) (hrow : row ∈ db.users) (hroles : db.usersRoles = [⟨row.id, roleIdAdmin⟩])
      (hphases : ∀ (j : Nat) (phase : SignupPhase), phases[j]? = some phase → phase.Settled db)

/-- The states from which no administrator comes out any more. -/
structure NoneComes (db : Accounts) (phases : List SignupPhase) : Prop where
  users : 2 ≤ db.users.length
  roles : db.usersRoles = []
  phases : ∀ (j : Nat) (phase : SignupPhase), phases[j]? = some phase → ∀ id, phase ≠ .promoting id

/-- The signup that takes the turn does not overtake the count of the first one. -/
def NoOvertaking (db : Accounts) (phases : List SignupPhase) (phase : SignupPhase) : Prop :=
  phase = .inserting → db.users.length = 1 → ∀ (j : Nat) (id : Int), phases[j]? ≠ some (SignupPhase.counting id)

/-- After a signup has moved, a property holds of every place if it holds of the new one and of those of the
    others. -/
theorem forall_phase_set {phases : List SignupPhase} {i : Nat} {phase' : SignupPhase}
    {Q : Nat → SignupPhase → Prop} (hself : Q i phase')
    (hothers : ∀ j : Nat, j ≠ i → ∀ phase, phases[j]? = some phase → Q j phase) :
    ∀ (j : Nat) (phase : SignupPhase), (phases.set i phase')[j]? = some phase → Q j phase := by
  intro j phase h
  by_cases hj : i = j
  · subst hj
    by_cases hlt : i < phases.length
    · rw [List.getElem?_set_self hlt] at h
      cases h
      exact hself
    · rw [List.getElem?_eq_none (by simpa using hlt)] at h
      cases h
  · rw [List.getElem?_set_ne hj] at h
    exact hothers j (fun he => hj he.symm) phase h

theorem phase_set_self {phases : List SignupPhase} {i : Nat} {phase phase' : SignupPhase}
    (h : phases[i]? = some phase) : (phases.set i phase')[i]? = some phase' :=
  List.getElem?_set_self (List.getElem?_eq_some_iff.mp h).1

/-- The other signups stay where they are. -/
theorem others_phase_set {phases : List SignupPhase} {i : Nat} {phase' : SignupPhase} {Q : SignupPhase → Prop}
    (h : ∀ j : Nat, j ≠ i → ∀ phase, phases[j]? = some phase → Q phase) :
    ∀ j : Nat, j ≠ i → ∀ phase, (phases.set i phase')[j]? = some phase → Q phase := by
  intro j hj phase hphase
  rw [List.getElem?_set_ne hj.symm] at hphase
  exact h j hj phase hphase

/-- A signup stays settled as users are added. -/
theorem SignupPhase.Settled.mono {db db' : Accounts} {phase : SignupPhase} (h : phase.Settled db)
    (hle : db.users.length ≤ db'.users.length) : phase.Settled db' :=
  ⟨h.promoting, fun id hid => Nat.le_trans (h.counting id hid) hle⟩

theorem settled_finished (db : Accounts) (r : Except Error Int) : (SignupPhase.finished r).Settled db :=
  ⟨fun _ h => (SignupPhase.noConfusion h), fun _ h => (SignupPhase.noConfusion h)⟩

theorem settled_inserting (db : Accounts) : SignupPhase.inserting.Settled db :=
  ⟨fun _ h => (SignupPhase.noConfusion h), fun _ h => (SignupPhase.noConfusion h)⟩

theorem settled_counting {db : Accounts} (h : 2 ≤ db.users.length) (id : Int) :
    (SignupPhase.counting id).Settled db :=
  ⟨fun _ h => (SignupPhase.noConfusion h), fun _ _ => h⟩

/-- A turn never shortens the table of users. -/
theorem SignupTurn.users_le {user : User} {db db' : Accounts} {phase phase' : SignupPhase}
    (h : SignupTurn user db phase phase' db') : db.users.length ≤ db'.users.length := by
  cases h with
  | insert h =>
      show db.users.length ≤ (db.users ++ [_]).length
      simp
  | _ => exact Nat.le_refl _

/-- A turn does not touch the roles. -/
theorem SignupTurn.roles_eq {user : User} {db db' : Accounts} {phase phase' : SignupPhase}
    (h : SignupTurn user db phase phase' db') : db'.roles = db.roles := by
  cases h <;> rfl

theorem length_withUser (db : Accounts) (user : User) :
    (db.withUser user).users.length = db.users.length + 1 := by
  show (db.users ++ [_]).length = _
  simp

/-- **A settled signup takes a turn**, with at least one user stored: it stays settled, and nobody becomes
    administrator by it. -/
theorem SignupTurn.settled {user : User} {db db' : Accounts} {phase phase' : SignupPhase}
    (h : SignupTurn user db phase phase' db') (hphase : phase.Settled db) (husers : 1 ≤ db.users.length) :
    phase'.Settled db' ∧ db'.usersRoles = db.usersRoles ∧ ∀ row ∈ db.users, row ∈ db'.users := by
  cases h with
  | insert h =>
      refine ⟨settled_counting ?_ _, rfl, fun row hrow => List.mem_append_left _ hrow⟩
      show 2 ≤ (db.withUser user).users.length
      rw [length_withUser]
      omega
  | taken h => exact ⟨settled_finished _ _, rfl, fun _ hrow => hrow⟩
  | countFirst id hone =>
      have hle := hphase.counting id rfl
      omega
  | countLater id hne => exact ⟨settled_finished _ _, rfl, fun _ hrow => hrow⟩
  | promote id h => exact absurd rfl (hphase.promoting id)
  | refuse id h => exact absurd rfl (hphase.promoting id)

section

variable {db db' : Accounts} {phases : List SignupPhase} {user : User} {phase phase' : SignupPhase} {i : Nat}

/-- A turn that overtakes nobody keeps an administrator coming. -/
theorem OneComes.turn (h : OneComes db phases) (hturn : SignupTurn user db phase phase' db')
    (hphase : phases[i]? = some phase) (hrole : roleIdAdmin ∈ db.roles.map (·.id))
    (hname : phase = .inserting → AccountSchema (db.withUser user)) (hok : NoOvertaking db phases phase) :
    OneComes db' (phases.set i phase') := by
  cases h with
  | empty husers hphases =>
      cases hphases i phase hphase
      cases hturn with
      | taken hrefused => exact absurd (hname rfl) hrefused
      | insert hschema =>
          -- the first user is stored
          have husers' : (db.withUser user).users =
              [⟨db.userSeq + 1, user.username, user.password, user.salt, 0⟩] := by
            show db.users ++ [_] = _
            rw [husers]
            rfl
          have hroles : db.usersRoles = [] := Accounts.usersRoles_of_users husers
          refine .counting i _ (phase_set_self hphase) husers' hroles ?_
          exact others_phase_set fun j _ => hphases j
  | counting i₀ row hi husers hroles hothers =>
      have hone : db.users.length = 1 := by rw [husers]; rfl
      by_cases hi₀ : i = i₀
      · subst hi₀
        rw [hi] at hphase
        cases hphase
        cases hturn with
        | countLater id hne => exact absurd hone hne
        | countFirst id _ =>
            refine .promoting i row (phase_set_self hi) (by simp [husers]) hroles (others_phase_set ?_)
            intro j hj ph hph
            rw [hothers j hj ph hph]
            exact settled_inserting db
      · -- another signup would overtake the count
        cases hothers i hi₀ phase hphase
        exact absurd hi (hok rfl hone i₀ row.id)
  | promoting i₀ row hi hrow hroles hothers =>
      have hpos : 1 ≤ db.users.length := List.length_pos_of_mem hrow
      by_cases hi₀ : i = i₀
      · subst hi₀
        rw [hi] at hphase
        cases hphase
        cases hturn with
        | refuse id hrefused =>
            have hmem : row.id ∈ db.users.map (·.id) := List.mem_map_of_mem hrow
            exact absurd ((db.schema.insertUserRole_iff row.id roleIdAdmin).mpr ⟨hmem, hrole⟩) hrefused
        | promote id hschema =>
            refine .promoted row hrow ?_ ?_
            · show db.usersRoles ++ [_] = _
              rw [hroles]
              rfl
            · exact forall_phase_set (settled_finished _ _) fun j hj ph hph =>
                (hothers j hj ph hph).mono (Nat.le_refl _)
      · obtain ⟨hsettled, hroles', hmem⟩ := hturn.settled (hothers i hi₀ phase hphase) hpos
        refine .promoting i₀ row ?_ (hmem row hrow) (hroles'.trans hroles) ?_
        · rw [List.getElem?_set_ne hi₀]
          exact hi
        · have hall : ∀ (j : Nat) (ph : SignupPhase), (phases.set i phase')[j]? = some ph →
              j ≠ i₀ → ph.Settled db' :=
            forall_phase_set (fun _ => hsettled) fun j _ ph hph hj => (hothers j hj ph hph).mono hturn.users_le
          exact fun j hj ph hph => hall j ph hph hj
  | promoted row hrow hroles hphases =>
      have hpos : 1 ≤ db.users.length := List.length_pos_of_mem hrow
      obtain ⟨hsettled, hroles', hmem⟩ := hturn.settled (hphases i phase hphase) hpos
      refine .promoted row (hmem row hrow) (hroles'.trans hroles) ?_
      exact forall_phase_set hsettled fun j _ ph hph => (hphases j ph hph).mono hturn.users_le

/-- A turn that overtakes the count of the first signup: no administrator comes any more. -/
theorem OneComes.overtaken (h : OneComes db phases) (hturn : SignupTurn user db phase phase' db')
    (hphase : phases[i]? = some phase) (hname : phase = .inserting → AccountSchema (db.withUser user))
    (hok : ¬ NoOvertaking db phases phase) : NoneComes db' (phases.set i phase') := by
  unfold NoOvertaking at hok
  push Not at hok
  obtain ⟨rfl, hone, i₀, id, hcounting⟩ := hok
  cases hturn with
  | taken hrefused => exact absurd (hname rfl) hrefused
  | insert hschema =>
      -- with one user stored and its signup about to count, all the others are to insert
      cases h with
      | empty husers hphases =>
          rw [husers] at hone
          cases hone
      | counting i₁ row hi husers hroles hothers =>
          refine ⟨?_, hroles, ?_⟩
          · show 2 ≤ (db.withUser user).users.length
            rw [length_withUser]
            omega
          · refine forall_phase_set (fun _ he => SignupPhase.noConfusion he) fun j _ ph hph promotedId => ?_
            by_cases hj : j = i₁
            · subst hj
              rw [hi] at hph
              cases hph
              exact fun he => SignupPhase.noConfusion he
            · rw [hothers j hj ph hph]
              exact fun he => SignupPhase.noConfusion he
      | promoting i₁ row hi hrow hroles hothers =>
          have hne : i₀ ≠ i₁ := by
            rintro rfl
            rw [hi] at hcounting
            cases hcounting
          have hle := (hothers i₀ hne _ hcounting).counting id rfl
          omega
      | promoted row hrow hroles hphases =>
          have hle := (hphases i₀ _ hcounting).counting id rfl
          omega

theorem NoneComes.turn (h : NoneComes db phases) (hturn : SignupTurn user db phase phase' db')
    (hphase : phases[i]? = some phase) : NoneComes db' (phases.set i phase') := by
  have hsettled : phase.Settled db := ⟨h.phases i phase hphase, fun _ _ => h.users⟩
  obtain ⟨hsettled', hroles, _⟩ := hturn.settled hsettled (by have := h.users; omega)
  refine ⟨Nat.le_trans h.users hturn.users_le, hroles.trans h.roles, ?_⟩
  exact forall_phase_set hsettled'.promoting fun j _ => h.phases j

end

/-! ## Names -/

/-- Every stored name is that of a signup that has stored its user. -/
def NamesTaken (callers : List User) (phases : List SignupPhase) (db : Accounts) : Prop :=
  ∀ row ∈ db.users, ∃ (j : Nat) (user : User), callers[j]? = some user ∧ user.username = row.username ∧
    phases[j]? ≠ some SignupPhase.inserting

section

variable {callers : List User} {phases : List SignupPhase} {db db' : Accounts} {user : User}
variable {phase phase' : SignupPhase} {i : Nat}

/-- Under different names, no signup finds its name taken. -/
theorem NamesTaken.free (h : NamesTaken callers phases db) (hnames : (callers.map (·.username)).Nodup)
    (huser : callers[i]? = some user) (hphase : phases[i]? = some phase) (hinserting : phase = .inserting) :
    AccountSchema (db.withUser user) := by
  refine (db.schema.insertUser_iff user.username user.password user.salt).mpr fun hmem => ?_
  obtain ⟨row, hrow, hname⟩ := List.mem_map.mp hmem
  obtain ⟨j, other, hother, hsame, hpassed⟩ := h row hrow
  -- two callers of one name are the same caller
  have hi : (callers.map (·.username))[i]? = some user.username := by simp [huser]
  have hj : (callers.map (·.username))[j]? = some user.username := by simp [hother, hsame, hname]
  have hlt : i < (callers.map (·.username)).length := (List.getElem?_eq_some_iff.mp hi).1
  have hij : i = j := (List.getElem?_inj hlt hnames).mp (hi.trans hj.symm)
  subst hij
  rw [hphase, hinserting] at hpassed
  exact hpassed rfl

theorem NamesTaken.turn (h : NamesTaken callers phases db) (huser : callers[i]? = some user)
    (hphase : phases[i]? = some phase) (hturn : SignupTurn user db phase phase' db') :
    NamesTaken callers (phases.set i phase') db' := by
  have hmoved : phase' ≠ .inserting := by
    cases hturn <;> exact fun he => SignupPhase.noConfusion he
  have hself : (phases.set i phase')[i]? ≠ some SignupPhase.inserting := by
    rw [phase_set_self hphase]
    exact fun he => hmoved (Option.some.inj he)
  have hold : ∀ row ∈ db.users, ∃ (j : Nat) (other : User), callers[j]? = some other ∧
      other.username = row.username ∧ (phases.set i phase')[j]? ≠ some SignupPhase.inserting := by
    intro row hrow
    obtain ⟨j, other, hother, hname, hpassed⟩ := h row hrow
    refine ⟨j, other, hother, hname, ?_⟩
    by_cases hj : i = j
    · exact hj ▸ hself
    · rw [List.getElem?_set_ne hj]
      exact hpassed
  cases hturn with
  | insert hschema => exact forall_mem_append hold ⟨i, user, huser, rfl, hself⟩
  | _ => exact hold

end

/-! ## The pool -/

/-- What holds of the pool beside who becomes administrator. -/
structure SignupsAt (db₀ : Accounts) (callers : List User) (phases : List SignupPhase)
    (P : Pool AccountStmt AccountStmt.Answer Error Int Accounts) : Prop where
  count : phases.length = callers.length
  procs : P.procs = callsAt callers phases
  names : NamesTaken callers phases P.state
  roles : P.state.roles = db₀.roles

/-- One administrator is to come out of the pool. -/
def OneComesOf (db₀ : Accounts) (callers : List User)
    (P : Pool AccountStmt AccountStmt.Answer Error Int Accounts) : Prop :=
  ∃ phases, SignupsAt db₀ callers phases P ∧ OneComes P.state phases

/-- No administrator is to come out of the pool. -/
def NoneComesOf (db₀ : Accounts) (callers : List User)
    (P : Pool AccountStmt AccountStmt.Answer Error Int Accounts) : Prop :=
  ∃ phases, SignupsAt db₀ callers phases P ∧ NoneComes P.state phases

theorem next?_call {user : User} {phase : SignupPhase} :
    (phase.call user).next? = some .countUsers ↔ ∃ id, phase = .counting id := by
  cases phase with
  | inserting =>
      unfold SignupPhase.call
      rw [insert_eq]
      simp [Prog.next?]
  | counting id => simp [SignupPhase.call, Prog.next?]
  | promoting id => simp [SignupPhase.call, Prog.next?]
  | finished r => simp [SignupPhase.call, Prog.next?]

section

variable {db₀ : Accounts} {callers : List User}
variable {P : Pool AccountStmt AccountStmt.Answer Error Int Accounts} {i : Nat}

/-- The condition on the pool, said of the places of the signups. -/
theorem firstHasCounted_iff {phases : List SignupPhase} (h : SignupsAt db₀ callers phases P) {user : User}
    {phase : SignupPhase} (huser : callers[i]? = some user) (hphase : phases[i]? = some phase) :
    FirstHasCounted P i ↔ NoOvertaking P.state phases phase := by
  have hproc : P.procs[i]? = some (phase.call user) := by
    rw [h.procs]
    exact List.getElem?_zipWith_eq_some.mpr ⟨user, phase, huser, hphase, rfl⟩
  have hcounting : (∃ p ∈ P.procs, p.next? = some .countUsers) ↔
      ∃ (j : Nat) (id : Int), phases[j]? = some (SignupPhase.counting id) := by
    constructor
    · rintro ⟨p, hp, hnext⟩
      obtain ⟨j, hj⟩ := List.getElem?_of_mem hp
      rw [h.procs] at hj
      obtain ⟨other, place, _, hplace, rfl⟩ := List.getElem?_zipWith_eq_some.mp hj
      obtain ⟨id, rfl⟩ := next?_call.mp hnext
      exact ⟨j, id, hplace⟩
    · rintro ⟨j, id, hj⟩
      have hlt : j < callers.length := h.count ▸ (List.getElem?_eq_some_iff.mp hj).1
      refine ⟨(SignupPhase.counting id).call callers[j], ?_, next?_call.mpr ⟨id, rfl⟩⟩
      rw [h.procs]
      exact List.mem_of_getElem? (List.getElem?_zipWith_eq_some.mpr
        ⟨callers[j], .counting id, List.getElem?_eq_getElem hlt, hj, rfl⟩)
  unfold FirstHasCounted firstHasCounted NoOvertaking
  rw [hproc]
  cases phase with
  | inserting =>
      have hany : (P.procs.any fun p => p.next? == some .countUsers) = true ↔
          ∃ (j : Nat) (id : Int), phases[j]? = some (SignupPhase.counting id) := by
        rw [← hcounting, List.any_eq_true]
        simp only [beq_iff_eq]
      unfold SignupPhase.call
      rw [insert_eq]
      simp only [Bool.not_eq_true', Bool.and_eq_false_imp, beq_iff_eq, forall_const]
      constructor
      · intro h hone j id hj
        have hnone := h hone
        rw [hany.mpr ⟨j, id, hj⟩] at hnone
        cases hnone
      · intro h hone
        rw [Bool.eq_false_iff]
        intro hsome
        obtain ⟨j, id, hj⟩ := hany.mp hsome
        exact h hone j id hj
  | counting id => simp [SignupPhase.call]
  | promoting id => simp [SignupPhase.call]
  | finished r => simp [SignupPhase.call]

theorem SignupsAt.turn {phases : List SignupPhase} (h : SignupsAt db₀ callers phases P) {user : User}
    {phase phase' : SignupPhase} {P' : Pool AccountStmt AccountStmt.Answer Error Int Accounts}
    (huser : callers[i]? = some user) (hphase : phases[i]? = some phase)
    (hturn : SignupTurn user P.state phase phase' P'.state)
    (hprocs : P'.procs = callsAt callers (phases.set i phase')) :
    SignupsAt db₀ callers (phases.set i phase') P' where
  count := by rw [List.length_set]; exact h.count
  procs := hprocs
  names := h.names.turn huser hphase hturn
  roles := hturn.roles_eq.trans h.roles

/-- Without a turn, nobody overtakes the count. -/
theorem firstHasCounted_of_step_eq (h : Pool.step AccountStmt.exec P i = P) : FirstHasCounted P i := by
  unfold FirstHasCounted firstHasCounted
  split
  · next hproc =>
    -- a turn would be recorded
    rw [Pool.step_of_stmt hproc] at h
    have htrace := congrArg (fun P => P.trace.length) h
    simp at htrace
  · rfl

variable (hnames : (callers.map (·.username)).Nodup) (hrole : roleIdAdmin ∈ db₀.roles.map (·.id))

include hnames hrole in
theorem oneComes_step (h : OneComesOf db₀ callers P) (hok : FirstHasCounted P i) :
    OneComesOf db₀ callers (Pool.step AccountStmt.exec P i) := by
  obtain ⟨phases, hat, hone⟩ := h
  rcases signup_turn hat.procs i with hstep | ⟨user, phase, phase', db', huser, hphase, hturn, rfl, hprocs⟩
  · rw [hstep]
    exact ⟨phases, hat, hone⟩
  · refine ⟨phases.set i phase', hat.turn huser hphase hturn hprocs, ?_⟩
    exact hone.turn hturn hphase (by rw [hat.roles]; exact hrole) (hat.names.free hnames huser hphase)
      ((firstHasCounted_iff hat huser hphase).mp hok)

include hnames in
theorem oneComes_fall (h : OneComesOf db₀ callers P) (hok : ¬ FirstHasCounted P i) :
    NoneComesOf db₀ callers (Pool.step AccountStmt.exec P i) := by
  obtain ⟨phases, hat, hone⟩ := h
  rcases signup_turn hat.procs i with hstep | ⟨user, phase, phase', db', huser, hphase, hturn, rfl, hprocs⟩
  · exact absurd (firstHasCounted_of_step_eq hstep) hok
  · refine ⟨phases.set i phase', hat.turn huser hphase hturn hprocs, ?_⟩
    exact hone.overtaken hturn hphase (hat.names.free hnames huser hphase)
      fun h => hok ((firstHasCounted_iff hat huser hphase).mpr h)

theorem noneComes_step (h : NoneComesOf db₀ callers P) :
    NoneComesOf db₀ callers (Pool.step AccountStmt.exec P i) := by
  obtain ⟨phases, hat, hnone⟩ := h
  rcases signup_turn hat.procs i with hstep | ⟨user, phase, phase', db', huser, hphase, hturn, rfl, hprocs⟩
  · rw [hstep]
    exact ⟨phases, hat, hnone⟩
  · exact ⟨phases.set i phase', hat.turn huser hphase hturn hprocs, hnone.turn hturn hphase⟩

end

/-! ## The outcome -/

/-- After the signups have finished, one administrator that was to come has come. -/
theorem OneComes.oneAdmin {db : Accounts} {phases : List SignupPhase} (h : OneComes db phases)
    (hne : phases ≠ []) (hfinished : ∀ (j : Nat) (phase : SignupPhase), phases[j]? = some phase →
      ∃ r, phase = .finished r) : OneAdmin db := by
  cases h with
  | empty husers hphases =>
      obtain ⟨phase, rest, rfl⟩ := List.exists_cons_of_ne_nil hne
      obtain ⟨r, hr⟩ := hfinished 0 phase rfl
      rw [hphases 0 phase rfl] at hr
      cases hr
  | counting i row hi husers hroles hothers =>
      obtain ⟨r, hr⟩ := hfinished i _ hi
      cases hr
  | promoting i row hi hrow hroles hothers =>
      obtain ⟨r, hr⟩ := hfinished i _ hi
      cases hr
  | promoted row hrow hroles hphases =>
      have hholds (id : Int) : db.Holds id roleIdAdmin ↔ id = row.id := by
        unfold AccountTables.Holds
        rw [hroles]
        simp
      refine ⟨row, ⟨hrow, (hholds row.id).mpr rfl⟩, ?_⟩
      rintro other ⟨hother, hadmin⟩
      exact List.inj_on_of_nodup_map db.schema.userIds hother hrow ((hholds other.id).mp hadmin)

/-- Without the role, or without an assignment, there is no administrator. -/
theorem not_oneAdmin {db : Accounts} (h : ∀ id, ¬ db.Holds id roleIdAdmin) : ¬ OneAdmin db := by
  rintro ⟨user, ⟨_, hadmin⟩, _⟩
  exact h user.id hadmin

/-- The signups as they are started are all to insert. -/
theorem callsAt_start (callers : List User) :
    callers.map UserService.insert = callsAt callers (List.replicate callers.length .inserting) := by
  unfold callsAt
  induction callers with
  | nil => rfl
  | cons user callers ih => exact congrArg (UserService.insert user :: ·) ih

/-- A signup of the pool that has finished is at its end. -/
theorem SignupsAt.finished {db₀ : Accounts} {callers : List User} {phases : List SignupPhase}
    {P : Pool AccountStmt AccountStmt.Answer Error Int Accounts} (h : SignupsAt db₀ callers phases P)
    (hfinished : P.Finished) (j : Nat) (phase : SignupPhase) (hj : phases[j]? = some phase) :
    ∃ r, phase = .finished r := by
  have hlt : j < callers.length := h.count ▸ (List.getElem?_eq_some_iff.mp hj).1
  have hmem : phase.call callers[j] ∈ P.procs := by
    rw [h.procs]
    exact List.mem_of_getElem? (List.getElem?_zipWith_eq_some.mpr
      ⟨callers[j], phase, List.getElem?_eq_getElem hlt, hj, rfl⟩)
  have hdone := hfinished _ hmem
  cases phase with
  | finished r => exact ⟨r, rfl⟩
  | inserting =>
      unfold SignupPhase.call at hdone
      rw [insert_eq] at hdone
      cases hdone
  | counting id => cases hdone
  | promoting id => cases hdone

section

variable {db : Accounts} (hempty : db.users = []) (callers : List User)

include hempty in
theorem signupsAt_start :
    SignupsAt db callers (List.replicate callers.length .inserting) (signupPool db callers) where
  count := List.length_replicate
  procs := callsAt_start callers
  names := by
    intro row hrow
    rw [show (signupPool db callers).state.users = [] from hempty] at hrow
    cases hrow
  roles := rfl

include hempty in
theorem oneComes_start : OneComesOf db callers (signupPool db callers) := by
  refine ⟨_, signupsAt_start hempty callers, .empty hempty ?_⟩
  intro j phase hj
  exact List.eq_of_mem_replicate (List.mem_of_getElem? hj)

include hempty in
/-- No interleaving touches the roles. -/
theorem roles_run (sched : List Nat) :
    (Pool.run AccountStmt.exec (signupPool db callers) sched).state.roles = db.roles := by
  have hat : ∃ phases, SignupsAt db callers phases
      (Pool.run AccountStmt.exec (signupPool db callers) sched) := by
    refine List.foldlRecOn (motive := fun P => ∃ phases, SignupsAt db callers phases P) sched _
      ⟨_, signupsAt_start hempty callers⟩ ?_
    rintro P ⟨phases, hat⟩ i _
    rcases signup_turn hat.procs i with hstep | ⟨user, phase, phase', db', huser, hphase, hturn, rfl, hprocs⟩
    · rw [hstep]
      exact ⟨phases, hat⟩
    · exact ⟨_, hat.turn huser hphase hturn hprocs⟩
  obtain ⟨phases, hat⟩ := hat
  exact hat.roles

end

/-- Without a role, nobody holds it. -/
theorem Accounts.not_holds_of_no_role {db : Accounts} {roleId : Int} (h : roleId ∉ db.roles.map (·.id)) (id : Int) :
    ¬ db.Holds id roleId := fun hholds => h (db.schema.roleRef _ hholds)

/-- **The first user.** Signups under different names, on a table without users: after all of them have
    finished, exactly one user is administrator if and only if the role of administrators exists and no
    second user was stored before the first signup had counted. -/
theorem bootstrap_iff {db : Accounts} (hempty : db.users = []) {callers : List User} (hcallers : callers ≠ [])
    (hnames : (callers.map (·.username)).Nodup) (sched : List Nat)
    (hfinished : (Pool.run AccountStmt.exec (signupPool db callers) sched).Finished) :
    OneAdmin (Pool.run AccountStmt.exec (signupPool db callers) sched).state ↔
      roleIdAdmin ∈ db.roles.map (·.id) ∧
        Pool.Along AccountStmt.exec FirstHasCounted (signupPool db callers) sched := by
  by_cases hrole : roleIdAdmin ∈ db.roles.map (·.id)
  · rcases foldl_good_or_trapped (fun _ _ => oneComes_step hnames hrole) (fun _ _ => oneComes_fall hnames)
      (fun _ _ => noneComes_step) sched _ (oneComes_start hempty callers) with
      ⟨halong, phases, hat, hone⟩ | ⟨halong, phases, hat, hnone⟩
    · have hne : phases ≠ [] := by
        rintro rfl
        exact hcallers (List.length_eq_zero_iff.mp hat.count.symm)
      exact iff_of_true (hone.oneAdmin hne (hat.finished hfinished)) ⟨hrole, halong⟩
    · refine iff_of_false (not_oneAdmin fun id hadmin => ?_) fun h => halong h.2
      have hmem : (⟨id, roleIdAdmin⟩ : UserRole) ∈ ([] : List UserRole) := hnone.roles ▸ hadmin
      cases hmem
  · refine iff_of_false (not_oneAdmin (Accounts.not_holds_of_no_role ?_)) fun h => hrole h.1
    rw [roles_run hempty callers sched]
    exact hrole

/-- Two users who sign up under different names. -/
def twoCallers : List User := [signupUser "alice", signupUser "bob"]

set_option maxRecDepth 20000 in
/-- Both are stored before either counts: both count two users, and nobody becomes administrator. -/
theorem two_signups_no_admin :
    (twoCallers.map (·.username)).Nodup ∧
    (Pool.run AccountStmt.exec (signupPool Accounts.migrated twoCallers) [0, 1, 0, 1]).Finished ∧
    ¬ OneAdmin (Pool.run AccountStmt.exec (signupPool Accounts.migrated twoCallers) [0, 1, 0, 1]).state := by
  refine ⟨by decide, by decide, not_oneAdmin fun id hadmin => ?_⟩
  have hmem : (⟨id, roleIdAdmin⟩ : UserRole) ∈ ([] : List UserRole) := hadmin
  cases hmem

set_option maxRecDepth 20000 in
/-- One after the other, the first becomes administrator. -/
theorem serial_signups_one_admin :
    OneAdmin (Pool.run AccountStmt.exec (signupPool Accounts.migrated twoCallers) [0, 0, 0, 1, 1]).state :=
  (bootstrap_iff (by rfl) (by decide) (by decide) [0, 0, 0, 1, 1] (by decide)).mpr ⟨by decide, by decide⟩

end MudController
