import MudController.Logic.Progress
import MudController.Logic.ReadThrough
import MudController.Services.CertResolver

/-!
# `Certificates` — which certificate a handshake is served

`CertResolver` and `update_certs` are the readers and the writers of a cache in front of the disk
(`Logic.ReadThrough`); a poisoned lock is a cache that is empty for good. So after `update_certs` has returned, no
handshake is served the certificate that it has replaced, whatever else was going on at the time
(`certificate_fresh`). Nor does anybody wait for ever: in every round somebody who is not through gets further
(`certificate_calls_end`).
-/

namespace MudController

open Logic ReadThrough

section

variable [TlsCrate]

/-! ## The view of the cache -/

def Resolve.phase : Resolve → Phase CertifiedKey
  | .check | .load => .inside
  | .loaded c =>
    match c.certifiedKey with
    | some cert => .loaded cert
    | none => .inside
  | _ => .outside

def UpdateCerts.phase : UpdateCerts → Phase CertifiedKey
  | .saved => .stored
  | _ => .outside

def CertCall.phase : CertCall → Phase CertifiedKey
  | .resolve _ stage => stage.phase
  | .updateCerts _ stage => stage.phase

/-- The call holds the guard. -/
def CertCall.Inside : CertCall → Prop
  | .resolve _ .check | .resolve _ .load | .resolve _ (.loaded _) => True
  | _ => False

/-- What a handshake that is over was served. -/
def CertCall.answer : CertCall → Option CertifiedKey
  | .resolve _ (.returned answer) => answer
  | _ => none

/-- What a certificate on disk is served as. -/
def certifiedKeyOf (persisted : Option Certificate) : Option CertifiedKey := persisted.bind Certificate.certifiedKey

/-- What is cached, as far as it can be got at. -/
def CertWorld.cached (w : CertWorld) : Option CertifiedKey :=
  if w.acmeCertifiedKey.state = .poisoned then none else w.acmeCertifiedKey.value

def CertState.view (s : CertState) : ReadThrough.State (Option Certificate) CertifiedKey where
  store := s.world.persisted
  cache := s.world.cached
  parties := s.calls.map CertCall.phase

/-- The lock is held by the call that is inside. -/
def CertState.Locked (s : CertState) : Prop :=
  ∀ i, s.world.acmeCertifiedKey.state = .writer i ↔ ∃ c, s.calls[i]? = some c ∧ c.Inside

/-! ## What a turn does -/

/-- The state after a turn of the call `i`. -/
def CertState.next (s : CertState) (i : Nat) (world : CertWorld) (call : CertCall) : CertState :=
  ⟨world, s.calls.set i call⟩

/-- **What a turn can do.** Either nothing, or the call `i` takes its step. -/
theorem CertState.step_cases (s : CertState) (i : Nat) :
    (s.step i = s ∧ ∀ c, s.calls[i]? = some c → c.step i s.world = none) ∨
    ∃ c world call, s.calls[i]? = some c ∧ c.step i s.world = some (world, call) ∧
      s.step i = s.next i world call := by
  unfold CertState.step
  cases hc : s.calls[i]? with
  | none => exact .inl ⟨by simp, by simp⟩
  | some c =>
      cases hstep : c.step i s.world with
      | none => exact .inl ⟨by simp [hstep], by simpa using hstep⟩
      | some next => exact .inr ⟨c, next.1, next.2, rfl, by simp [hstep], by simp [hstep, CertState.next]⟩

theorem CertState.view_next (s : CertState) (i : Nat) (world : CertWorld) (call : CertCall) :
    (s.next i world call).view =
      { s.view.move i call.phase with store := world.persisted, cache := world.cached } := by
  simp [CertState.view, CertState.next, ReadThrough.State.move, List.map_set]

/-- A turn that leaves the disk and what is cached as they are. -/
theorem CertState.view_next_kept (s : CertState) (i : Nat) (world : CertWorld) (call : CertCall)
    (hpersisted : world.persisted = s.world.persisted) (hcached : world.cached = s.world.cached) :
    (s.next i world call).view = s.view.move i call.phase := by
  rw [view_next, hpersisted, hcached]
  rfl

theorem CertState.view_party {s : CertState} {i : Nat} {c : CertCall} (h : s.calls[i]? = some c) :
    s.view.parties[i]? = some c.phase := by
  simp [CertState.view, h]

/-- What a turn of a handshake does. -/
inductive ResolveTurn (i : Nat) (w : CertWorld) : Resolve → CertWorld → Resolve → Prop where
  | hit {cert : CertifiedKey} (hlock : w.acmeCertifiedKey.state = .free)
      (hcert : w.acmeCertifiedKey.value = some cert) : ResolveTurn i w .read w (.returned (some cert))
  | miss : ResolveTurn i w .read w .write
  | refused : ResolveTurn i w .write w (.returned none)
  | enter (hlock : w.acmeCertifiedKey.state = .free) : ResolveTurn i w .write (w.setLock (.writer i)) .check
  | hitInside {cert : CertifiedKey} (hcert : w.acmeCertifiedKey.value = some cert) :
      ResolveTurn i w .check (w.setLock .free) (.returned (some cert))
  | missInside : ResolveTurn i w .check w .load
  | load {c : Certificate} (hc : w.persisted = some c) : ResolveTurn i w .load w (.loaded c)
  | notThere : ResolveTurn i w .load (w.setLock .free) (.returned none)
  | panic : ResolveTurn i w .load (w.setLock .poisoned) .panicked
  | fill {c : Certificate} {cert : CertifiedKey} (hcert : c.certifiedKey = some cert) :
      ResolveTurn i w (.loaded c) (w.store (some cert)) (.returned (some cert))
  | unsupported {c : Certificate} (hcert : c.certifiedKey = none) :
      ResolveTurn i w (.loaded c) (w.setLock .free) (.returned none)

/-- What a turn of a run of `update_certs` does. -/
inductive UpdateTurn (renewal : Renewal) (w : CertWorld) : UpdateCerts → CertWorld → UpdateCerts → Prop where
  | dirs (ok : Bool) : UpdateTurn renewal w .start w (if ok then .check else .returned false)
  | panic : UpdateTurn renewal w .check w .panicked
  | valid : UpdateTurn renewal w .check w (.returned true)
  | outdated : UpdateTurn renewal w .check w .order
  | failed : UpdateTurn renewal w .order w (.returned false)
  | save {c : Certificate} (hordered : renewal.ordered = some c) :
      UpdateTurn renewal w .order { w with persisted := some c } .saved
  | clear (hlock : w.acmeCertifiedKey.state = .free) : UpdateTurn renewal w .saved (w.store none) (.returned true)
  | skip (hlock : w.acmeCertifiedKey.state = .poisoned) : UpdateTurn renewal w .saved w (.returned true)

omit [TlsCrate] in
theorem RwLock.acquire_eq {α : Type} (lock : RwLock α) :
    (lock.acquire = .guard ↔ lock.state = .free) ∧ (lock.acquire = .poisonError ↔ lock.state = .poisoned) := by
  unfold RwLock.acquire
  cases lock.state <;> simp

theorem Resolve.turn {i : Nat} {account : AccountAnswer} {w world : CertWorld} {stage stage' : Resolve}
    (h : stage.step i account w = some (world, stage')) : ResolveTurn i w stage world stage' := by
  have hacquire := w.acmeCertifiedKey.acquire_eq
  unfold Resolve.step at h
  split at h
  · split at h
    · cases h
    · cases h
      exact .miss
    · next hguard =>
      split at h
      · next hcert =>
        cases h
        exact .hit (hacquire.1.mp hguard) hcert
      · cases h
        exact .miss
  · split at h
    · cases h
    · cases h
      exact .refused
    · next hguard =>
      cases h
      exact .enter (hacquire.1.mp hguard)
  · split at h
    · next hcert =>
      cases h
      exact .hitInside hcert
    · cases h
      exact .missInside
  · split at h
    · split at h
      · next hc =>
        cases h
        exact .load hc
      · cases h
        exact .notThere
    · cases h
      exact .notThere
    · cases h
      exact .panic
  · split at h
    · next hcert =>
      cases h
      exact .fill hcert
    · next hcert =>
      cases h
      exact .unsupported hcert
  · cases h
  · cases h

theorem UpdateCerts.turn {renewal : Renewal} {w world : CertWorld} {stage stage' : UpdateCerts}
    (h : stage.step renewal w = some (world, stage')) : UpdateTurn renewal w stage world stage' := by
  have hacquire := w.acmeCertifiedKey.acquire_eq
  unfold UpdateCerts.step at h
  split at h
  · cases h
    exact .dirs renewal.dirCreated
  · split at h
    · cases h
      exact .panic
    · cases h
      split
      · exact .valid
      · exact .outdated
    · cases h
      exact .outdated
    · cases h
      exact .outdated
  · split at h
    · cases h
      exact .failed
    · next hc =>
      cases h
      exact .save hc
  · split at h
    · cases h
    · next hpoisoned =>
      cases h
      exact .skip (hacquire.2.mp hpoisoned)
    · next hguard =>
      cases h
      exact .clear (hacquire.1.mp hguard)
  · cases h
  · cases h

/-- What a turn of a call does. -/
inductive CertTurn (i : Nat) (w : CertWorld) : CertCall → CertWorld → CertCall → Prop where
  | resolve {account : AccountAnswer} {stage stage' : Resolve} {world : CertWorld}
      (hturn : ResolveTurn i w stage world stage') :
      CertTurn i w (.resolve account stage) world (.resolve account stage')
  | updateCerts {renewal : Renewal} {stage stage' : UpdateCerts} {world : CertWorld}
      (hturn : UpdateTurn renewal w stage world stage') :
      CertTurn i w (.updateCerts renewal stage) world (.updateCerts renewal stage')

theorem CertCall.turn {i : Nat} {w world : CertWorld} {c call : CertCall} (h : c.step i w = some (world, call)) :
    CertTurn i w c world call := by
  cases c with
  | resolve account stage =>
      obtain ⟨⟨world', stage'⟩, hstep, heq⟩ := Option.map_eq_some_iff.mp h
      cases heq
      exact .resolve (Resolve.turn hstep)
  | updateCerts renewal stage =>
      obtain ⟨⟨world', stage'⟩, hstep, heq⟩ := Option.map_eq_some_iff.mp h
      cases heq
      exact .updateCerts (UpdateCerts.turn hstep)

/-! ## The lock -/

/-- How a turn takes and gives back the lock. -/
inductive LockTurn (i : Nat) : LockState → Prop → LockState → Prop → Prop where
  | same (state : LockState) (inside : Prop) : LockTurn i state inside state inside
  | enter : LockTurn i .free False (.writer i) True
  | leave (state : LockState) {state' : LockState} (hstate : state' = .free ∨ state' = .poisoned) :
      LockTurn i state True state' False

theorem CertTurn.lockTurn {i : Nat} {w world : CertWorld} {c call : CertCall} (h : CertTurn i w c world call) :
    LockTurn i w.acmeCertifiedKey.state c.Inside world.acmeCertifiedKey.state call.Inside := by
  cases h with
  | resolve hturn =>
      cases hturn with
      | hit | miss | refused => exact .same _ False
      | enter hlock =>
          rw [hlock]
          exact .enter
      | missInside | load => exact .same _ True
      | hitInside | notThere | fill | unsupported => exact .leave _ (.inl rfl)
      | panic => exact .leave _ (.inr rfl)
  | updateCerts hturn =>
      cases hturn with
      | dirs ok => cases ok <;> exact .same _ False
      | clear hlock =>
          rw [hlock]
          exact .same .free False
      | _ => exact .same _ False

omit [TlsCrate] in
/-- The lock is still held by who is inside. -/
theorem LockTurn.holder {i j : Nat} {state state' : LockState} {inside inside' within : Prop}
    (h : LockTurn i state inside state' inside') (hself : state = .writer i ↔ inside)
    (hother : i ≠ j → (state = .writer j ↔ within)) :
    (state' = .writer i ↔ inside') ∧ (i ≠ j → (state' = .writer j ↔ within)) := by
  cases h with
  | same => exact ⟨hself, hother⟩
  | enter =>
      refine ⟨by simp, ?_⟩
      intro hij
      simpa [hij] using hother hij
  | leave _ hstate =>
      have hheld : state = .writer i := hself.mpr trivial
      refine ⟨by rcases hstate with rfl | rfl <;> simp, ?_⟩
      intro hij
      have hwithin : ¬ within := by simpa [hheld, hij] using hother hij
      rcases hstate with rfl | rfl <;> simpa using hwithin

theorem CertState.Locked.step {s : CertState} (h : s.Locked) (i : Nat) : (s.step i).Locked := by
  rcases s.step_cases i with ⟨hsame, _⟩ | ⟨c, world, call, hc, hstep, hnext⟩
  · rwa [hsame]
  · rw [hnext]
    have hlt : i < s.calls.length := (List.getElem?_eq_some_iff.mp hc).1
    have hself : (s.next i world call).calls[i]? = some call := List.getElem?_set_self hlt
    have hother {j : Nat} (hij : i ≠ j) : (s.next i world call).calls[j]? = s.calls[j]? := List.getElem?_set_ne hij
    have hturn := (CertCall.turn hstep).lockTurn
    have hheld : s.world.acmeCertifiedKey.state = .writer i ↔ c.Inside := by simpa [hc] using h i
    intro j
    obtain ⟨hafter, hothers⟩ := hturn.holder hheld fun _ => h j
    by_cases hij : i = j
    · subst hij
      rw [hself]
      exact hafter.trans (by simp)
    · rw [hother hij]
      exact hothers hij

/-- Nobody is inside a lock that is not held. -/
theorem CertState.Locked.free {s : CertState} (h : s.Locked) (hfree : ∀ i, s.world.acmeCertifiedKey.state ≠ .writer i) :
    s.view.Free := by
  have hinside (i : Nat) (c : CertCall) (hc : s.calls[i]? = some c) : ¬ c.Inside :=
    fun hin => hfree i ((h i).mpr ⟨c, hc, hin⟩)
  have houtside (c : CertCall) (hc : ¬ c.Inside) : c.phase ≠ .inside ∧ ∀ k, c.phase ≠ .loaded k := by
    cases c with
    | resolve account stage =>
        cases stage with
        | check | load | loaded => exact absurd trivial hc
        | _ => simp [CertCall.phase, Resolve.phase]
    | updateCerts renewal stage => cases stage <;> simp [CertCall.phase, UpdateCerts.phase]
  intro i
  cases hc : s.calls[i]? with
  | none => simp [CertState.view, hc]
  | some c => simpa [CertState.view, hc] using houtside c (hinside i c hc)

/-! ## The cache -/

/-- A turn that leaves the world and the phase of its call as they are. -/
theorem CertState.view_next_same {s : CertState} {i : Nat} {c : CertCall} (hc : s.calls[i]? = some c) {call : CertCall}
    (hphase : call.phase = c.phase) : (s.next i s.world call).view = s.view := by
  rw [s.view_next_kept i s.world call rfl rfl, hphase]
  exact move_self (view_party hc)

/-- What is cached can be got at by the call that holds the lock. -/
theorem CertState.Locked.cached_inside {s : CertState} (h : s.Locked) {i : Nat} {c : CertCall}
    (hc : s.calls[i]? = some c) (hin : c.Inside) :
    s.world.cached = s.world.acmeCertifiedKey.value ∧ (s.world.setLock .free).cached = s.world.cached := by
  have hstate := (h i).mpr ⟨c, hc, hin⟩
  simp [CertWorld.cached, CertWorld.setLock, hstate]

/-- A turn of a handshake is a step of the cache. -/
theorem ResolveTurn.refines {s : CertState} (h : s.Locked) {i : Nat} {account : AccountAnswer} {stage stage' : Resolve}
    {world : CertWorld} (hc : s.calls[i]? = some (.resolve account stage))
    (hturn : ResolveTurn i s.world stage world stage') :
    Step certifiedKeyOf s.view (CertCall.answer (.resolve account stage'))
      (s.next i world (.resolve account stage')).view := by
  have hparty := CertState.view_party hc
  have hleave (hin : CertCall.Inside (.resolve account stage)) (call : CertCall) (hcall : call.phase = .outside) :
      (s.next i (s.world.setLock .free) call).view = s.view.move i .outside := by
    rw [s.view_next_kept i (s.world.setLock .free) call rfl (h.cached_inside hc hin).2, hcall]
  cases hturn with
  | @hit cert hlock hcert =>
      rw [CertState.view_next_same hc (by rfl)]
      have hcached : s.view.cache = some cert := by simp [CertState.view, CertWorld.cached, hlock, hcert]
      exact .hit hcached
  | miss | refused | missInside =>
      rw [CertState.view_next_same hc (by rfl)]
      exact .idle _
  | enter hlock =>
      have hcached : (s.world.setLock (.writer i)).cached = s.world.cached := by
        simp [CertWorld.cached, CertWorld.setLock, hlock]
      rw [s.view_next_kept i (s.world.setLock (.writer i)) _ rfl hcached]
      exact .enter hparty (h.free (by simp [hlock]))
  | @hitInside cert hcert =>
      have hcached : s.world.cached = some cert := (h.cached_inside hc trivial).1.trans hcert
      rw [hleave trivial _ (by rfl)]
      exact .hitInside hparty hcached
  | @load cert hpersisted =>
      have hload : certifiedKeyOf s.view.store = cert.certifiedKey := congrArg certifiedKeyOf hpersisted
      cases hcert : cert.certifiedKey with
      | some key =>
          have hphase : CertCall.phase (.resolve account (.loaded cert)) = .loaded key := by
            simp [CertCall.phase, Resolve.phase, hcert]
          rw [s.view_next_kept i s.world _ rfl rfl, hphase]
          exact .load hparty (hload.trans hcert)
      | none =>
          -- a key that is not supported is as good as none
          rw [CertState.view_next_same hc (by simp [CertCall.phase, Resolve.phase, hcert])]
          exact .idle _
  | notThere =>
      rw [hleave trivial _ (by rfl)]
      exact .leave hparty
  | panic =>
      rw [s.view_next]
      exact .evict hparty
  | @fill cert key hcert =>
      have hloaded : s.view.parties[i]? = some (.loaded key) := by
        simpa [CertCall.phase, Resolve.phase, hcert] using hparty
      rw [s.view_next]
      exact .fill hloaded
  | @unsupported cert hcert =>
      have hinside : s.view.parties[i]? = some .inside := by
        simpa [CertCall.phase, Resolve.phase, hcert] using hparty
      rw [hleave trivial _ (by rfl)]
      exact .leave hinside

/-- A turn of a run of `update_certs` is a step of the cache. -/
theorem UpdateTurn.refines {s : CertState} (h : s.Locked) {i : Nat} {renewal : Renewal} {stage stage' : UpdateCerts}
    {world : CertWorld} (hc : s.calls[i]? = some (.updateCerts renewal stage))
    (hturn : UpdateTurn renewal s.world stage world stage') :
    Step certifiedKeyOf s.view none (s.next i world (.updateCerts renewal stage')).view := by
  have hparty := CertState.view_party hc
  cases hturn with
  | clear hlock =>
      rw [s.view_next]
      exact .clear hparty (h.free (by simp [hlock]))
  | skip hlock =>
      have hcached : s.world.cached = none := by simp [CertWorld.cached, hlock]
      rw [s.view_next, hcached]
      exact .clear hparty (h.free (by simp [hlock]))
  | save hordered =>
      rw [s.view_next]
      exact .store hparty _
  | dirs ok =>
      rw [CertState.view_next_same hc (by cases ok <;> rfl)]
      exact .idle _
  | panic | valid | outdated | failed =>
      rw [CertState.view_next_same hc (by rfl)]
      exact .idle _

/-- **A turn is a step of the cache**, in which a handshake that it ends is served. -/
theorem CertState.Locked.refines {s : CertState} (h : s.Locked) {i : Nat} {c call : CertCall} {world : CertWorld}
    (hc : s.calls[i]? = some c) (hturn : CertTurn i s.world c world call) :
    Step certifiedKeyOf s.view call.answer (s.next i world call).view := by
  cases hturn with
  | resolve hturn => exact hturn.refines h hc
  | updateCerts hturn => exact hturn.refines h hc

/-! ## Runs -/

/-- Before the turn `n` of a schedule. -/
def CertState.before (s : CertState) (sched : List Nat) (n : Nat) : CertState := s.run (sched.take n)

/-- Nothing has happened yet. -/
structure CertState.Starts (s : CertState) : Prop where
  lock : s.world.acmeCertifiedKey.state = .free
  calls : ∀ c ∈ s.calls, (∃ account, c = .resolve account .read) ∨ ∃ renewal, c = .updateCerts renewal .start

/-- The call is over. -/
def CertCall.Over : CertCall → Prop
  | .resolve _ (.returned _) | .resolve _ .panicked => True
  | .updateCerts _ (.returned _) | .updateCerts _ .panicked => True
  | _ => False

/-- In the turn `n`, call `i` persists the certificate it has ordered. -/
def Saves (s : CertState) (sched : List Nat) (n i : Nat) (c : Certificate) : Prop :=
  ∃ renewal, renewal.ordered = some c ∧ (s.before sched n).calls[i]? = some (.updateCerts renewal .order) ∧
    (s.before sched (n + 1)).calls[i]? = some (.updateCerts renewal .saved)

theorem CertState.Starts.locked {s : CertState} (h : s.Starts) : s.Locked := by
  intro i
  rw [h.lock]
  refine ⟨nofun, ?_⟩
  rintro ⟨c, hc, hin⟩
  rcases h.calls c (List.mem_of_getElem? hc) with ⟨account, rfl⟩ | ⟨renewal, rfl⟩
  · exact hin.elim
  · exact hin.elim

section

variable {s : CertState} {sched : List Nat}

/-- A turn of the schedule: nothing, or a call takes its step. -/
theorem CertState.before_succ (s : CertState) (sched : List Nat) (n : Nat) : s.before sched (n + 1) = s.before sched n ∨
    ∃ i c world call, (s.before sched n).calls[i]? = some c ∧ CertTurn i (s.before sched n).world c world call ∧
      s.before sched (n + 1) = (s.before sched n).next i world call := by
  have hturn : s.before sched (n + 1) = s.before sched n ∨
      ∃ i, s.before sched (n + 1) = (s.before sched n).step i := by
    unfold CertState.before CertState.run
    rw [List.take_add_one, List.foldl_append]
    cases sched[n]? with
    | none => exact .inl rfl
    | some i => exact .inr ⟨i, rfl⟩
  rcases hturn with hsame | ⟨i, hstep⟩
  · exact .inl hsame
  · rcases (s.before sched n).step_cases i with ⟨hsame, _⟩ | ⟨c, world, call, hc, hcall, hnext⟩
    · exact .inl (hstep.trans hsame)
    · exact .inr ⟨i, c, world, call, hc, CertCall.turn hcall, hstep.trans hnext⟩

theorem CertState.Locked.before (h : s.Locked) (sched : List Nat) (n : Nat) : (s.before sched n).Locked := by
  unfold CertState.before CertState.run
  induction sched.take n using List.reverseRecOn with
  | nil => exact h
  | append_singleton pre i ih =>
      rw [List.foldl_append]
      exact ih.step i

/-- What a turn does to the call `j`. -/
theorem CertState.next_calls {s : CertState} {i : Nat} {c : CertCall} (hc : s.calls[i]? = some c) (world : CertWorld)
    (call : CertCall) (j : Nat) :
    (s.next i world call).calls[j]? = if i = j then some call else s.calls[j]? := by
  have hlt : i < s.calls.length := (List.getElem?_eq_some_iff.mp hc).1
  unfold CertState.next
  by_cases hij : i = j
  · subst hij
    simp [hlt]
  · simp [hij]

theorem CertTurn.not_over {i : Nat} {w world : CertWorld} {c call : CertCall} (h : CertTurn i w c world call) :
    ¬ c.Over := by
  cases h with
  | resolve hturn => cases hturn <;> exact id
  | updateCerts hturn => cases hturn <;> exact id

/-- What is over stays as it is. -/
theorem CertState.over_stays {i m n : Nat} (hmn : m ≤ n) {c : CertCall} (hover : c.Over)
    (h : (s.before sched m).calls[i]? = some c) : (s.before sched n).calls[i]? = some c := by
  induction hmn with
  | refl => exact h
  | @step n _ ih =>
      rcases s.before_succ sched n with hsame | ⟨j, c', world, call, hc', hturn, hnext⟩
      · rwa [hsame]
      · rw [hnext, next_calls hc']
        by_cases hji : j = i
        · subst hji
          obtain rfl : c' = c := Option.some.inj (hc'.symm.trans ih)
          exact absurd hover hturn.not_over
        · rwa [if_neg hji]

/-- A call that is not what it was has had its turn. -/
theorem CertState.turn_of_change {i n : Nat} {c : CertCall} (h : (s.before sched n).calls[i]? = some c)
    (hchange : (s.before sched (n + 1)).calls[i]? ≠ some c) :
    ∃ world call, CertTurn i (s.before sched n).world c world call ∧
      s.before sched (n + 1) = (s.before sched n).next i world call := by
  rcases s.before_succ sched n with hsame | ⟨j, c', world, call, hc', hturn, hnext⟩
  · exact absurd (hsame ▸ h) hchange
  · rw [hnext, next_calls hc'] at hchange
    by_cases hji : j = i
    · subst hji
      obtain rfl : c' = c := Option.some.inj (hc'.symm.trans h)
      exact ⟨world, call, hturn, hnext⟩
    · exact absurd h (by rwa [if_neg hji] at hchange)

/-- A call that is over after a turn and has changed in it was not over before. -/
theorem CertState.not_over_before {i n : Nat} {call : CertCall}
    (hafter : (s.before sched (n + 1)).calls[i]? = some call) (hchange : (s.before sched n).calls[i]? ≠ some call) :
    ∃ c, (s.before sched n).calls[i]? = some c ∧ ¬ c.Over := by
  rcases s.before_succ sched n with hsame | ⟨j, c', world, call', hc', hturn, hnext⟩
  · exact absurd (hsame ▸ hafter) hchange
  · rw [hnext, next_calls hc'] at hafter
    by_cases hji : j = i
    · subst hji
      exact ⟨c', hc', hturn.not_over⟩
    · exact absurd (by rwa [if_neg hji] at hafter) hchange

/-- The handshake that is over after the turn `n` and was not before is served this. -/
def CertState.Serves (s : CertState) (sched : List Nat) (n : Nat) (served : Option CertifiedKey) : Prop :=
  ∀ (i : Nat) (c call : CertCall), (s.before sched n).calls[i]? = some c → ¬ c.Over →
    (s.before sched (n + 1)).calls[i]? = some call → call.Over → served = call.answer

/-- The turns of a schedule are a run of the cache. -/
theorem CertState.Locked.exists_run (h : s.Locked) (sched : List Nat) :
    ∃ r : Run certifiedKeyOf, (∀ n, r.state n = (s.before sched n).view) ∧ ∀ n, s.Serves sched n (r.served n) := by
  have hstep (n : Nat) : ∃ served,
      Step certifiedKeyOf (s.before sched n).view served (s.before sched (n + 1)).view ∧ s.Serves sched n served := by
    rcases s.before_succ sched n with hsame | ⟨j, c', world, call', hc', hturn, hnext⟩
    · rw [hsame]
      refine ⟨none, .idle _, ?_⟩
      intro i c call hc hnot hcall hover
      rw [hsame] at hcall
      obtain rfl : c = call := Option.some.inj (hc.symm.trans hcall)
      exact absurd hover hnot
    · rw [hnext]
      refine ⟨call'.answer, (h.before sched n).refines hc' hturn, ?_⟩
      intro i c call hc hnot hcall hover
      rw [hnext, next_calls hc'] at hcall
      by_cases hji : j = i
      · rw [if_pos hji] at hcall
        rw [Option.some.inj hcall]
      · rw [if_neg hji] at hcall
        obtain rfl : c = call := Option.some.inj (hc.symm.trans hcall)
        exact absurd hover hnot
  choose served hserved using hstep
  exact ⟨⟨fun n => (s.before sched n).view, served, fun n => (hserved n).1⟩, fun _ => rfl, fun n => (hserved n).2⟩

/-- A call that goes from one place to another has left the first at some turn. -/
theorem CertState.exists_turn {i m n : Nat} {c c' : CertCall} (hmn : m ≤ n) (hne : c ≠ c')
    (hm : (s.before sched m).calls[i]? = some c) (hn : (s.before sched n).calls[i]? = some c') :
    ∃ k world call, m ≤ k ∧ k < n ∧ (s.before sched k).calls[i]? = some c ∧
      CertTurn i (s.before sched k).world c world call ∧
      s.before sched (k + 1) = (s.before sched k).next i world call := by
  have hnot : (s.before sched n).calls[i]? ≠ some c := by
    rw [hn]
    exact fun h => hne (Option.some.inj h).symm
  obtain ⟨k, hmk, hkn, hk, hchange⟩ := exists_last (fun k => (s.before sched k).calls[i]? = some c) hmn hm hnot
  obtain ⟨world, call, hturn, hnext⟩ := turn_of_change hk hchange
  exact ⟨k, world, call, hmk, hkn, hk, hturn, hnext⟩

/-- When `update_certs` is through after it has persisted a certificate, the cache has been cleared since. -/
theorem CertState.Locked.exists_cleared (h : s.Locked) {i m n : Nat} {c : Certificate} (hsaves : Saves s sched m i c)
    {renewal : Renewal} {stage : UpdateCerts} (hstage : stage ≠ .saved)
    (hover : CertCall.Over (.updateCerts renewal stage))
    (hn : (s.before sched n).calls[i]? = some (.updateCerts renewal stage)) :
    ∃ k, m < k ∧ k ≤ n ∧ (s.before sched k).view.Free ∧ (s.before sched k).view.cache = none := by
  obtain ⟨renewal', hordered, hbefore, hsaved⟩ := hsaves
  have hmn : m + 1 ≤ n := by
    by_contra hle
    have hnm : n ≤ m := by omega
    have hstill := s.over_stays hnm hover hn
    rw [hbefore] at hstill
    cases hstill
    exact hover
  obtain ⟨k, world, call, hmk, hkn, hk, hturn, hnext⟩ := s.exists_turn hmn (by rintro ⟨⟩; exact hstage rfl) hsaved hn
  refine ⟨k + 1, by omega, hkn, ?_⟩
  have hlocked := h.before sched (k + 1)
  cases hturn with
  | updateCerts hturn =>
      cases hturn with
      | clear hlock =>
          refine ⟨hlocked.free ?_, ?_⟩
          · rw [hnext]
            exact nofun
          · rw [hnext]
            rfl
      | skip hlock =>
          refine ⟨hlocked.free ?_, ?_⟩
          · rw [hnext]
            intro j
            change (s.before sched k).world.acmeCertifiedKey.state ≠ _
            simp [hlock]
          · rw [hnext]
            simp [view, next, CertWorld.cached, hlock]

/-- Only a save changes what is persisted. -/
theorem CertTurn.persisted {i : Nat} {w world : CertWorld} {c call : CertCall} (h : CertTurn i w c world call) :
    world.persisted = w.persisted ∨ ∃ renewal cert, renewal.ordered = some cert ∧ c = .updateCerts renewal .order ∧
      call = .updateCerts renewal .saved ∧ world.persisted = some cert := by
  cases h with
  | resolve hturn => cases hturn <;> exact .inl rfl
  | @updateCerts renewal _ _ _ hturn =>
      cases hturn with
      | @save cert hordered => exact .inr ⟨renewal, cert, hordered, rfl, rfl, rfl⟩
      | _ => exact .inl rfl

/-- What is persisted stays, or is replaced by what is saved. -/
theorem CertState.persisted_succ (s : CertState) (sched : List Nat) (n : Nat) :
    (s.before sched (n + 1)).world.persisted = (s.before sched n).world.persisted ∨
    ∃ i c, Saves s sched n i c ∧ (s.before sched (n + 1)).world.persisted = some c := by
  rcases s.before_succ sched n with hsame | ⟨i, c, world, call, hc, hturn, hnext⟩
  · rw [hsame]
    exact .inl rfl
  · rw [hnext]
    refine hturn.persisted.imp_right ?_
    rintro ⟨renewal, cert, hordered, rfl, rfl, hpersisted⟩
    refine ⟨i, cert, ⟨renewal, hordered, hc, ?_⟩, hpersisted⟩
    rw [hnext, next_calls hc, if_pos rfl]

/-- What is persisted after a certificate was saved is that one or one that was saved later. -/
theorem CertState.exists_saves {i m n : Nat} {c : Certificate} (hsaves : Saves s sched m i c) (hmn : m < n) :
    ∃ k j c', m ≤ k ∧ k < n ∧ Saves s sched k j c' ∧ (s.before sched n).world.persisted = some c' := by
  induction hmn with
  | refl =>
      obtain ⟨renewal, hordered, hbefore, hsaved⟩ := hsaves
      obtain ⟨world, call, hturn, hnext⟩ := turn_of_change hbefore (by simp [hsaved])
      obtain rfl : call = .updateCerts renewal .saved := by simpa [hnext, next_calls hbefore] using hsaved
      refine ⟨m, i, c, Nat.le_refl m, Nat.lt_succ_self m, ⟨renewal, hordered, hbefore, hsaved⟩, ?_⟩
      cases hturn with
      | updateCerts hturn =>
          cases hturn with
          | save hordered' =>
              rw [hnext]
              exact hordered'.symm.trans hordered
  | @step n _ ih =>
      rcases s.persisted_succ sched n with hsame | ⟨j, c', hsaves', hpersisted⟩
      · obtain ⟨k, j, c', hmk, hkn, hk, hpersisted⟩ := ih
        exact ⟨k, j, c', hmk, Nat.lt_succ_of_lt hkn, hk, hsame.trans hpersisted⟩
      · exact ⟨n, j, c', by omega, Nat.lt_succ_self n, hsaves', hpersisted⟩

/-- **No stale certificate.** In every interleaving of handshakes and runs of `update_certs`, once a run that has
    persisted a certificate is through, a handshake that begins is served none but that certificate or one that was
    persisted after it. -/
theorem certificate_fresh {s : CertState} (hstart : s.Starts) {sched : List Nat} {u r k m n : Nat} {c : Certificate}
    (hsaves : Saves s sched k u c) {renewal : Renewal} {ok : Bool}
    (hover : (s.before sched m).calls[u]? = some (.updateCerts renewal (.returned ok))) {account : AccountAnswer}
    (hbegins : (s.before sched m).calls[r]? = some (.resolve account .read)) {key : CertifiedKey}
    (hserved : (s.before sched n).calls[r]? = some (.resolve account (.returned (some key)))) :
    ∃ k' u' c', k ≤ k' ∧ k' < n ∧ Saves s sched k' u' c' ∧ c'.certifiedKey = some key := by
  have hlocked := hstart.locked
  obtain ⟨j, hkj, hjm, hfree, hcache⟩ := hlocked.exists_cleared hsaves
    (show UpdateCerts.returned ok ≠ .saved from nofun) trivial hover
  have hmn : m ≤ n := by
    by_contra hle
    have hnm : n ≤ m := by omega
    have hstill := s.over_stays hnm (show CertCall.Over (.resolve _ (.returned _)) from trivial) hserved
    rw [hbegins] at hstill
    cases hstill
  obtain ⟨run, hstate, hserves⟩ := hlocked.exists_run sched
  -- the turn in which the handshake is served
  obtain ⟨t, hmt, htn, hnot, hdone⟩ := exists_last
    (fun t => (s.before sched t).calls[r]? ≠ some (.resolve account (.returned (some key)))) hmn
    (by simp [hbegins]) (not_not.mpr hserved)
  have hafter := not_not.mp hdone
  obtain ⟨before, hbefore, hnot⟩ := s.not_over_before hafter hnot
  have hkey : run.served t = some key := hserves t r before _ hbefore hnot hafter trivial
  obtain ⟨t', hjt', htt', hload⟩ := run.served_fromThen (by omega) (hstate j ▸ hfree) (hstate j ▸ hcache) hkey
  obtain ⟨k', u', c', hkk', hkt', hsaves', hpersisted⟩ := s.exists_saves hsaves (show k < t' by omega)
  refine ⟨k', u', c', hkk', by omega, hsaves', ?_⟩
  rw [hstate t'] at hload
  change certifiedKeyOf (s.before sched t').world.persisted = some key at hload
  rwa [hpersisted] at hload

/-- **Exact when settled.** If at first the cache is empty, and no run of `update_certs` is between persisting and
    clearing when a handshake is served a certificate, it is the one that is persisted. -/
theorem certificate_settled {s : CertState} (hstart : s.Starts) (hempty : s.world.acmeCertifiedKey.value = none)
    {sched : List Nat} {r n : Nat} {c : CertCall} (hc : (s.before sched n).calls[r]? = some c) (hnot : ¬ c.Over)
    {account : AccountAnswer} {key : CertifiedKey}
    (hserved : (s.before sched (n + 1)).calls[r]? = some (.resolve account (.returned (some key))))
    (hsettled : ∀ renewal, .updateCerts renewal .saved ∉ (s.before sched n).calls) :
    certifiedKeyOf (s.before sched n).world.persisted = some key := by
  have hlocked := hstart.locked
  obtain ⟨run, hstate, hserves⟩ := hlocked.exists_run sched
  have hkey : run.served n = some key := hserves n r c _ hc hnot hserved trivial
  have hcached : s.view.cache = none := by simp [CertState.view, CertWorld.cached, hempty]
  have hcoherent : (run.state 0).Coherent certifiedKeyOf := by
    rw [hstate 0]
    exact .inr (.cleared (hlocked.free (by simp [hstart.lock])) hcached)
  have hquiet : ¬ (run.state n).Pending := by
    rw [hstate n]
    rintro ⟨i, hi⟩
    obtain ⟨call, hcall, hphase⟩ : ∃ call, (s.before sched n).calls[i]? = some call ∧ call.phase = .stored := by
      simpa [CertState.view] using hi
    cases call with
    | resolve account stage =>
        cases stage with
        | loaded c' =>
            cases hcert : c'.certifiedKey <;> simp [CertCall.phase, Resolve.phase, hcert] at hphase
        | _ => cases hphase
    | updateCerts renewal stage =>
        cases stage with
        | saved => exact hsettled renewal (List.mem_of_getElem? hcall)
        | _ => cases hphase
  have hload := run.served_exact hcoherent hquiet hkey
  rwa [hstate n] at hload

end

/-! ## Nobody waits for ever -/

/-- How many turns a call may still take. -/
def CertCall.left : CertCall → Nat
  | .resolve _ .read => 5
  | .resolve _ .write => 4
  | .resolve _ .check => 3
  | .resolve _ .load => 2
  | .resolve _ (.loaded _) => 1
  | .updateCerts _ .start => 4
  | .updateCerts _ .check => 3
  | .updateCerts _ .order => 2
  | .updateCerts _ .saved => 1
  | _ => 0

def CertState.left (s : CertState) : Nat := (s.calls.map CertCall.left).sum

theorem CertTurn.left_lt {i : Nat} {w world : CertWorld} {c call : CertCall} (h : CertTurn i w c world call) :
    call.left < c.left := by
  cases h with
  | resolve hturn => cases hturn <;> simp [CertCall.left]
  | updateCerts hturn =>
      cases hturn with
      | dirs ok => cases ok <;> simp [CertCall.left]
      | _ => simp [CertCall.left]

theorem CertCall.over_iff (c : CertCall) : c.Over ↔ c.left = 0 := by
  cases c with
  | resolve account stage => cases stage <;> simp [CertCall.Over, CertCall.left]
  | updateCerts renewal stage => cases stage <;> simp [CertCall.Over, CertCall.left]

/-- A call that is not over takes a step, if it is inside or the lock is not held. -/
theorem CertCall.steps {c : CertCall} (hc : ¬ c.Over) (i : Nat) {w : CertWorld}
    (h : c.Inside ∨ ∀ j, w.acmeCertifiedKey.state ≠ .writer j) : (c.step i w).isSome := by
  have hacquire : c.Inside ∨ w.acmeCertifiedKey.acquire ≠ .waits := by
    refine h.imp_right ?_
    intro hfree
    unfold RwLock.acquire
    cases hstate : w.acmeCertifiedKey.state with
    | writer j => exact absurd hstate (hfree j)
    | _ => simp
  cases c with
  | resolve account stage =>
      simp only [CertCall.step, Option.isSome_map]
      unfold Resolve.step
      cases stage with
      | read | write =>
          have hacquired := hacquire.resolve_left id
          cases hlock : w.acmeCertifiedKey.acquire with
          | waits => exact absurd hlock hacquired
          | guard => cases hvalue : w.acmeCertifiedKey.value <;> simp
          | poisonError => simp
      | check => cases hvalue : w.acmeCertifiedKey.value <;> simp
      | load => cases account <;> cases hpersisted : w.persisted <;> simp
      | loaded c => cases hcert : c.certifiedKey <;> simp [hcert]
      | returned | panicked => exact absurd trivial hc
  | updateCerts renewal stage =>
      simp only [CertCall.step, Option.isSome_map]
      unfold UpdateCerts.step
      cases stage with
      | start => simp
      | check => cases renewal.account <;> cases hpersisted : w.persisted <;> simp
      | order => cases renewal.ordered <;> simp
      | saved =>
          have hacquired := hacquire.resolve_left id
          cases hlock : w.acmeCertifiedKey.acquire with
          | waits => exact absurd hlock hacquired
          | _ => simp
      | returned | panicked => exact absurd trivial hc

/-- Every turn changes nothing, or leaves fewer. -/
theorem CertState.step_left (s : CertState) (i : Nat) : s.step i = s ∨ (s.step i).left < s.left := by
  rcases s.step_cases i with ⟨hsame, _⟩ | ⟨c, world, call, hc, hstep, hnext⟩
  · exact .inl hsame
  · right
    rw [hnext]
    have hless := (CertCall.turn hstep).left_lt
    unfold left next
    rw [List.map_set]
    exact sum_set_lt (by simp [hc]) hless

/-- While somebody is not through, somebody can take a step. -/
theorem CertState.Locked.exists_step {s : CertState} (h : s.Locked) (hleft : s.left ≠ 0) :
    ∃ i < s.calls.length, s.step i ≠ s := by
  have hmoves {i : Nat} {c : CertCall} (hc : s.calls[i]? = some c) (hover : ¬ c.Over)
      (hfree : c.Inside ∨ ∀ j, s.world.acmeCertifiedKey.state ≠ .writer j) :
      ∃ i < s.calls.length, s.step i ≠ s := by
    refine ⟨i, (List.getElem?_eq_some_iff.mp hc).1, ?_⟩
    rcases s.step_cases i with ⟨_, hnone⟩ | ⟨c', world, call, hc', hstep, hnext⟩
    · have hsome := CertCall.steps hover i hfree
      simp [hnone c hc] at hsome
    · intro hsame
      rw [hnext] at hsame
      have hcall : s.calls[i]? = some call := by
        conv_lhs => rw [← hsame]
        simp [next_calls hc']
      obtain rfl : c' = call := Option.some.inj (hc'.symm.trans hcall)
      exact absurd (CertCall.turn hstep).left_lt (Nat.lt_irrefl _)
  by_cases hheld : ∃ i, s.world.acmeCertifiedKey.state = .writer i
  · -- whoever holds the lock goes on
    obtain ⟨i, hi⟩ := hheld
    obtain ⟨c, hc, hin⟩ := (h i).mp hi
    refine hmoves hc ?_ (.inl hin)
    cases c with
    | resolve account stage => cases stage <;> first | exact hin.elim | exact id
    | updateCerts => exact hin.elim
  · obtain ⟨c, hmem, hc⟩ : ∃ c ∈ s.calls, 0 < c.left := by
      simpa [left] using List.sum_pos_iff_exists_pos_nat.mp (Nat.pos_of_ne_zero hleft)
    obtain ⟨i, hi⟩ := List.mem_iff_getElem?.mp hmem
    exact hmoves hi (fun hover => Nat.ne_of_gt hc ((CertCall.over_iff c).mp hover)) (.inr fun j hj => hheld ⟨j, hj⟩)

theorem CertState.length_step (s : CertState) (i : Nat) : (s.step i).calls.length = s.calls.length := by
  rcases s.step_cases i with ⟨hsame, _⟩ | ⟨c, world, call, hc, hstep, hnext⟩
  · rw [hsame]
  · rw [hnext]
    simp [next]

theorem CertState.left_le (s : CertState) : s.left ≤ 5 * s.calls.length := by
  unfold left
  induction s.calls with
  | nil => simp
  | cons c calls ih =>
      have hc : c.left ≤ 5 := by
        unfold CertCall.left
        split <;> simp
      simp only [List.map_cons, List.sum_cons, List.length_cons]
      omega

/-- Every call is over. -/
def CertState.Finished (s : CertState) : Prop := ∀ c ∈ s.calls, c.Over

/-- **Nobody waits for ever.** However many handshakes and runs of `update_certs` there are and whatever comes of
    their calls to the outside, five rounds for each, in which every one has a turn, bring all of them to an end. -/
theorem certificate_calls_end {s : CertState} (hstart : s.Starts) {rounds : List (List Nat)}
    (hround : ∀ round ∈ rounds, ∀ i < s.calls.length, i ∈ round) (hlong : 5 * s.calls.length ≤ rounds.length) :
    (s.run rounds.flatten).Finished := by
  have hzero : (s.run rounds.flatten).left = 0 := by
    apply measure_zero_of_rounds (fun s' => s'.Locked ∧ s'.calls.length = s.calls.length) CertState.step_left
    · intro s' i ⟨hlocked, hlength⟩
      exact ⟨hlocked.step i, (s'.length_step i).trans hlength⟩
    · intro s' ⟨hlocked, hlength⟩ hleft round hmem
      obtain ⟨i, hi, hmoves⟩ := hlocked.exists_step hleft
      exact ⟨i, hround round hmem i (hlength ▸ hi), hmoves⟩
    · exact ⟨hstart.locked, rfl⟩
    · exact Nat.le_trans s.left_le hlong
  intro c hc
  rw [CertCall.over_iff]
  have hall := List.sum_eq_zero_iff_forall_eq_nat.mp hzero
  exact hall _ (List.mem_map_of_mem hc)

end

section

/-- An elliptic-curve key in PKCS#8, as the order of a certificate makes one. -/
def Reference.privateKey : List UInt8 :=
  [48, 129, 135, 2, 1, 0, 48, 19, 6, 7, 42, 134, 72, 206, 61, 2, 1, 6, 8, 42, 134, 72, 206, 61, 3, 1, 7, 4,
    109, 48, 107, 2, 1, 1, 4, 32, 167, 181, 84, 12, 2, 189, 169, 138, 169, 70, 201, 249, 205, 215, 30, 189,
    79, 246, 223, 240, 159, 128, 227, 119, 142, 161, 78, 110, 38, 33, 59, 135, 161, 68, 3, 66, 0, 4, 73, 7,
    16, 157, 252, 201, 106, 68, 55, 168, 43, 160, 161, 135, 56, 52, 23, 127, 4, 26, 53, 154, 147, 89, 47, 19,
    76, 150, 219, 204, 178, 225, 63, 59, 183, 126, 122, 94, 213, 41, 236, 149, 223, 162, 29, 175, 26, 6, 39,
    177, 249, 139, 44, 211, 150, 8, 159, 196, 80, 136, 133, 250, 79, 104]

/-- The crate on keys that it supports. -/
@[reducible] def Reference.tlsCrate : TlsCrate where
  SigningKey := List UInt8
  anySupportedType := some

attribute [local instance] Reference.tlsCrate

/-- Three days before the certificate runs out, a new one is ordered. -/
def Reference.renewal : Renewal where
  dirCreated := true
  account := .persisted
  validDaysLeft := fun _ => 3
  ordered := some ⟨[48, 2], Reference.privateKey⟩

/-- A handshake, the renewal and another handshake. -/
def renewalStart : CertState where
  world := ⟨some ⟨[48, 1], Reference.privateKey⟩, ⟨none, .free⟩⟩
  calls := [.resolve .persisted .read, .updateCerts Reference.renewal .start, .resolve .persisted .read]

/-- The first handshake fills the cache with the certificate that has just been replaced; the renewal waits for it. -/
def renewalSched : List Nat := [0, 0, 0, 0, 1, 1, 1, 1, 0, 1, 2, 2, 2, 2, 2]

theorem renewal_starts : renewalStart.Starts := ⟨rfl, by simp [renewalStart]⟩

theorem renewal_saves : Saves renewalStart renewalSched 6 1 ⟨[48, 2], Reference.privateKey⟩ :=
  ⟨Reference.renewal, rfl, rfl, rfl⟩

theorem certificate_fresh_renewal : ∃ k u c, 6 ≤ k ∧ k < 15 ∧ Saves renewalStart renewalSched k u c ∧
    c.certifiedKey = some ⟨[[48, 2]], Reference.privateKey⟩ :=
  certificate_fresh renewal_starts renewal_saves
    (show (renewalStart.before renewalSched 10).calls[1]? = some (.updateCerts Reference.renewal (.returned true))
      from rfl)
    (show (renewalStart.before renewalSched 10).calls[2]? = some (.resolve .persisted .read) from rfl) rfl

theorem certificate_settled_renewal :
    certifiedKeyOf (renewalStart.before renewalSched 14).world.persisted = some ⟨[[48, 2]], Reference.privateKey⟩ :=
  certificate_settled renewal_starts rfl
    (show (renewalStart.before renewalSched 14).calls[2]? = some (.resolve .persisted (.loaded _)) from rfl) id
    (show (renewalStart.before renewalSched 15).calls[2]? = some (.resolve .persisted (.returned (some _))) from rfl)
    (by simp [show (renewalStart.before renewalSched 14).calls =
      [.resolve .persisted (.returned (some ⟨[[48, 1]], Reference.privateKey⟩)),
        .updateCerts Reference.renewal (.returned true),
        .resolve .persisted (.loaded ⟨[48, 2], Reference.privateKey⟩)] from rfl])

theorem certificate_calls_end_renewal : (renewalStart.run (List.replicate 15 [0, 1, 2]).flatten).Finished :=
  certificate_calls_end renewal_starts
    (by
      intro round hround i hi
      obtain rfl := List.eq_of_mem_replicate hround
      have hlt : i < 3 := hi
      simp
      omega)
    (by simp [renewalStart])

end

end MudController
