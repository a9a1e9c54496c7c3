import MudController.Access.Origin

/-!
# `Access.Rooms` — rooms come and go

A request deletes a room by the name under which it has looked the room up. Names move: while the request is on its
way, the room can be renamed, and another one can take over its name, and is deleted in its place. That is the only
way to lose a room that nobody has asked to delete (`room_deleted`).
-/

namespace MudController

open Logic

section

variable [Platform]

/-- The room with the id has the name. -/
def Backend.Named (b : Backend) (id : Int) (name : String) : Prop :=
  ∃ room ∈ b.world.db.rooms, room.roomId = id ∧ room.name = name

/-- The ids of the rooms. -/
def Backend.rooms (b : Backend) : List Int := b.world.db.rooms.map (·.roomId)

/-- Two rooms have two names. -/
theorem Backend.Named.id_eq {b : Backend} {id id' : Int} {name : String} (h : b.Named id name)
    (h' : b.Named id' name) : id = id' := by
  obtain ⟨room, hroom, rfl, rfl⟩ := h
  obtain ⟨room', hroom', rfl, hname⟩ := h'
  have hfind := find?_of_mem b.roomNames hroom
  have hfind' := find?_of_mem b.roomNames hroom'
  rw [hname] at hfind'
  rw [Option.some.inj (hfind.symm.trans hfind')]

variable [Crypto]

section

variable (b : Backend) (calls : List Call) (sched : List Nat)

/-- At turn `k` call `i` gives the name to the room `id`, or creates it under the name. -/
inductive NamesRoom (i k : Nat) (id : Int) (name : String) : Prop where
  | created {auth : Claims} {dto : RoomCreationUpdateDto} {s : BackendStmt}
      (hasked : AskedAt b calls sched i k auth (.createRoom dto) s) (hname : dto.name = name)
  | renamed {auth : Claims} {dto : RoomCreationUpdateDto} {s : BackendStmt}
      (hasked : AskedAt b calls sched i k auth (.updateRoom id dto) s) (hname : dto.name = name)

/-- At turn `k` call `i` deletes whatever room has the name, which the room `id` had when the call looked it up at
    turn `kr`. -/
structure DeletesNamed (i k kr : Nat) (id : Int) (name : String) : Prop where
  asked : ∃ auth, AskedAt b calls sched i k auth (.deleteRoom id) (.deleteRoom name) ∧ auth.Grants .roomDelete
  earlier : kr < k
  looked : ∃ room, ApiAnswered b calls sched i kr ⟨.world (.selectRoom id), some room⟩
  named : (stateAt b calls sched kr).Named id name

end

variable {b : Backend} {calls : List Call} {sched : List Nat}

theorem updateRoom_asked {i k : Nat} {room : Room} {answer : Written}
    (hx : ApiAnswered b calls sched i k ⟨.updateRoom room, answer⟩) :
    ∃ auth dto, AskedAt b calls sched i k auth (.updateRoom room.roomId dto) (.updateRoom room) ∧
      dto.name = room.name := by
  obtain ⟨r, seen, hc, hsaw, hasks⟩ := exists_asked hx fun h => h
  cases hasks with
  | token haccepted hlicence hasks =>
      cases hasks with
      | idle h => exact absurd h fun h => h
      | updateRoom => exact ⟨_, _, askedAt hc hsaw haccepted hlicence hx, rfl⟩

/-- A room gets a name by a request for it. -/
theorem named_asked {i k : Nat} {x : Seen} {id : Int} {name : String} (hx : ApiAnswered b calls sched i k x)
    (hnot : ¬ (stateAt b calls sched k).Named id name) (h : (stateAt b calls sched (k + 1)).Named id name) :
    NamesRoom b calls sched i k id name := by
  obtain ⟨s, answer⟩ := x
  obtain ⟨room, hroom, rfl, rfl⟩ := h
  rw [stateAt_succ hx] at hroom
  have hturn := s.roomsTurn (stateAt b calls sched k)
  generalize (s.exec (stateAt b calls sched k)).2.world.db.rooms = rooms at hroom hturn
  cases hturn with
  | same s => exact absurd ⟨room, hroom, rfl, rfl⟩ hnot
  | deleted gone => exact absurd ⟨room, List.mem_of_mem_filter hroom, rfl, rfl⟩ hnot
  | inserted newName color =>
      rcases List.mem_append.mp hroom with hold | hnew
      · exact absurd ⟨room, hold, rfl, rfl⟩ hnot
      · obtain rfl := List.mem_singleton.mp hnew
        obtain ⟨r, seen, hc, hsaw, hasks⟩ := exists_asked hx fun h => h
        cases hasks with
        | token haccepted hlicence hasks =>
            cases hasks with
            | idle h => exact absurd h fun h => h
            | createRoom => exact .created (askedAt hc hsaw haccepted hlicence hx) rfl
  | updated row =>
      rcases mem_of_mem_replaceRow hroom with rfl | ⟨hold, _⟩
      · obtain ⟨auth, dto, hasked, hname⟩ := updateRoom_asked hx
        exact .renamed hasked hname
      · exact absurd ⟨room, hold, rfl, rfl⟩ hnot

/-- What a request to delete a room does. -/
theorem deleteRoom_asked {i k : Nat} {name : String} {answer : Written}
    (hx : ApiAnswered b calls sched i k ⟨.deleteRoom name, answer⟩) :
    ∃ kr id, DeletesNamed b calls sched i k kr id name := by
  obtain ⟨r, seen, hc, hsaw, hasks⟩ := exists_asked hx fun h => h
  cases hasks with
  | token haccepted hlicence hasks =>
      cases hasks with
      | idle h => exact absurd h fun h => h
      | @deleteRoom id _ room hread =>
          obtain ⟨kr, hkr, hat⟩ := hsaw.mem hread
          have hfind : (stateAt b calls sched kr).world.db.rooms.find? (·.roomId = id) = some room := hat.answer
          refine ⟨kr, id, ⟨_, askedAt hc hsaw haccepted hlicence hx, hlicence⟩, hkr, ⟨room, hat⟩, room, ?_, ?_, rfl⟩
          · exact List.mem_of_find?_eq_some hfind
          · simpa using List.find?_some hfind

/-- **How a room is lost.** In every interleaving, a room that is gone was deleted by a request for it, or for
    another room whose name it was given after that request had looked. -/
theorem room_deleted {id : Int} {j j' : Nat} (hj : j ≤ j') (hthere : id ∈ (stateAt b calls sched j).rooms)
    (hgone : id ∉ (stateAt b calls sched j').rooms) :
    ∃ i k kr id' name, j ≤ k ∧ k < j' ∧ DeletesNamed b calls sched i k kr id' name ∧
      (stateAt b calls sched k).Named id name ∧
      (id' = id ∨ ∃ i' k', kr ≤ k' ∧ k' < k ∧ NamesRoom b calls sched i' k' id name) := by
  rcases Pool.exists_until (fun w : Backend => id ∈ w.rooms) hj hthere with
    hheld | ⟨k, i, ⟨s, answer⟩, hjk, hlt, hx, hbefore, hended⟩
  · exact absurd (hheld j' hj (Nat.le_refl j')) hgone
  · obtain ⟨room, hroom, hid⟩ := List.mem_map.mp (hbefore k hjk (Nat.le_refl k))
    have hafter : id ∉ (s.exec (stateAt b calls sched k)).2.rooms := by
      rw [← stateAt_succ hx]
      exact hended
    unfold Backend.rooms at hafter
    have hturn := s.roomsTurn (stateAt b calls sched k)
    generalize (s.exec (stateAt b calls sched k)).2.world.db.rooms = rooms at hafter hturn
    cases hturn with
    | same s => exact absurd (List.mem_map.mpr ⟨room, hroom, hid⟩) hafter
    | inserted name color =>
        exact absurd (List.mem_map.mpr ⟨room, List.mem_append_left _ hroom, hid⟩) hafter
    | updated row =>
        rw [map_key_replaceRow] at hafter
        exact absurd (List.mem_map.mpr ⟨room, hroom, hid⟩) hafter
    | deleted name =>
        have hname : room.name = name := by
          by_contra hne
          exact hafter (List.mem_map.mpr ⟨room, List.mem_filter.mpr ⟨hroom, by simpa using hne⟩, hid⟩)
        obtain ⟨kr, id', hdeletes⟩ := deleteRoom_asked hx
        have hnow : (stateAt b calls sched k).Named id name := ⟨room, hroom, hid, hname⟩
        refine ⟨i, k, kr, id', name, hjk, hlt, hdeletes, hnow, ?_⟩
        by_cases hsame : id' = id
        · exact .inl hsame
        · right
          -- the name was another room's when the request looked
          rcases Pool.exists_since (fun w : Backend => w.Named id name) (Nat.le_of_lt hdeletes.earlier) hnow with
            hall | ⟨k', i', x, hkr, hk', hx', hnot, hsince⟩
          · exact absurd (hdeletes.named.id_eq (hall kr (Nat.le_refl kr) (Nat.le_of_lt hdeletes.earlier))) hsame
          · exact ⟨i', k', hkr, hk', named_asked hx' hnot (hsince (k' + 1) (by omega) (by omega))⟩

end

section

attribute [local instance] Reference.platform Reference.crypto

/-- One room, the kitchen. -/
def kitchenBackend : Backend :=
  { sessionBackend with
    world := { sessionBackend.world with
      db := ⟨{ Reference.tables [] [] [⟨jwtSecret, Reference.secret⟩] with rooms := [⟨1, "kitchen", "#fff"⟩] },
        by decide⟩ }
    roomSeq := 1
    roomIds := by decide
    roomNames := by decide }

/-- The room is deleted, renamed, and its name is given to a new one. -/
def kitchenCalls : List Call :=
  [.request (.authenticated (some (headerPrefix ++ Reference.token)) (.deleteRoom 1)),
    .request (.authenticated (some (headerPrefix ++ Reference.token)) (.updateRoom 1 ⟨"hall", "#fff"⟩)),
    .request (.authenticated (some (headerPrefix ++ Reference.token)) (.createRoom ⟨"kitchen", "#fff"⟩))]

/-- The deletion looks first, and writes last. -/
def kitchenSched : List Nat := [0, 0, 0, 0, 0, 1, 1, 1, 1, 1, 1, 2, 2, 2, 2, 2, 2, 2, 0]

set_option maxRecDepth 20000 in
theorem kitchen_created : (stateAt kitchenBackend kitchenCalls kitchenSched 18).rooms = [1, 2] := by
  unfold stateAt poolAt apiPool kitchenCalls
  simp only [List.map_cons, Call.program, authenticated_eq]
  rfl

set_option maxRecDepth 20000 in
theorem kitchen_gone : (stateAt kitchenBackend kitchenCalls kitchenSched 19).rooms = [1] := by
  unfold stateAt poolAt apiPool kitchenCalls
  simp only [List.map_cons, Call.program, authenticated_eq]
  rfl

/-- Room 1 was to be deleted, and room 2 was. -/
theorem room_deleted_kitchen : ∃ i k kr id' name, 18 ≤ k ∧ k < 19 ∧
    DeletesNamed kitchenBackend kitchenCalls kitchenSched i k kr id' name ∧
    (stateAt kitchenBackend kitchenCalls kitchenSched k).Named 2 name ∧
    (id' = 2 ∨ ∃ i' k', kr ≤ k' ∧ k' < k ∧ NamesRoom kitchenBackend kitchenCalls kitchenSched i' k' 2 name) :=
  room_deleted (by decide) (by rw [kitchen_created]; decide) (by rw [kitchen_gone]; decide)

end

end MudController
