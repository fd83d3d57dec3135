import Mathlib.Data.List.Forall2
import Mathlib.Data.List.InsertIdx
import SwaylockAuthd.Lib.Transition

/-!
# `loop.c`: the file descriptors

The loop keeps a growing array for `poll` and a linked list of callbacks, held together by position
only.  `fds` is the whole allocation; `fdLength` of its cells are in use.

* `Registration`: what a `loop_add_fd` has asked for; the abstract table is a list of them.
* `Aligned`: position by position, the array and the list hold the registrations.
* `aligned_addFd`, `aligned_removeFd`, `aligned_poll`: the operations are those of the abstract
  table.
* `fd_table_aligned`: so it is after every sequence of calls, and `loop_poll` calls what is
  registered.
-/

namespace SwaylockAuthd

open Transition

/-! ## The table -/

/-- `struct pollfd`. -/
structure Pollfd where
  fd : Int := 0
  events : UInt16 := 0
  revents : UInt16 := 0
  deriving DecidableEq, Repr

/-- `struct loop_fd_event`. -/
structure LoopFdEvent (κ δ : Type) where
  callback : κ
  data : δ
  deriving DecidableEq, Repr

/-- `struct loop`: its file descriptors. -/
structure FdTable (κ δ : Type) where
  fds : List Pollfd
  fdLength : Nat
  fdCapacity : Nat
  fdEvents : List (LoopFdEvent κ δ)
  deriving DecidableEq, Repr

variable {κ δ : Type}

/-- `loop_create`.  The contents of fresh memory are never read (`Aligned`). -/
def loopCreate : FdTable κ δ :=
  { fds := List.replicate 10 ({} : Pollfd), fdLength := 0, fdCapacity := 10, fdEvents := [] }

/-- `memmove` inside an array of cells. -/
def memmove {α : Type} (cells : List α) (dst src n : Nat) : List α :=
  cells.take dst ++ (cells.drop src).take n ++ cells.drop (dst + n)

/-- `loop_add_fd`; the allocation of the event may fail. -/
def loopAddFd (calloc : Bool) (fd : Int) (mask : UInt16) (callback : κ) (data : δ)
    (t : FdTable κ δ) : FdTable κ δ :=
  if calloc then
    let t := { t with fdEvents := t.fdEvents ++ [({ callback, data } : LoopFdEvent κ δ)] }
    let t :=
      if t.fdLength = t.fdCapacity then
        { t with fdCapacity := t.fdCapacity + 10, fds := t.fds ++ List.replicate 10 ({} : Pollfd) }
      else t
    { t with fds := t.fds.set t.fdLength { fd, events := mask }, fdLength := t.fdLength + 1 }
  else t

/-- The loop of `loop_remove_fd`: the position of the first cell with the descriptor. -/
def findFd (fds : List Pollfd) (fd : Int) : List (LoopFdEvent κ δ) → Nat → Option Nat
  | [], _ => none
  | _ :: events, fdIndex =>
    if fds[fdIndex]?.any fun p => p.fd = fd then some fdIndex
    else findFd fds fd events (fdIndex + 1)

/-- `loop_remove_fd`. -/
def loopRemoveFd (fd : Int) (t : FdTable κ δ) : FdTable κ δ × Bool :=
  match findFd t.fds fd t.fdEvents 0 with
  | some fdIndex =>
    let fdLength := t.fdLength - 1
    ({ t with
        fdEvents := t.fdEvents.eraseIdx fdIndex, fdLength
        fds := memmove t.fds fdIndex (fdIndex + 1) (fdLength - fdIndex) }, true)
  | none => (t, false)

def POLLERR : UInt16 := 0x008
def POLLHUP : UInt16 := 0x010

/-- What `poll` writes into the cells it is given. -/
def pollFds (revents : Nat → UInt16) (t : FdTable κ δ) : FdTable κ δ :=
  { t with
    fds := t.fds.mapIdx fun i p =>
      if i < t.fdLength then { p with revents := revents i } else p }

/-- A call of a callback. -/
structure FdCall (κ δ : Type) where
  callback : κ
  fd : Int
  mask : UInt16
  data : δ
  deriving DecidableEq, Repr

/-- The test of `loop_poll`: an event that was asked for, `POLLHUP` or `POLLERR`. -/
def Ready (revents events : UInt16) : Prop := revents &&& (events ||| POLLHUP ||| POLLERR) ≠ 0

instance (revents events : UInt16) : Decidable (Ready revents events) :=
  inferInstanceAs (Decidable (_ ≠ _))

/-- The dispatch of `loop_poll` over the list, with an index into the array. -/
def dispatchFds (fds : List Pollfd) : List (LoopFdEvent κ δ) → Nat → List (FdCall κ δ)
  | [], _ => []
  | event :: events, fdIndex =>
    match fds[fdIndex]? with
    | some pfd =>
      (if Ready pfd.revents pfd.events then [⟨event.callback, pfd.fd, pfd.revents, event.data⟩]
        else []) ++ dispatchFds fds events (fdIndex + 1)
    | none => []

/-- The callbacks a `loop_poll` calls. -/
def pollCalls (revents : Nat → UInt16) (t : FdTable κ δ) : List (FdCall κ δ) :=
  dispatchFds (pollFds revents t).fds t.fdEvents 0

/-! ## The abstract table -/

/-- What a `loop_add_fd` has asked for. -/
structure Registration (κ δ : Type) where
  fd : Int
  mask : UInt16
  callback : κ
  data : δ
  deriving DecidableEq, Repr

def Registration.event (r : Registration κ δ) : LoopFdEvent κ δ := ⟨r.callback, r.data⟩

/-- The cell is that of the registration; `poll` has written its third field. -/
def Pollfd.Of (p : Pollfd) (r : Registration κ δ) : Prop := p.fd = r.fd ∧ p.events = r.mask

/-- Remove the first registration of a descriptor. -/
def unregister (fd : Int) (regs : List (Registration κ δ)) : List (Registration κ δ) :=
  regs.eraseP fun r => r.fd = fd

/-- The calls for the registrations from a position on. -/
def registeredCalls (revents : Nat → UInt16) : List (Registration κ δ) → Nat → List (FdCall κ δ)
  | [], _ => []
  | r :: regs, i =>
    (if Ready (revents i) r.mask then [⟨r.callback, r.fd, revents i, r.data⟩] else []) ++
      registeredCalls revents regs (i + 1)

/-- Position by position, the array and the list hold the registrations. -/
structure Aligned (t : FdTable κ δ) (regs : List (Registration κ δ)) : Prop where
  events : t.fdEvents = regs.map Registration.event
  length : t.fdLength = regs.length
  capacity : t.fdCapacity = t.fds.length
  cells : ∃ used spare, t.fds = used ++ spare ∧ List.Forall₂ Pollfd.Of used regs

theorem Aligned.le {t : FdTable κ δ} {regs : List (Registration κ δ)} (h : Aligned t regs) :
    t.fdLength ≤ t.fdCapacity := by
  obtain ⟨used, spare, hfds, hall⟩ := h.cells
  rw [h.length, h.capacity, hfds, List.length_append, ← hall.length_eq]
  omega

theorem aligned_create : Aligned (loopCreate : FdTable κ δ) [] :=
  ⟨rfl, rfl, rfl, [], _, rfl, .nil⟩

/-! ## The operations -/

/-- **Adding** appends a registration. -/
theorem aligned_addFd {t : FdTable κ δ} {regs : List (Registration κ δ)} (h : Aligned t regs)
    (r : Registration κ δ) :
    Aligned (loopAddFd true r.fd r.mask r.callback r.data t) (regs ++ [r]) := by
  obtain ⟨hevents, hlength, hcapacity, used, spare, hfds, hall⟩ := h
  have hused : used.length = t.fdLength := by rw [hall.length_eq, hlength]
  have hone : List.Forall₂ Pollfd.Of (used ++ [{ fd := r.fd, events := r.mask }]) (regs ++ [r]) :=
    List.rel_append hall (.cons ⟨rfl, rfl⟩ .nil)
  -- the first spare cell is overwritten, after a growth if there is none
  have hset : ∀ c rest, (used ++ c :: rest).set t.fdLength { fd := r.fd, events := r.mask } =
      (used ++ [{ fd := r.fd, events := r.mask }]) ++ rest := by
    intro c rest
    rw [← hused, List.set_append_right _ _ (Nat.le_refl _), Nat.sub_self, List.append_assoc]
    rfl
  unfold loopAddFd
  rw [if_pos rfl]
  dsimp only
  split
  · rename_i hfull
    refine ⟨?_, by simp [hlength], by simp [hcapacity], ?_⟩
    · simp [hevents, Registration.event]
    · obtain rfl : spare = [] := by
        rw [hcapacity, hfds, List.length_append] at hfull
        exact List.length_eq_zero_iff.mp (by omega)
      refine ⟨_, List.replicate 9 ({} : Pollfd), ?_, hone⟩
      rw [hfds, List.append_nil]
      exact hset {} (List.replicate 9 ({} : Pollfd))
  · rename_i hroom
    refine ⟨?_, by simp [hlength], by simp [hcapacity], ?_⟩
    · simp [hevents, Registration.event]
    · cases spare with
      | nil =>
        rw [hcapacity, hfds, List.append_nil, hused] at hroom
        exact absurd rfl hroom
      | cons c rest =>
        refine ⟨_, rest, ?_, hone⟩
        rw [hfds]
        exact hset c rest

/-- The position the loop finds is that of the first registration. -/
theorem findFd_eq (fd : Int) {used : List Pollfd} {regs : List (Registration κ δ)}
    (h : List.Forall₂ Pollfd.Of used regs) (front spare : List Pollfd) :
    findFd (front ++ used ++ spare) fd (regs.map Registration.event) front.length =
      (regs.findIdx? fun r => r.fd = fd).map (· + front.length) := by
  induction h generalizing front with
  | nil => rfl
  | @cons p r used regs hp hall ih =>
    have hcell : (front ++ p :: used ++ spare)[front.length]? = some p := by simp
    have hnext := ih (front ++ [p])
    rw [List.length_append, List.length_singleton, List.append_assoc front] at hnext
    rw [List.map_cons, findFd, hcell, List.findIdx?_cons]
    simp only [Option.any_some, hp.1]
    split
    · simp
    · rw [List.singleton_append] at hnext
      rw [hnext, Option.map_map]
      congr 1
      funext i
      show i + (front.length + 1) = i + 1 + front.length
      omega

/-- Moving the cells behind a position one to the front. -/
theorem memmove_erase {α : Type} (front back spare : List α) (c : α) :
    ∃ rest, memmove (front ++ c :: back ++ spare) front.length (front.length + 1) back.length =
      (front ++ back) ++ rest ∧ rest.length = spare.length + 1 := by
  refine ⟨(front ++ c :: back ++ spare).drop (front.length + back.length), ?_, ?_⟩
  · have hfront : (front ++ c :: back ++ spare).take front.length = front := by
      rw [List.append_assoc, List.take_left]
    have hback :
        ((front ++ c :: back ++ spare).drop (front.length + 1)).take back.length = back := by
      rw [List.append_assoc, List.drop_append, List.drop_of_length_le (by omega), List.nil_append,
        Nat.add_sub_cancel_left]
      simp
    rw [memmove, hfront, hback]
  · simp only [List.length_drop, List.length_append, List.length_cons]
    omega

theorem loopRemoveFd_none {fd : Int} {t : FdTable κ δ} (h : findFd t.fds fd t.fdEvents 0 = none) :
    loopRemoveFd fd t = (t, false) := by
  rw [loopRemoveFd, h]

theorem loopRemoveFd_some {fd : Int} {t : FdTable κ δ} {i : Nat}
    (h : findFd t.fds fd t.fdEvents 0 = some i) :
    loopRemoveFd fd t =
      ({ t with
          fdEvents := t.fdEvents.eraseIdx i, fdLength := t.fdLength - 1
          fds := memmove t.fds i (i + 1) (t.fdLength - 1 - i) }, true) := by
  rw [loopRemoveFd, h]

/-- **Removing** takes out the first registration of the descriptor, if there is one. -/
theorem aligned_removeFd {t : FdTable κ δ} {regs : List (Registration κ δ)} (h : Aligned t regs)
    (fd : Int) :
    Aligned (loopRemoveFd fd t).1 (unregister fd regs) ∧
      ((loopRemoveFd fd t).2 = true ↔ ∃ r ∈ regs, r.fd = fd) ∧
      ((loopRemoveFd fd t).2 = false → (loopRemoveFd fd t).1 = t) := by
  have ⟨hevents, hlength, hcapacity, used, spare, hfds, hall⟩ := h
  have hfind := findFd_eq fd hall [] spare
  rw [List.nil_append, ← hfds, ← hevents, List.length_nil] at hfind
  rw [unregister, List.eraseP_eq_eraseIdx]
  cases hidx : regs.findIdx? fun r => r.fd = fd with
  | none =>
    rw [hidx] at hfind
    have hno : ∀ r ∈ regs, ¬ r.fd = fd := by simpa using List.findIdx?_eq_none_iff.mp hidx
    rw [loopRemoveFd_none hfind]
    exact ⟨h, ⟨nofun, fun ⟨r, hr, he⟩ => absurd he (hno r hr)⟩, fun _ => rfl⟩
  | some i =>
    rw [hidx, Option.map_some, Nat.add_zero] at hfind
    obtain ⟨hi, hfd, -⟩ := List.findIdx?_eq_some_iff_getElem.mp hidx
    rw [loopRemoveFd_some hfind]
    refine ⟨?_, ⟨fun _ => ⟨regs[i], List.getElem_mem hi, by simpa using hfd⟩, fun _ => rfl⟩, nofun⟩
    -- the cell at that position
    have hiu : i < used.length := by rw [hall.length_eq]; exact hi
    have hsplit : used = used.take i ++ used[i] :: used.drop (i + 1) := by
      rw [← List.drop_eq_getElem_cons hiu, List.take_append_drop]
    have hfront : (used.take i).length = i := by rw [List.length_take]; omega
    have hback : (used.drop (i + 1)).length = t.fdLength - 1 - i := by
      rw [List.length_drop, hall.length_eq, ← hlength]
      omega
    obtain ⟨rest, hmove, hrest⟩ := memmove_erase (used.take i) (used.drop (i + 1)) spare used[i]
    rw [← hsplit, ← hfds, hfront, hback, ← List.eraseIdx_eq_take_drop_succ] at hmove
    refine ⟨?_, ?_, ?_, used.eraseIdx i, rest, hmove, ?_⟩
    · show t.fdEvents.eraseIdx i = (regs.eraseIdx i).map Registration.event
      rw [hevents]
      exact List.eraseIdx_map Registration.event regs i
    · show t.fdLength - 1 = (regs.eraseIdx i).length
      rw [List.length_eraseIdx_of_lt hi, hlength]
    · show t.fdCapacity = (memmove _ _ _ _).length
      rw [hmove, hcapacity, hfds, List.length_append, List.length_append,
        List.length_eraseIdx_of_lt hiu, hrest]
      omega
    · show List.Forall₂ Pollfd.Of (used.eraseIdx i) (regs.eraseIdx i)
      rw [List.eraseIdx_eq_take_drop_succ, List.eraseIdx_eq_take_drop_succ]
      exact List.rel_append (List.forall₂_take i hall) (List.forall₂_drop (i + 1) hall)

/-- `poll` writes no field that says whose the cell is. -/
theorem aligned_poll {t : FdTable κ δ} {regs : List (Registration κ δ)} (h : Aligned t regs)
    (revents : Nat → UInt16) : Aligned (pollFds revents t) regs := by
  obtain ⟨hevents, hlength, hcapacity, used, spare, hfds, hall⟩ := h
  refine ⟨hevents, hlength, by simpa [pollFds] using hcapacity, ?_⟩
  refine ⟨_, _, by rw [pollFds, hfds, List.mapIdx_append], ?_⟩
  rw [List.forall₂_iff_get]
  refine ⟨by simpa using hall.length_eq, fun i hi hi' => ?_⟩
  have hof := hall.get (by simpa using hi) hi'
  simp only [List.get_eq_getElem, List.getElem_mapIdx] at hof ⊢
  split
  · exact hof
  · exact hof

/-- The dispatch from a position on, over cells that `poll` has written. -/
theorem dispatchFds_eq (revents : Nat → UInt16) {used : List Pollfd}
    {regs : List (Registration κ δ)} (h : List.Forall₂ Pollfd.Of used regs)
    (front spare : List Pollfd)
    (hr : ∀ i (hi : i < used.length), used[i].revents = revents (front.length + i)) :
    dispatchFds (front ++ used ++ spare) (regs.map Registration.event) front.length =
      registeredCalls revents regs front.length := by
  induction h generalizing front with
  | nil => rfl
  | @cons p r used regs hp hall ih =>
    have hcell : (front ++ p :: used ++ spare)[front.length]? = some p := by simp
    have hrevents : p.revents = revents front.length := hr 0 (Nat.zero_lt_succ _)
    have hnext := ih (front ++ [p]) (fun i hi => by
      have := hr (i + 1) (Nat.succ_lt_succ hi)
      rw [List.length_append, List.length_singleton, Nat.add_assoc, Nat.add_comm 1 i]
      exact this)
    rw [List.length_append, List.length_singleton, List.append_assoc front,
      List.singleton_append] at hnext
    rw [List.map_cons, dispatchFds, hcell, registeredCalls, ← hnext]
    dsimp only
    rw [hp.1, hp.2, hrevents]
    rfl

/-- **`loop_poll` calls what is registered.** -/
theorem pollCalls_eq {t : FdTable κ δ} {regs : List (Registration κ δ)} (h : Aligned t regs)
    (revents : Nat → UInt16) : pollCalls revents t = registeredCalls revents regs 0 := by
  obtain ⟨hevents, hlength, -, used, spare, hfds, hall⟩ := aligned_poll h revents
  have hr : ∀ i (hi : i < used.length), used[i].revents = revents (0 + i) := by
    intro i hi
    have hlt : i < t.fdLength := by rw [h.length, ← hall.length_eq]; exact hi
    have hcell : (pollFds revents t).fds[i]? = some used[i] := by
      rw [hfds, List.getElem?_append_left hi, List.getElem?_eq_getElem hi]
    rw [pollFds, List.getElem?_mapIdx, Option.map_eq_some_iff] at hcell
    obtain ⟨p, -, hp⟩ := hcell
    rw [if_pos hlt] at hp
    rw [← hp, Nat.zero_add]
  have hcalls := dispatchFds_eq revents hall [] spare hr
  rw [List.nil_append, ← hfds, ← hevents] at hcalls
  exact hcalls

/-! ## Every sequence of calls -/

/-- A call into `loop.c`. -/
inductive FdOp (κ δ : Type)
  /-- `loop_add_fd`, with the allocation of the event. -/
  | addFd (calloc : Bool) (r : Registration κ δ)
  /-- `loop_remove_fd`. -/
  | removeFd (fd : Int)
  /-- `loop_poll`, with what `poll` reports. -/
  | poll (revents : Nat → UInt16)

def FdOp.apply (t : FdTable κ δ) : FdOp κ δ → FdTable κ δ
  | .addFd calloc r => loopAddFd calloc r.fd r.mask r.callback r.data t
  | .removeFd fd => (loopRemoveFd fd t).1
  | .poll revents => pollFds revents t

/-- The same call on the abstract table. -/
def FdOp.register (regs : List (Registration κ δ)) : FdOp κ δ → List (Registration κ δ)
  | .addFd true r => regs ++ [r]
  | .addFd false _ => regs
  | .removeFd fd => unregister fd regs
  | .poll _ => regs

def tableAfter (ops : List (FdOp κ δ)) : FdTable κ δ := ops.foldl FdOp.apply loopCreate

/-- The registrations that are left, in the order in which they were made. -/
def registeredAfter (ops : List (FdOp κ δ)) : List (Registration κ δ) :=
  ops.foldl FdOp.register []

theorem aligned_apply {t : FdTable κ δ} {regs : List (Registration κ δ)} (h : Aligned t regs)
    (op : FdOp κ δ) : Aligned (FdOp.apply t op) (FdOp.register regs op) := by
  cases op with
  | addFd calloc r =>
    cases calloc with
    | false => exact h
    | true => exact aligned_addFd h r
  | removeFd fd => exact (aligned_removeFd h fd).1
  | poll revents => exact aligned_poll h revents

theorem aligned_foldl (ops : List (FdOp κ δ)) {t : FdTable κ δ} {regs : List (Registration κ δ)}
    (h : Aligned t regs) : Aligned (ops.foldl FdOp.apply t) (ops.foldl FdOp.register regs) := by
  induction ops generalizing t regs with
  | nil => exact h
  | cons op ops ih => exact ih (aligned_apply h op)

/-- **The table is aligned after every sequence of calls**: `loop_poll` calls what is registered,
and `loop_remove_fd` removes the first registration of the descriptor or does nothing. -/
theorem fd_table_aligned (ops : List (FdOp κ δ)) :
    Aligned (tableAfter ops) (registeredAfter ops) ∧
      (tableAfter ops).fdLength ≤ (tableAfter ops).fdCapacity ∧
      (∀ revents, pollCalls revents (tableAfter ops) =
        registeredCalls revents (registeredAfter ops) 0) ∧
      ∀ fd, Aligned (loopRemoveFd fd (tableAfter ops)).1 (unregister fd (registeredAfter ops)) ∧
        ((loopRemoveFd fd (tableAfter ops)).2 = true ↔ ∃ r ∈ registeredAfter ops, r.fd = fd) ∧
        ((loopRemoveFd fd (tableAfter ops)).2 = false →
          (loopRemoveFd fd (tableAfter ops)).1 = tableAfter ops) := by
  have h : Aligned (tableAfter ops) (registeredAfter ops) := aligned_foldl ops aligned_create
  exact ⟨h, h.le, pollCalls_eq h, aligned_removeFd h⟩

end SwaylockAuthd
