import Mathlib.Data.List.Nodup
import SwaylockAuthd.Lib.Transition
import SwaylockAuthd.Clock

/-!
# `loop.c`: the dispatch of the timers

`loop_poll` walks the list of timers with a saved next pointer while the callbacks insert timers at
the head and mark others as removed.  Here the walk is cut into single steps: a callback is what
happens between `visit` and `returns`, any calls of `loop_add_timer` and `loop_remove_timer`.
A pointer is followed only into the list; what it leads to otherwise is `fault`.

* `Stage`: the walk has the rest of the timers in front of it, behind whatever was inserted.
* `Dispatching`: the invariant.  `dispatching_step`: every step keeps it.
* `timer_dispatch`: what every run does with every timer.
-/

namespace SwaylockAuthd

open Transition

variable {κ : Type}

/-! ## The list -/

namespace Loop

def addrs (l : Loop κ) : List Nat := l.timers.map LoopTimer.addr

/-- `loop_remove_timer`. -/
def loopRemoveTimer (l : Loop κ) (addr : Nat) : Loop κ × Bool :=
  (l.removeTimer addr, l.addrs.contains addr)

end Loop

/-- The link behind an element; `none` when it is not in the list. -/
def linkAfter (a : Nat) : List Nat → Option (Option Nat)
  | [] => none
  | b :: bs => if b = a then some bs.head? else linkAfter a bs

/-- The `next` of a pointer; the list head is `none`. -/
def Loop.next (l : Loop κ) : Option Nat → Option (Option Nat)
  | none => some l.addrs.head?
  | some a => linkAfter a l.addrs

/-! ## The walk -/

/-- Where `loop_poll` is.  The fields are its local variables. -/
inductive Phase
  | idle
  | visiting (now : Timespec) (timer tmpTimer : Option Nat)
  | calling (now : Timespec) (timer : Nat) (tmpTimer : Option Nat)
  /-- A pointer to a freed timer has been followed. -/
  | fault
  | destroyed
  deriving DecidableEq, Repr

/-- The timer whose callback runs. -/
def Phase.running : Phase → Option Nat
  | .calling _ timer _ => some timer
  | _ => none

/-- Whether the program may call `loop_add_timer` and `loop_remove_timer`. -/
def Phase.Callable : Phase → Prop
  | .idle | .calling .. => True
  | _ => False

instance : DecidablePred Phase.Callable
  | .idle | .calling .. => isTrue trivial
  | .visiting .. | .fault | .destroyed => isFalse id

/-- The loop, where `loop_poll` is, and the timers freed so far. -/
structure Dispatcher (κ : Type) where
  loop : Loop κ := {}
  phase : Phase := .idle
  freed : List Nat := []
  deriving DecidableEq, Repr

namespace Dispatcher

/-- `wl_list_remove` and `free`. -/
def free (d : Dispatcher κ) (addr : Nat) : Dispatcher κ :=
  { d with loop := d.loop.unlink addr, freed := d.freed ++ [addr] }

/-- `wl_list_for_each_safe` assigns `timer` and reads the pointer behind it at once. -/
def advance (d : Dispatcher κ) (now : Timespec) (timer : Option Nat) : Dispatcher κ :=
  match d.loop.next timer with
  | some tmpTimer => { d with phase := .visiting now timer tmpTimer }
  | none => { d with phase := .fault }

/-- Whether the callback of a timer runs. -/
def calls (d : Dispatcher κ) (addr : Nat) : Bool := d.phase.running = some addr

theorem advance_calls (d : Dispatcher κ) (now : Timespec) (timer : Option Nat) (addr : Nat) :
    (d.advance now timer).calls addr = false := by
  unfold advance
  split <;> rfl

/-- The body of the walk at a timer, up to the call of the callback. -/
def visitTimer (d : Dispatcher κ) (now : Timespec) (addr : Nat) (tmpTimer : Option Nat) :
    Dispatcher κ :=
  match d.loop.find addr with
  | none => { d with phase := .fault }
  | some timer =>
    if timer.removed then (d.free addr).advance now tmpTimer
    else if timer.expiry.before now then { d with phase := .calling now addr tmpTimer }
    else d.advance now tmpTimer

end Dispatcher

inductive TimerOp (κ : Type)
  /-- `loop_add_timer`; `env` is the allocation and the clock. -/
  | addTimer (env : Option Timespec) (ms : Int) (callback : κ)
  /-- `loop_remove_timer`, with any pointer. -/
  | removeTimer (addr : Nat)
  /-- `loop_poll` reaches the dispatch of the timers. -/
  | poll (now : Timespec)
  /-- One round of the walk, or its end. -/
  | visit
  /-- The callback returns. -/
  | returns
  /-- `loop_destroy`. -/
  | destroy
  deriving DecidableEq, Repr

def dispatchStep (op : TimerOp κ) (d : Dispatcher κ) : Option (Dispatcher κ) :=
  match op, d.phase with
  | .addTimer env ms callback, phase =>
    if phase.Callable then some { d with loop := (d.loop.loopAddTimer env ms callback).1 } else none
  | .removeTimer addr, phase =>
    if phase.Callable then some { d with loop := (d.loop.loopRemoveTimer addr).1 } else none
  | .poll now, .idle => some (if d.loop.timers.isEmpty then d else d.advance now d.loop.addrs.head?)
  | .visit, .visiting _ none _ => some { d with phase := .idle }
  | .visit, .visiting now (some addr) tmpTimer => some (d.visitTimer now addr tmpTimer)
  | .returns, .calling now timer tmpTimer => some ((d.free timer).advance now tmpTimer)
  | .destroy, .idle =>
    some { d with
      loop := { d.loop with timers := [] }, phase := .destroyed, freed := d.freed ++ d.loop.addrs }
  | _, _ => none

/-! ## The history of the timers -/

/-- What the dispatch did at a timer. -/
structure TimerVisit where
  addr : Nat
  now : Timespec
  /-- `loop_remove_timer` had returned true for it. -/
  removed : Bool
  /-- Its callback was called. -/
  ran : Bool
  deriving DecidableEq, Repr

structure TimerLog where
  /-- The expiries, in the order of the allocations: `expiries[addr]` belongs to `addr`. -/
  expiries : List Timespec := []
  /-- The timers for which `loop_remove_timer` has returned true. -/
  removed : List Nat := []
  /-- The visits of the dispatches before the last. -/
  past : List TimerVisit := []
  /-- The visits of the last dispatch. -/
  current : List TimerVisit := []
  /-- The timers at the start of the last dispatch. -/
  present : List Nat := []
  deriving DecidableEq, Repr

def TimerLog.visits (log : TimerLog) : List TimerVisit := log.past ++ log.current

/-- The timers whose callbacks were called. -/
def TimerLog.ran (log : TimerLog) : List Nat :=
  (log.visits.filter fun v => v.ran).map TimerVisit.addr

def noteTimers (op : TimerOp κ) (d d' : Dispatcher κ) (log : TimerLog) : TimerLog :=
  match op, d.phase with
  | .addTimer (some now) ms _, _ => { log with expiries := log.expiries ++ [now.plus ms] }
  | .removeTimer addr, _ =>
    if (d.loop.loopRemoveTimer addr).2 then { log with removed := addr :: log.removed } else log
  | .poll _, _ =>
    { log with past := log.past ++ log.current, current := [], present := d.loop.addrs }
  | .visit, .visiting now (some addr) _ =>
    { log with
      current := log.current ++
        [{ addr, now, removed := addr ∈ log.removed, ran := d'.calls addr }] }
  | _, _ => log

/-! ## The invariant -/

/-- The walk has the rest of the timers in front of it.  Callbacks insert at the head, so what is
linked ends with that rest, and the saved pointer is the head of it. -/
inductive Stage (linked visited present : List Nat) : Phase → Prop
  | idle (whole : visited = present) : Stage linked visited present .idle
  | visiting {front rest : List Nat} {now : Timespec} {tmpTimer : Option Nat}
      (linked_eq : linked = front ++ rest) (present_eq : visited ++ rest = present)
      (saved : ∀ a rest', rest = a :: rest' → tmpTimer = rest'.head?) :
      Stage linked visited present (.visiting now rest.head? tmpTimer)
  | calling {front rest : List Nat} {now : Timespec} {timer : Nat}
      (linked_eq : linked = front ++ timer :: rest) (present_eq : visited ++ rest = present) :
      Stage linked visited present (.calling now timer rest.head?)
  | destroyed (empty : linked = []) (whole : visited = present) :
      Stage linked visited present .destroyed

/-- A visit runs the callback if and only if the timer is not removed and has expired. -/
def TimerVisit.Exact (v : TimerVisit) (expiries : List Timespec) : Prop :=
  ∃ expiry, expiries[v.addr]? = some expiry ∧
    (v.ran = true ↔ v.removed = false ∧ expiry.before v.now = true)

/-- The bookkeeping, while the callback of `running` runs. -/
structure Ledger (loop : Loop κ) (freed : List Nat) (running : Option Nat) (log : TimerLog) :
    Prop where
  /-- Every timer is linked or freed, once. -/
  account : (freed ++ loop.addrs).Perm (List.range loop.nextAddr)
  length : log.expiries.length = loop.nextAddr
  expiry : ∀ t ∈ loop.timers, log.expiries[t.addr]? = some t.expiry
  marked : ∀ t ∈ loop.timers, (t.removed = true ↔ t.addr ∈ log.removed)
  given : ∀ a ∈ log.removed, a < loop.nextAddr
  exact : ∀ v ∈ log.visits, v.Exact log.expiries
  once : log.ran.Nodup
  spent : ∀ v ∈ log.visits, v.removed = true ∨ v.ran = true →
    v.addr ∈ freed ∨ running = some v.addr

structure Dispatching (d : Dispatcher κ) (log : TimerLog) : Prop where
  ledger : Ledger d.loop d.freed d.phase.running log
  stage : Stage d.loop.addrs (log.current.map TimerVisit.addr) log.present d.phase

theorem dispatching_init : Dispatching ({} : Dispatcher κ) {} where
  ledger := {
    account := .nil
    length := rfl
    expiry := nofun
    marked := nofun
    given := nofun
    exact := nofun
    once := List.nodup_nil
    spent := nofun }
  stage := .idle rfl

namespace Ledger

variable {loop : Loop κ} {freed : List Nat} {running : Option Nat} {log : TimerLog}

theorem nodup (h : Ledger loop freed running log) : (freed ++ loop.addrs).Nodup :=
  h.account.nodup_iff.mpr List.nodup_range

theorem addrs_nodup (h : Ledger loop freed running log) : loop.addrs.Nodup :=
  (List.nodup_append.mp h.nodup).2.1

/-- No linked timer is freed. -/
theorem not_freed (h : Ledger loop freed running log) {a : Nat} (ha : a ∈ loop.addrs) :
    a ∉ freed :=
  fun hf => (List.nodup_append.mp h.nodup).2.2 a hf a ha rfl

theorem lt (h : Ledger loop freed running log) {a : Nat} (ha : a ∈ loop.addrs) :
    a < loop.nextAddr :=
  List.mem_range.mp (h.account.mem_iff.mp (List.mem_append_right _ ha))

end Ledger

/-- Insertions at the head do not disturb the walk. -/
theorem Stage.insert {linked visited present : List Nat} {phase : Phase}
    (h : Stage linked visited present phase) (hc : phase.Callable) (a : Nat) :
    Stage (a :: linked) visited present phase := by
  cases h with
  | idle whole => exact .idle whole
  | visiting _ _ _ => exact hc.elim
  | calling linked_eq present_eq =>
    exact .calling (by rw [linked_eq, ← List.cons_append]) present_eq
  | destroyed _ _ => exact hc.elim

/-! ## Following pointers -/

theorem linkAfter_append {front rest : List Nat} {a : Nat} (h : (front ++ a :: rest).Nodup) :
    linkAfter a (front ++ a :: rest) = some rest.head? := by
  induction front with
  | nil => simp [linkAfter]
  | cons b front ih =>
    obtain ⟨hb, hrest⟩ := List.nodup_cons.mp h
    have hne : b ≠ a := fun he => hb (by simp [he])
    rw [List.cons_append, linkAfter, if_neg hne]
    exact ih hrest

/-- The pointer to the rest of the list can be followed. -/
theorem next_head {l : Loop κ} {front rest : List Nat} (hl : l.addrs = front ++ rest)
    (hn : l.addrs.Nodup) :
    ∃ tmp, l.next rest.head? = some tmp ∧ ∀ a rest', rest = a :: rest' → tmp = rest'.head? := by
  cases rest with
  | nil => exact ⟨_, rfl, nofun⟩
  | cons a rest =>
    refine ⟨rest.head?, ?_, ?_⟩
    · show linkAfter a l.addrs = _
      rw [hl] at hn ⊢
      exact linkAfter_append hn
    · intro b rest' he
      rw [(List.cons.inj he).2]

theorem getElem?_append_of_some {α : Type} {xs ys : List α} {i : Nat} {x : α}
    (h : xs[i]? = some x) : (xs ++ ys)[i]? = some x := by
  obtain ⟨hi, rfl⟩ := List.getElem?_eq_some_iff.mp h
  rw [List.getElem?_append_left hi, List.getElem?_eq_getElem hi]

/-- A pointer that leads to no timer marks nothing. -/
theorem removeTimer_eq_self {l : Loop κ} {addr : Nat} (h : addr ∉ l.addrs) :
    l.removeTimer addr = l := by
  have hmap : l.timers.map (fun t => if t.addr = addr then { t with removed := true } else t) =
      l.timers := by
    refine (List.map_congr_left fun t ht => ?_).trans (List.map_id _)
    exact if_neg fun he => h (List.mem_map.mpr ⟨t, ht, he⟩)
  rw [Loop.removeTimer, hmap]

theorem find_of_mem {l : Loop κ} {a : Nat} (h : a ∈ l.addrs) :
    ∃ t ∈ l.timers, t.addr = a ∧ l.find a = some t := by
  obtain ⟨u, hu, hua⟩ := List.mem_map.mp h
  cases hf : l.find a with
  | none => simpa [hua] using List.find?_eq_none.mp hf u hu
  | some t => exact ⟨t, List.mem_of_find?_eq_some hf, by simpa using List.find?_some hf, rfl⟩

theorem addrs_removeTimer (l : Loop κ) (addr : Nat) : (l.removeTimer addr).addrs = l.addrs :=
  Loop.map_addr_cancel l (some addr)

theorem addrs_unlink {l : Loop κ} {front rest : List Nat} {a : Nat}
    (hl : l.addrs = front ++ a :: rest) (hn : l.addrs.Nodup) :
    (l.unlink a).addrs = front ++ rest := by
  have hfilter : (l.unlink a).addrs = l.addrs.filter (· ≠ a) := by
    rw [Loop.addrs, Loop.addrs, List.filter_map]
    rfl
  have herase : l.addrs.filter (· ≠ a) = l.addrs.erase a := by
    rw [List.Nodup.erase_eq_filter hn]
    exact List.filter_congr fun b _ => by simp [bne, Bool.beq_eq_decide_eq]
  rw [hl] at hn
  rw [hfilter, herase, hl,
    List.erase_append_right _ (fun hm => (List.nodup_append.mp hn).2.2 a hm a (by simp) rfl),
    List.erase_cons_head]

/-! ## The bookkeeping of the operations -/

namespace Ledger

variable {loop : Loop κ} {freed : List Nat} {running : Option Nat} {log : TimerLog}

/-- The program inserts a timer. -/
theorem add (h : Ledger loop freed running log) (now : Timespec) (ms : Int) (callback : κ) :
    Ledger (loop.loopAddTimer (some now) ms callback).1 freed running
      { log with expiries := log.expiries ++ [now.plus ms] } where
  account := by
    show (freed ++ loop.nextAddr :: loop.addrs).Perm (List.range (loop.nextAddr + 1))
    rw [List.range_succ]
    exact List.perm_middle.trans ((h.account.cons _).trans (List.perm_append_singleton _ _).symm)
  length := by
    rw [List.length_append, h.length]
    rfl
  expiry := by
    intro t ht
    rcases List.mem_cons.mp ht with rfl | ht
    · show (log.expiries ++ [now.plus ms])[loop.nextAddr]? = some (now.plus ms)
      rw [← h.length]
      exact List.getElem?_concat_length
    · exact getElem?_append_of_some (h.expiry t ht)
  marked := by
    intro t ht
    rcases List.mem_cons.mp ht with rfl | ht
    · refine ⟨nofun, fun hm => ?_⟩
      exact absurd (h.given _ hm) (Nat.lt_irrefl _)
    · exact h.marked t ht
  given := fun a ha => Nat.lt_succ_of_lt (h.given a ha)
  exact := by
    intro v hv
    obtain ⟨e, he, hiff⟩ := h.exact v hv
    exact ⟨e, getElem?_append_of_some he, hiff⟩
  once := h.once
  spent := h.spent

/-- The program marks a timer. -/
theorem mark (h : Ledger loop freed running log) {addr : Nat} (ha : addr ∈ loop.addrs) :
    Ledger (loop.removeTimer addr) freed running { log with removed := addr :: log.removed } where
  account := by
    rw [addrs_removeTimer]
    exact h.account
  length := h.length
  expiry := by
    intro t ht
    obtain ⟨u, hu, rfl⟩ := List.mem_map.mp ht
    have he := h.expiry u hu
    split <;> exact he
  marked := by
    intro t ht
    obtain ⟨u, hu, rfl⟩ := List.mem_map.mp ht
    have hiff := h.marked u hu
    rw [List.mem_cons]
    split
    · rename_i hua
      exact ⟨fun _ => Or.inl hua, fun _ => rfl⟩
    · rename_i hua
      rw [hiff]
      exact ⟨Or.inr, fun hm => hm.resolve_left hua⟩
  given := by
    intro a hm
    rcases List.mem_cons.mp hm with rfl | hm
    · exact h.lt ha
    · exact h.given a hm
  exact := h.exact
  once := h.once
  spent := h.spent

/-- The dispatch unlinks and frees a timer. -/
theorem free (h : Ledger loop freed running log) {addr : Nat} (ha : addr ∈ loop.addrs)
    (hr : ∀ a, running = some a → a = addr) :
    Ledger (loop.unlink addr) (freed ++ [addr]) none log where
  account := by
    obtain ⟨front, rest, hl⟩ := List.append_of_mem ha
    have haccount := h.account
    rw [hl] at haccount
    rw [addrs_unlink hl h.addrs_nodup, List.append_assoc]
    have hmove : (addr :: (front ++ rest)).Perm (front ++ addr :: rest) := List.perm_middle.symm
    exact (hmove.append_left freed).trans haccount
  length := h.length
  expiry := fun t ht => h.expiry t (Loop.mem_unlink.mp ht).1
  marked := fun t ht => h.marked t (Loop.mem_unlink.mp ht).1
  given := h.given
  exact := h.exact
  once := h.once
  spent := by
    intro v hv hdone
    refine Or.inl (List.mem_append.mpr ?_)
    rcases h.spent v hv hdone with hf | hrun
    · exact Or.inl hf
    · exact Or.inr (List.mem_singleton.mpr (hr _ hrun))

/-- The dispatch visits a timer: it runs the callback of one that is not removed and has expired. -/
theorem visit (h : Ledger loop freed none log) {t : LoopTimer κ} (ht : t ∈ loop.timers)
    (now : Timespec) (ran : Bool)
    (hran : ran = true ↔ t.removed = false ∧ t.expiry.before now = true) (running : Option Nat)
    (hdone : t.removed = true ∨ ran = true → running = some t.addr) :
    Ledger loop freed running
      { log with current := log.current ++ [⟨t.addr, now, t.addr ∈ log.removed, ran⟩] } where
  account := h.account
  length := h.length
  expiry := h.expiry
  marked := h.marked
  given := h.given
  exact := by
    intro v hv
    rw [TimerLog.visits, ← List.append_assoc, List.mem_append, List.mem_singleton] at hv
    rcases hv with hv | rfl
    · exact h.exact v hv
    · refine ⟨t.expiry, h.expiry t ht, ?_⟩
      rw [hran, ← Bool.not_eq_true, h.marked t ht, ← Bool.not_eq_true, decide_eq_true_eq]
  once := by
    rw [TimerLog.ran, TimerLog.visits, ← List.append_assoc, List.filter_append, List.map_append]
    refine List.nodup_append.mpr ⟨h.once, ?_, ?_⟩
    · cases ran <;> simp
    · rintro a ha b hb rfl
      obtain ⟨v, hv, rfl⟩ := List.mem_map.mp ha
      obtain ⟨hv, hvran⟩ := List.mem_filter.mp hv
      -- what has run is freed, what is visited is not
      have hfreed := (h.spent v hv (Or.inr hvran)).resolve_right nofun
      have hva : v.addr = t.addr := by
        obtain ⟨w, hw, hwa⟩ := List.mem_map.mp hb
        rw [← hwa, List.mem_singleton.mp (List.mem_filter.mp hw).1]
      rw [hva] at hfreed
      exact h.not_freed (List.mem_map_of_mem ht) hfreed
  spent := by
    intro v hv hd
    rw [TimerLog.visits, ← List.append_assoc, List.mem_append, List.mem_singleton] at hv
    rcases hv with hv | rfl
    · exact Or.inl ((h.spent v hv hd).resolve_right nofun)
    · refine Or.inr (hdone ?_)
      rw [h.marked t ht]
      simpa using hd

/-- `loop_destroy` frees what is left. -/
theorem destroy (h : Ledger loop freed none log) :
    Ledger ({ loop with timers := [] } : Loop κ) (freed ++ loop.addrs) none log where
  account := by
    have hnil : ({ loop with timers := [] } : Loop κ).addrs = [] := rfl
    rw [hnil, List.append_nil]
    exact h.account
  length := h.length
  expiry := fun _ ht => nomatch ht
  marked := fun _ ht => nomatch ht
  given := h.given
  exact := h.exact
  once := h.once
  spent := fun v hv hd =>
    Or.inl (List.mem_append_left _ ((h.spent v hv hd).resolve_right nofun))

/-- A dispatch begins. -/
theorem poll (h : Ledger loop freed running log) :
    Ledger loop freed running
      { log with past := log.past ++ log.current, current := [], present := loop.addrs } where
  account := h.account
  length := h.length
  expiry := h.expiry
  marked := h.marked
  given := h.given
  exact := by
    intro v hv
    rw [TimerLog.visits, List.append_nil] at hv
    exact h.exact v hv
  once := by
    rw [TimerLog.ran, TimerLog.visits, List.append_nil]
    exact h.once
  spent := by
    intro v hv
    rw [TimerLog.visits, List.append_nil] at hv
    exact h.spent v hv

end Ledger

/-! ## The steps -/

section Steps

variable {d : Dispatcher κ} {log : TimerLog}

/-- The end of a round: the next pointer can be followed. -/
theorem dispatching_advance {now : Timespec} {front rest : List Nat}
    (h : Ledger d.loop d.freed none log) (hl : d.loop.addrs = front ++ rest)
    (hp : log.current.map TimerVisit.addr ++ rest = log.present) :
    Dispatching (d.advance now rest.head?) log := by
  obtain ⟨tmp, hnext, hsaved⟩ := next_head hl h.addrs_nodup
  rw [Dispatcher.advance, hnext]
  exact ⟨h, .visiting hl hp hsaved⟩

/-- A round of the walk. -/
theorem dispatching_visitTimer {now : Timespec} {front rest : List Nat} {addr : Nat}
    (h : Ledger d.loop d.freed none log) (hl : d.loop.addrs = front ++ addr :: rest)
    (hp : log.current.map TimerVisit.addr ++ addr :: rest = log.present) :
    Dispatching (d.visitTimer now addr rest.head?)
      { log with
        current := log.current ++ [{
          addr, now, removed := addr ∈ log.removed
          ran := (d.visitTimer now addr rest.head?).calls addr }] } := by
  have hm : addr ∈ d.loop.addrs := by rw [hl]; simp
  obtain ⟨t, ht, rfl, hfind⟩ := find_of_mem hm
  have hp' : ∀ v : TimerVisit, v.addr = t.addr →
      (log.current ++ [v]).map TimerVisit.addr ++ rest = log.present := by
    intro v hv
    rw [List.map_append, List.map_singleton, hv, List.append_assoc]
    exact hp
  rw [Dispatcher.visitTimer, hfind]
  dsimp only
  split
  · -- marked: it is freed without a call
    rename_i hmarked
    have hvisit := h.visit ht now false (by simp [hmarked]) (some t.addr) (fun _ => rfl)
    have hfree := hvisit.free hm (fun a ha => (Option.some.inj ha).symm)
    rw [Dispatcher.advance_calls]
    exact dispatching_advance (d := d.free t.addr) hfree (addrs_unlink hl h.addrs_nodup) (hp' _ rfl)
  · rename_i hmarked
    have hlive : t.removed = false := Bool.not_eq_true _ ▸ hmarked
    split
    · -- expired: the callback is called, the timer is freed when it returns
      rename_i hexpired
      have hvisit := h.visit ht now true (by simp [hlive, hexpired]) (some t.addr) (fun _ => rfl)
      have hcalls :
          ({ d with phase := .calling now t.addr rest.head? } : Dispatcher κ).calls t.addr = true :=
        decide_eq_true rfl
      rw [hcalls]
      exact ⟨hvisit, .calling hl (hp' _ rfl)⟩
    · rename_i hexpired
      have hvisit := h.visit ht now false (by simp [hexpired]) none (by simp [hlive])
      have hl' : d.loop.addrs = (front ++ [t.addr]) ++ rest := by rw [hl, List.append_assoc]; rfl
      rw [Dispatcher.advance_calls]
      exact dispatching_advance hvisit hl' (hp' _ rfl)

/-- A timer that is removed stays in the list, if it is there. -/
theorem dispatching_removeTimer {addr : Nat} (h : Dispatching d log) :
    Dispatching { d with loop := (d.loop.loopRemoveTimer addr).1 }
      (if (d.loop.loopRemoveTimer addr).2 then { log with removed := addr :: log.removed }
        else log) := by
  by_cases hm : addr ∈ d.loop.addrs
  · have hfound : (d.loop.loopRemoveTimer addr).2 = true := by
      simpa [Loop.loopRemoveTimer] using hm
    rw [if_pos hfound]
    refine ⟨h.ledger.mark hm, ?_⟩
    show Stage (d.loop.removeTimer addr).addrs _ _ _
    rw [addrs_removeTimer]
    exact h.stage
  · have hfound : ¬ (d.loop.loopRemoveTimer addr).2 = true := by
      simpa [Loop.loopRemoveTimer] using hm
    rw [if_neg hfound, Loop.loopRemoveTimer, removeTimer_eq_self hm]
    exact ⟨h.ledger, h.stage⟩

/-- A dispatch starts at the head of the list, if there is one. -/
theorem dispatching_poll {loop : Loop κ} {freed : List Nat} (now : Timespec)
    (h : Ledger loop freed none log) :
    Dispatching (if loop.timers.isEmpty then ⟨loop, .idle, freed⟩
        else Dispatcher.advance ⟨loop, .idle, freed⟩ now loop.addrs.head?)
      { log with past := log.past ++ log.current, current := [], present := loop.addrs } := by
  split
  · rename_i hempty
    have hnil : loop.addrs = [] := by
      rw [Loop.addrs, List.isEmpty_iff.mp hempty, List.map_nil]
    exact ⟨h.poll, .idle hnil.symm⟩
  · have hl : loop.addrs = [] ++ loop.addrs := rfl
    exact dispatching_advance h.poll hl rfl

/-- **Every step keeps the invariant.** -/
theorem dispatching_step {op : TimerOp κ} {d' : Dispatcher κ} (h : Dispatching d log)
    (hstep : dispatchStep op d = some d') : Dispatching d' (noteTimers op d d' log) := by
  obtain ⟨loop, phase, freed⟩ := d
  obtain ⟨hledger, hstage⟩ := h
  dsimp only at hledger hstage
  cases op with
  | addTimer env ms callback =>
    simp only [dispatchStep] at hstep
    split at hstep
    · rename_i hc
      obtain rfl := Option.some.inj hstep
      cases env with
      | none => exact ⟨hledger, hstage⟩
      | some now => exact ⟨hledger.add now ms callback, hstage.insert hc _⟩
    · cases hstep
  | removeTimer addr =>
    simp only [dispatchStep] at hstep
    split at hstep
    · obtain rfl := Option.some.inj hstep
      exact @dispatching_removeTimer κ ⟨loop, phase, freed⟩ log addr ⟨hledger, hstage⟩
    · cases hstep
  | poll now =>
    cases hstage with
    | idle whole =>
      obtain rfl := Option.some.inj hstep
      exact dispatching_poll now hledger
    | visiting _ _ _ => cases hstep
    | calling _ _ => cases hstep
    | destroyed _ _ => cases hstep
  | visit =>
    cases hstage with
    | idle _ => cases hstep
    | @visiting front rest now tmp hl hp hsaved =>
      cases rest with
      | nil =>
        obtain rfl := Option.some.inj hstep
        rw [List.append_nil] at hp
        exact ⟨hledger, .idle hp⟩
      | cons addr rest =>
        obtain rfl := Option.some.inj hstep
        obtain rfl := hsaved addr rest rfl
        exact dispatching_visitTimer hledger hl hp
    | calling _ _ => cases hstep
    | destroyed _ _ => cases hstep
  | returns =>
    cases hstage with
    | idle _ => cases hstep
    | visiting _ _ _ => cases hstep
    | @calling front rest now timer hl hp =>
      obtain rfl := Option.some.inj hstep
      have hm : timer ∈ loop.addrs := by rw [hl]; simp
      have hfree := hledger.free hm (fun a ha => (Option.some.inj ha).symm)
      exact dispatching_advance hfree (addrs_unlink hl hledger.addrs_nodup) hp
    | destroyed _ _ => cases hstep
  | destroy =>
    cases hstage with
    | idle whole =>
      obtain rfl := Option.some.inj hstep
      exact ⟨hledger.destroy, .destroyed rfl whole⟩
    | visiting _ _ _ => cases hstep
    | calling _ _ => cases hstep
    | destroyed _ _ => cases hstep

end Steps

/-! ## Every run -/

/-- **The dispatch of the timers**, in every run: no freed timer is visited; each timer is linked or
freed, once; no callback is called twice; each visit calls the callback if and only if the timer is
not removed and has expired; the visits are the timers present at the start, in their order; what is
removed or has run is freed. -/
theorem timer_dispatch {ops : List (TimerOp κ)} {d : Dispatcher κ} {log : TimerLog}
    (h : run (monitored dispatchStep noteTimers) ops ({}, {}) = some (d, log)) :
    d.phase ≠ .fault ∧
      (d.freed ++ d.loop.addrs).Perm (List.range d.loop.nextAddr) ∧
      (d.phase = .destroyed → d.freed.Perm (List.range d.loop.nextAddr)) ∧
      log.ran.Nodup ∧
      (∀ v ∈ log.visits, v.Exact log.expiries) ∧
      log.current.map TimerVisit.addr <+: log.present ∧
      (d.phase = .idle → log.current.map TimerVisit.addr = log.present) ∧
      ∀ v ∈ log.visits, v.removed = true ∨ v.ran = true →
        v.addr ∈ d.freed ∨ d.phase.running = some v.addr := by
  have hinv : Dispatching d log :=
    run_invariant (I := fun x => Dispatching x.1 x.2)
      (fun op x y hx hxy => by
        obtain ⟨hstep, hnote⟩ := monitored_eq_some.mp hxy
        rw [hnote]
        exact dispatching_step hx hstep) h dispatching_init
  obtain ⟨loop, phase, freed⟩ := d
  obtain ⟨hledger, hstage⟩ := hinv
  dsimp only at hledger hstage ⊢
  refine ⟨?_, hledger.account, ?_, hledger.once, hledger.exact, ?_, ?_, hledger.spent⟩
  · rintro rfl
    cases hstage
  · rintro rfl
    cases hstage with
    | destroyed empty _ =>
      have haccount := hledger.account
      rw [empty, List.append_nil] at haccount
      exact haccount
  · cases hstage with
    | idle whole => exact ⟨[], by rw [List.append_nil, whole]⟩
    | visiting _ hp _ => exact ⟨_, hp⟩
    | calling _ hp => exact ⟨_, hp⟩
    | destroyed _ whole => exact ⟨[], by rw [List.append_nil, whole]⟩
  · rintro rfl
    cases hstage with
    | idle whole => exact whole

/-- A callback that removes the timer to be visited next, marks itself and adds a timer. -/
def reentrant : List (TimerOp Unit) :=
  [.addTimer (some ⟨0, 0⟩) 5 (), .addTimer (some ⟨0, 0⟩) 3 (), .addTimer (some ⟨0, 0⟩) 0 (),
    .poll ⟨0, 4000000⟩, .visit, .removeTimer 1, .removeTimer 2, .addTimer (some ⟨0, 0⟩) 1 (),
    .returns, .visit, .visit, .visit]

/-- The timer added is not visited, the one removed does not run, the third has not expired. -/
theorem timer_dispatch_reentrant :
    ∃ (d : Dispatcher Unit) (log : TimerLog),
      run (monitored dispatchStep noteTimers) reentrant ({}, {}) = some (d, log) ∧
        d.phase = .idle ∧ log.ran = [2] ∧ log.present = [2, 1, 0] ∧ d.freed = [2, 1] ∧
        d.loop.addrs = [3, 0] ∧ (d.freed ++ d.loop.addrs).Perm (List.range 4) ∧
        log.current.map TimerVisit.addr = log.present := by
  obtain ⟨⟨d, log⟩, hrun, hphase, hran, hpresent, hfreed, haddrs, hnext⟩ :
      ∃ x, run (monitored dispatchStep noteTimers) reentrant ({}, {}) = some x ∧
        x.1.phase = .idle ∧ x.2.ran = [2] ∧ x.2.present = [2, 1, 0] ∧ x.1.freed = [2, 1] ∧
        x.1.loop.addrs = [3, 0] ∧ x.1.loop.nextAddr = 4 :=
    ⟨_, rfl, by decide +kernel⟩
  obtain ⟨-, haccount, -, -, -, -, hwhole, -⟩ := timer_dispatch hrun
  rw [hnext] at haccount
  exact ⟨d, log, hrun, hphase, hran, hpresent, hfreed, haddrs, haccount, hwhole hphase⟩

end SwaylockAuthd
