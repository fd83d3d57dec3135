import Mathlib.Data.List.Nodup

/-!
# `loop.c`: timers

The loop keeps its timers in a list.  A pointer to a timer is the number of the
allocation, which no later allocation gets again.  `loopRemoveTimer` only marks a
timer; the dispatch unlinks and frees the marked ones, runs the callbacks of the
expired ones and frees these after the callback.

* `due`, `stale`: what the dispatch does at one timer.  The callback itself belongs to the caller.
-/

namespace SwaylockAuthd

/-- `struct timespec`. -/
structure Timespec where
  tvSec : Int := 0
  tvNsec : Int := 0
  deriving DecidableEq, Repr

/-- The test of `loop_poll`. -/
def Timespec.before (expiry now : Timespec) : Bool :=
  expiry.tvSec < now.tvSec || (expiry.tvSec == now.tvSec && expiry.tvNsec < now.tvNsec)

/-- The reading of the clock `ms` milliseconds later, carried as `loop_add_timer` does. -/
def Timespec.after (now : Timespec) (ms : Nat) : Timespec :=
  let nsec : Int := (ms % 1000 : Nat) * 1000000
  if 1000000000 ≤ now.tvNsec + nsec then
    ⟨now.tvSec + (ms / 1000 : Nat) + 1, now.tvNsec + (nsec - 1000000000)⟩
  else ⟨now.tvSec + (ms / 1000 : Nat), now.tvNsec + nsec⟩

/-- `struct loop_timer`; `κ` names the callbacks. -/
structure LoopTimer (κ : Type) where
  addr : Nat
  callback : κ
  expiry : Timespec
  removed : Bool := false
  deriving DecidableEq, Repr

/-- `struct loop`: its timers, and the number of the next allocation. -/
structure Loop (κ : Type) where
  timers : List (LoopTimer κ) := []
  nextAddr : Nat := 0
  deriving DecidableEq, Repr

variable {κ : Type}

namespace Loop

/-- `loop_add_timer`; the allocation fails (`none`) or the clock reads `now`. -/
def addTimer (l : Loop κ) (env : Option Timespec) (ms : Nat) (callback : κ) :
    Loop κ × Option Nat :=
  match env with
  | none => (l, none)
  | some now =>
    ({ timers := { addr := l.nextAddr, callback, expiry := now.after ms } :: l.timers
       nextAddr := l.nextAddr + 1 }, some l.nextAddr)

/-- `loop_remove_timer`, without its result. -/
def removeTimer (l : Loop κ) (addr : Nat) : Loop κ :=
  { l with timers := l.timers.map fun t => if t.addr = addr then { t with removed := true } else t }

/-- `loop_remove_timer` unless the pointer is `NULL`. -/
def cancel (l : Loop κ) : Option Nat → Loop κ
  | none => l
  | some addr => l.removeTimer addr

/-- Replace the timer a pointer points to, if any. -/
def reschedule (l : Loop κ) (timer : Option Nat) (env : Option Timespec) (ms : Nat)
    (callback : κ) : Loop κ × Option Nat :=
  (l.cancel timer).addTimer env ms callback

/-- The timer a pointer points to. -/
def find (l : Loop κ) (addr : Nat) : Option (LoopTimer κ) :=
  l.timers.find? fun t => t.addr = addr

/-- Unlink and free a timer. -/
def unlink (l : Loop κ) (addr : Nat) : Loop κ :=
  { l with timers := l.timers.filter fun t => t.addr ≠ addr }

/-- Whether the dispatch at time `now` runs the callback of the timer. -/
def due (l : Loop κ) (now : Timespec) (addr : Nat) : Option κ :=
  match l.find addr with
  | some t => if t.removed = false ∧ t.expiry.before now then some t.callback else none
  | none => none

/-- Whether the dispatch frees the timer without running it. -/
def stale (l : Loop κ) (addr : Nat) : Bool :=
  match l.find addr with
  | some t => t.removed
  | none => false

/-! ## The timers that can still fire -/

theorem mem_cancel {l : Loop κ} {timer : Option Nat} {t : LoopTimer κ}
    (h : t ∈ (l.cancel timer).timers) (hl : t.removed = false) :
    t ∈ l.timers ∧ timer ≠ some t.addr := by
  cases timer with
  | none => exact ⟨h, by simp⟩
  | some addr =>
    obtain ⟨u, hu, he⟩ := List.mem_map.mp h
    by_cases ha : u.addr = addr
    · rw [if_pos ha] at he
      subst he
      simp at hl
    · rw [if_neg ha] at he
      subst he
      exact ⟨hu, fun hc => ha (by simpa using hc.symm)⟩

/-- A timer that can fire after `reschedule` is the new one, or one the old
pointer did not point to. -/
theorem mem_reschedule {l : Loop κ} {timer : Option Nat} {env : Option Timespec} {ms : Nat}
    {callback : κ} {t : LoopTimer κ}
    (h : t ∈ (l.reschedule timer env ms callback).1.timers) (hl : t.removed = false) :
    (t.callback = callback ∧ (l.reschedule timer env ms callback).2 = some t.addr) ∨
      (t ∈ l.timers ∧ timer ≠ some t.addr) := by
  cases env with
  | none => exact Or.inr (mem_cancel h hl)
  | some now =>
    rcases List.mem_cons.mp h with rfl | hm
    · exact Or.inl ⟨rfl, rfl⟩
    · exact Or.inr (mem_cancel hm hl)

theorem mem_unlink {l : Loop κ} {addr : Nat} {t : LoopTimer κ} :
    t ∈ (l.unlink addr).timers ↔ t ∈ l.timers ∧ t.addr ≠ addr := by
  simp [unlink]

/-- A callback that runs belongs to a timer that was in the list. -/
theorem mem_of_due {l : Loop κ} {now : Timespec} {addr : Nat} {callback : κ}
    (h : l.due now addr = some callback) :
    ∃ t ∈ l.timers, t.addr = addr ∧ t.callback = callback ∧ t.removed = false := by
  unfold due at h
  cases hf : l.find addr with
  | none => simp [hf] at h
  | some t =>
    simp only [hf] at h
    split at h
    · rename_i hlive
      have ha : t.addr = addr := by simpa using List.find?_some hf
      exact ⟨t, List.mem_of_find?_eq_some hf, ha, by simpa using h, hlive.1⟩
    · cases h

/-! ## Pointers into the list -/

/-- Every timer of the list has a number of its own, one the loop has given out. -/
structure Sound (l : Loop κ) : Prop where
  nodup : (l.timers.map LoopTimer.addr).Nodup
  lt : ∀ t ∈ l.timers, t.addr < l.nextAddr

/-- A pointer that may be followed: its timer is in the list, is not marked removed, and
has this callback. -/
def Live (l : Loop κ) (addr : Nat) (callback : κ) : Prop :=
  ∃ t ∈ l.timers, t.addr = addr ∧ t.removed = false ∧ t.callback = callback

theorem sound_empty : Sound ({} : Loop κ) := ⟨List.nodup_nil, by simp⟩

/-- A timer has one callback. -/
theorem Sound.callback_eq {l : Loop κ} (h : l.Sound) {addr : Nat} {c d : κ} (hc : l.Live addr c)
    (hd : l.Live addr d) : c = d := by
  obtain ⟨t, ht, hta, -, rfl⟩ := hc
  obtain ⟨u, hu, hua, -, rfl⟩ := hd
  have htu : t = u := List.inj_on_of_nodup_map h.nodup ht hu (hta.trans hua.symm)
  rw [htu]

theorem map_addr_cancel (l : Loop κ) (timer : Option Nat) :
    (l.cancel timer).timers.map LoopTimer.addr = l.timers.map LoopTimer.addr := by
  cases timer with
  | none => rfl
  | some addr =>
    show (l.timers.map _).map _ = _
    rw [List.map_map]
    refine List.map_congr_left fun t _ => ?_
    show (if t.addr = addr then { t with removed := true } else t).addr = t.addr
    split <;> rfl

theorem Sound.cancel {l : Loop κ} (h : l.Sound) (timer : Option Nat) : (l.cancel timer).Sound := by
  have hmap := map_addr_cancel l timer
  have hnext : (l.cancel timer).nextAddr = l.nextAddr := by cases timer <;> rfl
  refine ⟨by rw [hmap]; exact h.nodup, fun t ht => ?_⟩
  have hm : t.addr ∈ l.timers.map LoopTimer.addr := by
    rw [← hmap]
    exact List.mem_map_of_mem ht
  obtain ⟨u, hu, hua⟩ := List.mem_map.mp hm
  rw [hnext, ← hua]
  exact h.lt u hu

theorem Sound.reschedule {l : Loop κ} (h : l.Sound) (timer : Option Nat) (env : Option Timespec)
    (ms : Nat) (callback : κ) : (l.reschedule timer env ms callback).1.Sound := by
  have hc := h.cancel timer
  cases env with
  | none => exact hc
  | some now =>
    refine ⟨?_, fun t ht => ?_⟩
    · show (_ :: (l.cancel timer).timers.map LoopTimer.addr).Nodup
      refine List.nodup_cons.mpr ⟨fun hm => ?_, hc.nodup⟩
      obtain ⟨u, hu, hua⟩ := List.mem_map.mp hm
      exact absurd (hc.lt u hu) (by rw [hua]; exact Nat.lt_irrefl _)
    · rcases List.mem_cons.mp ht with rfl | ht
      · exact Nat.lt_succ_self _
      · exact Nat.lt_succ_of_lt (hc.lt t ht)

theorem Sound.unlink {l : Loop κ} (h : l.Sound) (addr : Nat) : (l.unlink addr).Sound :=
  ⟨h.nodup.sublist (List.filter_sublist.map _), fun t ht => h.lt t (mem_unlink.mp ht).1⟩

theorem Live.cancel {l : Loop κ} {addr : Nat} {c : κ} (h : l.Live addr c) {timer : Option Nat}
    (hne : timer ≠ some addr) : (l.cancel timer).Live addr c := by
  obtain ⟨t, ht, rfl, hr, hc⟩ := h
  cases timer with
  | none => exact ⟨t, ht, rfl, hr, hc⟩
  | some a =>
    have ha : ¬ t.addr = a := fun he => hne (by rw [he])
    refine ⟨t, List.mem_map.mpr ⟨t, ht, if_neg ha⟩, rfl, hr, hc⟩

theorem Live.reschedule {l : Loop κ} {addr : Nat} {c : κ} (h : l.Live addr c) {timer : Option Nat}
    (hne : timer ≠ some addr) (env : Option Timespec) (ms : Nat) (callback : κ) :
    (l.reschedule timer env ms callback).1.Live addr c := by
  obtain ⟨t, ht, hrest⟩ := h.cancel hne
  cases env with
  | none => exact ⟨t, ht, hrest⟩
  | some now => exact ⟨t, List.mem_cons_of_mem _ ht, hrest⟩

/-- The timer `reschedule` adds. -/
theorem live_rescheduled {l : Loop κ} {timer : Option Nat} {env : Option Timespec} {ms addr : Nat}
    {callback : κ} (h : (l.reschedule timer env ms callback).2 = some addr) :
    (l.reschedule timer env ms callback).1.Live addr callback := by
  cases env with
  | none => cases h
  | some now => exact ⟨_, List.mem_cons_self, Option.some.inj h, rfl, rfl⟩

theorem Live.unlink {l : Loop κ} {addr : Nat} {c : κ} (h : l.Live addr c) {other : Nat}
    (hne : addr ≠ other) : (l.unlink other).Live addr c := by
  obtain ⟨t, ht, rfl, hrest⟩ := h
  exact ⟨t, mem_unlink.mpr ⟨ht, hne⟩, rfl, hrest⟩

/-- A callback that runs is that of a pointer that may be followed. -/
theorem live_of_due {l : Loop κ} {now : Timespec} {addr : Nat} {callback : κ}
    (h : l.due now addr = some callback) : l.Live addr callback := by
  obtain ⟨t, ht, ha, hc, hr⟩ := mem_of_due h
  exact ⟨t, ht, ha, hr, hc⟩

/-- What a pointer that may be followed leads to. -/
theorem Sound.find_of_live {l : Loop κ} (h : l.Sound) {addr : Nat} {c : κ} (hl : l.Live addr c) :
    ∃ t, l.find addr = some t ∧ t.removed = false ∧ t.callback = c := by
  obtain ⟨t, ht, rfl, hr, hc⟩ := hl
  cases hf : l.find t.addr with
  | none => simpa using List.find?_eq_none.mp hf t ht
  | some u =>
    have hu : u.addr = t.addr := by simpa using List.find?_some hf
    have hut : u = t :=
      List.inj_on_of_nodup_map h.nodup (List.mem_of_find?_eq_some hf) ht hu
    rw [hut]
    exact ⟨t, rfl, hr, hc⟩

/-- The dispatch only frees a marked timer: not one a pointer points to. -/
theorem Sound.not_stale {l : Loop κ} (h : l.Sound) {addr : Nat} {c : κ} (hl : l.Live addr c) :
    l.stale addr = false := by
  obtain ⟨t, hf, hr, -⟩ := h.find_of_live hl
  rw [stale, hf]
  exact hr

end Loop

end SwaylockAuthd
