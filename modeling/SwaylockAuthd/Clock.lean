import Mathlib.Algebra.Order.Ring.Abs
import SwaylockAuthd.Lib.CInt
import SwaylockAuthd.Loop

/-!
# `loop.c`: the arithmetic of the timers

`loop_add_timer` adds milliseconds to a clock reading, and `loop_poll` turns the expiries back into
milliseconds for `poll`.  The second direction goes through an `int` that may wrap, and divides
nanoseconds that may be negative.

* `plus_exact`: the stored expiry is exact and normalised.
* `abs_timerMs_sub_lt`: the milliseconds of one timer are off by less than one.
* `timer_arithmetic`: so is the timeout, over all timers.
-/

namespace SwaylockAuthd

open CInt

def INT_MAX : Int := 2 ^ 31 - 1

/-! ## Adding a timer -/

namespace Timespec

/-- The expiry of `loop_add_timer`, for an `int` of milliseconds. -/
def plus (now : Timespec) (ms : Int) : Timespec :=
  let tvSec := now.tvSec + ms.tdiv 1000
  let nsec := ms.tmod 1000 * 1000000
  if 1000000000 ≤ now.tvNsec + nsec then
    ⟨tvSec + 1, now.tvNsec + (nsec - 1000000000)⟩
  else ⟨tvSec, now.tvNsec + nsec⟩

/-- The nanoseconds since the epoch of the clock. -/
def nanos (t : Timespec) : Int := t.tvSec * 1000000000 + t.tvNsec

/-- What the clock reads. -/
def Normal (t : Timespec) : Prop := 0 ≤ t.tvNsec ∧ t.tvNsec < 1000000000

instance (t : Timespec) : Decidable t.Normal := inferInstanceAs (Decidable (_ ∧ _))

/-- **The expiry is exact and normalised.** -/
theorem plus_exact {now : Timespec} (h : now.Normal) {ms : Int} (hms : 0 ≤ ms) :
    (now.plus ms).Normal ∧ (now.plus ms).nanos = now.nanos + ms * 1000000 := by
  have hsplit := Int.tdiv_mul_add_tmod ms 1000
  have hlo : 0 ≤ ms.tmod 1000 := Int.tmod_nonneg 1000 hms
  have hhi : ms.tmod 1000 < 1000 := Int.tmod_lt_of_pos ms (by decide)
  obtain ⟨h0, h1⟩ := h
  unfold plus Normal nanos
  dsimp only
  split
  · refine ⟨⟨?_, ?_⟩, ?_⟩ <;> dsimp only <;> omega
  · refine ⟨⟨?_, ?_⟩, ?_⟩ <;> dsimp only <;> omega

end Timespec

variable {κ : Type}

namespace Loop

/-- `loop_add_timer`, for an `int` of milliseconds. -/
def loopAddTimer (l : Loop κ) (env : Option Timespec) (ms : Int) (callback : κ) :
    Loop κ × Option Nat :=
  match env with
  | none => (l, none)
  | some now =>
    ({ timers := { addr := l.nextAddr, callback, expiry := now.plus ms } :: l.timers
       nextAddr := l.nextAddr + 1 }, some l.nextAddr)

end Loop

/-! ## The timeout of `poll` -/

/-- The `timer_ms` of `loop_poll`, an `int`. -/
def LoopTimer.timerMs (t : LoopTimer κ) (now : Timespec) : Int :=
  let timerMs := word 32 ((t.expiry.tvSec - now.tvSec) * 1000)
  word 32 (timerMs + (t.expiry.tvNsec - now.tvNsec).tdiv 1000000)

/-- The nanoseconds left until the expiry. -/
def LoopTimer.remaining (t : LoopTimer κ) (now : Timespec) : Int :=
  t.expiry.nanos - now.nanos

/-- The timeout `loop_poll` passes to `poll`. -/
def Loop.pollTimeout (l : Loop κ) (now : Timespec) : Int :=
  let ms := l.timers.foldl (fun ms t => if t.timerMs now < ms then t.timerMs now else ms) INT_MAX
  if ms < 0 then 0 else ms

/-- **The milliseconds of one timer are off by less than one**, also when the seconds wrap. -/
theorem abs_timerMs_sub_lt {t : LoopTimer κ} {now : Timespec}
    (lo : -(INT_MAX * 1000000) ≤ t.remaining now) (hi : t.remaining now ≤ INT_MAX * 1000000) :
    |t.timerMs now * 1000000 - t.remaining now| < 1000000 := by
  have hdiv := abs_tdiv_mul_sub_lt (t.expiry.tvNsec - now.tvNsec) (d := 1000000) (by decide)
  rw [abs_lt] at hdiv
  have hrem : t.remaining now =
      (t.expiry.tvSec - now.tvSec) * 1000000000 + (t.expiry.tvNsec - now.tvNsec) := by
    unfold LoopTimer.remaining Timespec.nanos
    omega
  unfold LoopTimer.timerMs
  dsimp only
  rw [word_word_add]
  generalize (t.expiry.tvNsec - now.tvNsec).tdiv 1000000 = q at hdiv ⊢
  unfold INT_MAX at lo hi
  rw [word_of_fits (by constructor <;> omega), abs_lt]
  omega

/-- The least of some numbers, as the loop over the timers finds it. -/
theorem foldl_least {α : Type} (f : α → Int) (l : List α) (m : Int) :
    (∀ a ∈ l, l.foldl (fun ms a => if f a < ms then f a else ms) m ≤ f a) ∧
      l.foldl (fun ms a => if f a < ms then f a else ms) m ≤ m ∧
      (l.foldl (fun ms a => if f a < ms then f a else ms) m = m ∨
        ∃ a ∈ l, l.foldl (fun ms a => if f a < ms then f a else ms) m = f a) := by
  induction l generalizing m with
  | nil => exact ⟨by simp, le_refl m, Or.inl rfl⟩
  | cons b l ih =>
    rw [List.foldl_cons]
    obtain ⟨hall, hle, hex⟩ := ih (if f b < m then f b else m)
    have hb : (if f b < m then f b else m) ≤ f b := by split <;> omega
    have hm : (if f b < m then f b else m) ≤ m := by split <;> omega
    refine ⟨?_, le_trans hle hm, ?_⟩
    · intro a ha
      rcases List.mem_cons.mp ha with rfl | ha
      · exact le_trans hle hb
      · exact hall a ha
    · rcases hex with he | ⟨a, ha, he⟩
      · rw [he]
        split
        · exact Or.inr ⟨b, List.mem_cons_self, rfl⟩
        · exact Or.inl rfl
      · exact Or.inr ⟨a, List.mem_cons_of_mem b ha, he⟩

/-- A timer that `loop_add_timer` has created at an earlier clock reading. -/
def LoopTimer.CreatedBefore (t : LoopTimer κ) (now : Timespec) : Prop :=
  ∃ created : Timespec, ∃ ms : Int, created.Normal ∧ 0 ≤ ms ∧ ms ≤ INT_MAX ∧
    t.expiry = created.plus ms ∧ created.nanos ≤ now.nanos

/-- No more than `INT_MAX` milliseconds are left to a timer. -/
theorem LoopTimer.CreatedBefore.remaining_le {t : LoopTimer κ} {now : Timespec}
    (h : t.CreatedBefore now) : t.remaining now ≤ INT_MAX * 1000000 := by
  obtain ⟨created, ms, hnormal, h0, hmax, he, hbefore⟩ := h
  have hexact := (Timespec.plus_exact hnormal h0).2
  rw [LoopTimer.remaining, he]
  unfold INT_MAX at *
  omega

/-- **The timeout is off by less than a millisecond** from the time left to the earliest timer. -/
theorem pollTimeout_exact {l : Loop κ} {now : Timespec}
    (hcreated : ∀ t ∈ l.timers, t.CreatedBefore now)
    (hoverdue : ∀ t ∈ l.timers, -(INT_MAX * 1000000) ≤ t.remaining now) {t : LoopTimer κ}
    (ht : t ∈ l.timers) (hfirst : ∀ u ∈ l.timers, t.remaining now ≤ u.remaining now) :
    0 ≤ l.pollTimeout now ∧
      |l.pollTimeout now * 1000000 - max 0 (t.remaining now)| < 1000000 := by
  have hone : ∀ u ∈ l.timers, |u.timerMs now * 1000000 - u.remaining now| < 1000000 :=
    fun u hu => abs_timerMs_sub_lt (hoverdue u hu) (hcreated u hu).remaining_le
  obtain ⟨hall, -, hex⟩ := foldl_least (fun u => u.timerMs now) l.timers INT_MAX
  have hupper := hall t ht
  have htime := abs_lt.mp (hone t ht)
  have hmax := (hcreated t ht).remaining_le
  unfold Loop.pollTimeout
  dsimp only at hupper hex ⊢
  generalize l.timers.foldl (fun ms t => if t.timerMs now < ms then t.timerMs now else ms)
    INT_MAX = ms at hupper hex ⊢
  -- the least is not much less than the time left to the earliest timer
  have hlower : t.remaining now - 1000000 < ms * 1000000 := by
    rcases hex with he | ⟨u, hu, he⟩
    · omega
    · have hu' := abs_lt.mp (hone u hu)
      have := hfirst u hu
      omega
  rw [abs_lt]
  split
  · refine ⟨le_refl 0, ?_, ?_⟩
    · rcases max_cases 0 (t.remaining now) with ⟨h, -⟩ | ⟨h, -⟩ <;> rw [h] <;> omega
    · rcases max_cases 0 (t.remaining now) with ⟨h, -⟩ | ⟨h, -⟩ <;> rw [h] <;> omega
  · refine ⟨by omega, ?_, ?_⟩
    · rcases max_cases 0 (t.remaining now) with ⟨h, -⟩ | ⟨h, -⟩ <;> rw [h] <;> omega
    · rcases max_cases 0 (t.remaining now) with ⟨h, -⟩ | ⟨h, -⟩ <;> rw [h] <;> omega

/-- **The timers keep time**: the stored expiry is exact, and `poll` is told the time left to the
earliest timer up to less than a millisecond. -/
theorem timer_arithmetic :
    (∀ (l : Loop κ) (now : Timespec) (ms : Int) (callback : κ), now.Normal → 0 ≤ ms →
      ms ≤ INT_MAX → ∃ t, (l.loopAddTimer (some now) ms callback).1.timers = t :: l.timers ∧
        t.expiry.Normal ∧ t.expiry.nanos = now.nanos + ms * 1000000) ∧
    ∀ (l : Loop κ) (now : Timespec), (∀ t ∈ l.timers, t.CreatedBefore now) →
      (∀ t ∈ l.timers, -(INT_MAX * 1000000) ≤ t.remaining now) →
      ∀ t ∈ l.timers, (∀ u ∈ l.timers, t.remaining now ≤ u.remaining now) →
        0 ≤ l.pollTimeout now ∧
          |l.pollTimeout now * 1000000 - max 0 (t.remaining now)| < 1000000 := by
  constructor
  · intro l now ms callback hnow h0 hmax
    exact ⟨_, rfl, Timespec.plus_exact hnow h0⟩
  · intro l now hcreated hoverdue t ht hfirst
    exact pollTimeout_exact hcreated hoverdue ht hfirst

/-- The longest delay, asked for a nanosecond after it was armed: the seconds do not fit in an `int`
when counted in milliseconds. -/
theorem timer_arithmetic_longest :
    ∃ t : LoopTimer Unit, ((Loop.loopAddTimer {} (some ⟨5, 999999999⟩) INT_MAX ()).1).timers = [t] ∧
      t.expiry.Normal ∧ t.expiry.nanos = 5999999999 + INT_MAX * 1000000 ∧
      0 ≤ (Loop.mk [t] 1).pollTimeout ⟨6, 0⟩ ∧
      |(Loop.mk [t] 1).pollTimeout ⟨6, 0⟩ * 1000000 - (INT_MAX * 1000000 - 1)| < 1000000 := by
  obtain ⟨hadd, hpoll⟩ := @timer_arithmetic Unit
  obtain ⟨t, ht, hnormal, hnanos⟩ :=
    hadd {} ⟨5, 999999999⟩ INT_MAX () (by decide) (by decide) (by decide)
  have hrem : t.remaining ⟨6, 0⟩ = INT_MAX * 1000000 - 1 := by
    rw [LoopTimer.remaining, hnanos]
    decide
  have hone : ∀ u ∈ [t], u = t := fun u hu => List.mem_singleton.mp hu
  have hexpiry : t.expiry = Timespec.plus ⟨5, 999999999⟩ INT_MAX :=
    (congrArg LoopTimer.expiry (List.cons.inj ht).1).symm
  have hcreated : ∀ u ∈ [t], u.CreatedBefore ⟨6, 0⟩ := by
    intro u hu
    rw [hone u hu]
    exact ⟨⟨5, 999999999⟩, INT_MAX, by decide, by decide, by decide, hexpiry, by decide⟩
  have hoverdue : ∀ u ∈ [t], -(INT_MAX * 1000000) ≤ u.remaining ⟨6, 0⟩ := by
    intro u hu
    rw [hone u hu, hrem]
    decide
  have hfirst : ∀ u ∈ [t], t.remaining ⟨6, 0⟩ ≤ u.remaining ⟨6, 0⟩ := by
    intro u hu
    rw [hone u hu]
  obtain ⟨h0, habs⟩ := hpoll (Loop.mk [t] 1) ⟨6, 0⟩ hcreated hoverdue t List.mem_cons_self hfirst
  rw [hrem] at habs
  exact ⟨t, ht, hnormal, hnanos, h0, habs⟩

end SwaylockAuthd
