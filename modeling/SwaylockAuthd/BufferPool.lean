import SwaylockAuthd.Lib.Custody
import SwaylockAuthd.Lib.Transition
import SwaylockAuthd.PoolBuffer

/-!
# The two buffers of the indicator

`get_next_buffer` reuses, resizes and creates buffers in two places, and the compositor gives them
back in any order.

* `take_cases`: a buffer is reused, created, or there is none.
* `consistent_step`: both places hold a whole buffer or nothing, and no `wl_buffer` is lost.
* `owned_get`: what a call may do; `busy_run`: a busy buffer is left alone until its release.
* `pool_ownership`: both, for every sequence of calls and releases.
-/

namespace SwaylockAuthd.Shm

open Transition

/-! ## The pool -/

structure PoolState where
  pool : Fin 2 → PoolBuffer := fun _ => {}
  display : Display := {}

/-- A call of `get_next_buffer`, or the event `release` of a `wl_buffer`. -/
inductive PoolAction
  | get (env : ShmEnv) (width height : UInt32)
  | release (i : Fin 2)

/-- `get_next_buffer` on the pool. -/
def PoolState.get (env : ShmEnv) (width height : UInt32) (s : PoolState) :
    Option (Fin 2) × PoolState :=
  let r := getNextBuffer env s.display s.pool width height
  (r.1, ⟨r.2.1, r.2.2⟩)

/-- The compositor releases what it has. -/
def poolStep : PoolAction → PoolState → Option PoolState
  | .get env width height, s => some (s.get env width height).2
  | .release i, s =>
    if (s.pool i).busy then
      some { s with pool := Function.update s.pool i (bufferRelease (s.pool i)) }
    else none

/-- There are pixels, and their bytes can be counted in an `int`. -/
def Drawable (width height : UInt32) : Prop :=
  0 < 4 * width.toNat * height.toNat ∧ 4 * width.toNat * height.toNat < 2 ^ 31

instance (width height : UInt32) : Decidable (Drawable width height) :=
  inferInstanceAs (Decidable (_ ∧ _))

def PoolAction.Sized : PoolAction → Prop
  | .get _ width height => Drawable width height
  | .release _ => True

def WlBuffer.id? : WlBuffer → Option Nat
  | .proxy id => some id
  | _ => none

/-- Which `wl_buffer`s there are, and where. -/
def custody (s : PoolState) : Custody (Fin 2) where
  made := s.display.created
  disposed := s.display.destroyed
  slot i := (s.pool i).buffer.id?

/-- All of a buffer is there. -/
structure Ready (b : PoolBuffer) : Prop where
  buffer : ∃ id, b.buffer = .proxy id
  surface : b.surface = true
  cairo : b.cairo = true
  data : b.data ≠ .null
  size : b.size = 4 * b.width.toNat * b.height.toNat
  pos : 0 < b.size
  fits : b.size < 2 ^ 31

/-- All of a buffer is there, or nothing. -/
def Settled (b : PoolBuffer) : Prop := b = {} ∨ Ready b

/-- Both buffers are settled, and the `wl_buffer`s that were not destroyed are in them. -/
structure Consistent (s : PoolState) : Prop where
  settled : ∀ i, Settled (s.pool i)
  custody : (custody s).Valid

/-! ## Sizes -/

/-- A word without a sign. -/
theorem toInt_toInt32 {n : UInt32} (h : n.toNat < 2 ^ 31) : n.toInt32.toInt = n.toNat := by
  have hbits : (n.toNat : Int) = n.toInt32.toInt % 2 ^ 32 := toNat_toUInt32 n.toInt32
  have hlo := Int32.le_toInt n.toInt32
  have hhi := Int32.toInt_lt n.toInt32
  omega

variable {width height : UInt32}

/-- Both sides are positive and small. -/
theorem Drawable.sides (h : Drawable width height) :
    (0 < width.toNat ∧ width.toNat < 2 ^ 31) ∧ 0 < height.toNat ∧ height.toNat < 2 ^ 31 := by
  obtain ⟨hpos, hlt⟩ := h
  have hw : 0 < width.toNat := by
    rcases Nat.eq_zero_or_pos width.toNat with h0 | h
    · rw [h0] at hpos
      simp at hpos
    · exact h
  have hh : 0 < height.toNat := by
    rcases Nat.eq_zero_or_pos height.toNat with h0 | h
    · rw [h0] at hpos
      simp at hpos
    · exact h
  have hlw : 4 * width.toNat * 1 ≤ 4 * width.toNat * height.toNat := Nat.mul_le_mul_left _ hh
  have hlh : 4 * height.toNat * 1 ≤ 4 * height.toNat * width.toNat := Nat.mul_le_mul_left _ hw
  have hcomm : 4 * height.toNat * width.toNat = 4 * width.toNat * height.toNat := by
    rw [Nat.mul_right_comm]
  exact ⟨⟨hw, by omega⟩, hh, by omega⟩

/-- The size is exact. -/
theorem Drawable.size_eq (h : Drawable width height) :
    size width.toInt32 height.toInt32 = 4 * width.toNat * height.toNat := by
  obtain ⟨⟨hw, hlw⟩, hh, hlh⟩ := h.sides
  have hsize := @size_of_fits width.toInt32 height.toInt32
  rw [toInt_toInt32 hlw, toInt_toInt32 hlh] at hsize
  have hexact := hsize (Int.natCast_pos.mpr hw) (Int.natCast_pos.mpr hh) (by exact_mod_cast h.2)
  exact_mod_cast hexact

/-! ## One buffer -/

/-- What becomes of a buffer that is not busy: it is reused, created anew, or emptied. -/
inductive Takes (env : ShmEnv) (d : Display) (b : PoolBuffer) (width height : UInt32) :
    Bool × PoolBuffer × Display → Prop
  | reuse (ready : Ready b) (same : b.width = width ∧ b.height = height) :
      Takes env d b width height (true, { b with busy := true }, d)
  | create {b' : PoolBuffer} (ready : Ready b') (same : b'.width = width ∧ b'.height = height)
      (busy : b'.busy = true) (buffer : b'.buffer = .proxy d.created) :
      Takes env d b width height
        (true, b', { (destroyBuffer d b).2 with created := d.created + 1 })
  | fail (h : env.creates = false) : Takes env d b width height (false, {}, (destroyBuffer d b).2)

theorem created_destroyBuffer (d : Display) (b : PoolBuffer) :
    (destroyBuffer d b).2.created = d.created := by
  unfold destroyBuffer
  split <;> rfl

/-- An empty element gets a buffer, or stays empty. -/
theorem takes_empty (env : ShmEnv) (d : Display) (h : Drawable width height) :
    (createBuffer env d {} width.toInt32 height.toInt32 = none ∧ env.creates = false) ∨
      ∃ b, createBuffer env d {} width.toInt32 height.toInt32 =
          some (b, { d with created := d.created + 1 }) ∧
        Ready { b with busy := true } ∧ b.width = width ∧ b.height = height ∧
        b.buffer = .proxy d.created := by
  have hsize := h.size_eq
  rw [createBuffer_eq, if_pos (hsize ▸ h.1)]
  cases hc : env.creates with
  | false => exact Or.inl ⟨rfl, rfl⟩
  | true =>
    refine Or.inr ⟨_, rfl, ⟨⟨_, rfl⟩, rfl, rfl, ?_, hsize, hsize ▸ h.1, hsize ▸ h.2⟩, rfl, rfl, rfl⟩
    dsimp only
    split <;> nofun

/-- **What becomes of a buffer that is not busy.** -/
theorem take_cases (env : ShmEnv) (d : Display) {b : PoolBuffer} (hb : Settled b)
    (h : Drawable width height) :
    Takes env d b width height (b.take env d width height) := by
  unfold PoolBuffer.take
  dsimp only
  by_cases hsame : b.width = width ∧ b.height = height
  · have hready : Ready b := by
      rcases hb with rfl | hready
      · have h0 : width.toNat = 0 := by rw [← hsame.1]; rfl
        exact absurd h.sides.1.1 (by omega)
      · exact hready
    obtain ⟨id, hid⟩ := hready.buffer
    have hnot : ¬ (b.width ≠ width ∨ b.height ≠ height) := by
      rw [not_or, not_not, not_not]
      exact hsame
    rw [if_neg hnot, if_neg (by rw [hid]; nofun)]
    exact .reuse hready hsame
  · have hdiffers : b.width ≠ width ∨ b.height ≠ height := by
      by_contra hnot
      rw [not_or, not_not, not_not] at hnot
      exact hsame hnot
    rw [if_pos hdiffers, abstract_destroyBuffer, if_pos rfl]
    rcases takes_empty env (destroyBuffer d b).2 h with
      ⟨hnone, hfails⟩ | ⟨b', hsome, hready, hw, hh, hid⟩
    · rw [hnone]
      have hpair : (destroyBuffer d b) = ({}, (destroyBuffer d b).2) :=
        Prod.ext (abstract_destroyBuffer d b) rfl
      dsimp only
      rw [hpair]
      exact .fail hfails
    · rw [hsome, created_destroyBuffer]
      rw [created_destroyBuffer] at hid
      exact .create hready ⟨hw, hh⟩ rfl hid

theorem Takes.settled {env : ShmEnv} {d : Display} {b : PoolBuffer}
    {r : Bool × PoolBuffer × Display} (h : Takes env d b width height r) : Settled r.2.1 := by
  cases h with
  | reuse ready => exact Or.inr { ready with }
  | create ready => exact Or.inr ready
  | fail => exact Or.inl rfl

/-- A buffer that is not busy is what is returned, or nothing is. -/
theorem Takes.returned {env : ShmEnv} {d : Display} {b : PoolBuffer}
    {r : Bool × PoolBuffer × Display} (h : Takes env d b width height r) (hr : r.1 = true) :
    r.2.1.busy = true ∧ r.2.1.width = width ∧ r.2.1.height = height ∧
      ∃ id, r.2.1.buffer = .proxy id := by
  cases h with
  | reuse ready same => exact ⟨rfl, same.1, same.2, ready.buffer⟩
  | create ready same busy buffer => exact ⟨busy, same.1, same.2, _, buffer⟩
  | fail => cases hr

theorem Takes.refused {env : ShmEnv} {d : Display} {b : PoolBuffer}
    {r : Bool × PoolBuffer × Display} (h : Takes env d b width height r) (hr : r.1 = false) :
    env.creates = false ∧ r.2.1.busy = false := by
  cases h with
  | reuse => cases hr
  | create => cases hr
  | fail h => exact ⟨h, rfl⟩

/-! ## The `wl_buffer`s -/

variable {s : PoolState}

/-- An element that keeps its `wl_buffer`. -/
theorem custody_keep {i : Fin 2} {b : PoolBuffer} (hb : b.buffer = (s.pool i).buffer) :
    custody ⟨Function.update s.pool i b, s.display⟩ = custody s := by
  refine Custody.ext rfl rfl (funext fun j => ?_)
  by_cases hj : j = i
  · subst hj
    simp [custody, hb]
  · simp [custody, hj]

/-- An element that is emptied. -/
theorem custody_destroy (i : Fin 2) :
    custody ⟨Function.update s.pool i {}, (destroyBuffer s.display (s.pool i)).2⟩ =
      (custody s).dispose i := by
  refine Custody.ext (created_destroyBuffer _ _) ?_ (funext fun j => ?_)
  · show (destroyBuffer s.display (s.pool i)).2.destroyed =
      (s.pool i).buffer.id?.toList ++ s.display.destroyed
    unfold destroyBuffer
    cases (s.pool i).buffer <;> rfl
  · by_cases hj : j = i
    · subst hj
      simp [custody, Custody.dispose, WlBuffer.id?]
    · simp [custody, Custody.dispose, hj]

/-- An element that is emptied and gets a new `wl_buffer`. -/
theorem custody_create (i : Fin 2) {b : PoolBuffer} (hb : b.buffer = .proxy s.display.created) :
    custody ⟨Function.update s.pool i b,
        { (destroyBuffer s.display (s.pool i)).2 with created := s.display.created + 1 }⟩ =
      ((custody s).dispose i).make i := by
  rw [← custody_destroy]
  have hmade := created_destroyBuffer s.display (s.pool i)
  refine Custody.ext ?_ rfl (funext fun j => ?_)
  · show s.display.created + 1 = (destroyBuffer s.display (s.pool i)).2.created + 1
    rw [hmade]
  · by_cases hj : j = i
    · subst hj
      simp [custody, Custody.make, WlBuffer.id?, hb, hmade]
    · simp [custody, Custody.make, hj]

/-- **No `wl_buffer` is lost**, whatever becomes of a buffer. -/
theorem Takes.custody {env : ShmEnv} {i : Fin 2} {r : Bool × PoolBuffer × Display}
    (h : Takes env s.display (s.pool i) width height r) (hs : (custody s).Valid) :
    (Shm.custody ⟨Function.update s.pool i r.2.1, r.2.2⟩).Valid := by
  cases h with
  | reuse =>
    have hkeep := @custody_keep s i { s.pool i with busy := true } rfl
    show (Shm.custody ⟨Function.update s.pool i { s.pool i with busy := true }, s.display⟩).Valid
    rw [hkeep]
    exact hs
  | create ready same busy buffer =>
    rw [custody_create i buffer]
    exact (hs.dispose i).make (Custody.slot_dispose_self i)
  | fail =>
    rw [custody_destroy]
    exact hs.dispose i

/-! ## Calls -/

theorem freeBuffer_eq_none {pool : Fin 2 → PoolBuffer} :
    freeBuffer pool = none ↔ ∀ i, (pool i).busy = true := by
  rw [freeBuffer_eq, Fin.forall_fin_two]
  cases (pool 0).busy <;> cases (pool 1).busy <;> simp

/-- The element that is found is not busy. -/
theorem not_busy_of_freeBuffer {pool : Fin 2 → PoolBuffer} {i : Fin 2}
    (h : freeBuffer pool = some i) : (pool i).busy = false := by
  rw [freeBuffer_eq] at h
  cases h1 : (pool 1).busy with
  | false =>
    obtain rfl : 1 = i := by simpa [h1] using h
    exact h1
  | true =>
    cases h0 : (pool 0).busy with
    | false =>
      obtain rfl : 0 = i := by simpa [h1, h0] using h
      exact h0
    | true => simp [h1, h0] at h

/-- What a call does: nothing, or what becomes of one buffer that is not busy. -/
theorem get_cases (env : ShmEnv) (hs : Consistent s) (h : Drawable width height) :
    ((∀ i, (s.pool i).busy = true) ∧ s.get env width height = (none, s)) ∨
      ∃ i r, (s.pool i).busy = false ∧ Takes env s.display (s.pool i) width height r ∧
        s.get env width height =
          (if r.1 then some i else none, ⟨Function.update s.pool i r.2.1, r.2.2⟩) := by
  cases hf : freeBuffer s.pool with
  | none =>
    refine Or.inl ⟨freeBuffer_eq_none.mp hf, ?_⟩
    simp only [PoolState.get, getNextBuffer, hf]
  | some i =>
    refine Or.inr ⟨i, _, not_busy_of_freeBuffer hf, take_cases env s.display (hs.settled i) h, ?_⟩
    simp only [PoolState.get, getNextBuffer, hf]

/-- **Both buffers stay whole**, and no `wl_buffer` is lost. -/
theorem consistent_get (env : ShmEnv) (hs : Consistent s) (h : Drawable width height) :
    Consistent (s.get env width height).2 := by
  rcases get_cases env hs h with ⟨-, heq⟩ | ⟨i, r, -, htakes, heq⟩
  · rw [heq]
    exact hs
  · rw [heq]
    refine ⟨fun j => ?_, htakes.custody hs.custody⟩
    dsimp only
    by_cases hj : j = i
    · subst hj
      rw [Function.update_self]
      exact htakes.settled
    · rw [Function.update_of_ne hj]
      exact hs.settled j

theorem consistent_step {a : PoolAction} {t : PoolState} (hs : Consistent s) (ha : a.Sized)
    (h : poolStep a s = some t) : Consistent t := by
  cases a with
  | get env width height =>
    cases h
    exact consistent_get env hs ha
  | release i =>
    rw [poolStep] at h
    split at h
    · rename_i hbusy
      cases h
      have hready : Ready (s.pool i) := by
        rcases hs.settled i with h0 | hready
        · rw [h0] at hbusy
          cases hbusy
        · exact hready
      have hkeep := @custody_keep s i (bufferRelease (s.pool i)) rfl
      refine ⟨fun j => ?_, hkeep.symm ▸ hs.custody⟩
      dsimp only
      by_cases hj : j = i
      · subst hj
        rw [Function.update_self]
        exact Or.inr { hready with }
      · rw [Function.update_of_ne hj]
        exact hs.settled j
    · cases h

theorem consistent_start : Consistent {} := ⟨fun _ => Or.inl rfl, Custody.valid_empty⟩

/-! ## Ownership -/

/-- What a call may do: `r` is the element it returns, `t` the state after it. -/
structure Owned (env : ShmEnv) (width height : UInt32) (s : PoolState) (r : Option (Fin 2))
    (t : PoolState) : Prop where
  returned : ∀ i, r = some i → (s.pool i).busy = false ∧ (t.pool i).busy = true ∧
    (t.pool i).width = width ∧ (t.pool i).height = height ∧
      ∃ id, (t.pool i).buffer = .proxy id ∧ (custody t).Live id
  held : ∀ i, (s.pool i).busy = true → r ≠ some i ∧ t.pool i = s.pool i ∧
    ∃ id, (t.pool i).buffer = .proxy id ∧ (custody t).Live id
  refused : r = none → ((∀ i, (s.pool i).busy = true) ∨ env.creates = false) ∧
    ∀ i, Settled (t.pool i) ∧ (t.pool i).busy = (s.pool i).busy

/-- The `wl_buffer` of an element is live. -/
theorem Consistent.live (hs : Consistent s) {i : Fin 2} {id : Nat}
    (h : (s.pool i).buffer = .proxy id) : (Shm.custody s).Live id := by
  apply hs.custody.live i
  show (s.pool i).buffer.id? = some id
  rw [h]
  rfl

/-- A busy element has a `wl_buffer`. -/
theorem Consistent.live_of_busy (hs : Consistent s) {i : Fin 2} (h : (s.pool i).busy = true) :
    ∃ id, (s.pool i).buffer = .proxy id ∧ (Shm.custody s).Live id := by
  rcases hs.settled i with h0 | hready
  · rw [h0] at h
    cases h
  · obtain ⟨id, hid⟩ := hready.buffer
    exact ⟨id, hid, hs.live hid⟩

/-- **What a call does.** -/
theorem owned_get (env : ShmEnv) (hs : Consistent s) (h : Drawable width height) :
    Owned env width height s (s.get env width height).1 (s.get env width height).2 := by
  have ht := consistent_get env hs h
  rcases get_cases env hs h with ⟨hbusy, heq⟩ | ⟨i, r, hfree, htakes, heq⟩
  · rw [heq] at ht ⊢
    constructor
    · intro i hi
      cases hi
    · intro i hi
      exact ⟨nofun, rfl, ht.live_of_busy hi⟩
    · intro _
      exact ⟨Or.inl hbusy, fun i => ⟨hs.settled i, rfl⟩⟩
  · rw [heq] at ht ⊢
    have hself : Function.update s.pool i r.2.1 i = r.2.1 := Function.update_self i _ _
    have hother : ∀ j, j ≠ i → Function.update s.pool i r.2.1 j = s.pool j :=
      fun j hj => Function.update_of_ne hj _ _
    constructor
    · intro j hj
      dsimp only at hj ⊢
      split at hj
      · rename_i hr
        obtain rfl : i = j := Option.some.inj hj
        obtain ⟨hb, hw, hh, id, hid⟩ := htakes.returned hr
        have hbuffer : (Function.update s.pool i r.2.1 i).buffer = .proxy id := by rw [hself, hid]
        have hlive := ht.live hbuffer
        rw [hself]
        exact ⟨hfree, hb, hw, hh, id, hid, hlive⟩
      · cases hj
    · intro j hj
      have hij : j ≠ i := by
        rintro rfl
        rw [hfree] at hj
        cases hj
      have hkept : (Function.update s.pool i r.2.1 j).busy = true := by rw [hother j hij, hj]
      refine ⟨?_, hother j hij, ht.live_of_busy hkept⟩
      dsimp only
      split
      · exact fun he => hij (Option.some.inj he).symm
      · nofun
    · intro hnone
      dsimp only at hnone
      split at hnone
      · cases hnone
      · rename_i hr
        obtain ⟨hfails, hb⟩ := htakes.refused (Bool.not_eq_true _ ▸ hr)
        refine ⟨Or.inr hfails, fun j => ⟨ht.settled j, ?_⟩⟩
        dsimp only
        by_cases hj : j = i
        · subst hj
          rw [hself, hb, hfree]
        · rw [hother j hj]

/-- A step other than its release leaves a busy element alone. -/
theorem busy_step {a : PoolAction} {t : PoolState} {i : Fin 2} (hs : Consistent s) (ha : a.Sized)
    (hne : a ≠ .release i) (hbusy : (s.pool i).busy = true) (h : poolStep a s = some t) :
    t.pool i = s.pool i := by
  cases a with
  | get env width height =>
    cases h
    exact ((owned_get env hs ha).held i hbusy).2.1
  | release j =>
    have hij : i ≠ j := fun he => hne (by rw [he])
    rw [poolStep] at h
    split at h
    · cases h
      exact Function.update_of_ne hij _ _
    · cases h

theorem consistent_run {as : List PoolAction} {t : PoolState} (has : ∀ a ∈ as, a.Sized)
    (hs : Consistent s) (h : run poolStep as s = some t) : Consistent t :=
  run_invariant_along (C := fun a _ => a.Sized) (fun _ _ _ hs ha h => consistent_step hs ha h)
    (along_of_mem (fun a ha _ => has a ha) s) h hs

/-- **A busy buffer is left alone until its release**: the same buffer, not destroyed. -/
theorem busy_run {as : List PoolAction} {t : PoolState} {i : Fin 2} (has : ∀ a ∈ as, a.Sized)
    (hne : ∀ a ∈ as, a ≠ .release i) (hs : Consistent s) (hbusy : (s.pool i).busy = true)
    (h : run poolStep as s = some t) : t.pool i = s.pool i := by
  induction as generalizing s with
  | nil =>
    obtain rfl : s = t := by simpa using h
    rfl
  | cons a as ih =>
    obtain ⟨m, hm, hrest⟩ := run_cons.mp h
    have ha : a.Sized := has a List.mem_cons_self
    have hstep := busy_step hs ha (hne a List.mem_cons_self) hbusy hm
    have hmore := ih (fun b hb => has b (List.mem_cons_of_mem a hb))
      (fun b hb => hne b (List.mem_cons_of_mem a hb)) (consistent_step hs ha hm)
      (by rw [hstep, hbusy]) hrest
    rw [hmore, hstep]

/-- **Ownership of the buffers**, for every sequence of calls and releases: what each call does,
that a busy buffer is left alone until its release, and that no `wl_buffer` is lost. -/
theorem pool_ownership {as : List PoolAction} (has : ∀ a ∈ as, a.Sized) {s : PoolState}
    (h : run poolStep as {} = some s) :
    Consistent s ∧
      (∀ env width height, Drawable width height →
        Owned env width height s (s.get env width height).1 (s.get env width height).2) ∧
      ∀ (bs : List PoolAction) (t : PoolState) (i : Fin 2), (∀ a ∈ bs, a.Sized) →
        (∀ a ∈ bs, a ≠ .release i) → (s.pool i).busy = true → run poolStep bs s = some t →
          t.pool i = s.pool i ∧ ∃ id, (s.pool i).buffer = .proxy id ∧ (custody t).Live id := by
  have hs : Consistent s := consistent_run has consistent_start h
  refine ⟨hs, fun env width height hsize => owned_get env hs hsize, ?_⟩
  intro bs t i hbs hne hbusy ht
  have hsame := busy_run hbs hne hs hbusy ht
  obtain ⟨id, hid, -⟩ := hs.live_of_busy hbusy
  exact ⟨hsame, id, hid, (consistent_run hbs hs ht).live (by rw [hsame, hid])⟩

/-- Both buffers are handed out, one is released, and its resize finds no memory. -/
def resizeRun : List PoolAction :=
  [.get {} 120 120, .get {} 200 120, .release 1, .get { ftruncate := false } 240 120]

theorem pool_ownership_resize :
    ∃ s, run poolStep resizeRun {} = some s ∧ (s.pool 0).busy = true ∧ s.pool 1 = {} ∧
      Consistent s ∧
      Owned {} 240 120 s (s.get {} 240 120).1 (s.get {} 240 120).2 := by
  have hrun : ∃ s, run poolStep resizeRun {} = some s ∧ (s.pool 0).busy = true ∧ s.pool 1 = {} :=
    ⟨_, rfl, rfl, rfl⟩
  obtain ⟨s, hs, hbusy, hempty⟩ := hrun
  have hsized : ∀ a ∈ resizeRun, a.Sized := by
    intro a ha
    simp only [resizeRun, List.mem_cons, List.not_mem_nil, or_false] at ha
    rcases ha with rfl | rfl | rfl | rfl
    · exact ⟨by decide, by decide⟩
    · exact ⟨by decide, by decide⟩
    · trivial
    · exact ⟨by decide, by decide⟩
  obtain ⟨hconsistent, howned, -⟩ := pool_ownership hsized hs
  exact ⟨s, hs, hbusy, hempty, hconsistent, howned {} 240 120 ⟨by decide, by decide⟩⟩

end SwaylockAuthd.Shm
