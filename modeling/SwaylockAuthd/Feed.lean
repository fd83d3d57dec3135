import SwaylockAuthd.Pam

/-!
# The PAM child and the pipe it reads

The child by itself: whoever holds the other end writes any bytes into the pipe at any
moment, in pieces of any size, and may close it.

* `childRead`: the `comm_child_read` of a step.
* `poll_cases`: what a round of a `poll` message does.
-/

namespace SwaylockAuthd

open Transition

/-- The child, and the pipe from the main process. -/
structure Feed where
  child : PamChild := {}
  pipe : Pipe := {}
  alive : Bool := true

inductive FeedAction
  | child (a : PamAction)
  | write (bytes : List UInt8)
  | close

variable (parse : CString → Option Json) (print : Json → Option CString) (username : CString)

/-- One step of the child, or of whoever writes to it. -/
def feed : FeedAction → Feed → Option Feed
  | .child a, s =>
    if s.alive then
      (pamAct parse print username a s.child s.pipe).map fun r =>
        { child := r.child, pipe := r.toChild, alive := ! r.exits }
    else none
  | .write bytes, s =>
    if s.pipe.writer then some { s with pipe.data := s.pipe.data ++ bytes } else none
  | .close, s => some { s with pipe.writer := false }

/-- The `comm_child_read` of a step of the child, if it calls it. -/
def childRead (a : PamAction) (c : PamChild) (p : Pipe) : Option CommRead :=
  match a, c.phase with
  | .next env, .prompt _ => commRead env.payload env.reads p
  | .next env, .polling _ =>
    if c.conv.pending.length < 64 ∧ env.poll ∧ (p.data ≠ [] ∨ p.writer = false) then
      commRead env.payload env.reads p
    else none
  | _, _ => none

/-- The frame it has returned. -/
def CommRead.frame (r : CommRead) (p : Pipe) : Option Frame :=
  match r.len, frameHead p.data with
  | some _, .item f _ => some f
  | _, _ => none

/-- A `read` or an allocation of a step fails, or the pipe holds bytes that start with no
frame: one that is too long, or has been cut off. -/
def readFails (a : PamAction) (p : Pipe) : Prop :=
  match a with
  | .next env =>
    .error ∈ env.reads ∨ env.payload = false ∨ (frames p.data = [] ∧ p.data ≠ [])
  | _ => False

instance (a : PamAction) (p : Pipe) : Decidable (readFails a p) := by
  unfold readFails
  cases a <;> infer_instance

variable {parse} {print} {username}

/-- What a read returns: the frame at the front, or nothing. -/
inductive ChildReads (a : PamAction) (p : Pipe) (r : CommRead) : Prop
  | frame {f : Frame} {rest : List UInt8} (head : frameHead p.data = .item f rest)
      (eq : r.frame p = some f) (ret : r.ret = f.type.toNat) (payload : r.payload = f.buffer)
      (pipe : r.pipe = { p with data := rest })
  | ended (eq : r.frame p = none) (ret : r.ret ≤ 0) (empty : p.data = [])
      (closed : p.writer = false) (pipe : r.pipe = p)
  | failed (eq : r.frame p = none) (ret : r.ret ≤ 0) (why : readFails a p)
      (writer : r.pipe.writer = p.writer)

theorem childRead_cases {a : PamAction} {c : PamChild} {p : Pipe} {r : CommRead}
    (h : childRead a c p = some r) : ChildReads a p r := by
  obtain ⟨env, rfl, hr⟩ : ∃ env, a = .next env ∧ commRead env.payload env.reads p = some r := by
    unfold childRead at h
    split at h
    · exact ⟨_, rfl, h⟩
    · split at h
      · exact ⟨_, rfl, h⟩
      · cases h
    · cases h
  have negative : (-1 : Int) ≤ 0 := by decide
  have writer : r.pipe.writer = p.writer := by
    rw [(commRead_uses hr).pipe]
  have nothing := commRead_nothing hr
  cases commRead_spec hr with
  | @frame f rest cs head => exact .frame head (by simp only [CommRead.frame, head]) rfl rfl rfl
  | tooLarge head =>
    refine .failed rfl negative (Or.inr (Or.inr ⟨frameFraming.items_of_bad head, ?_⟩)) writer
    intro hd
    rw [hd] at head
    cases head
  | @ended p' cs' head closed =>
    have hle : (if p.data = [] then (0 : Int) else -1) ≤ 0 := by split <;> decide
    by_cases hd : p.data = []
    · exact .ended rfl hle hd closed (nothing hd)
    · exact .failed rfl hle (Or.inr (Or.inr ⟨frameFraming.items_of_more head, hd⟩)) writer
  | failed why => exact .failed rfl negative (why.imp_right Or.inl) writer

theorem childRead_prompt (env : Env) {c : PamChild} (p : Pipe) {todo : List PamMessage}
    (hc : c.phase = .prompt todo) :
    childRead (.next env) c p = commRead env.payload env.reads p := by
  simp only [childRead, hc]

theorem childRead_polling (env : Env) {c : PamChild} (p : Pipe) {todo : List PamMessage}
    (hc : c.phase = .polling todo) :
    childRead (.next env) c p =
      if c.conv.pending.length < 64 ∧ env.poll ∧ (p.data ≠ [] ∨ p.writer = false) then
        commRead env.payload env.reads p
      else none := by
  simp only [childRead, hc]

/-- **What a round of a `poll` message does**: it reads a frame, or ends the message. -/
theorem poll_cases {env : Env} {c : PamChild} {p : Pipe} {todo : List PamMessage}
    {r : Reaction PamChild} (hc : c.phase = .polling todo)
    (h : pollStep print env c p todo = some r) :
    ∃ round, gdmPoll env c.conv p = some round ∧ r = c.poll print env todo round ∧
      ((childRead (.next env) c p = none ∧ round = gdmPollDone c.conv p) ∨
        ∃ x, childRead (.next env) c p = some x ∧ c.conv.pending.length < 64 ∧
          round = gdmPollRead c.conv x) := by
  have hread := childRead_polling env p hc
  obtain ⟨round, hround, rfl⟩ := Option.map_eq_some_iff.mp h
  refine ⟨round, hround, rfl, ?_⟩
  rw [hread]
  rcases gdmPoll_cases hround with ⟨hready, x, hx, rfl⟩ | ⟨hready, rfl⟩
  · rw [if_pos hready]
    exact Or.inr ⟨x, hx, hready.1, rfl⟩
  · rw [if_neg hready]
    exact Or.inl ⟨rfl, rfl⟩

/-- Only a wait for a password and a `poll` message read. -/
theorem childRead_of_phase {a : PamAction} {c : PamChild} {p : Pipe}
    (h1 : ∀ todo, c.phase ≠ .prompt todo) (h2 : ∀ todo, c.phase ≠ .polling todo) :
    childRead a c p = none := by
  unfold childRead
  split
  · rename_i h
    exact absurd h (h1 _)
  · rename_i h
    exact absurd h (h2 _)
  · rfl

/-- What is kept of the conversation when a `poll` message starts. -/
theorem handleGdmJson_poll {env : Env} {st st' : ConvState} {json : List UInt8}
    (h : handleGdmJson parse print username env st json = .poll st') :
    (st.userSelectedSent = true ∧ st' = st) ∨
    (st.userSelectedSent = false ∧
      st' = { pending := st.pending ++ [gdmUserSelected username], userSelectedSent := true }) := by
  rw [handleGdmJson] at h
  split at h
  · cases h
  · split at h
    · cases h
    · dsimp only at h
      repeat' split at h
      all_goals
        first
        | cases h; exact Or.inl ⟨by assumption, rfl⟩
        | cases h; exact Or.inr ⟨by simpa using ‹¬ st.userSelectedSent = true›, rfl⟩
        | cases h

end SwaylockAuthd
