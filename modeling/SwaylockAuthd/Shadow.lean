import SwaylockAuthd.Pam

/-!
# `shadow.c`: the shadow child

The child reads passwords and compares `crypt(buf, encpw)` with `encpw`, until one
agrees.  `crypt` is the C library's.

* `shadowBackend`: the child as a backend.
* `shadow_honest`: it writes a frame that unlocks only when the two agree.
-/

namespace SwaylockAuthd

/-- Where the child is: in `comm_child_read`, in `sleep(2)`, or past the loop. -/
inductive ShadowPhase
  | reading
  | sleeping
  | leaving
  deriving DecidableEq, Repr

inductive ShadowAction
  | read (env : Env)
  | wake
  | leave

variable (crypt : CString → CString → Option CString) (encpw : CString)

/-- One round of the loop, up to `sleep`. -/
def shadowRead (r : CommRead) : Reaction ShadowPhase :=
  if r.ret < 0 then { child := .reading, toChild := r.pipe, exits := true }
  else if r.ret = 0 then { child := .leaving, toChild := r.pipe }
  else if r.ret ≠ COMM_MSG_PASSWORD.toNat then { child := .reading, toChild := r.pipe }
  else
    match r.payload with
    | none => { child := .reading, toChild := r.pipe, exits := true } -- `crypt(NULL, encpw)`
    | some buf =>
      match crypt (cstr buf) encpw with
      | none => { child := .reading, toChild := r.pipe, exits := true }
      | some c =>
        { child := if c = encpw then .leaving else .sleeping
          out := authResultBytes (c = encpw), toChild := r.pipe }

/-- One step of `run_pw_backend_child`. -/
def shadowAct (a : ShadowAction) (c : ShadowPhase) (p : Pipe) : Option (Reaction ShadowPhase) :=
  match a, c with
  | .read env, .reading => (commRead env.payload env.reads p).map (shadowRead crypt encpw)
  | .wake, .sleeping => some { child := .reading, toChild := p }
  | .leave, .leaving => some { child := .leaving, toChild := p, exits := true }
  | _, _ => none

/-- Whether a frame read holds the right password. -/
def shadowMatches (r : CommRead) : Bool :=
  r.ret = COMM_MSG_PASSWORD.toNat ∧
    (r.payload.bind fun buf => crypt (cstr buf) encpw) = some encpw

/-- The shadow child. -/
def shadowBackend : Backend ShadowPhase ShadowAction where
  act := shadowAct crypt encpw
  authenticates := fun a c p =>
    match a, c with
    | .read env, .reading =>
      ((commRead env.payload env.reads p).map (shadowMatches crypt encpw)).getD false
    | _, _ => false

/-- What a step of the child does. -/
inductive ShadowMove (c : ShadowPhase) (p : Pipe) : ShadowAction → Reaction ShadowPhase → Prop
  | read {env : Env} {x : CommRead} (h : c = .reading)
      (read : commRead env.payload env.reads p = some x) :
      ShadowMove c p (.read env) (shadowRead crypt encpw x)
  | wake (h : c = .sleeping) : ShadowMove c p .wake { child := .reading, toChild := p }
  | leave (h : c = .leaving) :
      ShadowMove c p .leave { child := .leaving, toChild := p, exits := true }

theorem shadow_cases {a : ShadowAction} {c : ShadowPhase} {p : Pipe} {r : Reaction ShadowPhase}
    (h : shadowAct crypt encpw a c p = some r) : ShadowMove crypt encpw c p a r := by
  rw [shadowAct.eq_def] at h
  split at h
  · obtain ⟨x, hx, rfl⟩ := Option.map_eq_some_iff.mp h
    exact .read rfl hx
  · cases h
    exact .wake rfl
  · cases h
    exact .leave rfl
  · cases h

theorem quiet_shadowRead {x : CommRead} (h : shadowMatches crypt encpw x = false) :
    Quiet (shadowRead crypt encpw x).out := by
  rw [shadowRead]
  split
  · exact quiet_nil
  split
  · exact quiet_nil
  split
  · exact quiet_nil
  · rename_i hret
    split
    · exact quiet_nil
    · rename_i buf hbuf
      split
      · exact quiet_nil
      · rename_i c hc
        by_cases he : c = encpw
        · subst he
          have ht : shadowMatches crypt c x = true := by
            rw [shadowMatches, hbuf]
            simpa [hc] using hret
          rw [ht] at h
          cases h
        · rw [decide_eq_false he]
          exact quiet_denied

/-- **The child writes a frame that unlocks only when `crypt` has given `encpw`.** -/
theorem shadow_honest {a : ShadowAction} {c : ShadowPhase} {p : Pipe} {r : Reaction ShadowPhase}
    (h : (shadowBackend crypt encpw).act a c p = some r)
    (hn : (shadowBackend crypt encpw).authenticates a c p = false) : Quiet r.out := by
  cases shadow_cases crypt encpw h with
  | read hc hx =>
    subst hc
    refine quiet_shadowRead crypt encpw ?_
    have hn' : ((commRead _ _ p).map (shadowMatches crypt encpw)).getD false = false := hn
    rw [hx] at hn'
    exact hn'
  | wake => exact quiet_nil
  | leave => exact quiet_nil

end SwaylockAuthd
