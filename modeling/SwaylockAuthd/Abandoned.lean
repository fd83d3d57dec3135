import SwaylockAuthd.Feed

/-!
# Nobody behind the pipe

When the main process has closed the pipe, or `comm_child_read` has returned no message, a call of
`handle_conversation` that reads should return `PAM_ABORT`, and nobody should read on inside a
frame that was rejected.  The wait for a password does the first; a `poll` message takes the end of
the stream for the end of the events and is answered; and nothing marks the stream as dead.

* `Watch`: what an observer of the calls of `handle_conversation` knows.
* `Attended`: the steps that do not go on without the main process.
* `noticed_iff`: the child notices along a run if and only if every step of it is attended.
-/

namespace SwaylockAuthd

open Transition

variable (parse : CString → Option Json) (print : Json → Option CString) (username : CString)

/-! ## What is observed -/

/-- `comm_child_read` has returned no message; it has stopped inside a frame; the present call has
read from a pipe nobody holds any more; after that it has gone on, or somebody has read on inside
the frame. -/
structure Watch where
  broken : Bool := false
  cut : Bool := false
  reads : Bool := false
  wrong : Bool := false
  deriving DecidableEq, Repr

/-- Nobody is behind the pipe any more: it is closed, or cannot be decoded. -/
def abandoned (y : Feed × Watch) : Bool := ! y.1.pipe.writer || y.2.broken

/-- A read that has taken bytes but no frame: the rest of a frame is what comes next. -/
def stopsInside (r : CommRead) (p : Pipe) : Bool :=
  (r.frame p).isNone && decide (r.pipe.data ≠ p.data)

/-- The call has returned `PAM_ABORT`, or has read a message and is about to read the next one. -/
def noticed (s t : Feed) (r : Option CommRead) : Bool :=
  (decide (t.child.phase = .library) && decide (t.child.returned = some .PAM_ABORT)) ||
    (t.alive && decide (t.child.phase = s.child.phase) && r.any fun r => decide (0 < r.ret))

/-- What is known after a step of a call. -/
def Watch.next (x : Watch) (s t : Feed) (r : Option CommRead) : Watch :=
  let broken := x.broken || r.any fun r => decide (r.ret ≤ 0)
  let reads := x.reads || (r.isSome && abandoned (s, { x with broken }))
  { broken, reads
    cut := x.cut || r.any fun r => stopsInside r s.pipe
    wrong := x.wrong || (reads && ! noticed s t r) ||
      (x.cut && r.isSome && decide (s.pipe.data ≠ [])) }

def noteWatch (a : FeedAction) (s t : Feed) (x : Watch) : Watch :=
  match a with
  | .child (.converse _ true) => { x with reads := false }
  | .child (.next env) => x.next s t (childRead (.next env) s.child s.pipe)
  | _ => x

/-- **The child has noticed**: no call has gone on after it has read from an abandoned pipe, such a
call has returned `PAM_ABORT`, and nobody has read on inside a frame. -/
structure Noticed (y : Feed × Watch) : Prop where
  wrong : y.2.wrong = false
  result : y.2.reads = true → y.1.child.phase = .library →
    y.1.child.returned = some .PAM_ABORT

/-! ## The condition -/

/-- The loop of a `poll` message ends: there is no room for another event, nothing to read, or
`comm_child_read` returns no message. -/
def PollEnds (env : Env) (c : PamChild) (p : Pipe) : Prop :=
  ¬ (c.conv.pending.length < 64 ∧ env.poll = true ∧ (p.data ≠ [] ∨ p.writer = false)) ∨
    ∃ r, commRead env.payload env.reads p = some r ∧ r.ret ≤ 0

/-- The answer to a `poll` message can be printed, and its reply allocated. -/
def PollReplies (env : Env) (c : PamChild) : Prop :=
  cJSONPrint print (some (gdmPollResponse c.conv.pending)) ≠ none ∧ env.array = true

/-- Nothing is read where a frame has been cut.  The wait for a password finds none in an abandoned
pipe, or cannot copy it; a `poll` message that has read from one, or finds no message, cannot be
answered. -/
def Attended (a : FeedAction) (y : Feed × Watch) : Prop :=
  match a with
  | .child (.next env) => y.1.alive = true →
    (childRead (.next env) y.1.child y.1.pipe ≠ none → y.2.cut = true → y.1.pipe.data = []) ∧
    match y.1.child.phase with
    | .prompt _ => ∀ r, childRead (.next env) y.1.child y.1.pipe = some r →
        abandoned y = true → r.ret = COMM_MSG_PASSWORD.toNat →
          r.payload ≠ none ∧ env.string 0 = false
    | .polling _ => PollEnds env y.1.child y.1.pipe →
        y.2.reads = true ∨ childRead (.next env) y.1.child y.1.pipe ≠ none →
          ¬ PollReplies print env y.1.child
    | _ => True
  | _ => True

/-- A call that has read from an abandoned pipe is on its way out. -/
structure Leaving (y : Feed × Watch) : Prop extends Noticed y where
  abandoned : y.2.reads = true → abandoned y = true
  phase : y.2.reads = true → y.1.child.phase ≠ .start ∧
    ∀ todo, y.1.child.phase ≠ .conversation todo

variable {parse} {print} {username}

/-! ## Steps that do not read -/

/-- A pipe stays abandoned. -/
theorem abandoned_of {s t : Feed} {x y : Watch} (h : abandoned (s, x) = true)
    (hw : s.pipe.writer = false → t.pipe.writer = false) (hb : x.broken = true → y.broken = true) :
    abandoned (t, y) = true := by
  rcases Bool.or_eq_true_iff.mp h with hs | hx
  · have hc : t.pipe.writer = false := hw (by simpa using hs)
    exact Bool.or_eq_true_iff.mpr (Or.inl (by simp [hc]))
  · exact Bool.or_eq_true_iff.mpr (Or.inr (hb hx))

/-- Whoever writes, or closes the pipe, leaves the calls alone. -/
theorem Leaving.of_child {s t : Feed} {x : Watch} (hs : Leaving (s, x)) (hc : t.child = s.child)
    (hw : s.pipe.writer = false → t.pipe.writer = false) : Leaving (t, x) where
  wrong := hs.wrong
  result h hp := by
    rw [hc] at hp ⊢
    exact hs.result h hp
  abandoned h := abandoned_of (hs.abandoned h) hw id
  phase h := by
    rw [hc]
    exact hs.phase h

/-- A call that starts has read nothing. -/
theorem Leaving.of_reads {s t : Feed} {x : Watch} (hs : Leaving (s, x)) (hr : x.reads = false) :
    Leaving (t, x) where
  wrong := hs.wrong
  result h := absurd h (by simp [hr])
  abandoned h := absurd h (by simp [hr])
  phase h := absurd h (by simp [hr])

theorem Leaving.reads_false {s : Feed} {x : Watch} (hs : Leaving (s, x))
    (h : s.child.phase = .start ∨ ∃ todo, s.child.phase = .conversation todo) :
    x.reads = false := by
  cases hr : x.reads with
  | false => rfl
  | true =>
    rcases h with h | ⟨todo, h⟩
    · exact absurd h (hs.phase hr).1
    · exact absurd h ((hs.phase hr).2 todo)

/-! ## Steps of `handle_conversation` -/

/-- The step is enabled, and what the child is after it. -/
theorem feed_child {a : PamAction} {s t : Feed}
    (h : feed parse print username (.child a) s = some t) :
    s.alive = true ∧ ∃ r, PamMove parse print username s.child s.pipe a r ∧
      t = { child := r.child, pipe := r.toChild, alive := ! r.exits } := by
  rw [feed] at h
  split at h
  · rename_i halive
    obtain ⟨r, hr, rfl⟩ := Option.map_eq_some_iff.mp h
    exact ⟨halive, r, pam_cases parse print username hr, rfl⟩
  · cases h

theorem reads_next {s t : Feed} {x : Watch} {r : Option CommRead} :
    (x.next s t r).reads = true ↔ x.reads = true ∨ ∃ c, r = some c ∧
      (s.pipe.writer = false ∨ x.broken = true ∨ c.ret ≤ 0) := by
  cases r with
  | none => simp [Watch.next]
  | some c => simp [Watch.next, abandoned]

theorem wrong_next {s t : Feed} {x : Watch} {r : Option CommRead} (hx : x.wrong = false) :
    (x.next s t r).wrong = false ↔
      (r ≠ none → x.cut = true → s.pipe.data = []) ∧
        ((x.next s t r).reads = true → noticed s t r = true) := by
  have hwrong : (x.next s t r).wrong = (x.wrong || ((x.next s t r).reads && ! noticed s t r) ||
      (x.cut && r.isSome && decide (s.pipe.data ≠ []))) := rfl
  rw [hwrong, hx]
  cases (x.next s t r).reads <;> cases noticed s t r <;> cases x.cut <;> cases r <;> simp

/-- The answer to a `poll` message is the end of the call, or goes into the replies. -/
theorem noticed_replyJson {s t : Feed} {c : PamChild} {env : Env} {todo : List PamMessage}
    {r : Option CommRead}
    (ht : t.child = c.replyJson print env (gdmPollResponse s.child.conv.pending) todo)
    (hr : ∀ x, r = some x → x.ret ≤ 0) :
    noticed s t r = true ↔ ¬ PollReplies print env s.child := by
  have hnot : (r.any fun x => decide (0 < x.ret)) = false := by
    cases r with
    | none => rfl
    | some x => simpa using hr x rfl
  rw [noticed, hnot, Bool.and_false, Bool.or_false, ht, PamChild.replyJson, PollReplies]
  split
  · rename_i htext
    cases env.array <;> simp [htext, PamChild.reply, PamChild.abort]
  · rename_i htext
    simp [htext, PamChild.abort]

/-- **The wait for a password** has noticed an abandoned pipe, unless it has got a password. -/
theorem noticed_prompt {s t : Feed} {env : Env} {todo : List PamMessage} {r : CommRead}
    (hp : s.child.phase = .prompt todo) (ht : t.child = (promptRead env s.child todo r).child)
    (halive : t.alive = ! (promptRead env s.child todo r).exits) :
    noticed s t (some r) = true ↔
      (r.ret = COMM_MSG_PASSWORD.toNat → r.payload ≠ none ∧ env.string 0 = false) := by
  rw [noticed, ht, halive, promptRead]
  by_cases hle : r.ret ≤ 0
  · have hne : r.ret ≠ COMM_MSG_PASSWORD.toNat := by
      intro h
      rw [h] at hle
      exact absurd hle (by decide)
    simp [hle, hne, PamChild.abort]
  · rw [if_neg hle]
    by_cases htype : r.ret ≠ COMM_MSG_PASSWORD.toNat
    · rw [if_pos htype]
      simp [htype, hp, Int.not_le.mp hle]
    · rw [if_neg htype]
      rw [not_not] at htype
      cases hpay : r.payload with
      | none => simp [hp, htype]
      | some payload => cases env.string 0 <;> simp [hp, htype, PamChild.abort, PamChild.reply]

/-- **A round of a `poll` message** has noticed an abandoned pipe, unless it has answered. -/
theorem noticed_poll {s t : Feed} {x : Watch} {env : Env} {todo : List PamMessage}
    {r : Reaction PamChild} (hp : s.child.phase = .polling todo)
    (h : pollStep print env s.child s.pipe todo = some r) (ht : t.child = r.child)
    (halive : t.alive = ! r.exits) :
    ((x.next s t (childRead (.next env) s.child s.pipe)).reads = true →
        noticed s t (childRead (.next env) s.child s.pipe) = true) ↔
      (PollEnds env s.child s.pipe →
        x.reads = true ∨ childRead (.next env) s.child s.pipe ≠ none →
          ¬ PollReplies print env s.child) := by
  have hread := childRead_polling env s.pipe hp
  rw [reads_next]
  rcases pollStep_cases print h with ⟨hready, y, hy, rfl⟩ | ⟨hready, rfl⟩
  · rw [if_pos hready] at hread
    rw [hread, hy]
    by_cases hle : y.ret ≤ 0
    · -- the loop takes the end of the stream for the end of the events
      have hends : PollEnds env s.child s.pipe := Or.inr ⟨y, hy, hle⟩
      rw [gdmPollRead, if_pos hle] at ht
      rw [noticed_replyJson ht (by rintro z ⟨rfl⟩; exact hle)]
      exact ⟨fun h _ _ => h (Or.inr ⟨y, rfl, Or.inr (Or.inr hle)⟩),
        fun h _ => h hends (Or.inr (by simp))⟩
    · have hends : ¬ PollEnds env s.child s.pipe := by
        rintro (hn | ⟨z, hz, hzle⟩)
        · exact hn hready
        · rw [hy] at hz
          cases hz
          exact hle hzle
      have hnot : noticed s t (some y) = true := by
        rw [gdmPollRead, if_neg hle] at ht halive
        simp [noticed, ht, halive, PamChild.poll, Int.not_le.mp hle]
      exact ⟨fun _ h => absurd h hends, fun _ _ => hnot⟩
  · have hends : PollEnds env s.child s.pipe := Or.inl hready
    rw [if_neg hready] at hread
    rw [hread, noticed_replyJson ht (by simp)]
    exact ⟨fun h _ hr => h (hr.imp id (absurd rfl)), fun h hr =>
      h hends (hr.imp id (by rintro ⟨c, hc, -⟩; cases hc))⟩

/-! ## Every step -/

theorem abandoned_iff {s : Feed} {x : Watch} :
    abandoned (s, x) = true ↔ s.pipe.writer = false ∨ x.broken = true := by
  simp [abandoned]

/-- **A step of a call is attended** if and only if nothing goes wrong in it. -/
theorem attended_iff {env : Env} {s t : Feed} {x : Watch} (hs : Leaving (s, x))
    (h : feed parse print username (.child (.next env)) s = some t) :
    Attended print (.child (.next env)) (s, x) ↔
      (noteWatch (.child (.next env)) s t x).wrong = false := by
  obtain ⟨halive, r, hmove, rfl⟩ := feed_child h
  rw [noteWatch, wrong_next hs.wrong]
  have hiff : ∀ {A B C : Prop}, (B ↔ C) → ((s.alive = true → A ∧ B) ↔ A ∧ C) := by
    intro A B C hBC
    rw [hBC]
    exact ⟨fun hn => hn halive, fun hn _ => hn⟩
  cases hmove with
  | conversation hp =>
    simp only [Attended, hp]
    refine hiff ?_
    rw [reads_next, hs.reads_false (Or.inr ⟨_, hp⟩),
      childRead_of_phase (by simp [hp]) (by simp [hp])]
    simp
  | @prompt _ todo r hp read =>
    have hread := (childRead_prompt env s.pipe hp).trans read
    simp only [Attended, hp]
    refine hiff ?_
    rw [hread, noticed_prompt hp rfl rfl, reads_next, abandoned_iff]
    constructor
    · intro hC hreads htype
      refine hC r rfl ?_ htype
      rcases hreads with hreads | ⟨c, hc, hw | hb | hle⟩
      · exact abandoned_iff.mp (hs.abandoned hreads)
      · exact Or.inl hw
      · exact Or.inr hb
      · cases hc
        rw [htype] at hle
        exact absurd hle (by decide)
    · rintro hC c ⟨rfl⟩ hgone htype
      exact hC (Or.inr ⟨r, rfl, hgone.imp id Or.inl⟩) htype
  | @polling _ todo r hp step =>
    simp only [Attended, hp]
    exact hiff (noticed_poll hp step rfl rfl).symm

/-- A step that is not enabled reads nothing, and ends no loop. -/
theorem attended_of_none {env : Env} {s : Feed} {x : Watch}
    (h : feed parse print username (.child (.next env)) s = none) :
    Attended print (.child (.next env)) (s, x) := by
  intro halive
  rw [feed, if_pos halive, Option.map_eq_none_iff] at h
  cases hp : s.child.phase with
  | start | library | ended _ | conversation _ =>
    rw [childRead_of_phase (by simp [hp]) (by simp [hp])]
    exact ⟨absurd rfl, trivial⟩
  | prompt todo =>
    have hread : commRead env.payload env.reads s.pipe = none := by
      simpa only [pamAct, hp, Option.map_eq_none_iff] using h
    rw [childRead_prompt env s.pipe hp, hread]
    exact ⟨absurd rfl, by rintro r ⟨⟩⟩
  | polling todo =>
    have hround : gdmPoll env s.child.conv s.pipe = none := by
      simpa only [pamAct, hp, pollStep, Option.map_eq_none_iff] using h
    rw [gdmPoll] at hround
    split at hround
    · rename_i hready
      rw [Option.map_eq_none_iff] at hround
      have hread : childRead (.next env) s.child s.pipe = none := by
        rw [childRead_polling env s.pipe hp, if_pos hready, hround]
      refine ⟨fun hn => absurd hread hn, ?_⟩
      rintro (hn | ⟨r, hr, -⟩)
      · exact absurd hready hn
      · rw [hround] at hr
        cases hr
    · cases hround

/-- A call that has noticed an abandoned pipe has been left, or is in the same loop. -/
theorem phase_of_noticed {env : Env} {s t : Feed}
    (h : noticed s t (childRead (.next env) s.child s.pipe) = true) :
    (t.child.phase = .library ∧ t.child.returned = some .PAM_ABORT) ∨
      ∃ todo, t.child.phase = .prompt todo ∨ t.child.phase = .polling todo := by
  rw [noticed, Bool.or_eq_true_iff, Bool.and_eq_true_iff, Bool.and_eq_true_iff,
    Bool.and_eq_true_iff] at h
  rcases h with ⟨hp, hr⟩ | ⟨⟨-, hp⟩, hr⟩
  · exact Or.inl ⟨of_decide_eq_true hp, of_decide_eq_true hr⟩
  · refine Or.inr ?_
    rw [of_decide_eq_true hp]
    cases hs : s.child.phase with
    | prompt todo => exact ⟨todo, Or.inl rfl⟩
    | polling todo => exact ⟨todo, Or.inr rfl⟩
    | start | library | ended _ | conversation _ =>
      rw [childRead_of_phase (by simp [hs]) (by simp [hs])] at hr
      cases hr

/-- **An attended step of a call** keeps the call on its way out. -/
theorem Leaving.next {env : Env} {s t : Feed} {x : Watch} (hs : Leaving (s, x))
    (h : feed parse print username (.child (.next env)) s = some t)
    (hC : Attended print (.child (.next env)) (s, x)) :
    Leaving (t, noteWatch (.child (.next env)) s t x) := by
  have hwrong := (attended_iff hs h).mp hC
  have hwriter : t.pipe.writer = s.pipe.writer := by
    rw [feed] at h
    split at h
    · obtain ⟨r, hr, rfl⟩ := Option.map_eq_some_iff.mp h
      exact (sameEnds_pamAct hr).1
    · cases h
  rw [noteWatch] at hwrong ⊢
  have hnot := fun hreads => phase_of_noticed (((wrong_next hs.wrong).mp hwrong).2 hreads)
  refine ⟨⟨hwrong, fun hreads hp => ?_⟩, fun hreads => ?_, fun hreads => ?_⟩
  · rcases hnot hreads with ⟨-, hret⟩ | ⟨todo, hphase | hphase⟩
    · exact hret
    · exact absurd (hp.symm.trans hphase) (by simp)
    · exact absurd (hp.symm.trans hphase) (by simp)
  · rw [abandoned_iff, hwriter]
    rcases reads_next.mp hreads with hreads | ⟨c, hc, hw | hb | hle⟩
    · exact (abandoned_iff.mp (hs.abandoned hreads)).imp id fun hb => by simp [Watch.next, hb]
    · exact Or.inl hw
    · exact Or.inr (by simp [Watch.next, hb])
    · exact Or.inr (by simp [Watch.next, hc, hle])
  · rcases hnot hreads with ⟨hphase, -⟩ | ⟨todo, hphase | hphase⟩ <;> simp [hphase]

/-- **Every attended step keeps it.** -/
theorem leaving_step {a : FeedAction} {y z : Feed × Watch} (hy : Leaving y)
    (hC : Attended print a y)
    (h : monitored (feed parse print username) noteWatch a y = some z) : Leaving z := by
  obtain ⟨s, x⟩ := y
  obtain ⟨t, x'⟩ := z
  obtain ⟨hstep, hx⟩ := monitored_eq_some.mp h
  change feed parse print username a s = some t at hstep
  change x' = noteWatch a s t x at hx
  subst hx
  cases a with
  | write bytes =>
    rw [feed] at hstep
    split at hstep
    · cases hstep
      exact hy.of_child rfl id
    · cases hstep
  | close =>
    cases hstep
    exact hy.of_child rfl fun _ => rfl
  | child a =>
    obtain ⟨-, r, hmove, rfl⟩ := feed_child hstep
    cases hmove with
    | start hp => exact hy.of_reads (hy.reads_false (Or.inl hp))
    | converse hp =>
      exact ⟨⟨hy.wrong, by simp [noteWatch]⟩, by simp [noteWatch], by simp [noteWatch]⟩
    | noMemory hp => exact ⟨⟨hy.wrong, fun _ _ => rfl⟩, hy.abandoned, hy.phase⟩
    | denied hp => exact ⟨⟨hy.wrong, fun hr _ => hy.result hr hp⟩, hy.abandoned, fun _ => by simp⟩
    | failed hp | granted hp =>
      exact ⟨⟨hy.wrong, fun _ hp' => by cases hp'⟩, hy.abandoned, fun _ => by simp⟩
    | finish hp => exact hy.of_child rfl id
    | conversation hp | prompt hp read | polling hp step => exact hy.next hstep hC

/-- **The child notices that the locker is gone**, along a run, if and only if its steps are
attended. -/
theorem noticed_iff (parse : CString → Option Json) (print : Json → Option CString)
    (username : CString) (as : List FeedAction) :
    Throughout (monitored (feed parse print username) noteWatch) Noticed as ({}, {}) ↔
      Along (monitored (feed parse print username) noteWatch) (Attended print) as ({}, {}) := by
  refine throughout_iff_along (H := fun _ _ => True) (fun a y z hy _ hC h => leaving_step hy hC h)
    (fun y hy => hy.toNoticed) (fun a y hy _ hC => ?_)
    ⟨⟨rfl, by simp⟩, by simp, by simp⟩ (along_of_mem (fun _ _ _ => trivial) _)
  cases a with
  | write bytes => exact absurd trivial hC
  | close => exact absurd trivial hC
  | child a =>
    cases a with
    | next env =>
      obtain ⟨s, x⟩ := y
      cases hstep : feed parse print username (.child (.next env)) s with
      | none => exact absurd (attended_of_none hstep) hC
      | some t =>
        exact ⟨(t, noteWatch (.child (.next env)) s t x), monitored_eq_some.mpr ⟨hstep, rfl⟩,
          fun hn => hC ((attended_iff hy hstep).mpr hn.wrong)⟩
    | start _ | converse _ _ | returns _ | finish => exact absurd trivial hC

/-- The main process closes the pipe, and the module polls. -/
def closedPollRun : List FeedAction :=
  [.child (.start true), .close,
    .child (.converse
      [.PAM_BINARY_PROMPT true (compact (.object [field "type" (str "poll")]))] true),
    .child (.next {}), .child (.next { reads := [.short 0] }), .child (.next {})]

/-- A frame that is too long arrives, and a password is asked for twice. -/
def rejectedRun : List FeedAction :=
  let prompt : List FeedAction :=
    [.child (.converse [.PAM_PROMPT_ECHO_OFF] true), .child (.next {}),
      .child (.next { reads := List.replicate 3 (.short 63) })]
  [.child (.start true), .write (0x01 :: storeLe32 0x100001 ++ Frame.bytes ⟨0x01, [0]⟩)] ++
    prompt ++ [.child (.returns .PAM_AUTH_ERR)] ++ prompt

/-- **A `poll` message that reads the end of the pipe is answered**, and the call returns
`PAM_SUCCESS`.  Behind a frame that was rejected, its payload is read as the next frame, and taken
for the password. -/
theorem not_noticed_poll :
    ¬ Throughout (monitored (feed (parseText [.object [field "type" (str "poll")]])
          (fun j => some (compact j)) (ascii "user")) noteWatch) Noticed closedPollRun ({}, {}) ∧
      (∃ z, run (monitored (feed (parseText [.object [field "type" (str "poll")]])
            (fun j => some (compact j)) (ascii "user")) noteWatch) closedPollRun ({}, {}) = some z ∧
        z.1.pipe.writer = false ∧ z.2.broken = true ∧ z.1.child.phase = .library ∧
        z.1.child.returned = some .PAM_SUCCESS) ∧
      ∃ z, run (monitored (feed (fun _ => none) (fun _ => none) []) noteWatch) rejectedRun
          ({}, {}) = some z ∧
        z.2.cut = true ∧ z.2.wrong = true ∧ z.1.child.phase = .conversation [] := by
  have hz : ∃ z, run (monitored (feed (parseText [.object [field "type" (str "poll")]])
        (fun j => some (compact j)) (ascii "user")) noteWatch) closedPollRun ({}, {}) = some z ∧
      z.2.wrong = true ∧ z.1.pipe.writer = false ∧ z.2.broken = true ∧
      z.1.child.phase = .library ∧ z.1.child.returned = some .PAM_SUCCESS :=
    ⟨_, rfl, rfl, rfl, rfl, rfl, rfl⟩
  obtain ⟨z, hrun, hw, hend⟩ := hz
  refine ⟨fun h => ?_, ⟨z, hrun, hend⟩, ⟨_, rfl, rfl, rfl, rfl⟩⟩
  have hnot := (h _ (List.prefix_refl _) z hrun).wrong
  rw [hnot] at hw
  cases hw

end SwaylockAuthd
