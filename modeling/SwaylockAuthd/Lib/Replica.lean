import Mathlib.Data.List.Basic

/-!
# A replica behind a queue

One side keeps a log of what it tells; the other side applies what it is told, one message of
a queue at a time.  A message tells one thing or nothing (`means`).

* `Follows`: the replica has applied a first part of the log, and the queue holds the rest.
* `Follows.send`, `Follows.receive`: how the log, the queue and the replica go on together.
-/

namespace Replica

variable {σ ν μ : Type*} (apply : σ → ν → σ) (means : μ → Option ν) (init : σ)

/-- The replica has applied `seen`, and the messages of the queue tell it the rest of the log. -/
def Follows (log : List ν) (state : σ) (queue : List μ) : Prop :=
  ∃ seen, log = seen ++ queue.filterMap means ∧ state = seen.foldl apply init

theorem follows_nil : Follows apply means init [] init [] := ⟨[], rfl, rfl⟩

variable {apply} {means} {init} {log : List ν} {state : σ} {queue : List μ}

theorem Follows.send (h : Follows apply means init log state queue) (ms : List μ) :
    Follows apply means init (log ++ ms.filterMap means) state (queue ++ ms) := by
  obtain ⟨seen, hlog, hstate⟩ := h
  exact ⟨seen, by rw [hlog, List.filterMap_append, List.append_assoc], hstate⟩

theorem Follows.receive {m : μ} (h : Follows apply means init log state (m :: queue)) :
    Follows apply means init log ((means m).elim state (apply state)) queue := by
  obtain ⟨seen, hlog, hstate⟩ := h
  cases hm : means m with
  | none => exact ⟨seen, by rw [hlog, List.filterMap_cons_none hm], hstate⟩
  | some n =>
    refine ⟨seen ++ [n], ?_, ?_⟩
    · rw [hlog, List.filterMap_cons_some hm, List.append_assoc]
      rfl
    · rw [List.foldl_append, hstate]
      rfl

end Replica
