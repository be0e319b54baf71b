import ScriptRealm.Proofs.Run

/-!
# Depths of queries

A run is given a depth to which its queries may be nested. The depth decides only whether the run
comes to its end: one that does goes the same way at every greater depth.
-/

namespace ScriptRealm

variable {α : Type}

/-- A run that came to its end, be it with a result or with an error. -/
def Ending.Finished : Ending α → Prop
  | .returned _ _ => True
  | .threw _ _ => True
  | .exhausted _ => False

/-- Answers that are the same as others wherever those came to an end. -/
def Agrees (answer answer' : (q : Query) → Machine → Ending q.Answer) : Prop :=
  ∀ q m, (answer q m).Finished → answer' q m = answer q m

/-- A run that came to its end goes the same way under answers that agree. -/
theorem Program.run_of_agrees {answer answer' : (q : Query) → Machine → Ending q.Answer}
    (h : Agrees answer answer') (p : Program α) {m : Machine}
    (hfinished : (p.run answer m).Finished) : p.run answer' m = p.run answer m := by
  induction p generalizing m with
  | done a => rfl
  | fail e => rfl
  | perform e next ih =>
    cases e with
    | getStore => exact ih m.store hfinished
    | setStore s => exact ih () hfinished
    | emit e => exact ih () hfinished
    | ask q =>
      rw [run] at hfinished
      cases hanswer : answer q m with
      | returned a m' =>
        have hsame := h q m (by rw [hanswer]; trivial)
        rw [hanswer] at hfinished hsame
        rw [run, run, hanswer, hsame]
        exact ih (.ok a) hfinished
      | threw e m' =>
        have hsame := h q m (by rw [hanswer]; trivial)
        rw [hanswer] at hfinished hsame
        rw [run, run, hanswer, hsame]
        exact ih (.error e) hfinished
      | exhausted m' =>
        rw [hanswer] at hfinished
        exact hfinished.elim

namespace Context

variable (ctx : Context)

theorem agrees_answer_succ (depth : Nat) : Agrees (ctx.answer depth) (ctx.answer (depth + 1)) := by
  induction depth with
  | zero => exact fun q m hfinished => hfinished.elim
  | succ depth ih => exact fun q m hfinished => Program.run_of_agrees ih (ctx.handle q) hfinished

theorem agrees_answer_add (depth more : Nat) :
    Agrees (ctx.answer depth) (ctx.answer (depth + more)) := by
  induction more with
  | zero => exact fun q m _ => rfl
  | succ more ih =>
    intro q m hfinished
    have hmore := ih q m hfinished
    rw [← hmore] at hfinished ⊢
    exact ctx.agrees_answer_succ (depth + more) q m hfinished

/-- More depth changes nothing about a run that came to its end. -/
theorem run_add_of_finished (depth more : Nat) (p : Program α) {m : Machine}
    (hfinished : (ctx.run depth p m).Finished) :
    ctx.run (depth + more) p m = ctx.run depth p m :=
  Program.run_of_agrees (ctx.agrees_answer_add depth more) p hfinished

end Context

end ScriptRealm
