import BuildShell.Proofs.Scan.Steps
import BuildShell.Scans

namespace BuildShell

namespace Scan

theorem head?_tokens (s : Scan) : s.tokens.head? = some s.next.fst := by
  rw [tokens]
  split <;> rfl

theorem tail_tokens (s : Scan) : s.tokens.tail = s.next.snd.elim [] tokens := by
  rw [tokens]
  split
  case h_1 h => rw [h]; rfl
  case h_2 h => rw [h]; rfl

end Scan

namespace Scans

def remaining (ss : Scans) (i : Nat) : List Token :=
  ss.active[i]?.join.elim [] Scan.tokens

inductive Operation
  | start
  | next (i : Nat)
  | all
  | identifierEnd (pos : Int)
  | whitespaceEnd (pos : Int)
  | uriBodyEnd (pos : Int)
deriving DecidableEq

inductive Answer
  | number (i : Nat)
  | token (t? : Option Token)
  | tokens (ts : List Token)
  | stop (pos : Except Index.Fault Int)

def Operation.run (ss : Scans) : Operation → Answer × Scans
  | start             => (.number ss.start.fst, ss.start.snd)
  | next i            => (.token (ss.next? i).fst, (ss.next? i).snd)
  | all               => (.tokens (tokenize ss.line), ss)
  | identifierEnd pos => (.stop (Scan.identifierEnd ss.line pos), ss)
  | whitespaceEnd pos => (.stop (Scan.whitespaceEnd ss.line pos), ss)
  | uriBodyEnd pos    => (.stop (.ok (Scan.uriBodyEnd ss.line pos)), ss)

def after (ss : Scans) (os : List Operation) : Scans :=
  os.foldl (fun ss o => (o.run ss).snd) ss

variable {ss : Scans} {i j : Nat}

theorem next?_of_none (h : ss.active[i]?.join = none) : ss.next? i = (none, ss) := by
  simp [next?, h]

theorem next?_of_some {s : Scan} (h : ss.active[i]?.join = some s) :
    ss.next? i = (some s.next.fst, { ss with active := ss.active.set i s.next.snd }) := by
  simp [next?, h]

theorem fst_next? (ss : Scans) (i : Nat) : (ss.next? i).fst = (ss.remaining i).head? := by
  cases h : ss.active[i]?.join
  case none   => simp [next?_of_none h, remaining, h]
  case some s => simp [next?_of_some h, remaining, h, Scan.head?_tokens]

theorem remaining_next?_self (hi : i < ss.active.length) :
    (ss.next? i).snd.remaining i = (ss.remaining i).tail := by
  cases h : ss.active[i]?.join
  case none   => simp [next?_of_none h, remaining, h]
  case some s =>
    have hr : ss.remaining i = s.tokens := by rw [remaining, h]; rfl
    rw [next?_of_some h, hr, Scan.tail_tokens]
    simp [remaining, hi]

theorem remaining_next?_of_ne (h : i ≠ j) : (ss.next? j).snd.remaining i = ss.remaining i := by
  cases hj : ss.active[j]?.join
  case none   => rw [next?_of_none hj]
  case some s => simp [next?_of_some hj, remaining, List.getElem?_set_ne h.symm]

theorem line_run (o : Operation) (ss : Scans) : (o.run ss).snd.line = ss.line := by
  cases o
  case next i => cases h : ss.active[i]?.join <;> simp [Operation.run, next?, h]
  all_goals rfl

theorem length_run (o : Operation) (ss : Scans) :
    (o.run ss).snd.active.length = ss.active.length + [o].count .start := by
  cases o
  case start  => simp [Operation.run, start]
  case next i => cases h : ss.active[i]?.join <;> simp [Operation.run, next?, h]
  all_goals simp [Operation.run]

theorem remaining_run (o : Operation) (hi : i < ss.active.length) :
    (o.run ss).snd.remaining i = (ss.remaining i).drop ([o].count (.next i)) := by
  cases o
  case start  => simp [Operation.run, start, remaining, List.getElem?_append_left hi]
  case next j =>
    by_cases hj : i = j
    case pos =>
      subst hj
      simpa [Operation.run] using remaining_next?_self hi
    case neg => simpa [Operation.run, Ne.symm hj] using remaining_next?_of_ne hj
  all_goals simp [Operation.run]

theorem line_after (ss : Scans) (os : List Operation) : (ss.after os).line = ss.line := by
  induction os generalizing ss
  case nil          => rfl
  case cons o os hi => exact (hi _).trans (line_run o ss)

theorem length_after (ss : Scans) (os : List Operation) :
    (ss.after os).active.length = ss.active.length + os.count .start := by
  induction os generalizing ss
  case nil          => rfl
  case cons o os ih =>
    have h := ih (o.run ss).snd
    rw [length_run, Nat.add_assoc, ← List.count_append] at h
    exact h

theorem remaining_after (os : List Operation) (hi : i < ss.active.length) :
    (ss.after os).remaining i = (ss.remaining i).drop (os.count (.next i)) := by
  induction os generalizing ss
  case nil          => rfl
  case cons o os ih =>
    have hl : i < (o.run ss).snd.active.length := by
      rw [length_run]
      omega
    have h := ih hl
    rw [remaining_run o hi, List.drop_drop, ← List.count_append] at h
    exact h

theorem remaining_start (ss : Scans) :
    ss.start.snd.remaining ss.active.length = tokenize ss.line := by
  simp [start, remaining, tokenize]

theorem after_append_cons (ss : Scans) (os us : List Operation) (o : Operation) :
    ss.after (os ++ o :: us) = (o.run (ss.after os)).snd.after us := by
  simp [after]

-- Each scan of a line gives the tokens of the line one by one and then nothing more, whatever was
-- done before it was started and is done between its tokens. The tokens that are asked for at once
-- are the same at any time, and the last one of them is the end of the line.
theorem next_interleaved (line : String) :
    (∀ before between : List Operation,
      let i := before.count .start
      let ss := after { line } (before ++ .start :: between)
      (Operation.start.run (after { line } before)).fst = .number i ∧
      ((Operation.next i).run ss).fst = .token (tokenize line)[between.count (.next i)]?) ∧
    (∀ os, (Operation.all.run (after { line } os)).fst = .tokens (tokenize line)) ∧
    ∃ t ∈ (tokenize line).getLast?, t.kind = .eof := by
  refine ⟨fun before between => ?next, fun os => ?all, ?eof⟩
  case next =>
    intro i ss
    have hs : ss = (after { line } before).start.snd.after between := after_append_cons ..
    have hl : (after { line } before).active.length = i := by simp [length_after, i]
    have hi : i < (after { line } before).start.snd.active.length := by simp [start, hl]
    have hr := (after { line } before).remaining_start
    rw [hl, line_after] at hr
    refine ⟨congrArg Answer.number hl, congrArg Answer.token ?_⟩
    rw [fst_next?, hs, remaining_after between hi, hr, List.head?_drop]
  case all => exact congrArg (Answer.tokens <| tokenize ·) (line_after _ os)
  case eof =>
    rw [tokenize, Scan.tokens_eq]
    exact ⟨_, List.getLast?_concat, rfl⟩

end Scans

end BuildShell
