import BuildShell.Proofs.Reading.Reads
import BuildShell.Report

namespace BuildShell

-- The strict reading takes just the lines with a scoped key. Of any other line a record is made,
-- with the reason and the column that the check gives.
theorem Command.check_cases (line : String) :
    ((ofText line).form = .scopedKey ∧ check line = .ok (ofText line) ∧
      (Reading.ofText line).log = []) ∨
    ((ofText line).form = .unstructured ∧
      ∃ f, check line = .error f ∧ (Reading.ofText line).log = [f.record]) := by
  rw [check, ofText, Reading.ofText]
  obtain ⟨_, _, _, h⟩ | ⟨_, _, _, _, h⟩ := (TokenLine.ofText line).read_cases <;> rw [h]
  case inl => exact .inl ⟨rfl, rfl, rfl⟩
  case inr => exact .inr ⟨rfl, _, rfl, rfl⟩

namespace Report

open Command

variable {flags : Flags} {line text : String} {f : Fallback}

def listing (line : String) : String :=
  "\n".intercalate ((tokenize line).map (·.render))

theorem run_of_ok (h : (render flags line).value = .ok text) :
    (run flags line).value = (0, text ++ "\n") := by
  rw [run, Logged.value_bind, h]
  rfl

theorem run_of_error (h : (render flags line).value = .error f) :
    (run flags line).value = (1, f.message ++ "\n") := by
  rw [run, Logged.value_bind, h]
  rfl

theorem render_of_tokens (h : flags.tokens) (line : String) (printable : Char → Bool) :
    render flags line printable =
      pure (.ok ("\n".intercalate ((tokenize line).map (·.render printable)))) :=
  if_pos h

theorem render_of_not_tokens (h : ¬flags.tokens) (line : String) (printable : Char → Bool) :
    (render flags line printable).value =
      (if flags.check then Command.check line else .ok (ofText line)).map
        (showCommand printable flags) ∧
    (render flags line printable).log = (Reading.ofText line).log := by
  have hr : render flags line printable = do
      let r ← (Reading.ofText line).logged
      return (if flags.check then r.check else .ok r.command).map (showCommand printable flags) :=
    if_neg h
  rw [hr]
  exact ⟨rfl, List.append_nil _⟩

theorem render_of_check_eq_error (ht : ¬flags.tokens) (hc : flags.check)
    (h : Command.check line = .error f) : (render flags line).value = .error f := by
  rw [(render_of_not_tokens ht line _).left, if_pos hc, h]
  rfl

theorem exists_render (h : ¬(flags.check ∧ (ofText line).form = .unstructured)) :
    ∃ text, (render flags line).value = .ok text := by
  by_cases ht : flags.tokens
  case pos => exact ⟨_, by rw [render_of_tokens ht]; rfl⟩
  case neg =>
    rw [(render_of_not_tokens ht line _).left]
    by_cases hc : flags.check
    case neg => exact ⟨_, by rw [if_neg hc]; rfl⟩
    case pos =>
      have ⟨_, hk, _⟩ := check_cases line |>.resolve_right fun hf => h ⟨hc, hf.left⟩
      exact ⟨_, by rw [if_pos hc, hk]; rfl⟩

-- What the check promises: the status is one for a line without a scoped key, of which nothing but
-- the error is shown, and else it is zero, and the line is shown as the flags ask for.
structure Checked (flags : Flags) (line : String) : Prop where
  status : (run flags line).value.fst = 1 ↔ (flags.check ∧ (ofText line).form = .unstructured)
  error  : flags.check → (ofText line).form = .unstructured →
    ∃ f, Command.check line = .error f ∧ (run flags line).value = (1, f.message ++ "\n")
  shown  : ¬(flags.check ∧ (ofText line).form = .unstructured) →
    ∃ text, (render flags line).value = .ok text ∧ (run flags line).value = (0, text ++ "\n")

theorem checked_of_shown (h : ¬(flags.check ∧ (ofText line).form = .unstructured)) :
    Checked flags line :=
  have ⟨text, ht⟩ := exists_render h
  have hr := run_of_ok ht
  { status      := iff_of_false (by simp [hr]) h
    error hc hf := absurd ⟨hc, hf⟩ h
    shown _     := ⟨text, ht, hr⟩ }

theorem checked_of_error (ht : ¬flags.tokens)
    (h : flags.check ∧ (ofText line).form = .unstructured) : Checked flags line :=
  have ⟨_, f, hf, _⟩ := check_cases line |>.resolve_left fun hk => by simp [h.right] at hk
  have hr := run_of_error <| render_of_check_eq_error ht h.left hf
  { status    := iff_of_true (by simp [hr]) h
    error _ _ := ⟨f, hf, hr⟩
    shown hn  := absurd h hn }

-- The check is kept to, except that tokens are shown without any: then the status of a line without
-- a scoped key is zero like that of every other line.
theorem checked_iff (flags : Flags) (line : String) :
    (Checked flags line ↔ ¬(flags.tokens ∧ flags.check ∧ (ofText line).form = .unstructured)) ∧
    (flags.tokens → (run flags line).value = (0, listing line ++ "\n")) := by
  have hr (ht : flags.tokens) : (run flags line).value = (0, listing line ++ "\n") :=
    run_of_ok <| congrArg (·.value) <| render_of_tokens ht line _
  refine ⟨⟨?mp, ?mpr⟩, hr⟩
  case mp =>
    rintro h ⟨ht, hc⟩
    have hs := h.status.mpr hc
    simp [hr ht] at hs
  case mpr =>
    intro h
    by_cases hc : flags.check ∧ (ofText line).form = .unstructured
    case pos => exact checked_of_error (fun ht => h ⟨ht, hc⟩) hc
    case neg => exact checked_of_shown hc

theorem not_checked_slash : ¬Checked { tokens := true, check := true } "/" ∧
    (ofText "/").form = .unstructured ∧
    (run { tokens := true, check := true } "/").value =
      (0, "Token(SLASH, '/', C1)\nToken(EOF, '', C2)\n") := by
  have hf : (ofText "/").form = .unstructured := by cbv
  have hr : (run { tokens := true, check := true } "/").value =
      (0, "Token(SLASH, '/', C1)\nToken(EOF, '', C2)\n") := by
    cbv
  refine ⟨fun h => ?_, hf, hr⟩
  have hs := h.status.mpr ⟨rfl, hf⟩
  simp [hr] at hs

end Report

end BuildShell
