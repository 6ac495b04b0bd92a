import BuildShell.Proofs.Reading.Spans

namespace BuildShell

open Text Token

variable {line line' r r' : String} {k : ScopedKey} {y : Layout}

theorem Span.Covers.exists_append_of_slice_eq {s : Span} {before piece after : String} {n : Nat}
    (hc : s.Covers (before ++ piece ++ after) before piece)
    (h : slice ⟨0, s.stop + n⟩ line = slice ⟨0, s.stop + n⟩ (before ++ piece ++ after)) :
    ∃ r, line = before ++ piece ++ r ∧ r.toList.take n = after.toList.take n := by
  have hs : s.stop + n = ((before ++ piece).toList.length + n : Nat) := by
    simp [hc.stop, String.length_toList]
  generalize before ++ piece = front at hs h
  rw [hs, slice_zero, slice_zero, String.ofList_inj, String.toList_append,
    List.take_length_add_append] at h
  have hf : line.toList.take front.toList.length = front.toList := by
    simpa [List.take_take] using congrArg (·.take front.toList.length) h
  have hr : (line.toList.drop front.toList.length).take n = after.toList.take n := by
    rw [List.take_add, hf] at h
    exact List.append_cancel_left h
  refine ⟨.ofList (line.toList.drop front.toList.length), String.toList_injective ?_, by simpa⟩
  rw [String.toList_append, String.toList_ofList]
  calc
    line.toList = line.toList.take front.toList.length ++ line.toList.drop front.toList.length :=
      (List.take_append_drop ..).symm
    _ = front.toList ++ line.toList.drop front.toList.length := by rw [hf]

namespace ScopedKey

-- Two colons and the letter after them are the most that a key looks at, so that whether a text can
-- come after the key is a matter of its first three characters.
theorem StopsAt.of_take_eq (h : k.StopsAt r) (ht : r'.toList.take 3 = r.toList.take 3) :
    k.StopsAt r' := by
  have hh : r'.toList.head? = r.toList.head? := by
    simpa [List.head?_take] using congrArg List.head? ht
  constructor
  case part    => exact hh ▸ h.part
  case project => exact hh ▸ h.project
  case config =>
    intro hn hn' cs hcs
    obtain ⟨ds, hds⟩ := List.head?_eq_some_iff.mp <| hh.symm.trans <| congrArg List.head? hcs
    have hd : cs.head? = ds.head? := by
      simpa [hcs, hds, List.head?_take] using congrArg (·.tail.head?) ht
    rw [hd]
    exact h.config hn hn' ds hds
  case intask =>
    intro hn c cs hcs
    rw [hcs] at ht
    match hr : r.toList with
    | [] | [_] | [_, _] => simp [hr] at ht
    | _ :: _ :: _ :: ds =>
      obtain ⟨rfl, rfl, rfl⟩ : ':' = _ ∧ ':' = _ ∧ c = _ := by simpa [hr] using ht
      exact h.intask hn _ ds hr

end ScopedKey

namespace Layout.Valid

theorem exists_trailing (h : y.Valid) (hb : (Scan.ofLine line).body = y.tokens)
    (hr : r.toList.take 3 = (join y.trailing).toList.take 3) :
    ∃ trailing, Valid { y with trailing } ∧
      (Scan.ofLine (join y.tokensToKey ++ r)).body = tokens { y with trailing } := by
  have hr' : y.scopedKey.StopsAt r := (h.stopsAt hb).of_take_eq hr
  have ⟨s, hs, ht, ho, _⟩ := h.exists_scan hb
  have hh : r.toList.head? = s.rest.head? := by
    simpa [← ht, s.join_body, List.head?_take] using congrArg List.head? hr
  have hs' := hs.transfer_line hh
  rw [String.ofList_toList] at hs'
  let s' : Scan := { s with rest := r.toList }
  let y' : Layout := { y with trailing := s'.body }
  have ho' : s'.Before r.toList := ⟨rfl, ho⟩
  have hv : y'.Valid := valid_of_stopsAt h.toValid h.key h.intask ho' rfl hr'
  exact ⟨s'.body, hv, hs'.body_eq.trans y'.tokens_eq_append.symm⟩

theorem exists_append_of_slice_eq (h : y.Valid) (hb : (Scan.ofLine line).body = y.tokens) {n : Nat}
    (hs : Span.slice ⟨0, y.scopedKey.span.stop + n⟩ line' =
      Span.slice ⟨0, y.scopedKey.span.stop + n⟩ line) :
    ∃ r, line' = join y.tokensToKey ++ r ∧ r.toList.take n = (join y.trailing).toList.take n := by
  have hl := (h.decomposes hb).line_eq
  have hj : join y.tokensToKey = join y.leading ++ y.scopedKey.render := by
    rw [← String.append_left_inj, ← hl, ← join_append, ← tokens_eq_append, ← hb,
      Scan.join_body_ofLine]
  rw [hj]
  exact (hl ▸ h.covers hb).exists_append_of_slice_eq (hl ▸ hs)

end Layout.Valid

namespace Command

-- What comes more than three characters after the key has no bearing on the key, nor on where its
-- parts stand.
theorem ofText_of_slice_eq (hk : (ofText line).scopedKey? = some k)
    (h : Span.slice ⟨0, k.span.stop + 3⟩ line' = Span.slice ⟨0, k.span.stop + 3⟩ line) :
    (ofText line').form = .scopedKey ∧ (ofText line').leading = (ofText line).leading ∧
    (ofText line').scopedKey? = some k := by
  obtain ⟨y, hy, hb⟩ | ⟨_, hn⟩ := ofText_cases line
  case inr => simp [hn] at hk
  have ho := ofText_eq_of_layout hy hb
  rw [ho] at hk
  obtain rfl : y.scopedKey = k := Option.some.inj hk
  obtain ⟨r, rfl, hr⟩ := hy.exists_append_of_slice_eq hb h
  obtain ⟨trailing, hy', hb'⟩ := hy.exists_trailing hb hr
  rw [ho, ofText_eq_of_layout hy' hb']
  exact ⟨rfl, rfl, rfl⟩

theorem ofText_of_slice_eq_digit :
    (ofText "a::1").scopedKey? = some { key := ⟨"a", ⟨0, 1⟩⟩, span := ⟨0, 1⟩ } ∧
    Span.slice ⟨0, 4⟩ "a::1/b:c" = Span.slice ⟨0, 4⟩ "a::1" ∧
    (ofText "a::1/b:c").scopedKey? = (ofText "a::1").scopedKey? := by
  have h : (ofText "a::1").scopedKey? = some { key := ⟨"a", ⟨0, 1⟩⟩, span := ⟨0, 1⟩ } := by cbv
  have hs : Span.slice ⟨0, 4⟩ "a::1/b:c" = Span.slice ⟨0, 4⟩ "a::1" := by decide
  obtain ⟨_, _, h'⟩ := ofText_of_slice_eq h hs
  exact ⟨h, hs, h'.trans h.symm⟩

-- Two characters would not do: a::b begins in the same way, but its key goes on to the end.
example :
    Span.slice ⟨0, 3⟩ "a::b" = Span.slice ⟨0, 3⟩ "a::1" ∧
    (ofText "a::1").scopedKey?.map (·.span) = some ⟨0, 1⟩ ∧
    (ofText "a::b").scopedKey?.map (·.span) = some ⟨0, 4⟩ :=
  ⟨by decide, by cbv, by cbv⟩

end Command

end BuildShell
