import Switchboard.Http.Head

/-!
Where the lines and the head of a message end in a buffer. `cut?` finds the first occurrence of a pattern;
`splitLine?` is `cut?` with a line end, and `split?` is `cut?` with a line end and a blank line. What is found
in a buffer is found in every longer one (`cut?_append`), and what is found only in the longer one ends past
the shorter one (`length_lt_of_cut?`). Blank lines before a head may be dropped bit by bit
(`dropBlankLines_append`).
-/

namespace Switchboard.Http.Head

/-- The bytes before and after the first occurrence of a pattern. -/
def cut? (pat : Bytes) : Bytes → Option (Bytes × Bytes)
  | [] => none
  | b :: rest =>
    if pat <+: b :: rest then some ([], (b :: rest).drop pat.length)
    else (cut? pat rest).map fun p => (b :: p.1, p.2)

/-- The line end that ends a head, with the blank line before it. -/
def blankLine : Bytes := [13, 10, 13, 10]

section Cut

variable {pat a b u v : Bytes}

theorem cut?_eq_some (h : cut? pat a = some (u, v)) : a = u ++ (pat ++ v) := by
  induction a generalizing u with
  | nil => exact absurd h (by simp [cut?])
  | cons x a ih =>
    rw [cut?] at h
    split at h
    · next hp =>
      obtain ⟨w, hw⟩ := hp
      obtain ⟨rfl, rfl⟩ := Prod.mk.inj (Option.some.inj h)
      rw [← hw, List.drop_left]
      rfl
    · obtain ⟨⟨u', v'⟩, hc, he⟩ := Option.map_eq_some_iff.1 h
      obtain ⟨rfl, rfl⟩ := Prod.mk.inj he
      rw [ih hc]
      rfl

theorem cut?_append (h : cut? pat a = some (u, v)) (b : Bytes) :
    cut? pat (a ++ b) = some (u, v ++ b) := by
  induction a generalizing u with
  | nil => exact absurd h (by simp [cut?])
  | cons x a ih =>
    rw [cut?] at h
    split at h
    · next hp =>
      obtain ⟨rfl, rfl⟩ := Prod.mk.inj (Option.some.inj h)
      have hp' : pat <+: x :: (a ++ b) := List.IsPrefix.trans hp (List.prefix_append (x :: a) b)
      rw [List.cons_append, cut?, if_pos hp', ← List.cons_append,
        List.drop_append_of_le_length hp.length_le]
    · next hp =>
      obtain ⟨⟨u', v'⟩, hc, he⟩ := Option.map_eq_some_iff.1 h
      obtain ⟨rfl, rfl⟩ := Prod.mk.inj he
      -- the pattern fits in `a`, so that what follows `a` cannot bring it forward
      have hlen : pat.length ≤ (x :: a).length := by
        rw [cut?_eq_some hc]
        simp only [List.length_cons, List.length_append]
        omega
      have hp' : ¬ pat <+: x :: (a ++ b) := by
        intro h'
        exact hp (List.prefix_of_prefix_length_le h' (List.prefix_append (x :: a) b) hlen)
      rw [List.cons_append, cut?, if_neg hp', ih hc]
      rfl

theorem not_infix_of_cut? (hpat : pat ≠ []) (h : cut? pat a = none) : ¬ pat <:+: a := by
  induction a with
  | nil => exact fun hi => hpat (List.infix_nil.1 hi)
  | cons x a ih =>
    rw [cut?] at h
    split at h
    · exact absurd h (by simp)
    · next hp =>
      intro hi
      rcases List.infix_cons_iff.1 hi with hi | hi
      · exact hp hi
      · exact ih (Option.map_eq_none_iff.1 h) hi

/-- What is found only once more bytes are there ends past the bytes that were there. -/
theorem length_lt_of_cut? (hpat : pat ≠ []) (ha : cut? pat a = none)
    (h : cut? pat (a ++ b) = some (u, v)) : a.length < u.length + pat.length := by
  refine Nat.lt_of_not_le fun hlen => not_infix_of_cut? hpat ha ?_
  have hc := cut?_eq_some h
  have hpre : u ++ pat <+: a ++ b := ⟨v, by rw [hc, List.append_assoc]⟩
  have hlen : (u ++ pat).length ≤ a.length := by
    rw [List.length_append]
    exact hlen
  obtain ⟨w, hw⟩ := List.prefix_of_prefix_length_le hpre (List.prefix_append a b) hlen
  exact ⟨u, w, hw⟩

/-- Bytes among which the pattern does not begin come before what is found after them. -/
theorem cut?_append_of_not_mem {x : UInt8} (h : x ∉ a) (b : Bytes) :
    cut? (x :: pat) (a ++ b) = (cut? (x :: pat) b).map fun p => (a ++ p.1, p.2) := by
  induction a with
  | nil => simp
  | cons y a ih =>
    have hp : ¬ x :: pat <+: y :: (a ++ b) := by
      intro hp
      have hxy : x = y := (List.cons_prefix_cons.1 hp).1
      exact h (by rw [hxy]; exact List.mem_cons_self)
    rw [List.cons_append, cut?, if_neg hp, ih fun hm => h (List.mem_cons_of_mem y hm), Option.map_map]
    rfl

end Cut

/-! ## Lines and heads -/

theorem splitLine?_eq_cut? (bytes : Bytes) : splitLine? bytes = cut? Text.crlf bytes := by
  fun_induction splitLine? bytes with
  | case1 => rfl
  | case2 rest => rfl
  | case3 b rest hne ih =>
    have hp : ¬ Text.crlf <+: b :: rest := by
      rintro ⟨w, hw⟩
      obtain ⟨rfl, rfl⟩ := List.cons.inj hw
      exact hne w rfl rfl
    rw [cut?, if_neg hp, ih]

theorem split?_eq_cut? (bytes : Bytes) :
    split? bytes = (cut? blankLine bytes).map fun p => (p.1 ++ blankLine, p.2) := by
  fun_induction split? bytes with
  | case1 => rfl
  | case2 rest => rfl
  | case3 b rest hne ih =>
    have hp : ¬ blankLine <+: b :: rest := by
      rintro ⟨w, hw⟩
      obtain ⟨rfl, rfl⟩ := List.cons.inj hw
      exact hne w rfl rfl
    rw [cut?, if_neg hp, ih, Option.map_map, Option.map_map]
    rfl

theorem splitLine?_eq_some {a line rest : Bytes} (h : splitLine? a = some (line, rest)) :
    a = line ++ (Text.crlf ++ rest) := by
  rw [splitLine?_eq_cut?] at h
  exact cut?_eq_some h

theorem splitLine?_append {a line rest : Bytes} (h : splitLine? a = some (line, rest)) (b : Bytes) :
    splitLine? (a ++ b) = some (line, rest ++ b) := by
  rw [splitLine?_eq_cut?] at h ⊢
  exact cut?_append h b

theorem length_le_of_splitLine? {a b line rest : Bytes} (ha : splitLine? a = none)
    (h : splitLine? (a ++ b) = some (line, rest)) : a.length ≤ line.length + 1 := by
  rw [splitLine?_eq_cut?] at ha h
  have : a.length < line.length + 2 := length_lt_of_cut? (by decide) ha h
  omega

/-- Bytes in which no line end begins come before the line that follows them. -/
theorem splitLine?_append_of_not_mem {a : Bytes} (h : 13 ∉ a) (b : Bytes) :
    splitLine? (a ++ b) = (splitLine? b).map fun p => (a ++ p.1, p.2) := by
  rw [splitLine?_eq_cut?, splitLine?_eq_cut?, Text.crlf, cut?_append_of_not_mem h]

theorem split?_append_of_not_mem {a : Bytes} (h : 13 ∉ a) (b : Bytes) :
    split? (a ++ b) = (split? b).map fun p => (a ++ p.1, p.2) := by
  rw [split?_eq_cut?, split?_eq_cut?, blankLine, cut?_append_of_not_mem h, Option.map_map, Option.map_map]
  refine congrArg (fun g => Option.map g _) (funext fun p => ?_)
  simp

/-- A line without a line end in it ends at its line end. -/
theorem splitLine?_of_no_crlf {line : Bytes} (h : ¬ Text.crlf <:+: line) (rest : Bytes) :
    splitLine? (line ++ (Text.crlf ++ rest)) = some (line, rest) := by
  induction line with
  | nil => rfl
  | cons b line ih =>
    -- half of a line end at the end of the line is followed by a carriage return
    have hnext : ∀ w, b = 13 → line ++ (Text.crlf ++ rest) = 10 :: w → False := by
      rintro w rfl hw
      cases line with
      | nil => exact absurd (List.cons.inj hw).1 (by decide)
      | cons x line =>
        obtain ⟨rfl, -⟩ := List.cons.inj hw
        exact h ⟨[], line, rfl⟩
    rw [List.cons_append, splitLine?, ih fun hi => h (List.infix_cons hi)]
    · rfl
    · exact hnext

theorem not_infix_of_cr {line : Bytes} (h : 13 ∉ line) : ¬ Text.crlf <:+: line :=
  fun hi => h (hi.subset List.mem_cons_self)

theorem splitLine?_line {line : Bytes} (h : 13 ∉ line) (rest : Bytes) :
    splitLine? (line ++ (Text.crlf ++ rest)) = some (line, rest) :=
  splitLine?_of_no_crlf (not_infix_of_cr h) rest

/-- The lines are split off one by one. -/
theorem linesFrom_of_splitLine? {a line rest : Bytes} (h : splitLine? a = some (line, rest)) (acc : Bytes) :
    linesFrom acc a = (acc.reverse ++ line) :: linesFrom [] rest := by
  fun_induction splitLine? a generalizing acc line with
  | case1 => exact absurd h (by simp)
  | case2 w =>
    obtain ⟨rfl, rfl⟩ := Prod.mk.inj (Option.some.inj h)
    rw [List.append_nil, linesFrom]
  | case3 b w hne ih =>
    obtain ⟨⟨line', rest'⟩, hs, he⟩ := Option.map_eq_some_iff.1 h
    obtain ⟨rfl, rfl⟩ := Prod.mk.inj he
    rw [linesFrom, ih hs, List.reverse_cons, List.append_assoc]
    · rfl
    · exact hne

/-- The lines before a blank line, whatever comes after it. -/
theorem fieldLines_lines {ls : List Bytes} (h : ∀ l ∈ ls, l ≠ [] ∧ ¬ Text.crlf <:+: l) (rest : Bytes) :
    fieldLines (ls.flatMap (· ++ Text.crlf) ++ (Text.crlf ++ rest)) = ls := by
  induction ls with
  | nil => rfl
  | cons l ls ih =>
    obtain ⟨hne, hl⟩ := h l List.mem_cons_self
    rw [List.flatMap_cons, List.append_assoc, List.append_assoc, fieldLines,
      linesFrom_of_splitLine? (splitLine?_of_no_crlf hl _), List.reverse_nil, List.nil_append,
      List.takeWhile_cons_of_pos (by simpa using hne), ← fieldLines, ih fun x hx => h x (List.mem_cons_of_mem l hx)]

/-- A line with half of its line end has not ended. -/
theorem splitLine?_unfinished {a line rest : Bytes} (h : splitLine? a = some (line, rest)) :
    splitLine? (line ++ [13]) = none := by
  rcases hl : splitLine? (line ++ [13]) with _ | ⟨line', rest'⟩
  · rfl
  · have ha : a = (line ++ [13]) ++ (10 :: rest) := by
      rw [splitLine?_eq_some h]
      simp [Text.crlf]
    have h' := splitLine?_append hl (10 :: rest)
    rw [← ha, h] at h'
    obtain ⟨rfl, -⟩ := Prod.mk.inj (Option.some.inj h')
    have hlen := congrArg List.length (splitLine?_eq_some hl)
    simp only [List.length_append, Text.crlf, List.length_cons, List.length_nil] at hlen
    omega

theorem cut?_of_split? {a head rest : Bytes} (h : split? a = some (head, rest)) :
    ∃ u, head = u ++ blankLine ∧ cut? blankLine a = some (u, rest) := by
  rw [split?_eq_cut?] at h
  obtain ⟨⟨u, v⟩, hc, he⟩ := Option.map_eq_some_iff.1 h
  obtain ⟨rfl, rfl⟩ := Prod.mk.inj he
  exact ⟨u, rfl, hc⟩

theorem split?_eq_some {a head rest : Bytes} (h : split? a = some (head, rest)) : a = head ++ rest := by
  obtain ⟨u, rfl, hc⟩ := cut?_of_split? h
  rw [List.append_assoc]
  exact cut?_eq_some hc

theorem split?_append {a head rest : Bytes} (h : split? a = some (head, rest)) (b : Bytes) :
    split? (a ++ b) = some (head, rest ++ b) := by
  obtain ⟨u, rfl, hc⟩ := cut?_of_split? h
  rw [split?_eq_cut?, cut?_append hc b]
  rfl

theorem length_lt_of_split? {a b head rest : Bytes} (ha : split? a = none)
    (h : split? (a ++ b) = some (head, rest)) : a.length < head.length := by
  obtain ⟨u, rfl, hc⟩ := cut?_of_split? h
  rw [split?_eq_cut?, Option.map_eq_none_iff] at ha
  rw [List.length_append]
  exact length_lt_of_cut? (by decide) ha hc

/-- A part of a head has no head in it. -/
theorem split?_eq_none_of_lt {a b head rest : Bytes} (h : split? (a ++ b) = some (head, rest))
    (hlt : a.length < head.length) : split? a = none := by
  rcases ha : split? a with _ | ⟨head', rest'⟩
  · rfl
  · have hab := split?_append ha b
    obtain ⟨rfl, -⟩ := Prod.mk.inj (Option.some.inj (h.symm.trans hab))
    have hlen := congrArg List.length (split?_eq_some ha)
    rw [List.length_append] at hlen
    omega

/-- A head has a first line. -/
theorem exists_splitLine?_of_split? {a head rest : Bytes} (h : split? a = some (head, rest)) :
    ∃ line fields, splitLine? head = some (line, fields) := by
  obtain ⟨u, rfl, -⟩ := cut?_of_split? h
  rcases hs : splitLine? (u ++ blankLine) with _ | ⟨line, fields⟩
  · rw [splitLine?_eq_cut?] at hs
    exact absurd ⟨u, [13, 10], by simp [Text.crlf, blankLine]⟩ (not_infix_of_cut? (by decide) hs)
  · exact ⟨line, fields, rfl⟩

/-- Without a line there is no head. -/
theorem split?_eq_none_of_splitLine? {a : Bytes} (h : splitLine? a = none) : split? a = none := by
  rcases hs : split? a with _ | ⟨head, rest⟩
  · rfl
  · obtain ⟨line, fields, hl⟩ := exists_splitLine?_of_split? hs
    have ha := splitLine?_append hl rest
    rw [← split?_eq_some hs, h] at ha
    exact absurd ha (by simp)

/-! ## Blank lines before a head -/

theorem dropBlankLines_of_no_crlf {a : Bytes} (h : ¬ Text.crlf <+: a) : dropBlankLines a = a := by
  fun_cases dropBlankLines a with
  | case1 rest => exact absurd ⟨rest, rfl⟩ h
  | case2 => rfl

theorem not_prefix_dropBlankLines (a : Bytes) : ¬ Text.crlf <+: dropBlankLines a := by
  fun_induction dropBlankLines a with
  | case1 rest ih => exact ih
  | case2 a hne =>
    rintro ⟨w, rfl⟩
    exact hne w rfl

/-- The blank lines that are dropped are dropped before other bytes as well. -/
theorem exists_blankLines (a : Bytes) :
    ∃ blanks, a = blanks ++ dropBlankLines a ∧
      ∀ b, ¬ Text.crlf <+: b → dropBlankLines (blanks ++ b) = b := by
  fun_induction dropBlankLines a with
  | case1 rest ih =>
    obtain ⟨blanks, ha, hb⟩ := ih
    exact ⟨13 :: 10 :: blanks, congrArg (13 :: 10 :: ·) ha, hb⟩
  | case2 a hne => exact ⟨[], rfl, fun b => dropBlankLines_of_no_crlf⟩

/-- Bytes may be cut inside the line end of their first line, blank lines aside. -/
theorem exists_cut_in_lineEnd {a line rest : Bytes} (h : splitLine? (dropBlankLines a) = some (line, rest)) :
    ∃ part, a = part ++ (10 :: rest) ∧ part ≠ [] ∧ dropBlankLines part = line ++ [13] := by
  obtain ⟨blanks, ha, hblanks⟩ := exists_blankLines a
  have hline : dropBlankLines a = (line ++ [13]) ++ (10 :: rest) := by
    rw [splitLine?_eq_some h]
    simp [Text.crlf]
  refine ⟨blanks ++ (line ++ [13]), ?_, by simp, hblanks _ fun hp => ?_⟩
  · rw [List.append_assoc, ← hline]
    exact ha
  · exact not_prefix_dropBlankLines a (hp.trans ⟨10 :: rest, hline.symm⟩)

/-- Blank lines may be dropped before more bytes come. -/
theorem dropBlankLines_append (a b : Bytes) :
    dropBlankLines (dropBlankLines a ++ b) = dropBlankLines (a ++ b) := by
  fun_induction dropBlankLines a with
  | case1 rest ih =>
    rw [ih]
    rfl
  | case2 a hne => rfl

/-- Two bytes show that no more blank lines come. -/
theorem dropBlankLines_append_of_le {a : Bytes} (h : 2 ≤ (dropBlankLines a).length) (b : Bytes) :
    dropBlankLines (a ++ b) = dropBlankLines a ++ b := by
  have hp : ¬ Text.crlf <+: dropBlankLines a ++ b := by
    intro hp
    exact not_prefix_dropBlankLines a
      (List.prefix_of_prefix_length_le hp (List.prefix_append _ b) h)
  rw [← dropBlankLines_append, dropBlankLines_of_no_crlf hp]

end Switchboard.Http.Head
