import Mathlib.Data.List.Basic

/-!
# Reading a Stream Line by Line

`getline` of a C++ input stream takes an array and a delimiter, and stores the
characters before the delimiter, which it takes off the stream, too. It leaves
the stream in one of three ways. When the delimiter comes in time, the stream
is as good as before. When the input ends first, the bit `eofbit` is set. When
the array is full first, `failbit` is set, and what was not stored stays in the
stream. A stream that is not good any more gives nothing, whatever it holds,
and only `failbit` is set.

So a stream is read up to its end only when its lines fit into the array:
`getline_line`, `getline_last` and `getline_long` say for a line of any length
which of the three cases it is, and `getline_failed` what comes after the third.

## Main definitions

* `IStream`: A stream with its error state.
* `scan`: The characters up to a delimiter, if they fit.
* `IStream.getline`: Reading a line.

## Theorems

* `getline_line`: A line that fits.
* `getline_last`: A last line that fits.
* `getline_long`: A line that does not fit.
* `getline_failed`: Reading after a failure.
-/

namespace LineStream

/-- An input stream: what is left of the input, and two bits of its state. -/
structure IStream (α : Type*) where
  rest : List α
  eofbit : Bool
  failbit : Bool

variable {α : Type*}

/-- A stream at the begin of a file. -/
def IStream.ofFile (content : List α) : IStream α := ⟨content, false, false⟩

variable [DecidableEq α]

/-- At most `n` characters, up to a delimiter, and what comes after them. -/
def scan (delim : α) : Nat → List α → List α × List α
  | 0, cs => ([], cs)
  | _ + 1, [] => ([], [])
  | n + 1, c :: cs =>
    if c = delim then ([], c :: cs) else (c :: (scan delim n cs).1, (scan delim n cs).2)

/-- `std::istream::getline`, with an array of `n` characters. It returns the
    string that is stored, which ends with a null character in the array. -/
def IStream.getline (delim : α) (n : Nat) (s : IStream α) : List α × IStream α :=
  if s.eofbit || s.failbit then ([], { s with failbit := true })
  else
    let line := scan delim (n - 1) s.rest
    (line.1, match line.2 with
      | [] => { rest := [], eofbit := true, failbit := line.1.isEmpty }
      | c :: rest =>
        if c = delim then { rest := rest, eofbit := false, failbit := false }
        else { rest := c :: rest, eofbit := false, failbit := true })

variable {delim : α}

/-- A piece without the delimiter that fits is stored as a whole. -/
theorem scan_append {l cs : List α} {n : Nat} (hl : delim ∉ l) (hn : l.length ≤ n) :
    scan delim n (l ++ cs) = (l ++ (scan delim (n - l.length) cs).1,
      (scan delim (n - l.length) cs).2) := by
  induction l generalizing n with
  | nil => rfl
  | cons c l ih =>
      rw [List.length_cons] at hn
      have hc : c ≠ delim := fun h => hl (h ▸ List.mem_cons_self)
      have hrest : delim ∉ l := fun h => hl (List.mem_cons_of_mem c h)
      rw [show n = n - 1 + 1 by omega, List.cons_append, scan, if_neg hc, ih hrest (by omega),
        List.length_cons, Nat.add_sub_add_right]
      rfl

/-- At the delimiter, or with no room left, nothing is stored. -/
theorem scan_stop {n : Nat} {cs : List α} (h : n = 0 ∨ cs = [] ∨ ∃ cs', cs = delim :: cs') :
    scan delim n cs = ([], cs) := by
  cases n with
  | zero => rfl
  | succ n =>
      rcases h with h | rfl | ⟨cs', rfl⟩
      · exact absurd h (Nat.succ_ne_zero n)
      · rfl
      · rw [scan, if_pos rfl]

/-- A line that fits is read, and its delimiter. -/
theorem getline_line {l cs : List α} {n : Nat} (hl : delim ∉ l) (hn : l.length < n) :
    (IStream.ofFile (l ++ delim :: cs)).getline delim n = (l, .ofFile cs) := by
  have hscan : scan delim (n - 1) (l ++ delim :: cs) = (l, delim :: cs) := by
    rw [scan_append hl (by omega), scan_stop (Or.inr (Or.inr ⟨cs, rfl⟩)), List.append_nil]
  simp only [IStream.getline, IStream.ofFile, Bool.or_self, Bool.false_eq_true, if_false, hscan,
    if_true]

/-- A last line that fits is read up to the end. -/
theorem getline_last {l : List α} {n : Nat} (hl : delim ∉ l) (hn : l.length < n) :
    (IStream.ofFile l).getline delim n = (l, ⟨[], true, l.isEmpty⟩) := by
  have hscan : scan delim (n - 1) l = (l, []) := by
    conv_lhs => rw [← List.append_nil l]
    rw [scan_append hl (by omega), scan_stop (Or.inr (Or.inl rfl)), List.append_nil]
  simp only [IStream.getline, IStream.ofFile, Bool.or_self, Bool.false_eq_true, if_false, hscan]

/-- Of a line that does not fit the begin is read, and reading has failed. -/
theorem getline_long {l cs : List α} {n : Nat} (hl : delim ∉ l) (hn : n ≤ l.length) (h0 : 0 < n) :
    (IStream.ofFile (l ++ cs)).getline delim n
      = (l.take (n - 1), ⟨l.drop (n - 1) ++ cs, false, true⟩) := by
  have hscan : scan delim (n - 1) (l ++ cs) = (l.take (n - 1), l.drop (n - 1) ++ cs) := by
    have htake : delim ∉ l.take (n - 1) := fun h => hl (List.mem_of_mem_take h)
    have hlength : (l.take (n - 1)).length = n - 1 := by rw [List.length_take]; omega
    conv_lhs => rw [← List.take_append_drop (n - 1) l, List.append_assoc]
    rw [scan_append htake (by omega), hlength, Nat.sub_self, scan_stop (Or.inl rfl),
      List.append_nil]
  -- The character that has no room any more is one of the line.
  rcases hdrop : l.drop (n - 1) with _ | ⟨c, rest⟩
  · have hlength := congrArg List.length hdrop
    rw [List.length_drop, List.length_nil] at hlength
    omega
  · have hc : c ≠ delim := by
      rintro rfl
      exact hl (List.mem_of_mem_drop (hdrop ▸ List.mem_cons_self))
    rw [hdrop, List.cons_append] at hscan
    simp only [IStream.getline, IStream.ofFile, Bool.or_self, Bool.false_eq_true, if_false, hscan,
      if_neg hc, List.cons_append]

/-- Once reading has failed, nothing is read, and the end is not reached. -/
theorem getline_failed (n : Nat) {s : IStream α} (h : s.failbit = true) :
    s.getline delim n = ([], s) := by
  rw [IStream.getline, h, Bool.or_true, if_pos rfl, ← h]

/-- A text is a line, or a line, the delimiter and more text. -/
theorem text_cases (delim : α) (content : List α) :
    (delim ∉ content ∧ content.splitOn delim = [content]) ∨
      ∃ l cs, content = l ++ delim :: cs ∧ delim ∉ l ∧ cs.length < content.length ∧
        content.splitOn delim = l :: cs.splitOn delim := by
  by_cases h : delim ∈ content
  · rcases List.eq_append_cons_of_mem h with ⟨l, cs, rfl, hl⟩
    refine Or.inr ⟨l, cs, rfl, hl, ?_, ?_⟩
    · rw [List.length_append, List.length_cons]
      omega
    · rw [List.splitOn_append_cons_self, List.splitOn_eq_singleton hl, List.singleton_append]
  · exact Or.inl ⟨h, List.splitOn_eq_singleton h⟩

end LineStream
