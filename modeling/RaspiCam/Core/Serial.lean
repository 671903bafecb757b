import Mathlib.Data.List.Infix
import RaspiCam.Lib.LineStream
import RaspiCam.Lib.While

/-!
# The Serial Number

`getId` of either class takes the serial number of the board for an id of the
camera. It reads `/proc/cpuinfo` line by line into an array of 1024 characters,
until a line is found with a serial number in it or the end of the file is
reached. Whether reading has failed is not looked at.

A line that does not fit into the array is such a failure, after which the
stream neither gives another character nor comes to its end. So the loop ends
exactly when it finds a serial number before that, `getId_terminates_iff`, and
goes on forever when it does not. The third outcome is that `sscanf` writes
past the end of one of its two arrays.

## Main definitions

* `cString`: The string in an array of characters.
* `sscanf`: The strings that are stored by `"%s : %s"`.
* `findSerial`: What is made of a line.
* `getIdLoop`, `readSerial`: The loop and the function around it.
* `Readable`: The lines with which it ends.
* `Endless`: The lines with which it goes on forever.

## Theorems

* `getline_first`: What is read of the first line.
* `ends_round_iff`, `forever_round_iff`: What one round comes to.
* `getIdLoop_iff`: How the loop ends.
* `getId_terminates_iff`: So do both functions.
* `long_line_read`: A file with a line that is too long.
-/

namespace RaspiCam

open While LineStream

/-- `'\n'`. -/
def newline : UInt8 := 10

/-- `"Serial"`. -/
def serialWord : List UInt8 := [83, 101, 114, 105, 97, 108]

/-- The string in an array of characters, which ends at a null character. -/
def cString (cs : List UInt8) : List UInt8 := cs.takeWhile (· ≠ 0)

/-- `isspace`. -/
def isSpace (c : UInt8) : Bool := c == 32 || (9 ≤ c && c ≤ 13)

/-- `%s` of `sscanf`: after white space, the characters up to the next white
    space, if there are any, and what comes after them. -/
def scanString (cs : List UInt8) : Option (List UInt8 × List UInt8) :=
  let cs := cs.dropWhile isSpace
  let word := cs.takeWhile (!isSpace ·)
  if word = [] then none else some (word, cs.dropWhile (!isSpace ·))

/-- The strings that `sscanf` stores for `"%s : %s"`, in order. It returns their
    number. -/
def sscanf (line : List UInt8) : List (List UInt8) :=
  match scanString line with
  | none => []
  | some (aux, rest) =>
    match rest.dropWhile isSpace with
    | [] => [aux]
    | c :: rest =>
      if c = 58 then
        match scanString rest with
        | none => [aux]
        | some (serial, _) => [aux, serial]
      else [aux]

/-- The strings fit into `aux` and `serial`, with a null character each. -/
def fieldsFit (fields : List (List UInt8)) : Bool :=
  (fields.zip [100, 1024]).all fun x => decide (x.1.length < x.2)

/-- What is made of a line: the serial number, if both strings are stored. It
    is undefined when one of them does not fit. -/
def findSerial (line : List UInt8) : Option (Option (List UInt8)) :=
  if serialWord <:+: line then
    if fieldsFit (sscanf line) then some ((sscanf line)[1]?) else none
  else some none

/-- The variables of `getId`. -/
structure Reading where
  file : IStream UInt8
  serial : List UInt8
  found : Bool

/-- The loop of `getId`. -/
def getIdLoop : Loop Reading where
  test s := !s.file.eofbit && !s.found
  body s :=
    let line := s.file.getline newline 1024
    (findSerial (cString line.1)).map fun
      | none => { s with file := line.2 }
      | some serial => ⟨line.2, serial, true⟩

/-- The loop starts with nothing read. -/
def Reading.start (content : List UInt8) : Reading := ⟨.ofFile content, [], false⟩

/-- `getId`, with the content of the file if it can be opened, and so much
    fuel. -/
def readSerial (file : Option (List UInt8)) (fuel : Nat) : Option (List UInt8) :=
  match file with
  | none => some []
  | some content => (getIdLoop.exec fuel (.start content)).map (·.serial)

/-- `Private_Impl::getId`. -/
def Video.getId (file : Option (List UInt8)) (fuel : Nat) : Option (List UInt8) :=
  readSerial file fuel

/-- `Private_Impl_Still::getId`. -/
def Still.getId (file : Option (List UInt8)) (fuel : Nat) : Option (List UInt8) :=
  readSerial file fuel

/-- What is made of a line of any length: only the first 1023 characters are
    read. -/
def look (l : List UInt8) : Option (Option (List UInt8)) := findSerial (cString (l.take 1023))

/-- Up to the first line with a serial number, every string fits, and every
    line without one is shorter than 1024 characters. -/
def Readable : List (List UInt8) → Prop
  | [] => True
  | l :: ls =>
    match look l with
    | none => False
    | some none => l.length < 1024 ∧ Readable ls
    | some (some _) => True

/-- There is a line of 1024 characters or more, and neither in it nor before it
    is a serial number, or a string that does not fit. -/
def Endless : List (List UInt8) → Prop
  | [] => False
  | l :: ls => look l = some none ∧ (1024 ≤ l.length ∨ Endless ls)

/-- With enough fuel the function returns, for this content of the file. -/
def Terminates (getId : Option (List UInt8) → Nat → Option (List UInt8))
    (content : List UInt8) : Prop := ∃ fuel id, getId (some content) fuel = some id

/-- The loop ends. -/
def Reading.Ends (s : Reading) : Prop := ∃ t, getIdLoop.Ends s t

theorem start_test (content : List UInt8) : getIdLoop.test (.start content) = true := rfl

/-- What one round makes of the first line. -/
theorem start_body {content l : List UInt8} {file : IStream UInt8}
    (h : (IStream.ofFile content).getline newline 1024 = (l.take 1023, file)) :
    getIdLoop.body (.start content) = (look l).map fun
      | none => ⟨file, [], false⟩
      | some serial => ⟨file, serial, true⟩ := by
  simp only [getIdLoop, Reading.start, h, look]

/-- A loop that has found the serial number ends. -/
theorem ends_found (file : IStream UInt8) (serial : List UInt8) :
    getIdLoop.test ⟨file, serial, true⟩ = false :=
  Bool.and_false _

theorem ends_eof {file : IStream UInt8} (h : file.eofbit = true) :
    getIdLoop.test ⟨file, [], false⟩ = false := by
  simp only [getIdLoop, h, Bool.not_true, Bool.false_and]

/-- Whether the loop ends, by what the first line holds. -/
theorem ends_round_iff {content l : List UInt8} {file : IStream UInt8}
    (h : (IStream.ofFile content).getline newline 1024 = (l.take 1023, file)) :
    (Reading.start content).Ends ↔ match look l with
      | none => False
      | some none => Reading.Ends ⟨file, [], false⟩
      | some (some _) => True := by
  have hround : (Reading.start content).Ends ↔
      ∃ m, getIdLoop.body (.start content) = some m ∧ m.Ends := by
    constructor
    · rintro ⟨t, ht⟩
      rcases (ends_round (start_test content)).mp ht with ⟨m, hm, hends⟩
      exact ⟨m, hm, t, hends⟩
    · rintro ⟨m, hm, t, hends⟩
      exact ⟨t, (ends_round (start_test content)).mpr ⟨m, hm, hends⟩⟩
  rw [hround, start_body h]
  rcases look l with _ | _ | serial
  · simp only [Option.map_none, reduceCtorEq, false_and, exists_false]
  · simp only [Option.map_some, Option.some.injEq, exists_eq_left']
  · simp only [Option.map_some, Option.some.injEq, exists_eq_left', iff_true]
    exact ⟨_, (ends_exit (ends_found file serial)).mpr rfl⟩

/-- So it is for going on forever. -/
theorem forever_round_iff {content l : List UInt8} {file : IStream UInt8}
    (h : (IStream.ofFile content).getline newline 1024 = (l.take 1023, file)) :
    getIdLoop.Forever (.start content) ↔
      look l = some none ∧ getIdLoop.Forever ⟨file, [], false⟩ := by
  rw [forever_round (start_test content), start_body h]
  rcases look l with _ | _ | serial
  · simp only [Option.map_none, reduceCtorEq, false_and, exists_false]
  · simp only [Option.map_some, Option.some.injEq, exists_eq_left', true_and]
  · simp only [Option.map_some, Option.some.injEq, exists_eq_left', reduceCtorEq, false_and,
      iff_false]
    exact not_forever_exit (ends_found file serial)

/-- Once reading has failed, the loop goes on forever. -/
theorem forever_failed {file : IStream UInt8} (heof : file.eofbit = false)
    (hfail : file.failbit = true) : getIdLoop.Forever ⟨file, [], false⟩ := by
  have hround : ∀ s : Reading, s = ⟨file, [], false⟩ → getIdLoop.test s = true ∧
      ∃ m, getIdLoop.body s = some m ∧ m = ⟨file, [], false⟩ := by
    rintro s rfl
    refine ⟨by simp only [getIdLoop, heof, Bool.not_false, Bool.and_self], _, ?_, rfl⟩
    simp only [getIdLoop, getline_failed 1024 hfail]
    rfl
  exact forever_of_stays hround rfl

/-- What is read of the first line, and how it leaves the stream. -/
theorem getline_first {l : List UInt8} (hl : newline ∉ l) :
    (l.length < 1024 →
      (∀ cs, (IStream.ofFile (l ++ newline :: cs)).getline newline 1024
        = (l.take 1023, .ofFile cs)) ∧
      (IStream.ofFile l).getline newline 1024 = (l.take 1023, ⟨[], true, l.isEmpty⟩)) ∧
    (1024 ≤ l.length → ∀ cs, (IStream.ofFile (l ++ cs)).getline newline 1024
      = (l.take 1023, ⟨l.drop 1023 ++ cs, false, true⟩)) := by
  refine ⟨fun hshort => ?_, fun hlong cs => getline_long hl hlong (by decide)⟩
  rw [List.take_of_length_le (by omega)]
  exact ⟨fun cs => getline_line hl hshort, getline_last hl hshort⟩

/-- How the loop ends: with a line that is too long it does not, with any other
    it ends as it does with the lines after it. -/
theorem getIdLoop_iff (content : List UInt8) :
    ((Reading.start content).Ends ↔ Readable (content.splitOn newline)) ∧
      (getIdLoop.Forever (.start content) ↔ Endless (content.splitOn newline)) := by
  -- A line that is too long is one whether or not more lines follow.
  have hlong : ∀ l cs ls, newline ∉ l → 1024 ≤ l.length →
      ((Reading.start (l ++ cs)).Ends ↔ Readable (l :: ls)) ∧
        (getIdLoop.Forever (.start (l ++ cs)) ↔ Endless (l :: ls)) := by
    intro l cs ls hl hlen
    have hread := (getline_first hl).2 hlen cs
    have hforever : getIdLoop.Forever ⟨⟨l.drop 1023 ++ cs, false, true⟩, [], false⟩ :=
      forever_failed rfl rfl
    have hnot : ¬ Reading.Ends ⟨⟨l.drop 1023 ++ cs, false, true⟩, [], false⟩ :=
      fun ⟨t, ht⟩ => hforever.not_ends t ht
    rw [ends_round_iff hread, forever_round_iff hread]
    refine ⟨?_, and_congr_right fun _ => iff_of_true hforever (Or.inl hlen)⟩
    simp only [Readable]
    rcases look l with _ | _ | serial
    · exact Iff.rfl
    · exact iff_of_false hnot fun h => absurd h.1 (by omega)
    · exact Iff.rfl
  induction hn : content.length using Nat.strong_induction_on generalizing content with
  | _ n ih =>
      rcases text_cases newline content with ⟨hl, hsplit⟩ | ⟨l, cs, rfl, hl, hlt, hsplit⟩
      · rw [hsplit]
        by_cases hlen : content.length < 1024
        · have hread := ((getline_first hl).1 hlen).2
          have hexit : getIdLoop.test ⟨⟨[], true, content.isEmpty⟩, [], false⟩ = false :=
            ends_eof rfl
          rw [ends_round_iff hread, forever_round_iff hread]
          constructor
          · simp only [Readable, and_true]
            rcases look content with _ | _ | serial
            · exact Iff.rfl
            · exact iff_of_true ⟨_, (ends_exit hexit).mpr rfl⟩ hlen
            · exact Iff.rfl
          · exact and_congr_right fun _ => iff_of_false (not_forever_exit hexit)
              fun h => h.elim (fun h => by omega) id
        · have h := hlong content [] [] hl (by omega)
          rwa [List.append_nil] at h
      · rw [hsplit]
        by_cases hlen : l.length < 1024
        · have hread := ((getline_first hl).1 hlen).1 cs
          have hrest := ih cs.length (by omega) cs rfl
          rw [ends_round_iff hread, forever_round_iff hread]
          constructor
          · simp only [Readable]
            rcases look l with _ | _ | serial
            · exact Iff.rfl
            · exact hrest.1.trans ⟨fun h => ⟨hlen, h⟩, fun h => h.2⟩
            · exact Iff.rfl
          · refine and_congr_right fun _ => hrest.2.trans ⟨Or.inr, fun h => ?_⟩
            exact h.elim (fun h => by omega) id
        · exact hlong l (newline :: cs) (cs.splitOn newline) hl (by omega)

/-- The function returns when its loop ends. -/
theorem terminates_iff (content : List UInt8) :
    Terminates readSerial content ↔ (Reading.start content).Ends := by
  constructor
  · rintro ⟨fuel, id, h⟩
    rcases Option.map_eq_some_iff.mp h with ⟨t, ht, _⟩
    exact ⟨t, fuel, ht⟩
  · rintro ⟨t, fuel, ht⟩
    exact ⟨fuel, t.serial, Option.map_eq_some_iff.mpr ⟨t, ht, rfl⟩⟩

/-- A line without the word holds no serial number. -/
theorem look_none {l : List UInt8} (h : 83 ∉ l) : look l = some none := by
  have hword : ¬ serialWord <:+: cString (l.take 1023) := by
    intro hinfix
    have hmem := hinfix.subset (List.mem_cons_self (a := (83 : UInt8)))
    exact h (List.mem_of_mem_take ((List.takeWhile_prefix _).subset hmem))
  rw [look, findSerial, if_neg hword]

/-- `getId` of both classes returns exactly when up to the first line with a
    serial number every line is short enough and every string fits. It goes on
    forever exactly when a line is too long before that. -/
theorem getId_terminates_iff (content : List UInt8) :
    (Terminates Video.getId content ∧ Terminates Still.getId content ↔
        Readable (content.splitOn newline)) ∧
      (getIdLoop.Forever (.start content) ↔ Endless (content.splitOn newline)) := by
  rcases getIdLoop_iff content with ⟨hends, hforever⟩
  have hreturns : Terminates readSerial content ↔ Readable (content.splitOn newline) :=
    (terminates_iff content).trans hends
  exact ⟨⟨fun h => hreturns.mp h.1, fun h => ⟨hreturns.mpr h, hreturns.mpr h⟩⟩, hforever⟩

-- The file `a`, `Serial : 1f`.
example : Video.getId (some [97, 10, 83, 101, 114, 105, 97, 108, 9, 58, 32, 49, 102, 10]) 2
    = some [49, 102] := by decide

/-- A file that is one line of 1024 characters: neither function returns, and
    the loop goes on forever. -/
theorem long_line_read :
    ¬ (Terminates Video.getId (List.replicate 1024 120) ∧
        Terminates Still.getId (List.replicate 1024 120)) ∧
      getIdLoop.Forever (.start (List.replicate 1024 120)) := by
  have hmem : ∀ c : UInt8, c ∈ List.replicate 1024 (120 : UInt8) → c = 120 :=
    fun c hc => List.eq_of_mem_replicate hc
  have hsplit : (List.replicate 1024 (120 : UInt8)).splitOn newline = [List.replicate 1024 120] :=
    List.splitOn_eq_singleton fun h => absurd (hmem _ h) (by decide)
  have hlook : look (List.replicate 1024 120) = some none :=
    look_none fun h => absurd (hmem _ h) (by decide)
  have hlength : (List.replicate 1024 (120 : UInt8)).length = 1024 := List.length_replicate
  have hforever : getIdLoop.Forever (.start (List.replicate 1024 120)) := by
    refine (getIdLoop_iff _).2.mpr ?_
    rw [hsplit]
    exact ⟨hlook, Or.inl (Nat.le_of_eq hlength.symm)⟩
  refine ⟨fun h => ?_, hforever⟩
  rcases (terminates_iff _).mp h.1 with ⟨t, ht⟩
  exact hforever.not_ends t ht

end RaspiCam
