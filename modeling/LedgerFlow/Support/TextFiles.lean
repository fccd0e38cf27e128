import LedgerFlow.Support.Text

/-!
# Text files

`decodeUtf8` is the strict UTF-8 decoder: it refuses overlong forms, surrogates and values
beyond the last code point. It reads back what `utf8` writes of an encodable text.

A text file is opened with universal newlines, so a carriage return, alone or before a line
feed, reads as a line feed. Iteration gives the lines with their line feeds; a last line
may lack one.
-/

namespace PyText

/-- The bits that a continuation byte carries. -/
def continuation (byte : UInt8) : Option Nat :=
  if 0x80 ≤ byte.toNat ∧ byte.toNat < 0xC0 then some (byte.toNat - 0x80) else none

/-- The code point of this value, if it is one and at least `least`. -/
def scalarAbove (least value : Nat) : Option CodePoint :=
  if bound : value < 0x110000 then
    if least ≤ value ∧ ¬ (0xD800 ≤ value ∧ value < 0xE000) then some ⟨value, bound⟩ else none
  else none

/-- `data.decode("utf-8")`, absent where it raises. -/
def decodeUtf8 : List UInt8 → Option Str
  | [] => some []
  | a :: rest =>
      if a.toNat < 0x80 then do
        let c ← scalarAbove 0 a.toNat
        let text ← decodeUtf8 rest
        some (c :: text)
      else if a.toNat < 0xC0 then none
      else match rest with
        | [] => none
        | b :: rest =>
            if a.toNat < 0xE0 then do
              let second ← continuation b
              let c ← scalarAbove 0x80 ((a.toNat - 0xC0) * 64 + second)
              let text ← decodeUtf8 rest
              some (c :: text)
            else match rest with
              | [] => none
              | c :: rest =>
                  if a.toNat < 0xF0 then do
                    let second ← continuation b
                    let third ← continuation c
                    let c ← scalarAbove 0x800 (((a.toNat - 0xE0) * 64 + second) * 64 + third)
                    let text ← decodeUtf8 rest
                    some (c :: text)
                  else match rest with
                    | [] => none
                    | d :: rest => do
                        let second ← continuation b
                        let third ← continuation c
                        let fourth ← continuation d
                        let c ← scalarAbove 0x10000
                          ((((a.toNat - 0xF0) * 64 + second) * 64 + third) * 64 + fourth)
                        let text ← decodeUtf8 rest
                        some (c :: text)

/-- The decoder reads back one code point that is no surrogate, and goes on after its bytes. The
four cases are the lengths of UTF-8. -/
theorem decode_code_point {c : CodePoint} (plain : ¬ (0xD800 ≤ c.val ∧ c.val < 0xE000))
    (rest : List UInt8) :
    decodeUtf8 (utf8Bytes c ++ rest) = (decodeUtf8 rest).map (c :: ·) := by
  have bound := c.isLt
  have trail (n : Nat) : continuation (.ofNat (0x80 + n % 64)) = some (n % 64) := by
    have small : n % 64 < 64 := Nat.mod_lt n (by decide)
    have value : (UInt8.ofNat (0x80 + n % 64)).toNat = 0x80 + n % 64 := by
      simp only [UInt8.toNat_ofNat']
      omega
    rw [continuation, value, if_pos (by omega)]
    exact congrArg some (by omega)
  have found {least value : Nat} (above : least ≤ c.val) (same : value = c.val) :
      scalarAbove least value = some c := by
    subst same
    rw [scalarAbove, dif_pos bound, if_pos ⟨above, plain⟩]
  unfold utf8Bytes
  split
  · have value : (UInt8.ofNat c.val).toNat = c.val := by
      simp only [UInt8.toNat_ofNat']
      omega
    rw [List.cons_append, List.nil_append, decodeUtf8.eq_def]
    dsimp only
    rw [value, if_pos ‹_›, found (Nat.zero_le _) rfl]
    cases decodeUtf8 rest <;> rfl
  · split
    · have lead : (UInt8.ofNat (0xC0 + c.val / 64)).toNat = 0xC0 + c.val / 64 := by
        simp only [UInt8.toNat_ofNat']
        omega
      rw [decodeUtf8.eq_def]
      simp only [List.cons_append, List.nil_append, lead, trail]
      rw [if_neg (by omega), if_neg (by omega), if_pos (by omega)]
      simp only [Option.bind_eq_bind, Option.bind_some]
      rw [found (by omega) (by omega)]
      cases decodeUtf8 rest <;> rfl
    · split
      · have lead : (UInt8.ofNat (0xE0 + c.val / 4096)).toNat = 0xE0 + c.val / 4096 := by
          simp only [UInt8.toNat_ofNat']
          omega
        rw [decodeUtf8.eq_def]
        simp only [List.cons_append, List.nil_append, lead, trail]
        rw [if_neg (by omega), if_neg (by omega), if_neg (by omega), if_pos (by omega)]
        simp only [Option.bind_eq_bind, Option.bind_some]
        rw [found (by omega) (by omega)]
        cases decodeUtf8 rest <;> rfl
      · have lead : (UInt8.ofNat (0xF0 + c.val / 262144)).toNat = 0xF0 + c.val / 262144 := by
          simp only [UInt8.toNat_ofNat']
          omega
        rw [decodeUtf8.eq_def]
        simp only [List.cons_append, List.nil_append, lead, trail]
        rw [if_neg (by omega), if_neg (by omega), if_neg (by omega), if_neg (by omega)]
        simp only [Option.bind_eq_bind, Option.bind_some]
        rw [found (by omega) (by omega)]
        cases decodeUtf8 rest <;> rfl

/-- The decoder reads back an encodable text from its bytes. -/
theorem decode_utf8 {s : Str} (encodable : Encodable s) : decodeUtf8 (utf8 s) = some s := by
  induction s with
  | nil => rfl
  | cons c rest inductionHypothesis =>
    have later := inductionHypothesis fun d member => encodable d (List.mem_cons_of_mem c member)
    rw [utf8, List.flatMap_cons, decode_code_point (encodable c List.mem_cons_self), ← utf8, later]
    rfl

/-! ## Lines -/

/-- A line feed. -/
def lineFeed : CodePoint := 10

/-- A carriage return. -/
def carriageReturn : CodePoint := 13

/-- The text with universal newlines. -/
def universal : Str → Str
  | [] => []
  | c :: rest =>
      if c = carriageReturn then
        match rest with
        | [] => [lineFeed]
        | d :: others =>
            if d = lineFeed then lineFeed :: universal others else lineFeed :: universal (d :: others)
      else c :: universal rest

/-- The lines of a text, each with its line feed. -/
def lines : Str → List Str
  | [] => []
  | c :: rest =>
      if c = lineFeed then [c] :: lines rest
      else match lines rest with
        | [] => [[c]]
        | line :: others => (c :: line) :: others

/-- A text without carriage returns reads as it is, since only these are translated. -/
theorem universal_plain {s : Str} (plain : carriageReturn ∉ s) : universal s = s := by
  induction s with
  | nil => rfl
  | cons c rest inductionHypothesis =>
    obtain ⟨first, others⟩ := not_or.mp (mt List.mem_cons.mpr plain)
    rw [universal.eq_def]
    dsimp only
    rw [if_neg (Ne.symm first), inductionHypothesis others]

/-- A line up to its line feed is the first line of the text. -/
theorem lines_cons {line : Str} (plain : lineFeed ∉ line) (rest : Str) :
    lines (line ++ lineFeed :: rest) = (line ++ [lineFeed]) :: lines rest := by
  induction line with
  | nil => rfl
  | cons c others inductionHypothesis =>
    obtain ⟨first, later⟩ := not_or.mp (mt List.mem_cons.mpr plain)
    rw [List.cons_append, lines, if_neg (Ne.symm first), inductionHypothesis later]
    rfl

/-! ## Decoded text -/

/-- What is decoded is no surrogate: the decoder refuses their three bytes. -/
theorem scalar_plain {least value : Nat} {c : CodePoint} (found : scalarAbove least value = some c) :
    ¬ (0xD800 ≤ c.val ∧ c.val < 0xE000) := by
  unfold scalarAbove at found
  split_ifs at found with bound plain
  cases found
  exact plain.2

/-- A decoded code point before decoded text makes decoded text that is encodable. -/
theorem decode_step {least value : Nat} {rest : List UInt8} {text : Str}
    (later : ∀ others, decodeUtf8 rest = some others → Encodable others)
    (read : (do
      let c ← scalarAbove least value
      let others ← decodeUtf8 rest
      some (c :: others)) = some text) : Encodable text := by
  obtain ⟨c, found, following⟩ := Option.bind_eq_some_iff.mp read
  obtain ⟨others, inner, same⟩ := Option.bind_eq_some_iff.mp following
  cases same
  exact List.forall_mem_cons.mpr ⟨scalar_plain found, later others inner⟩

/-- What the decoder yields can be encoded again. -/
theorem decode_encodable {data : List UInt8} {text : Str} (decoded : decodeUtf8 data = some text) :
    Encodable text := by
  fun_induction decodeUtf8 data generalizing text with
  | case1 =>
    cases decoded
    exact nofun
  | case2 _ _ _ inductionHypothesis => exact decode_step (fun _ => inductionHypothesis) decoded
  | case3 | case4 | case6 | case8 => cases decoded
  | case5 _ _ _ _ _ _ inductionHypothesis =>
    obtain ⟨_, _, read⟩ := Option.bind_eq_some_iff.mp decoded
    exact decode_step (fun _ => inductionHypothesis) read
  | case7 _ _ _ _ _ _ _ _ inductionHypothesis =>
    obtain ⟨_, _, following⟩ := Option.bind_eq_some_iff.mp decoded
    obtain ⟨_, _, read⟩ := Option.bind_eq_some_iff.mp following
    exact decode_step (fun _ => inductionHypothesis) read
  | case9 _ _ _ _ _ _ _ _ _ inductionHypothesis =>
    obtain ⟨_, _, following⟩ := Option.bind_eq_some_iff.mp decoded
    obtain ⟨_, _, following⟩ := Option.bind_eq_some_iff.mp following
    obtain ⟨_, _, read⟩ := Option.bind_eq_some_iff.mp following
    exact decode_step (fun _ => inductionHypothesis) read

/-- Translating the line ends leaves an encodable text encodable. -/
theorem universal_encodable {text : Str} (encodable : Encodable text) :
    Encodable (universal text) := by
  have feed : ¬ (0xD800 ≤ lineFeed.val ∧ lineFeed.val < 0xE000) := by decide
  fun_induction universal text with
  | case1 => exact nofun
  | case2 => exact List.forall_mem_cons.mpr ⟨feed, nofun⟩
  | case3 others inductionHypothesis =>
    refine List.forall_mem_cons.mpr ⟨feed, inductionHypothesis ?_⟩
    exact (List.forall_mem_cons.mp (List.forall_mem_cons.mp encodable).2).2
  | case4 c d rest inductionHypothesis =>
    exact List.forall_mem_cons.mpr ⟨feed, inductionHypothesis (List.forall_mem_cons.mp encodable).2⟩
  | case5 c rest _ inductionHypothesis =>
    obtain ⟨first, later⟩ := List.forall_mem_cons.mp encodable
    exact List.forall_mem_cons.mpr ⟨first, inductionHypothesis later⟩

/-- The lines of a text, each with its line feed, make up the text. -/
theorem lines_flatten (text : Str) : (lines text).flatten = text := by
  fun_induction lines text with
  | case1 => rfl
  | case2 rest inductionHypothesis =>
    rw [List.flatten_cons, inductionHypothesis]
    rfl
  | case3 c rest _ none inductionHypothesis =>
    rw [none] at inductionHypothesis
    rw [← inductionHypothesis]
    rfl
  | case4 c rest _ line others starts inductionHypothesis =>
    rw [starts] at inductionHypothesis
    rw [← inductionHypothesis]
    rfl

/-- A line of an encodable text is encodable, being part of it. -/
theorem lines_encodable {text line : Str} (encodable : Encodable text) (member : line ∈ lines text) :
    Encodable line := by
  intro c inside
  refine encodable c ?_
  rw [← lines_flatten text]
  exact List.mem_flatten.mpr ⟨line, member, inside⟩

end PyText
