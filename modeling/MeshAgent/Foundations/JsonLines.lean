import MeshAgent.Foundations.PercentCoding
import Mathlib.Data.List.Count

/-!
# Lines of JSON string literals

A text is cut at its newlines, and a line is read as a JSON string literal. Strings are
byte strings: a byte from 32 on other than `"` and `\` stands for itself, and `\u` escapes
stand for the UTF-8 bytes of their code point.
-/

namespace MeshAgent.Foundations

/-- The lines of a text; what follows the last newline is a line unless it is empty. -/
def cutLines : List UInt8 → List (List UInt8)
  | [] => []
  | c :: s =>
    if c = 10 then [] :: cutLines s
    else
      match cutLines s with
      | [] => [[c]]
      | l :: ls => (c :: l) :: ls

/-- Every line is ended by a newline. -/
def joinLines (ls : List (List UInt8)) : List UInt8 := ls.flatMap (fun l => l ++ [10])

lemma cutLines_line {l : List UInt8} (hl : 10 ∉ l) (s : List UInt8) :
    cutLines (l ++ 10 :: s) = l :: cutLines s := by
  induction l with
  | nil => simp [cutLines]
  | cons c l ih =>
    have hc : c ≠ 10 := fun h => hl (by simp [h])
    rw [List.cons_append, cutLines, if_neg hc, ih (fun h => hl (List.mem_cons_of_mem _ h))]

lemma length_cutLines_line (l s : List UInt8) :
    (cutLines (l ++ 10 :: s)).length = l.count 10 + 1 + (cutLines s).length := by
  induction l with
  | nil => simp [cutLines, Nat.add_comm]
  | cons c l ih =>
    rw [List.cons_append, cutLines]
    by_cases hc : c = 10
    · rw [if_pos hc, hc, List.length_cons, ih, List.count_cons_self]
      omega
    · have hcount : (c :: l).count 10 = l.count 10 := List.count_cons_of_ne hc
      rw [if_neg hc, hcount, ← ih]
      match hls : cutLines (l ++ 10 :: s) with
      | [] => simp [hls] at ih; omega
      | _ :: _ => rfl

/-- Cutting undoes joining when no line holds a newline. -/
theorem cutLines_joinLines {ls : List (List UInt8)} (h : ∀ l ∈ ls, 10 ∉ l) :
    cutLines (joinLines ls) = ls := by
  induction ls with
  | nil => rfl
  | cons l ls ih =>
    have hjoin : joinLines (l :: ls) = l ++ 10 :: joinLines ls := by simp [joinLines]
    rw [hjoin, cutLines_line (h l (by simp)), ih (fun k hk => h k (List.mem_cons_of_mem _ hk))]

/-- The number of lines is kept only when no line holds a newline. -/
theorem length_cutLines_joinLines (ls : List (List UInt8)) :
    ls.length ≤ (cutLines (joinLines ls)).length ∧
      ((cutLines (joinLines ls)).length = ls.length → ∀ l ∈ ls, 10 ∉ l) := by
  induction ls with
  | nil => simp [joinLines, cutLines]
  | cons l ls ih =>
    have hjoin : joinLines (l :: ls) = l ++ 10 :: joinLines ls := by simp [joinLines]
    have hlen := length_cutLines_line l (joinLines ls)
    rw [hjoin, hlen, List.length_cons]
    refine ⟨by omega, ?_⟩
    intro heq
    have hcount : l.count 10 = 0 := by omega
    intro k hk
    rcases List.mem_cons.mp hk with rfl | hk
    · exact List.count_eq_zero.mp hcount
    · exact ih.2 (by omega) k hk

/-- A byte that stands for itself in a JSON string literal. -/
def JsonPlain (c : UInt8) : Prop := 32 ≤ c ∧ c ≠ 34 ∧ c ≠ 92

instance : DecidablePred JsonPlain :=
  fun c => inferInstanceAs (Decidable (32 ≤ c ∧ c ≠ 34 ∧ c ≠ 92))

/-- Four hex digits and what follows them. -/
def readHex4 : List UInt8 → Option (Nat × List UInt8)
  | a :: b :: c :: d :: s => do
    let a ← hexDigitValue a
    let b ← hexDigitValue b
    let c ← hexDigitValue c
    let d ← hexDigitValue d
    some (((a * 16 + b) * 16 + c) * 16 + d, s)
  | _ => none

/-- The UTF-8 bytes of a code point. -/
def utf8 (n : Nat) : List UInt8 :=
  if n < 0x80 then [UInt8.ofNat n]
  else if n < 0x800 then [UInt8.ofNat (0xc0 + n / 64), UInt8.ofNat (0x80 + n % 64)]
  else if n < 0x10000 then
    [UInt8.ofNat (0xe0 + n / 4096), UInt8.ofNat (0x80 + n / 64 % 64), UInt8.ofNat (0x80 + n % 64)]
  else
    [UInt8.ofNat (0xf0 + n / 262144), UInt8.ofNat (0x80 + n / 4096 % 64),
      UInt8.ofNat (0x80 + n / 64 % 64), UInt8.ofNat (0x80 + n % 64)]

/-- What follows `\u`: a code unit, or a high surrogate and an escaped low one. -/
def readUnicode (s : List UInt8) : Option (List UInt8 × List UInt8) := do
  let (n, s) ← readHex4 s
  if n < 0xd800 ∨ 0xdfff < n then some (utf8 n, s)
  else if 0xdbff < n then none
  else
    match s with
    | 92 :: 117 :: s => do
      let (k, s) ← readHex4 s
      if 0xdc00 ≤ k ∧ k ≤ 0xdfff then
        some (utf8 (0x10000 + (n - 0xd800) * 0x400 + (k - 0xdc00)), s)
      else none
    | _ => none

/-- The one-byte escapes. -/
def simpleEscape (c : UInt8) : Option UInt8 :=
  if c = 34 ∨ c = 92 ∨ c = 47 then some c
  else if c = 98 then some 8
  else if c = 102 then some 12
  else if c = 110 then some 10
  else if c = 114 then some 13
  else if c = 116 then some 9
  else none

/-- What follows a backslash. -/
def readEscape : List UInt8 → Option (List UInt8 × List UInt8)
  | [] => none
  | c :: s => if c = 117 then readUnicode s else (simpleEscape c).map (fun d => ([d], s))

/-- The characters up to the closing quote, which has to end the text. -/
def readJsonChars : Nat → List UInt8 → Option (List UInt8)
  | 0, _ => none
  | _ + 1, [] => none
  | fuel + 1, c :: s =>
    if c = 34 then (if s = [] then some [] else none)
    else if c = 92 then do
      let (d, s) ← readEscape s
      let r ← readJsonChars fuel s
      some (d ++ r)
    else if c < 32 then none
    else do
      let r ← readJsonChars fuel s
      some (c :: r)

/-- A text that is one JSON string literal. -/
def readJsonString : List UInt8 → Option (List UInt8)
  | [] => none
  | c :: s => if c = 34 then readJsonChars s.length s else none

lemma readHex4_length {s t : List UInt8} {n : Nat} (h : readHex4 s = some (n, t)) :
    s.length = t.length + 4 := by
  match s with
  | [] | [_] | [_, _] | [_, _, _] => simp [readHex4] at h
  | a :: b :: c :: d :: s =>
    simp only [readHex4, Option.bind_eq_bind, Option.bind_eq_some_iff, Option.some.injEq,
      Prod.mk.injEq] at h
    obtain ⟨_, -, _, -, _, -, _, -, -, rfl⟩ := h
    rfl

lemma length_utf8_le (n : Nat) : (utf8 n).length ≤ 4 := by
  unfold utf8
  split_ifs <;> simp

lemma readUnicode_length {s d t : List UInt8} (h : readUnicode s = some (d, t)) :
    d.length + t.length ≤ s.length := by
  simp only [readUnicode, Option.bind_eq_bind, Option.bind_eq_some_iff] at h
  obtain ⟨⟨n, u⟩, hn, h⟩ := h
  have hlen : s.length = u.length + 4 := readHex4_length hn
  split_ifs at h with h1 h2
  · simp only [Option.some.injEq, Prod.mk.injEq] at h
    obtain ⟨rfl, rfl⟩ := h
    have := length_utf8_le n
    omega
  · split at h
    · next _ y hu =>
      have hu' : u.length = y.length + 2 := congrArg List.length hu
      simp only [Option.bind_eq_some_iff] at h
      obtain ⟨⟨k, v⟩, hk, h⟩ := h
      have hlen' : y.length = v.length + 4 := readHex4_length hk
      split_ifs at h
      simp only [Option.some.injEq, Prod.mk.injEq] at h
      obtain ⟨rfl, rfl⟩ := h
      have := length_utf8_le (0x10000 + (n - 0xd800) * 0x400 + (k - 0xdc00))
      omega
    · simp at h

lemma readEscape_length {s d t : List UInt8} (h : readEscape s = some (d, t)) :
    d.length + t.length ≤ s.length := by
  cases s with
  | nil => simp [readEscape] at h
  | cons c s =>
    rw [readEscape] at h
    split_ifs at h
    · have := readUnicode_length h
      simp only [List.length_cons]
      omega
    · simp only [Option.map_eq_some_iff, Prod.mk.injEq] at h
      obtain ⟨_, -, rfl, rfl⟩ := h
      simp [Nat.add_comm]

/-- A literal never denotes more bytes than it spells, and as many only if it spells
each of them plainly. -/
lemma readJsonChars_length {fuel : Nat} {s r : List UInt8} (h : readJsonChars fuel s = some r) :
    r.length + 1 ≤ s.length ∧ (r.length + 1 = s.length → ∀ c ∈ r, JsonPlain c) := by
  induction fuel generalizing s r with
  | zero => simp [readJsonChars] at h
  | succ fuel ih =>
    cases s with
    | nil => simp [readJsonChars] at h
    | cons c s =>
      rw [readJsonChars] at h
      split_ifs at h with hquote hend hback hctrl
      · simp only [Option.some.injEq] at h
        subst h
        simp
      · simp only [Option.bind_eq_bind, Option.bind_eq_some_iff, Option.some.injEq] at h
        obtain ⟨⟨d, t⟩, hesc, r, hr, rfl⟩ := h
        have hle := readEscape_length hesc
        have hrle : r.length + 1 ≤ t.length := (ih hr).1
        simp only [List.length_append, List.length_cons]
        exact ⟨by omega, fun heq => by omega⟩
      · simp only [Option.bind_eq_bind, Option.bind_eq_some_iff, Option.some.injEq] at h
        obtain ⟨r, hr, rfl⟩ := h
        obtain ⟨hle, hplain⟩ := ih hr
        refine ⟨by simpa using hle, ?_⟩
        intro heq d hd
        rcases List.mem_cons.mp hd with rfl | hd
        · exact ⟨UInt8.not_lt.mp hctrl, hquote, hback⟩
        · exact hplain (by simpa using heq) d hd

lemma readJsonChars_plain {s : List UInt8} (h : ∀ c ∈ s, JsonPlain c) (fuel : Nat)
    (hfuel : s.length < fuel) : readJsonChars fuel (s ++ [34]) = some s := by
  induction s generalizing fuel with
  | nil =>
    obtain ⟨fuel, rfl⟩ : ∃ k, fuel = k + 1 := ⟨fuel - 1, by simp at hfuel; omega⟩
    simp [readJsonChars]
  | cons c s ih =>
    obtain ⟨fuel, rfl⟩ : ∃ k, fuel = k + 1 := ⟨fuel - 1, by omega⟩
    obtain ⟨hctrl, hquote, hback⟩ := h c (by simp)
    rw [List.cons_append, readJsonChars, if_neg hquote, if_neg hback,
      if_neg (UInt8.not_lt.mpr hctrl), ih (fun d hd => h d (List.mem_cons_of_mem _ hd)) fuel
        (by simpa using hfuel)]
    rfl

/-- Bytes put raw between quotes are read back exactly when all of them are plain. -/
theorem readJsonString_quoted_iff (s : List UInt8) :
    readJsonString (34 :: (s ++ [34])) = some s ↔ ∀ c ∈ s, JsonPlain c := by
  rw [readJsonString, if_pos rfl]
  constructor
  · intro h
    exact (readJsonChars_length h).2 (by simp)
  · intro h
    exact readJsonChars_plain h _ (by simp)

end MeshAgent.Foundations
