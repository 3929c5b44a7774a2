/-!
# Punycode

Text beyond ASCII as letters, digits and hyphens: the ASCII characters come first, and behind the last
hyphen the others follow as differences between their code points and places, in a base-36 notation whose
thresholds adapt to the text.
-/

namespace TableIndex.Url.Punycode

/-- The character of a base-36 digit. -/
def digitChar (d : Nat) : Char := Char.ofNat (if d < 26 then 0x61 + d else 0x30 + (d - 26))

/-- The value of a base-36 digit; letters may have either case. -/
def digitValue? (c : Char) : Option Nat :=
  let n := c.toNat
  if 0x61 ≤ n && n ≤ 0x7A then some (n - 0x61)
  else if 0x41 ≤ n && n ≤ 0x5A then some (n - 0x41)
  else if 0x30 ≤ n && n ≤ 0x39 then some (n - 0x30 + 26)
  else none

/-- The threshold of the digit at `k`. -/
def threshold (k bias : Nat) : Nat := if k ≤ bias then 1 else min 26 (k - bias)

theorem threshold_pos (k bias : Nat) : 1 ≤ threshold k bias := by
  unfold threshold; split <;> omega

theorem threshold_le (k bias : Nat) : threshold k bias ≤ 26 := by
  unfold threshold; split <;> omega

/-- Divides until the difference is small, counting the steps in `k`. -/
def settle (delta k : Nat) : Nat × Nat :=
  if 455 < delta then settle (delta / 35) (k + 36) else (delta, k)
termination_by delta
decreasing_by exact Nat.div_lt_self (by omega) (by omega)

/-- The bias after a difference, with `points` characters placed so far. -/
def adapt (delta points : Nat) (isFirst : Bool) : Nat :=
  let d := if isFirst then delta / 700 else delta / 2
  let (d, k) := settle (d + d / points) 0
  k + 36 * d / (d + 38)

/-- The digits of a number; `k` grows by 36 with every digit. -/
def numberDigits (bias k q : Nat) : List Char :=
  let t := threshold k bias
  if q < t then [digitChar q]
  else digitChar (t + (q - t) % (36 - t)) :: numberDigits bias (k + 36) ((q - t) / (36 - t))
termination_by q
decreasing_by
  have h1 := threshold_pos k bias
  have h2 := threshold_le k bias
  exact Nat.lt_of_le_of_lt (Nat.div_le_self _ _) (by omega)

/-- What is known while the characters are placed. -/
structure Placing where
  delta : Nat
  bias : Nat
  placed : Nat
  output : List Char

/-- Passes one character of the text while those with code point `m` are placed. -/
def Placing.pass (basic m : Nat) (s : Placing) (c : Char) : Placing :=
  if c.toNat < m then { s with delta := s.delta + 1 }
  else if c.toNat = m then
    { delta := 0, bias := adapt s.delta (s.placed + 1) (s.placed == basic), placed := s.placed + 1
      output := s.output ++ numberDigits s.bias 36 s.delta }
  else s

/-- Places the characters with each of the code points in turn; `n` is the least one not yet placed. -/
def place (text : List Char) (basic : Nat) : List Nat → Nat → Placing → Placing
  | [], _, s => s
  | m :: ms, n, s =>
    let s := { s with delta := s.delta + (m - n) * (s.placed + 1) }
    let s := text.foldl (Placing.pass basic m) s
    place text basic ms (m + 1) { s with delta := s.delta + 1 }

/-- Puts a number into an increasing list that does not have it. -/
def insertPoint (n : Nat) : List Nat → List Nat
  | [] => [n]
  | m :: ms => if n < m then n :: m :: ms else if n = m then m :: ms else m :: insertPoint n ms

/-- The encoded text. -/
def encode (text : List Char) : List Char :=
  let basic := text.filter (·.toNat < 0x80)
  let points := (text.filter (0x80 ≤ ·.toNat)).foldl (fun ps c => insertPoint c.toNat ps) []
  basic ++ (if basic.isEmpty then [] else ['-'])
    ++ (place text basic.length points 0x80 ⟨0, 72, basic.length, []⟩).output

/-- Reads one number, added to `i` with the weight `w`; returns what is behind it. -/
def readNumber (bias : Nat) : List Char → Nat → Nat → Nat → Option (Nat × List Char)
  | [], _, _, _ => none
  | c :: cs, k, w, i =>
    match digitValue? c with
    | none => none
    | some d =>
      if d < threshold k bias then some (i + d * w, cs)
      else readNumber bias cs (k + 36) (w * (36 - threshold k bias)) (i + d * w)

theorem readNumber_length {bias : Nat} {cs rest : List Char} {k w i j : Nat}
    (h : readNumber bias cs k w i = some (j, rest)) : rest.length < cs.length := by
  induction cs generalizing k w i with
  | nil => simp [readNumber] at h
  | cons c cs ih =>
    rw [readNumber] at h
    split at h
    · simp at h
    · split at h
      · simp only [Option.some.injEq, Prod.mk.injEq] at h
        simp [← h.2]
      · have := ih h
        simp only [List.length_cons]
        omega

/-- Puts the characters that the digits describe into their places. -/
def insertAll (bias n i : Nat) (out : List Char) (cs : List Char) : Option (List Char) :=
  if cs.isEmpty then some out
  else
    match _h : readNumber bias cs 36 1 i with
    | none => none
    | some (j, rest) =>
      let points := out.length + 1
      let m := n + j / points
      if m.isValidChar then
        insertAll (adapt (j - i) points (i == 0)) m (j % points + 1)
          (out.take (j % points) ++ Char.ofNat m :: out.drop (j % points)) rest
      else none
termination_by cs.length
decreasing_by exact readNumber_length _h

/-- The text that was encoded. A hyphen with nothing in front separates nothing. -/
def decode? (cs : List Char) : Option (List Char) :=
  let tail := (cs.reverse.takeWhile (· != '-')).reverse
  let head := cs.take (cs.length - tail.length)
  if cs.all (·.toNat < 0x80) && head != ['-'] then insertAll 72 0x80 0 head.dropLast tail else none

end TableIndex.Url.Punycode
