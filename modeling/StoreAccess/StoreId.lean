/-!
# Store identifiers

A store is known by 128 bits, written as 32 hexadecimal digits in groups of 8, 4, 4, 4 and 12
with hyphens between them. Reading takes digits of either case, also without the hyphens, and
the grouped form also in braces or after `urn:uuid:`, in letters of either case.

Main statement: `StoreId.parse?_text`, that the written form is read back.
-/

namespace StoreAccess

structure StoreId where
  bits : BitVec 128
  deriving DecidableEq, Repr

namespace StoreId

/-! ## Hexadecimal digits -/

def digit (n : Nat) : Char :=
  if n < 10 then Char.ofNat (48 + n) else Char.ofNat (87 + n)

/-- The value of a digit of either case. -/
def digitValue? (c : Char) : Option Nat :=
  if '0' ≤ c ∧ c ≤ '9' then some (c.toNat - 48)
  else if 'a' ≤ c ∧ c ≤ 'f' then some (c.toNat - 87)
  else if 'A' ≤ c ∧ c ≤ 'F' then some (c.toNat - 55)
  else none

/-- The last digits of a number, as many as told. -/
def digits : Nat → Nat → List Char
  | 0, _ => []
  | width + 1, n => digits width (n / 16) ++ [digit (n % 16)]

/-- The value of a row of digits that follows digits of a given value. -/
def value? : Nat → List Char → Option Nat
  | n, [] => some n
  | n, c :: cs => (digitValue? c).bind fun d => value? (16 * n + d) cs

theorem digitValue?_digit {n : Nat} (h : n < 16) : digitValue? (digit n) = some n := by
  have : ∀ n : Fin 16, digitValue? (digit n) = some n.val := by decide
  exact this ⟨n, h⟩

@[simp] theorem length_digits (width n : Nat) : (digits width n).length = width := by
  induction width generalizing n with
  | zero => rfl
  | succ width ih => simp [digits, ih]

theorem value?_append (n : Nat) (cs ds : List Char) :
    value? n (cs ++ ds) = (value? n cs).bind fun m => value? m ds := by
  induction cs generalizing n with
  | nil => rfl
  | cons c cs ih =>
    simp only [List.cons_append, value?]
    cases digitValue? c <;> simp [ih]

theorem value?_digits (width n m : Nat) :
    value? m (digits width n) = some (m * Nat.pow 16 width + n % Nat.pow 16 width) := by
  induction width generalizing n with
  | zero => simp [digits, value?, Nat.mod_one]
  | succ width ih =>
    rw [digits, value?_append, ih]
    simp only [value?, Option.bind_some, digitValue?_digit (Nat.mod_lt n (by decide : 0 < 16)),
      Option.some.injEq]
    have hpow : Nat.pow 16 (width + 1) = 16 * Nat.pow 16 width := Nat.pow_succ'
    have hsplit : n % (16 * Nat.pow 16 width) = n % 16 + 16 * (n / 16 % Nat.pow 16 width) :=
      Nat.mod_mul
    have hscale : m * (16 * Nat.pow 16 width) = 16 * (m * Nat.pow 16 width) :=
      Nat.mul_left_comm m 16 _
    rw [hpow, hsplit, hscale]
    omega

/-! ## The written form -/

/-- Thirty-two digits in their groups. -/
def group (cs : List Char) : List Char :=
  cs.take 8 ++ '-' :: ((cs.drop 8).take 4 ++ '-' :: ((cs.drop 12).take 4 ++
    '-' :: ((cs.drop 16).take 4 ++ '-' :: cs.drop 20)))

/-- The digits of a grouped form, which has its hyphens in their places. -/
def ungroup? (cs : List Char) : Option (List Char) :=
  if cs.length = 36 ∧ cs[8]? = some '-' ∧ cs[13]? = some '-' ∧ cs[18]? = some '-' ∧
      cs[23]? = some '-' then
    some (cs.take 8 ++ ((cs.drop 9).take 4 ++ ((cs.drop 14).take 4 ++
      ((cs.drop 19).take 4 ++ cs.drop 24))))
  else none

/-- The name-space words that may stand before a grouped form, in letters of either case. -/
def nameSpace : List Char := ['u', 'r', 'n', ':', 'u', 'u', 'i', 'd', ':']

/-- A text without the braces around it, or the name-space words before it. -/
def unwrap (cs : List Char) : List Char :=
  match cs with
  | '\x7b' :: rest => if rest.getLast? = some '\x7d' then rest.dropLast else cs
  | _ => if (cs.take 9).map Char.toLower = nameSpace then cs.drop 9 else cs

def text (id : StoreId) : String := String.ofList (group (digits 32 id.bits.toNat))

/-- Reads an identifier in any of its forms. -/
def parse? (text : String) : Option StoreId :=
  let cs := text.toList
  let row? := if cs.length = 32 then some cs else ungroup? (unwrap cs)
  row?.bind fun row => (value? 0 row).map fun n => ⟨BitVec.ofNat 128 n⟩

theorem take_append_drop_take (cs : List Char) (m n : Nat) :
    (cs.drop m).take n ++ cs.drop (m + n) = cs.drop m := by
  rw [← List.drop_drop, List.take_append_drop]

theorem ungroup?_group {cs : List Char} (h : cs.length = 32) : ungroup? (group cs) = some cs := by
  have h₁ : (cs.take 8).length = 8 := by simp [h]
  have h₂ : ((cs.drop 8).take 4).length = 4 := by simp [h]
  have h₃ : ((cs.drop 12).take 4).length = 4 := by simp [h]
  have h₄ : ((cs.drop 16).take 4).length = 4 := by simp [h]
  have h₅ : (cs.drop 20).length = 12 := by simp [h]
  have whole : cs.take 8 ++ ((cs.drop 8).take 4 ++ ((cs.drop 12).take 4 ++
      ((cs.drop 16).take 4 ++ cs.drop 20))) = cs := by
    rw [take_append_drop_take cs 16 4, take_append_drop_take cs 12 4,
      take_append_drop_take cs 8 4, List.take_append_drop]
  conv => rhs; rw [← whole]
  unfold ungroup? group
  generalize cs.take 8 = a at *
  generalize (cs.drop 8).take 4 = b at *
  generalize (cs.drop 12).take 4 = c at *
  generalize (cs.drop 16).take 4 = d at *
  generalize cs.drop 20 = e at *
  simp [h₁, h₂, h₃, h₄, h₅, List.drop_append, List.drop_eq_nil_of_le]

theorem digit_of_mem_digits {width n : Nat} {c : Char} (h : c ∈ digits width n) :
    ∃ d, d < 16 ∧ c = digit d := by
  induction width generalizing n with
  | zero => simp [digits] at h
  | succ width ih =>
    rcases List.mem_append.1 h with h | h
    · exact ih h
    · exact ⟨n % 16, Nat.mod_lt n (by decide), by simpa using h⟩

/-- What starts with a digit is neither in braces nor after the name-space words. -/
theorem unwrap_of_digit {d : Nat} (h : d < 16) (cs : List Char) :
    unwrap (digit d :: cs) = digit d :: cs := by
  have brace : ∀ d : Fin 16, digit d ≠ '\x7b' ∧ (digit d).toLower ≠ 'u' := by decide
  obtain ⟨hbrace, hword⟩ := brace ⟨d, h⟩
  unfold unwrap
  split
  · rename_i hcons
    exact absurd (List.cons.inj hcons).1 hbrace
  · simp [nameSpace, hword]

theorem parse?_text (id : StoreId) : parse? id.text = some id := by
  have hlength : (digits 32 id.bits.toNat).length = 32 := length_digits 32 _
  have hgroup : (group (digits 32 id.bits.toNat)).length ≠ 32 := by
    simp [group, hlength]
  have hunwrap : unwrap (group (digits 32 id.bits.toNat)) = group (digits 32 id.bits.toNat) := by
    cases hcs : digits 32 id.bits.toNat with
    | nil => simp [hcs] at hlength
    | cons c cs =>
      obtain ⟨d, hd, rfl⟩ := digit_of_mem_digits (hcs ▸ List.mem_cons_self)
      simp only [group, List.take_succ_cons, List.cons_append]
      exact unwrap_of_digit hd _
  have hbits : id.bits.toNat < Nat.pow 16 32 := id.bits.isLt
  have hvalue : value? 0 (digits 32 id.bits.toNat) = some id.bits.toNat := by
    rw [value?_digits, Nat.zero_mul, Nat.zero_add, Nat.mod_eq_of_lt hbits]
  simp [parse?, text, hgroup, hunwrap, ungroup?_group hlength, hvalue]

/-! ## New identifiers -/

/-- The version that an identifier declares, the first digit of its third group. -/
def version (id : StoreId) : Nat := ((id.bits >>> 76) &&& 0xF#128).toNat

/-- An identifier of version 4, the random one, from random bits: six of the bits are fixed to
declare the version and the layout. -/
def ofRandom (bits : BitVec 128) : StoreId :=
  let versioned := (bits &&& ~~~(0xF#128 <<< 76)) ||| (0x4#128 <<< 76)
  ⟨(versioned &&& ~~~(0x3#128 <<< 62)) ||| (0x2#128 <<< 62)⟩

end StoreId

end StoreAccess
