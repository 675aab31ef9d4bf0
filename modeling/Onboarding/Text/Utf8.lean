/-! # Bytes of a text

A text is sent as its UTF-8 bytes. Bytes that come from elsewhere are read as UTF-8
with every fault replaced: a byte that starts no character, or a character that
breaks off, becomes the replacement character, and reading goes on at the first byte
that cannot belong to it. The bytes of a text are read as that text
(`decode_encode`).
-/

namespace Onboarding.Text.Utf8

/-- The character that stands for bytes that are none. -/
def replacement : Char := '\ufffd'

/-- A byte that continues a character with the lowest six bits of a number. -/
def continuation (number : Nat) : UInt8 :=
  .ofNat (0x80 + number % 0x40)

/-- The bytes of a character: one in ASCII, up to four elsewhere. -/
def encodeChar (c : Char) : List UInt8 :=
  let code := c.toNat
  if code < 0x80 then [.ofNat code]
  else if code < 0x800 then [.ofNat (0xC0 + code / 0x40), continuation code]
  else if code < 0x10000 then
    [.ofNat (0xE0 + code / 0x1000), continuation (code / 0x40), continuation code]
  else
    [.ofNat (0xF0 + code / 0x40000), continuation (code / 0x1000), continuation (code / 0x40),
      continuation code]

/-- The bytes of some characters. -/
def encode (chars : List Char) : List UInt8 :=
  chars.flatMap encodeChar

/-- What the first byte of a character tells: its own bits, how many bytes follow,
and the bounds of the next one, which keep characters from being written with more
bytes than they need, and from being surrogates or too large. -/
structure Lead where
  bits : Nat
  more : Nat
  low : Nat
  high : Nat

/-- What a byte tells as the first one of a character of several bytes. -/
def lead? (byte : UInt8) : Option Lead :=
  let value := byte.toNat
  if value < 0xC2 then none
  else if value < 0xE0 then some ⟨value - 0xC0, 1, 0x80, 0xBF⟩
  else if value = 0xE0 then some ⟨0, 2, 0xA0, 0xBF⟩
  else if value = 0xED then some ⟨0xD, 2, 0x80, 0x9F⟩
  else if value < 0xF0 then some ⟨value - 0xE0, 2, 0x80, 0xBF⟩
  else if value = 0xF0 then some ⟨0, 3, 0x90, 0xBF⟩
  else if value < 0xF4 then some ⟨value - 0xF0, 3, 0x80, 0xBF⟩
  else if value = 0xF4 then some ⟨4, 3, 0x80, 0x8F⟩
  else none

/-- Read the bytes that follow the first one of a character. -/
def readRest (low high bits : Nat) : Nat → List UInt8 → Char × List UInt8
  | 0, rest => (Char.ofNat bits, rest)
  | _ + 1, [] => (replacement, [])
  | more + 1, byte :: rest =>
    if low ≤ byte.toNat ∧ byte.toNat ≤ high then
      readRest 0x80 0xBF (bits * 0x40 + byte.toNat % 0x40) more rest
    else (replacement, byte :: rest)

/-- Reading on takes bytes and gives none. -/
theorem readRest_length_le (low high bits more : Nat) (bytes : List UInt8) :
    (readRest low high bits more bytes).2.length ≤ bytes.length := by
  fun_induction readRest low high bits more bytes with
  | case1 => exact Nat.le_refl _
  | case2 => exact Nat.le_refl _
  | case3 low high bits more byte rest bounded ih => exact Nat.le_succ_of_le ih
  | case4 => exact Nat.le_refl _

/-- The characters of bytes, with a replacement for every fault. -/
def decode : List UInt8 → List Char
  | [] => []
  | byte :: rest =>
    if byte.toNat < 0x80 then Char.ofNat byte.toNat :: decode rest
    else
      match lead? byte with
      | none => replacement :: decode rest
      | some lead =>
        (readRest lead.low lead.high lead.bits lead.more rest).1 ::
          decode (readRest lead.low lead.high lead.bits lead.more rest).2
  termination_by bytes => bytes.length
  decreasing_by
    all_goals simp only [List.length_cons]
    · omega
    · omega
    · have := readRest_length_le lead.low lead.high lead.bits lead.more rest
      omega

/-- The bytes of a character are some, and the first of them is none of the highest. -/
theorem encodeChar_first (c : Char) :
    ∃ first rest, encodeChar c = first :: rest ∧ first.toNat ≤ 0xF4 := by
  have valid : c.toNat < 0xD800 ∨ 0xDFFF < c.toNat ∧ c.toNat < 0x110000 := c.valid
  unfold encodeChar
  generalize c.toNat = code at valid
  dsimp only
  split
  · exact ⟨_, _, rfl, by rw [UInt8.toNat_ofNat']; omega⟩
  · split
    · exact ⟨_, _, rfl, by rw [UInt8.toNat_ofNat']; omega⟩
    · split
      · exact ⟨_, _, rfl, by rw [UInt8.toNat_ofNat']; omega⟩
      · exact ⟨_, _, rfl, by rw [UInt8.toNat_ofNat']; omega⟩

/-- A continuation holds the six lowest bits. -/
theorem toNat_continuation (number : Nat) :
    (continuation number).toNat = 0x80 + number % 0x40 := by
  rw [continuation, UInt8.toNat_ofNat']
  omega

/-- A continuation that is within its bounds is read, and its bits are taken up. -/
theorem readRest_continuation {low high : Nat} (bits more number : Nat) (rest : List UInt8)
    (above : low ≤ 0x80 + number % 0x40) (below : 0x80 + number % 0x40 ≤ high) :
    readRest low high bits (more + 1) (continuation number :: rest) =
      readRest 0x80 0xBF (bits * 0x40 + number % 0x40) more rest := by
  rw [readRest, toNat_continuation, if_pos ⟨above, below⟩]
  congr 2
  omega

/-- A lead is read with its continuations, and the reading goes on behind them. -/
theorem decode_lead {byte : UInt8} {lead : Lead} (rest : List UInt8)
    (isLead : lead? byte = some lead) :
    decode (byte :: rest) =
      (readRest lead.low lead.high lead.bits lead.more rest).1 ::
        decode (readRest lead.low lead.high lead.bits lead.more rest).2 := by
  have above : ¬byte.toNat < 0x80 := by
    intro below
    rw [lead?, if_pos (by omega)] at isLead
    cases isLead
  rw [decode, if_neg above, isLead]

/-- The bytes of a character in front of others are read as that character. -/
theorem decode_encodeChar_append (c : Char) (rest : List UInt8) :
    decode (encodeChar c ++ rest) = c :: decode rest := by
  have valid : c.toNat < 0xD800 ∨ 0xDFFF < c.toNat ∧ c.toNat < 0x110000 := c.valid
  have restored : Char.ofNat c.toNat = c := Char.ofNat_toNat c
  unfold encodeChar
  generalize c.toNat = code at valid restored
  dsimp only
  split
  · next small =>
    have value : (UInt8.ofNat code).toNat = code := by
      rw [UInt8.toNat_ofNat']
      omega
    rw [List.singleton_append, decode, value, if_pos small, restored]
  · split
    · next large small =>
      have value : (UInt8.ofNat (0xC0 + code / 0x40)).toNat = 0xC0 + code / 0x40 := by
        rw [UInt8.toNat_ofNat']
        omega
      have isLead : lead? (.ofNat (0xC0 + code / 0x40)) = some ⟨code / 0x40, 1, 0x80, 0xBF⟩ := by
        simp only [lead?, value]
        rw [if_neg (by omega), if_pos (by omega), Nat.add_sub_cancel_left]
      rw [List.cons_append, List.singleton_append, decode_lead _ isLead,
        readRest_continuation _ _ _ _ (Nat.le_add_right _ _) (by change _ ≤ 0xBF; omega), readRest,
        show code / 0x40 * 0x40 + code % 0x40 = code by omega, restored]
    · split
      · next large small =>
        have value : (UInt8.ofNat (0xE0 + code / 0x1000)).toNat = 0xE0 + code / 0x1000 := by
          rw [UInt8.toNat_ofNat']
          omega
        have isLead : ∃ low high, lead? (.ofNat (0xE0 + code / 0x1000)) =
              some ⟨code / 0x1000, 2, low, high⟩ ∧
            low ≤ 0x80 + code / 0x40 % 0x40 ∧ 0x80 + code / 0x40 % 0x40 ≤ high := by
          simp only [lead?, value]
          rw [if_neg (by omega), if_neg (by omega)]
          split
          · next edge =>
            exact ⟨0xA0, 0xBF, by rw [show code / 0x1000 = 0 by omega], by omega, by omega⟩
          · split
            · next edge =>
              exact ⟨0x80, 0x9F, by rw [show code / 0x1000 = 0xD by omega], by omega, by omega⟩
            · rw [if_pos (by omega), Nat.add_sub_cancel_left]
              exact ⟨0x80, 0xBF, rfl, by omega, by omega⟩
        obtain ⟨low, high, isLead, above, below⟩ := isLead
        rw [List.cons_append, List.cons_append, List.singleton_append, decode_lead _ isLead,
          readRest_continuation _ _ _ _ above below,
          readRest_continuation _ _ _ _ (by omega) (by omega), readRest,
          show (code / 0x1000 * 0x40 + code / 0x40 % 0x40) * 0x40 + code % 0x40 = code by omega,
          restored]
      · next large =>
        have value : (UInt8.ofNat (0xF0 + code / 0x40000)).toNat = 0xF0 + code / 0x40000 := by
          rw [UInt8.toNat_ofNat']
          omega
        have isLead : ∃ low high, lead? (.ofNat (0xF0 + code / 0x40000)) =
              some ⟨code / 0x40000, 3, low, high⟩ ∧
            low ≤ 0x80 + code / 0x1000 % 0x40 ∧ 0x80 + code / 0x1000 % 0x40 ≤ high := by
          simp only [lead?, value]
          rw [if_neg (by omega), if_neg (by omega), if_neg (by omega), if_neg (by omega),
            if_neg (by omega)]
          split
          · next edge =>
            exact ⟨0x90, 0xBF, by rw [show code / 0x40000 = 0 by omega], by omega, by omega⟩
          · split
            · next edge =>
              rw [Nat.add_sub_cancel_left]
              exact ⟨0x80, 0xBF, rfl, by omega, by omega⟩
            · rw [if_pos (by omega)]
              exact ⟨0x80, 0x8F, by rw [show code / 0x40000 = 4 by omega], by omega, by omega⟩
        obtain ⟨low, high, isLead, above, below⟩ := isLead
        rw [List.cons_append, List.cons_append, List.cons_append, List.singleton_append,
          decode_lead _ isLead, readRest_continuation _ _ _ _ above below,
          readRest_continuation _ _ _ _ (by omega) (by omega),
          readRest_continuation _ _ _ _ (by omega) (by omega), readRest,
          show ((code / 0x40000 * 0x40 + code / 0x1000 % 0x40) * 0x40 + code / 0x40 % 0x40) * 0x40 +
            code % 0x40 = code by omega,
          restored]

/-- The bytes of a text are read as that text. -/
theorem decode_encode (chars : List Char) : decode (encode chars) = chars := by
  induction chars with
  | nil => simp [encode, decode]
  | cons c rest ih =>
    rw [encode, List.flatMap_cons, decode_encodeChar_append]
    exact congrArg _ ih

end Onboarding.Text.Utf8
