import Mathlib.Algebra.Group.Nat.Defs
import Standings.Text.Base64Url

/-!
# Reading base64 back

Reading the letters of a byte list gives the bytes back. `Base64Url.encode` takes three bytes at a
time, so the proof follows it: three bytes and the four letters they make, with one or two bytes
left over at the end.

What letters spell which bytes is said apart from groups of bytes, by their bits: `Spells`. Strict
reading accepts just these spellings.

## Key results

- `decode?_encode`: the letters of bytes are read as these bytes
- `decode?_eq_some_iff`: letters are read exactly as the bytes that they spell
-/

namespace Standings.Base64Url

/-! ## Groups of bytes -/

/-- The letters of a byte list stand for values from which the bytes are put together again. -/
private theorem mapM_value?_encode (bytes : List UInt8) :
    ∃ values, (encode bytes).mapM value? = some values ∧ regroup? values = some bytes := by
  -- Writing takes three bytes at a time, and what is left over makes two letters or three.
  fun_induction encode bytes with
  | case1 => exact ⟨[], rfl, rfl⟩
  | case2 a n =>
    have ha := a.toNat_lt
    refine ⟨[n / 64, n % 64], ?_, ?_⟩
    · simp [value?_letter (show n / 64 < 64 by omega), value?_letter (show n % 64 < 64 by omega)]
    · -- Of the twelve bits the low four are zero.
      have hlow : (n / 64 * 64 + n % 64) % 16 = 0 := by omega
      have hbyte : (n / 64 * 64 + n % 64) / 16 = a.toNat := by omega
      simp only [regroup?, if_pos hlow, hbyte, UInt8.ofNat_toNat]
  | case3 a b n =>
    have ha := a.toNat_lt
    have hb := b.toNat_lt
    refine ⟨[n / 4096, n / 64 % 64, n % 64], ?_, ?_⟩
    · simp [value?_letter (show n / 4096 < 64 by omega),
        value?_letter (show n / 64 % 64 < 64 by omega), value?_letter (show n % 64 < 64 by omega)]
    · -- Of the eighteen bits the low two are zero.
      have hn : n / 4096 * 4096 + n / 64 % 64 * 64 + n % 64 = n := by omega
      have hlow : n % 4 = 0 := by omega
      have hfirst : n / 1024 = a.toNat := by omega
      have hsecond : n / 4 % 256 = b.toNat := by omega
      simp only [regroup?, hn, if_pos hlow, hfirst, hsecond, UInt8.ofNat_toNat]
  | case4 a b c rest n ih =>
    obtain ⟨values, hvalues, hrest⟩ := ih
    have ha := a.toNat_lt
    have hb := b.toNat_lt
    have hc := c.toNat_lt
    refine ⟨n / 262144 :: n / 4096 % 64 :: n / 64 % 64 :: n % 64 :: values, ?_, ?_⟩
    · simp [value?_letter (show n / 262144 < 64 by omega),
        value?_letter (show n / 4096 % 64 < 64 by omega),
        value?_letter (show n / 64 % 64 < 64 by omega), value?_letter (show n % 64 < 64 by omega),
        hvalues]
    · -- Four letters hold the 24 bits of three bytes and no more.
      have hn : n / 262144 * 262144 + n / 4096 % 64 * 4096 + n / 64 % 64 * 64 + n % 64 = n := by
        omega
      have hfirst : n / 65536 = a.toNat := by omega
      have hsecond : n / 256 % 256 = b.toNat := by omega
      have hthird : n % 256 = c.toNat := by omega
      simp only [regroup?, hn, hrest, hfirst, hsecond, hthird, Option.map_some, UInt8.ofNat_toNat]

/-- Reading the letters of a byte list gives the bytes back. -/
@[simp] theorem decode?_encode (bytes : List UInt8) : decode? (encode bytes) = some bytes := by
  obtain ⟨values, hvalues, hbytes⟩ := mapM_value?_encode bytes
  rw [decode?, hvalues, Option.bind_some, hbytes]

/-! ## The bits of a text -/

/-- The alphabet, each letter at its value. -/
def alphabet : List Char :=
  "ABCDEFGHIJKLMNOPQRSTUVWXYZabcdefghijklmnopqrstuvwxyz0123456789-_".toList

/-- The `n` low bits of a number, the highest of them first. -/
def bits : Nat → Nat → List Bool
  | 0, _ => []
  | n + 1, v => v.testBit n :: bits n v

/-- Letters spell bytes: six bits to a letter of the alphabet, they hold the bytes' bits in order,
and behind these fewer than six bits, all zero. So nothing is padded, and no letter is left over. -/
def Spells (letters : List Char) (bytes : List UInt8) : Prop :=
  ∃ (values : List Nat) (unused : Nat), values.map (alphabet[·]?) = letters.map some ∧ unused < 6 ∧
    values.flatMap (bits 6) =
      bytes.flatMap (fun byte => bits 8 byte.toNat) ++ List.replicate unused false

@[simp] theorem length_bits (n v : Nat) : (bits n v).length = n := by
  induction n with
  | zero => rfl
  | succ n ih => rw [bits, List.length_cons, ih]

/-- Low bits depend on nothing above them. -/
theorem bits_mul_add_low (n u v : Nat) (hv : v < 2 ^ n) : bits n (u * 2 ^ n + v) = bits n v := by
  -- The bits are listed from the highest on, so the induction is on how many of them are left.
  have hlow : ∀ k ≤ n, bits k (u * 2 ^ n + v) = bits k v := by
    intro k
    induction k with
    | zero => intro _; rfl
    | succ k ih =>
      intro hk
      rw [bits, bits, ih (by omega), Nat.mul_comm u, Nat.testBit_two_pow_mul_add u hv,
        if_pos (by omega)]
  exact hlow n (Nat.le_refl n)

/-- The bits of a number put together from two parts are the bits of the parts. -/
theorem bits_append (m n u v : Nat) (hv : v < 2 ^ n) :
    bits m u ++ bits n v = bits (m + n) (u * 2 ^ n + v) := by
  induction m with
  | zero => rw [Nat.zero_add, bits_mul_add_low n u v hv]; rfl
  | succ m ih =>
    -- The highest bit of the sum is the highest of its upper part.
    have htop : (u * 2 ^ n + v).testBit (m + n) = u.testBit m := by
      rw [Nat.mul_comm, Nat.testBit_two_pow_mul_add u hv, if_neg (by omega), Nat.add_sub_cancel]
    rw [bits, List.cons_append, ih, Nat.add_right_comm, bits, htop]

/-- Numbers of `n` bits are told apart by their bits. -/
theorem bits_injective {n u v : Nat} (hu : u < 2 ^ n) (hv : v < 2 ^ n) (h : bits n u = bits n v) :
    u = v := by
  have hbit : ∀ k, bits k u = bits k v → ∀ i < k, u.testBit i = v.testBit i := by
    intro k
    induction k with
    | zero => intro _ i hi; omega
    | succ k ih =>
      intro hk i hi
      obtain ⟨htop, hrest⟩ := List.cons.inj hk
      rcases Nat.lt_succ_iff_lt_or_eq.1 hi with hlt | rfl
      · exact ih hrest i hlt
      · exact htop
  apply Nat.eq_of_testBit_eq
  intro i
  by_cases hi : i < n
  · exact hbit n h i hi
  · -- Above the `n` low bits both numbers have zeros only.
    have hpow : 2 ^ n ≤ 2 ^ i := Nat.pow_le_pow_right (by decide) (by omega)
    rw [Nat.testBit_lt_two_pow (Nat.lt_of_lt_of_le hu hpow),
      Nat.testBit_lt_two_pow (Nat.lt_of_lt_of_le hv hpow)]

@[simp] theorem bits_zero (n : Nat) : bits n 0 = List.replicate n false := by
  induction n with
  | zero => rfl
  | succ n ih => rw [bits, ih, Nat.zero_testBit]; rfl

/-- Each piece of `n` bits adds `n`. -/
theorem length_flatMap_bits {α : Type} (n : Nat) (f : α → Nat) (l : List α) :
    (l.flatMap fun a => bits n (f a)).length = n * l.length := by
  induction l with
  | nil => rfl
  | cons a l ih =>
    rw [List.flatMap_cons, List.length_append, length_bits, ih, List.length_cons, Nat.mul_succ]
    omega

/-- Values of six bits are told apart by the bits of all of them. -/
theorem flatMap_bits_injective {n : Nat} {l l' : List Nat} (hl : ∀ v ∈ l, v < 2 ^ n)
    (hl' : ∀ v ∈ l', v < 2 ^ n) (hlen : l.length = l'.length)
    (h : l.flatMap (bits n) = l'.flatMap (bits n)) : l = l' := by
  induction l generalizing l' with
  | nil => exact (List.length_eq_zero_iff.1 hlen.symm).symm
  | cons v l ih =>
    obtain _ | ⟨v', l'⟩ := l'
    · simp at hlen
    · rw [List.forall_mem_cons] at hl hl'
      simp only [List.flatMap_cons] at h
      -- The first pieces are of one length, so they agree, and so does what follows.
      obtain ⟨hhead, htail⟩ := List.append_inj h (by simp)
      rw [bits_injective hl.1 hl'.1 hhead, ih hl.2 hl'.2 (by simpa using hlen) htail]

/-! ## The alphabet -/

/-- A character has a value exactly if it is the letter of that value. -/
theorem value?_eq_some_iff_letter {c : Char} {v : Nat} :
    value? c = some v ↔ v < 64 ∧ letter v = c := by
  constructor
  · intro h
    have hascii : c.toNat < 128 := by
      -- Every range of the alphabet ends below 128.
      have hle : ∀ a b : Char, a ≤ b ↔ a.toNat ≤ b.toNat := fun _ _ => Iff.rfl
      simp only [value?, hle] at h
      split at h
      · next hupper => exact Nat.lt_of_le_of_lt hupper.2 (by decide)
      split at h
      · next hlower => exact Nat.lt_of_le_of_lt hlower.2 (by decide)
      split at h
      · next hdigit => exact Nat.lt_of_le_of_lt hdigit.2 (by decide)
      split at h
      · next hminus => rw [hminus]; decide
      split at h
      · next hunderscore => rw [hunderscore]; decide
      · cases h
    -- So there are few enough characters to look at each.
    have hchars : ∀ n < 128, ∀ v ∈ value? (Char.ofNat n), v < 64 ∧ letter v = Char.ofNat n := by
      decide +kernel
    have hc := hchars c.toNat hascii
    rw [Char.ofNat_toNat] at hc
    exact hc v h
  · rintro ⟨hlt, rfl⟩
    exact value?_letter hlt

/-- A character's value is its place in the alphabet. -/
theorem value?_eq_some_iff {c : Char} {v : Nat} : value? c = some v ↔ alphabet[v]? = some c := by
  have hletter : ∀ v < 64, alphabet[v]? = some (letter v) := by decide
  rw [value?_eq_some_iff_letter]
  constructor
  · rintro ⟨hlt, rfl⟩
    exact hletter v hlt
  · intro h
    have hlt : v < 64 := (List.getElem?_eq_some_iff.1 h).1
    rw [hletter v hlt] at h
    exact ⟨hlt, Option.some.inj h⟩

/-- The values of letters are their places in the alphabet. -/
theorem mapM_value?_eq_some_iff {letters : List Char} {values : List Nat} :
    letters.mapM value? = some values ↔ values.map (alphabet[·]?) = letters.map some := by
  induction letters generalizing values with
  | nil =>
    rw [List.mapM_nil, List.map_nil, List.map_eq_nil_iff]
    exact ⟨fun h => (Option.some.inj h).symm, fun h => congrArg some h.symm⟩
  | cons c letters ih =>
    rw [List.mapM_cons, List.map_cons]
    simp only [bind, Option.bind_eq_some_iff, pure, Option.some.injEq]
    constructor
    · rintro ⟨v, hv, rest, hrest, rfl⟩
      rw [List.map_cons, value?_eq_some_iff.1 hv, ih.1 hrest]
    · intro h
      obtain ⟨v, rest, rfl, hv, hrest⟩ := List.map_eq_cons_iff.1 h
      exact ⟨v, value?_eq_some_iff.2 hv, rest, ih.2 hrest, rfl⟩

/-! ## Strict reading -/

/-- Values that are regrouped into bytes hold the bits of the bytes and unused zeros. -/
private theorem flatMap_bits_of_regroup? {values : List Nat} {bytes : List UInt8}
    (hvalues : ∀ v ∈ values, v < 2 ^ 6) (h : regroup? values = some bytes) :
    ∃ unused < 6, values.flatMap (bits 6) =
      bytes.flatMap (fun byte => bits 8 byte.toNat) ++ List.replicate unused false := by
  have hbyte : ∀ n, bits 8 (UInt8.ofNat n).toNat = bits 8 n := by
    intro n
    rw [UInt8.toNat_ofNat', ← bits_mul_add_low 8 (n / 256) (n % 2 ^ 8) (by omega)]
    congr 1
    omega
  -- Each case puts the letters' bits together and cuts them at the ends of bytes.
  fun_induction regroup? values generalizing bytes with
  | case1 =>
    cases h
    exact ⟨0, by decide, rfl⟩
  | case2 => cases h
  | case3 w x n =>
    rename_i hlow
    cases h
    simp only [List.forall_mem_cons] at hvalues
    -- The twelve bits of both letters, cut behind the eighth.
    have hletters := bits_append 6 6 w x hvalues.2.1
    have hbytes := bits_append 8 4 (n / 16) 0 (by decide)
    have hn : n / 16 * 2 ^ 4 + 0 = w * 2 ^ 6 + x := by omega
    refine ⟨4, by decide, ?_⟩
    simp only [List.flatMap_cons, List.flatMap_nil, List.append_nil, hbyte, ← bits_zero]
    rw [hletters, hbytes, hn]
  | case4 => cases h
  | case5 w x y n =>
    rename_i hlow
    cases h
    simp only [List.forall_mem_cons] at hvalues
    -- Eighteen bits, cut behind the eighth and the sixteenth.
    have hletters := bits_append 6 12 w (x * 2 ^ 6 + y) (by omega)
    have hrest := bits_append 6 6 x y hvalues.2.2.1
    have hbytes := bits_append 8 10 (n / 1024) (n / 4 % 256 * 2 ^ 2 + 0) (by omega)
    have hsecond := bits_append 8 2 (n / 4 % 256) 0 (by decide)
    have hn : n / 1024 * 2 ^ 10 + (n / 4 % 256 * 2 ^ 2 + 0) = w * 2 ^ 12 + (x * 2 ^ 6 + y) := by
      omega
    refine ⟨2, by decide, ?_⟩
    simp only [List.flatMap_cons, List.flatMap_nil, List.append_nil, List.append_assoc, hbyte,
      ← bits_zero]
    rw [hrest, hletters, hsecond, hbytes, hn]
  | case6 => cases h
  | case7 w x y z rest n =>
    rename_i ih
    obtain ⟨tail, htail, rfl⟩ := Option.map_eq_some_iff.1 h
    simp only [List.forall_mem_cons] at hvalues
    obtain ⟨hw, hx, hy, hz, hrest⟩ := hvalues
    obtain ⟨unused, hunused, hbits⟩ := ih hrest htail
    -- Four letters are three bytes, and nothing is left over between them and the rest.
    have hletters := bits_append 6 18 w (x * 2 ^ 12 + (y * 2 ^ 6 + z)) (by omega)
    have hthree := bits_append 6 12 x (y * 2 ^ 6 + z) (by omega)
    have htwo := bits_append 6 6 y z hz
    have hbytes := bits_append 8 16 (n / 65536) (n / 256 % 256 * 2 ^ 8 + n % 256) (by omega)
    have hlast := bits_append 8 8 (n / 256 % 256) (n % 256) (by omega)
    have hn : n / 65536 * 2 ^ 16 + (n / 256 % 256 * 2 ^ 8 + n % 256) =
        w * 2 ^ 18 + (x * 2 ^ 12 + (y * 2 ^ 6 + z)) := by omega
    refine ⟨unused, hunused, ?_⟩
    have hfour : bits 6 w ++ (bits 6 x ++ (bits 6 y ++ bits 6 z)) =
        bits 8 (n / 65536) ++ (bits 8 (n / 256 % 256) ++ bits 8 (n % 256)) := by
      rw [htwo, hthree, hletters, hlast, hbytes, hn]
    simp only [List.flatMap_cons, hbyte, hbits, ← List.append_assoc] at hfour ⊢
    rw [hfour]

/-- Values that have letters have six bits. -/
private theorem lt_of_map_alphabet {letters : List Char} {values : List Nat}
    (h : values.map (alphabet[·]?) = letters.map some) : ∀ v ∈ values, v < 2 ^ 6 := by
  intro v hv
  have hmem : alphabet[v]? ∈ letters.map some := h ▸ List.mem_map_of_mem hv
  obtain ⟨c, -, hc⟩ := List.mem_map.1 hmem
  exact (List.getElem?_eq_some_iff.1 hc.symm).1

/-- Letters are read as the bytes they spell, and all other letters are refused. -/
theorem decode?_eq_some_iff {letters : List Char} {bytes : List UInt8} :
    decode? letters = some bytes ↔ Spells letters bytes := by
  rw [decode?, Option.bind_eq_some_iff]
  constructor
  · rintro ⟨values, hvalues, hbytes⟩
    have hletters := mapM_value?_eq_some_iff.1 hvalues
    obtain ⟨unused, hunused, hbits⟩ :=
      flatMap_bits_of_regroup? (lt_of_map_alphabet hletters) hbytes
    exact ⟨values, unused, hletters, hunused, hbits⟩
  · rintro ⟨values, unused, hletters, hunused, hbits⟩
    -- The bytes have letters of their own, which hold the same bits.
    obtain ⟨values', hvalues', hbytes⟩ := mapM_value?_encode bytes
    have hletters' := mapM_value?_eq_some_iff.1 hvalues'
    obtain ⟨unused', hunused', hbits'⟩ :=
      flatMap_bits_of_regroup? (lt_of_map_alphabet hletters') hbytes
    have hlen := congrArg List.length hbits
    have hlen' := congrArg List.length hbits'
    rw [List.length_append, List.length_replicate] at hlen hlen'
    have hsix : (values.flatMap (bits 6)).length = 6 * values.length :=
      length_flatMap_bits 6 id values
    have hsix' : (values'.flatMap (bits 6)).length = 6 * values'.length :=
      length_flatMap_bits 6 id values'
    -- Both numbers of unused bits are below six and the same up to a multiple of six.
    have hunused_eq : unused = unused' := by omega
    obtain rfl : values = values' := by
      apply flatMap_bits_injective (lt_of_map_alphabet hletters) (lt_of_map_alphabet hletters')
      · omega
      · rw [hbits, hbits', hunused_eq]
    exact ⟨values, mapM_value?_eq_some_iff.2 hletters, hbytes⟩

/-- The letters of bytes spell them. -/
theorem spells_encode (bytes : List UInt8) : Spells (encode bytes) bytes :=
  decode?_eq_some_iff.1 (decode?_encode bytes)

/-- Letters that spell bytes are of the alphabet. -/
theorem Spells.mem_alphabet {letters : List Char} {bytes : List UInt8} (h : Spells letters bytes) :
    ∀ c ∈ letters, c ∈ alphabet := by
  obtain ⟨values, -, hletters, -, -⟩ := h
  intro c hc
  have hmem : some c ∈ values.map (alphabet[·]?) := hletters ▸ List.mem_map_of_mem hc
  obtain ⟨v, -, hv⟩ := List.mem_map.1 hmem
  exact List.mem_of_getElem? hv

end Standings.Base64Url
