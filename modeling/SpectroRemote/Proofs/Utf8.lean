import SpectroRemote.Proofs.ByteOrder

/-!
# Reading encoded texts

What is read of bytes, damaged or not, when something follows them: where no continuation byte
follows, the bytes are read as they are on their own (`decode_append`). A text is read back from its
encoding (`decode_encode`), and from the first bytes of its encoding come the characters that are
whole, with one replacement for a character that is not (`decode_take_encode`).
-/

namespace SpectroRemote.Text

/-- A byte that can follow the first one of a character. -/
def IsContinuation (b : UInt8) : Prop := 0x80 ≤ b ∧ b ≤ 0xBF

/-! ### Bytes followed by others -/

section Following

variable {n : Nat} {low high b : UInt8} {bits : Nat} {s t : List UInt8}

lemma follow_cons_of_within (h : low ≤ b ∧ b ≤ high) :
    follow (n + 1) low high bits (b :: s)
      = follow n 0x80 0xBF (bits * 64 + (b.toNat - 0x80)) s := by
  rw [follow, if_pos (by simpa using h)]

lemma follow_cons_of_not_within (h : ¬ (low ≤ b ∧ b ≤ high)) :
    follow (n + 1) low high bits (b :: s) = (none, b :: s) := by
  rw [follow, if_neg (by simpa using h)]

/-- No more is read than there is, if no continuation byte comes next. -/
lemma follow_append (hlow : 0x80 ≤ low) (hhigh : high ≤ 0xBF)
    (ht : ∀ b ∈ t.head?, ¬ IsContinuation b) :
    follow n low high bits (s ++ t)
      = ((follow n low high bits s).1, (follow n low high bits s).2 ++ t) := by
  induction n generalizing low high bits s with
  | zero => rfl
  | succ n ih =>
    cases s with
    | nil =>
      cases t with
      | nil => rfl
      | cons b t =>
        have hb : ¬ (low ≤ b ∧ b ≤ high) := fun hb =>
          ht b rfl ⟨UInt8.le_trans hlow hb.1, UInt8.le_trans hb.2 hhigh⟩
        exact follow_cons_of_not_within hb
    | cons b s =>
      by_cases hb : low ≤ b ∧ b ≤ high
      · rw [List.cons_append, follow_cons_of_within hb, follow_cons_of_within hb]
        exact ih (UInt8.le_refl _) (UInt8.le_refl _)
      · rw [List.cons_append, follow_cons_of_not_within hb, follow_cons_of_not_within hb]
        rfl

/-- A character that is cut off is no character, and nothing of it is left. -/
lemma follow_take {v k : Nat} (h : follow n low high bits s = (some v, [])) (hk : k < s.length) :
    follow n low high bits (s.take k) = (none, []) := by
  induction n generalizing low high bits s k with
  | zero =>
    obtain ⟨-, rfl⟩ := Prod.mk.inj h
    cases hk
  | succ n ih =>
    cases s with
    | nil => cases hk
    | cons b s =>
      by_cases hb : low ≤ b ∧ b ≤ high
      · rw [follow_cons_of_within hb] at h
        cases k with
        | zero => rfl
        | succ k =>
          rw [List.take_succ_cons, follow_cons_of_within hb, ih h (Nat.lt_of_succ_lt_succ hk)]
      · rw [follow_cons_of_not_within hb] at h
        cases h

end Following

lemma lead?_bounds {b : UInt8} {l : Lead} (h : lead? b = some l) :
    0x80 ≤ l.low ∧ l.high ≤ 0xBF := by
  rw [lead?] at h
  split_ifs at h <;> cases h <;> dsimp only <;> decide

variable {s t : List UInt8}

/-- No byte of ASCII begins a longer character. -/
lemma le_of_lead? {b : UInt8} {l : Lead} (h : lead? b = some l) : 0xC2 ≤ b := by
  rw [← UInt8.not_lt]
  intro hb
  rw [lead?, if_pos hb] at h
  cases h

lemma decodeFirst_of_lead? {b : UInt8} {l : Lead} (h : lead? b = some l) (s : List UInt8) :
    decodeFirst b s =
      match follow l.following l.low l.high l.bits s with
      | (some n, rest) => (Char.ofNat n, rest)
      | (none, rest) => (replacement, rest) := by
  have hb : ¬ b < 0x80 := fun hb =>
    UInt8.lt_irrefl _ (UInt8.lt_trans (UInt8.lt_of_lt_of_le (by decide) (le_of_lead? h)) hb)
  rw [decodeFirst, if_neg hb]
  generalize lead? b = first at h
  subst h
  rfl

lemma decodeFirst_append (b : UInt8) (ht : ∀ b ∈ t.head?, ¬ IsContinuation b) :
    decodeFirst b (s ++ t) = ((decodeFirst b s).1, (decodeFirst b s).2 ++ t) := by
  rw [decodeFirst, decodeFirst]
  split
  · rfl
  · cases hl : lead? b with
    | none => rfl
    | some l =>
      dsimp only
      rw [follow_append (lead?_bounds hl).1 (lead?_bounds hl).2 ht]
      cases follow l.following l.low l.high l.bits s with
      | mk v rest => cases v <;> rfl

/-- Bytes that no continuation byte follows are read on their own. -/
theorem decode_append (ht : ∀ b ∈ t.head?, ¬ IsContinuation b) :
    decode (s ++ t) = decode s ++ decode t := by
  induction s using decode.induct with
  | case1 => rw [decode, List.nil_append, List.nil_append]
  | case2 b s ih =>
    rw [List.cons_append, decode, decode, decodeFirst_append b ht, ih, List.cons_append]

lemma decode_cons_of_lt {b : UInt8} (h : b < 0x80) (s : List UInt8) :
    decode (b :: s) = Char.ofNat b.toNat :: decode s := by
  rw [decode, decodeFirst, if_pos h]

/-! ### Encoded characters -/

lemma follow_continuation {n d bits : Nat} {low high : UInt8} (hd : d < 64)
    (hlow : low.toNat ≤ d + 0x80) (hhigh : d + 0x80 ≤ high.toNat) (s : List UInt8) :
    follow (n + 1) low high bits (UInt8.ofNat (d + 0x80) :: s)
      = follow n 0x80 0xBF (bits * 64 + d) s := by
  have hbyte : (UInt8.ofNat (d + 0x80)).toNat = d + 0x80 := by
    rw [UInt8.toNat_ofNat', Nat.mod_eq_of_lt (by omega)]
  have hwithin : low ≤ UInt8.ofNat (d + 0x80) ∧ UInt8.ofNat (d + 0x80) ≤ high := by
    rw [UInt8.le_iff_toNat_le, UInt8.le_iff_toNat_le, hbyte]
    exact ⟨hlow, hhigh⟩
  rw [follow_cons_of_within hwithin, hbyte, Nat.add_sub_cancel]

lemma utf8EncodeChar_of_lt {c : Char} (h : c.toNat < 0x80) :
    String.utf8EncodeChar c = [UInt8.ofNat c.toNat] := by
  rw [String.utf8EncodeChar]
  exact if_pos (Nat.le_of_lt_succ h)

lemma lead?_ofNat {n : Nat} (h : n < 256) :
    lead? (UInt8.ofNat n) =
      if n < 0xC2 then none
      else if n < 0xE0 then some ⟨1, 0x80, 0xBF, n - 0xC0⟩
      else if n < 0xF0 then
        some ⟨2, if n = 0xE0 then 0xA0 else 0x80, if n = 0xED then 0x9F else 0xBF, n - 0xE0⟩
      else if n < 0xF5 then
        some ⟨3, if n = 0xF0 then 0x90 else 0x80, if n = 0xF4 then 0x8F else 0xBF, n - 0xF0⟩
      else none := by
  have hbyte : (UInt8.ofNat n).toNat = n := by rw [UInt8.toNat_ofNat', Nat.mod_eq_of_lt h]
  simp only [lead?, UInt8.lt_iff_toNat_lt, ← UInt8.toNat_inj, hbyte]
  rfl

/-- A character of two bytes. -/
lemma follow_two {v : Nat} (h : 0x80 ≤ v) (hlt : v < 0x800) :
    ∃ l, lead? (UInt8.ofNat (v / 64 % 32 + 192)) = some l
      ∧ follow l.following l.low l.high l.bits [UInt8.ofNat (v % 64 + 128)] = (some v, []) := by
  have hlead : lead? (UInt8.ofNat (v / 64 % 32 + 192)) = _ := lead?_ofNat (by omega)
  rw [if_neg (by omega), if_pos (by omega)] at hlead
  refine ⟨_, hlead, ?_⟩
  dsimp only
  rw [follow_continuation (by omega) (by simp) (by simp; omega), follow]
  congr 2
  omega

/-- A character of three bytes: it is not one of two bytes, and no surrogate. -/
lemma follow_three {v : Nat} (h : 0x800 ≤ v) (hlt : v < 0x10000)
    (hvalid : v < 0xD800 ∨ 0xDFFF < v) :
    ∃ l, lead? (UInt8.ofNat (v / 4096 % 16 + 224)) = some l
      ∧ follow l.following l.low l.high l.bits
        [UInt8.ofNat (v / 64 % 64 + 128), UInt8.ofNat (v % 64 + 128)] = (some v, []) := by
  have hlead : lead? (UInt8.ofNat (v / 4096 % 16 + 224)) = _ := lead?_ofNat (by omega)
  rw [if_neg (by omega), if_neg (by omega), if_pos (by omega)] at hlead
  refine ⟨_, hlead, ?_⟩
  dsimp only
  rw [follow_continuation (by omega) ?low ?high, follow_continuation (by omega) (by simp)
    (by simp; omega), follow]
  case low =>
    split
    · simp
      omega
    · simp
  case high =>
    split
    · simp
      omega
    · simp
      omega
  congr 2
  omega

/-- A character of four bytes: it is not one of three bytes, and not too great. -/
lemma follow_four {v : Nat} (h : 0x10000 ≤ v) (hlt : v < 0x110000) :
    ∃ l, lead? (UInt8.ofNat (v / 262144 % 8 + 240)) = some l
      ∧ follow l.following l.low l.high l.bits
        [UInt8.ofNat (v / 4096 % 64 + 128), UInt8.ofNat (v / 64 % 64 + 128),
          UInt8.ofNat (v % 64 + 128)] = (some v, []) := by
  have hlead : lead? (UInt8.ofNat (v / 262144 % 8 + 240)) = _ := lead?_ofNat (by omega)
  rw [if_neg (by omega), if_neg (by omega), if_neg (by omega), if_pos (by omega)] at hlead
  refine ⟨_, hlead, ?_⟩
  dsimp only
  rw [follow_continuation (by omega) ?low ?high, follow_continuation (by omega) (by simp)
    (by simp; omega), follow_continuation (by omega) (by simp) (by simp; omega), follow]
  case low =>
    split
    · simp
      omega
    · simp
  case high =>
    split
    · simp
      omega
    · simp
      omega
  congr 2
  omega

/-- The first byte of a longer character announces the bytes that follow. -/
lemma exists_lead {c : Char} (h : 0x80 ≤ c.toNat) :
    ∃ b s l, String.utf8EncodeChar c = b :: s ∧ lead? b = some l
      ∧ follow l.following l.low l.high l.bits s = (some c.toNat, []) := by
  have hvalid : c.toNat < 0xD800 ∨ 0xDFFF < c.toNat ∧ c.toNat < 0x110000 := c.valid
  have hlt : c.toNat < 0x110000 := by omega
  rw [String.utf8EncodeChar]
  change ∃ b s l, (if c.toNat ≤ 0x7f then _ else _) = _ ∧ _
  rw [if_neg (by omega)]
  split
  · next htwo =>
    obtain ⟨l, hl, hfollow⟩ := follow_two h (Nat.lt_succ_of_le htwo)
    exact ⟨_, _, l, rfl, hl, hfollow⟩
  · next htwo =>
    split
    · next hthree =>
      obtain ⟨l, hl, hfollow⟩ := follow_three (Nat.lt_of_not_le htwo) (Nat.lt_succ_of_le hthree)
        (hvalid.imp_right And.left)
      exact ⟨_, _, l, rfl, hl, hfollow⟩
    · next hthree =>
      obtain ⟨l, hl, hfollow⟩ := follow_four (Nat.lt_of_not_le hthree) hlt
      exact ⟨_, _, l, rfl, hl, hfollow⟩

lemma head?_utf8EncodeChar (c : Char) :
    ∀ b ∈ (String.utf8EncodeChar c).head?, ¬ IsContinuation b := by
  rintro b hb ⟨hlow, hhigh⟩
  by_cases h : c.toNat < 0x80
  · rw [utf8EncodeChar_of_lt h] at hb
    obtain rfl := Option.some.inj hb
    rw [UInt8.le_iff_toNat_le, UInt8.toNat_ofNat', Nat.mod_eq_of_lt (by omega)] at hlow
    exact absurd hlow (Nat.not_le_of_lt h)
  · obtain ⟨b', s, l, hc, hl, -⟩ := exists_lead (Nat.le_of_not_lt h)
    rw [hc] at hb
    obtain rfl := Option.some.inj hb
    exact absurd (UInt8.le_trans (le_of_lead? hl) hhigh) (by decide)

lemma head?_encode (s : List Char) : ∀ b ∈ (encode s).head?, ¬ IsContinuation b := by
  cases s with
  | nil => exact fun b hb => nomatch hb
  | cons c s =>
    rw [encode, List.flatMap_cons, List.head?_append_of_ne_nil _ (utf8EncodeChar_ne_nil c)]
    exact head?_utf8EncodeChar c

lemma decode_utf8EncodeChar (c : Char) : decode (String.utf8EncodeChar c) = [c] := by
  by_cases h : c.toNat < 0x80
  · have hbyte : (UInt8.ofNat c.toNat).toNat = c.toNat := by
      rw [UInt8.toNat_ofNat', Nat.mod_eq_of_lt (by omega)]
    have hlt : UInt8.ofNat c.toNat < 0x80 := by
      rw [UInt8.lt_iff_toNat_lt, hbyte]
      exact h
    rw [utf8EncodeChar_of_lt h, decode_cons_of_lt hlt, hbyte, Char.ofNat_toNat, decode]
  · obtain ⟨b, s, l, hc, hl, hfollow⟩ := exists_lead (Nat.le_of_not_lt h)
    rw [hc, decode, decodeFirst_of_lead? hl, hfollow]
    dsimp only
    rw [Char.ofNat_toNat, decode]

/-- What is cut off a character leaves a replacement for it, or nothing. -/
lemma decode_take_utf8EncodeChar {c : Char} {k : Nat}
    (hk : k < (String.utf8EncodeChar c).length) :
    decode ((String.utf8EncodeChar c).take k) = if k = 0 then [] else [replacement] := by
  cases k with
  | zero => rw [List.take_zero, decode, if_pos rfl]
  | succ k =>
    by_cases h : c.toNat < 0x80
    · rw [utf8EncodeChar_of_lt h, List.length_singleton] at hk
      omega
    · obtain ⟨b, s, l, hc, hl, hfollow⟩ := exists_lead (Nat.le_of_not_lt h)
      rw [hc, List.length_cons] at hk
      have hcut := follow_take hfollow (Nat.lt_of_succ_lt_succ hk)
      rw [hc, List.take_succ_cons, decode, decodeFirst_of_lead? hl, hcut, if_neg (by simp)]
      dsimp only
      rw [decode]

/-! ### Encoded texts -/

/-- A text is read back from its encoding. -/
theorem decode_encode (s : List Char) : decode (encode s) = s := by
  induction s with
  | nil => rw [encode, List.flatMap_nil, decode]
  | cons c s ih =>
    rw [encode, List.flatMap_cons, ← encode, decode_append (head?_encode s),
      decode_utf8EncodeChar, ih, List.singleton_append]

/-- The longest beginning of a text whose encoding has no more bytes than the limit. -/
structure IsLongestFitting (kept text : List Char) (limit : Nat) : Prop where
  begins : kept <+: text
  fits : (encode kept).length ≤ limit
  longest : ∀ other, other <+: text → (encode other).length ≤ limit → other.length ≤ kept.length

section Fitting

variable {c : Char} {kept text : List Char} {limit : Nat}

lemma length_encode_cons (c : Char) (s : List Char) :
    (encode (c :: s)).length = (String.utf8EncodeChar c).length + (encode s).length := by
  rw [encode, List.flatMap_cons, List.length_append, encode]

/-- Where the first character does not fit, nothing does. -/
lemma isLongestFitting_nil (h : limit < (String.utf8EncodeChar c).length) :
    IsLongestFitting [] (c :: text) limit where
  begins := List.nil_prefix
  fits := Nat.zero_le limit
  longest other hother hfits := by
    rcases List.prefix_cons_iff.mp hother with rfl | ⟨rest, rfl, -⟩
    · exact le_rfl
    · rw [length_encode_cons] at hfits
      omega

lemma IsLongestFitting.cons (hc : (String.utf8EncodeChar c).length ≤ limit)
    (h : IsLongestFitting kept text (limit - (String.utf8EncodeChar c).length)) :
    IsLongestFitting (c :: kept) (c :: text) limit where
  begins := List.cons_prefix_cons.mpr ⟨rfl, h.begins⟩
  fits := by
    have := h.fits
    rw [length_encode_cons]
    omega
  longest other hother hfits := by
    rcases List.prefix_cons_iff.mp hother with rfl | ⟨rest, rfl, hrest⟩
    · exact Nat.zero_le _
    · rw [length_encode_cons] at hfits
      exact Nat.succ_le_succ (h.longest rest hrest (by omega))

end Fitting

/-- From the first bytes of an encoded text come the characters that are whole, and one replacement
where a character was cut. -/
theorem decode_take_encode (text : List Char) (limit : Nat) :
    ∃ kept, IsLongestFitting kept text limit
      ∧ decode ((encode text).take limit)
        = kept ++ if (encode kept).length < ((encode text).take limit).length then [replacement]
            else [] := by
  induction text generalizing limit with
  | nil =>
    refine ⟨[], ⟨List.nil_prefix, Nat.zero_le limit, fun other hother _ => hother.length_le⟩, ?_⟩
    rw [encode, List.flatMap_nil, List.take_nil, decode]
    rfl
  | cons c text ih =>
    have hencode : encode (c :: text) = String.utf8EncodeChar c ++ encode text := by
      rw [encode, List.flatMap_cons, encode]
    rcases Nat.lt_or_ge limit (String.utf8EncodeChar c).length with hcut | hfits
    · refine ⟨[], isLongestFitting_nil hcut, ?_⟩
      rw [hencode, List.take_append_of_le_length hcut.le, decode_take_utf8EncodeChar hcut,
        List.length_take, min_eq_left hcut.le, List.nil_append]
      cases limit with
      | zero => rfl
      | succ limit => rfl
    · obtain ⟨kept, hkept, hdecode⟩ := ih (limit - (String.utf8EncodeChar c).length)
      have htake : (encode (c :: text)).take limit = String.utf8EncodeChar c
          ++ (encode text).take (limit - (String.utf8EncodeChar c).length) := by
        rw [hencode, List.take_append, List.take_of_length_le hfits]
      have hhead : ∀ b ∈ ((encode text).take (limit - (String.utf8EncodeChar c).length)).head?,
          ¬ IsContinuation b := by
        intro b hb
        rw [List.head?_take] at hb
        split at hb
        · cases hb
        · exact head?_encode text b hb
      refine ⟨c :: kept, hkept.cons hfits, ?_⟩
      rw [htake, decode_append hhead, decode_utf8EncodeChar, hdecode, length_encode_cons,
        List.length_append, List.singleton_append, List.cons_append]
      exact congrArg (c :: kept ++ ·) (if_congr (Nat.add_lt_add_iff_left).symm rfl rfl)

end SpectroRemote.Text
