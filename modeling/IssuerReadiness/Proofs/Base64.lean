import IssuerReadiness.Base64

/-!
# Reading base64 text that was written

Written text is read back as the bytes it was written from, whatever their number: a
`=` is written in the last group only, so that the places at which blocks end make no
difference (`decodeFrom_encodeGroups` is for every place), and the bits that are left
over in the last group are the ones that reading drops.

* `readValue_symbol`, `symbol_ne_pad`: letters stand for their values.
* `isWellSpelled_encodeGroups`: written text passes the check.
* `decode_encode`: the round trip.
-/

namespace IssuerReadiness
namespace Base64

/-! ## Letters -/

theorem readValue_symbol {v : Nat} (h : v < 64) : readValue (symbol v) = v := by
  revert v
  decide

theorem isLetter_symbol {v : Nat} (h : v < 64) : isLetter (symbol v) = true := by
  revert v
  decide

theorem symbol_ne_pad {v : Nat} (h : v < 64) : symbol v ≠ '=' := by
  revert v
  decide

theorem readValue_pad : readValue '=' = 0 := by decide

/-- A group that ends with a letter of the alphabet takes no byte away. -/
theorem padding_symbol (r : Char) {v : Nat} (h : v < 64) : padding r (symbol v) = 0 :=
  if_neg (symbol_ne_pad h)

/-! ## Groups -/

/-- The bytes of a group of values that three bytes were cut into. -/
theorem groupBytes_cut (a b c : UInt8) :
    groupBytes (a.toNat / 4) (a.toNat % 4 * 16 + b.toNat / 16)
      (b.toNat % 16 * 4 + c.toNat / 64) (c.toNat % 64) = [a, b, c] := by
  have ha := a.toNat_lt
  have hb := b.toNat_lt
  have hc := c.toNat_lt
  have hfirst : a.toNat / 4 * 4 + (a.toNat % 4 * 16 + b.toNat / 16) / 16 = a.toNat := by omega
  have hsecond : (a.toNat % 4 * 16 + b.toNat / 16) % 16 * 16 +
      (b.toNat % 16 * 4 + c.toNat / 64) / 4 = b.toNat := by omega
  have hthird : (b.toNat % 16 * 4 + c.toNat / 64) % 4 * 64 + c.toNat % 64 = c.toNat := by omega
  rw [groupBytes, hfirst, hsecond, hthird]
  simp only [UInt8.ofNat_toNat]

/-- The values that bytes are cut into are values of letters. -/
theorem cut_lt (a b c : UInt8) :
    a.toNat / 4 < 64 ∧ a.toNat % 4 * 16 + b.toNat / 16 < 64 ∧
      b.toNat % 16 * 4 + c.toNat / 64 < 64 ∧ c.toNat % 64 < 64 := by
  have ha := a.toNat_lt
  have hb := b.toNat_lt
  have hc := c.toNat_lt
  omega

/-! ## The round trip -/

/-- Written text is well spelled. -/
theorem isWellSpelled_encodeGroups (b : Bytes) : isWellSpelled (encodeGroups b) = true := by
  have hpad : isLetter '=' = true := by decide
  induction b using encodeGroups.induct with
  | case1 => rfl
  | case2 a =>
    obtain ⟨hv, hw, -, -⟩ := cut_lt a 0 0
    have hw' : a.toNat % 4 * 16 < 64 := by omega
    simp [isWellSpelled, encodeGroups, isLetter_symbol hv, isLetter_symbol hw', hpad]
  | case3 a b =>
    obtain ⟨hv, hw, hx, -⟩ := cut_lt a b 0
    have hx' : b.toNat % 16 * 4 < 64 := by omega
    simp [isWellSpelled, encodeGroups, isLetter_symbol hv, isLetter_symbol hw,
      isLetter_symbol hx', hpad]
  | case4 a b c rest ih =>
    obtain ⟨hv, hw, hx, hy⟩ := cut_lt a b c
    simp only [isWellSpelled, Bool.and_eq_true, List.all_eq_true, beq_iff_eq] at ih
    simp only [isWellSpelled, encodeGroups, List.all_cons, List.length_cons, isLetter_symbol hv,
      isLetter_symbol hw, isLetter_symbol hx, isLetter_symbol hy, Bool.true_and,
      Bool.and_eq_true, List.all_eq_true, beq_iff_eq]
    exact ⟨ih.1, by omega⟩

/-- Written text is read back, wherever in a block its first group stands. -/
theorem decodeFrom_encodeGroups (place : Nat) (b : Bytes) :
    decodeFrom place (encodeGroups b) = b := by
  induction b using encodeGroups.induct generalizing place with
  | case1 => rfl
  | case2 a =>
    obtain ⟨hv, hw, -, -⟩ := cut_lt a 0 0
    have hcut := groupBytes_cut a 0 0
    simp only [UInt8.toNat_zero, Nat.zero_div, Nat.zero_mod, Nat.zero_mul, Nat.add_zero] at hw hcut
    simp [encodeGroups, decodeFrom, readValue_symbol hv, readValue_symbol hw, readValue_pad, hcut,
      padding]
  | case3 a b =>
    obtain ⟨hv, hw, hx, -⟩ := cut_lt a b 0
    have hcut := groupBytes_cut a b 0
    simp only [UInt8.toNat_zero, Nat.zero_div, Nat.zero_mod, Nat.add_zero] at hx hcut
    simp [encodeGroups, decodeFrom, readValue_symbol hv, readValue_symbol hw, readValue_symbol hx,
      readValue_pad, hcut, padding, symbol_ne_pad hx]
  | case4 a b c rest ih =>
    obtain ⟨hv, hw, hx, hy⟩ := cut_lt a b c
    have hnil : encodeGroups rest = [] → rest = [] := fun h => by
      rw [← ih 0, h, decodeFrom_nil]
    -- the group keeps its three bytes in all three branches of the reader
    rw [encodeGroups, decodeFrom, readValue_symbol hv, readValue_symbol hw, readValue_symbol hx,
      readValue_symbol hy, groupBytes_cut, padding_symbol _ hy, ih, ih]
    split
    · rename_i hrest
      rw [hnil hrest]
      rfl
    · split <;> rfl

/-- **Written base64 text is read back.** -/
theorem decode_encode (b : Bytes) : decode (encode b) = some b := by
  rw [decode, encode, String.toList_ofList, if_pos (isWellSpelled_encodeGroups b), decodeLetters,
    decodeFrom_encodeGroups]

end Base64
end IssuerReadiness
