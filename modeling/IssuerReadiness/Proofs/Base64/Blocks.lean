import Mathlib.Algebra.GroupWithZero.Nat
import IssuerReadiness.Proofs.Base64

/-!
# How many bytes a base64 text gives

Writing turns three bytes into four characters and fills the last group with `=`.  Reading
takes any text that is made of whole groups of letters, and has three bytes for each group;
but some of them it takes away again, and where it does is the subject here.

## Where `=` counts

The reader goes through a text in blocks of 256 groups, and it is at the end of a block
that it looks for `=`: for each one that the block closes with, two at most, a byte goes.
A text of one block is shorter by the `=` at its own end, and by no other.  In a longer
text the ends of the inner blocks count too, although nothing of the text ends there:
1023 letters, a `=` and one more group are 770 bytes and not 771 (`length_paddedBlock`).

A block is read from its start to its end by itself (`decodeFrom_append`), so the bytes of
a text can be counted block by block.  The reader counts the groups of a block upwards, and
the two lemmas about one block are for a reader that has read some of them before.

## What is written in return

Reading and writing again gives the same text exactly if the text is canonical.  Neither
direction needs the blocks: a canonical text is a written one
(`exists_encodeGroups_of_canonical`), and a written text is read back.

* `blocks`, `closing`: the blocks of a text, and how many `=` each of them closes with.
* `length_decodeLetters`: the number of bytes.
* `canonical_encodeGroups`, `exists_encodeGroups_of_canonical`: canonical and written texts.
* `written_and_readAs`: the codec as a whole.
-/

namespace IssuerReadiness
namespace Base64

/-! ## The end of a text -/

/-- The number of `=` that a text closes with, two at most. -/
def closing (cs : List Char) : Nat :=
  if ['=', '='] <:+ cs then 2 else if ['='] <:+ cs then 1 else 0

theorem suffix_append_iff {cs front back : List Char} (h : cs.length ≤ back.length) :
    cs <:+ front ++ back ↔ cs <:+ back := by
  constructor
  · exact fun hcs => List.suffix_of_suffix_length_le hcs (List.suffix_append front back) h
  · exact fun hcs => hcs.trans (List.suffix_append front back)

/-- What a text closes with is decided by its last two characters. -/
theorem closing_append (front : List Char) {back : List Char} (h : 2 ≤ back.length) :
    closing (front ++ back) = closing back := by
  have htwo : ['=', '='] <:+ front ++ back ↔ ['=', '='] <:+ back := suffix_append_iff h
  have hone : ['='] <:+ front ++ back ↔ ['='] <:+ back :=
    suffix_append_iff (Nat.le_of_succ_le h)
  unfold closing
  simp only [htwo, hone]

theorem closing_pair (r s : Char) : closing [r, s] = padding r s := by
  unfold closing padding
  by_cases hs : s = '='
  · by_cases hr : r = '=' <;> simp [hs, hr, Ne.symm, List.suffix_cons_iff]
  · simp [Ne.symm hs, hs, List.suffix_cons_iff]

/-- A text that ends with a group closes with the padding of that group. -/
theorem closing_group (p q r s : Char) : closing [p, q, r, s] = padding r s := by
  have htwo : 2 ≤ [r, s].length := Nat.le_refl 2
  exact (closing_append [p, q] htwo).trans (closing_pair r s)

theorem padding_le (r s : Char) : padding r s ≤ 2 := by
  unfold padding
  split
  · split <;> omega
  · omega

/-! ## Blocks -/

/-- How many characters make a full block. -/
def blockLetters : Nat := 4 * blockGroups

/-- The blocks of a text: full ones, and at the end perhaps a shorter one. -/
def blocks : List Char → List (List Char)
  | [] => []
  | c :: cs => (c :: cs).take blockLetters :: blocks ((c :: cs).drop blockLetters)
termination_by cs => cs.length
decreasing_by
  rw [List.length_drop]
  exact Nat.sub_lt (Nat.succ_pos _) (by decide)

theorem blocks_of_ne_nil {cs : List Char} (h : cs ≠ []) :
    blocks cs = cs.take blockLetters :: blocks (cs.drop blockLetters) := by
  cases cs with
  | nil => exact absurd rfl h
  | cons c cs => rw [blocks]

/-- A text that fits a block is its only one. -/
theorem blocks_of_short {cs : List Char} (hne : cs ≠ []) (h : cs.length ≤ blockLetters) :
    blocks cs = [cs] := by
  rw [blocks_of_ne_nil hne, List.take_of_length_le h, List.drop_eq_nil_of_le h, blocks]

/-- Of a text that fits a block only its own end counts. -/
theorem sum_closing_of_short {cs : List Char} (h : cs.length ≤ blockLetters) :
    ((blocks cs).map closing).sum = closing cs := by
  cases cs with
  | nil =>
    rw [blocks]
    rfl
  | cons c cs =>
    rw [blocks_of_short (List.cons_ne_nil c cs) h]
    rfl

/-- The bytes that are left of the last group of a block. -/
theorem length_take_padding (v w x y : Nat) (r s : Char) :
    ((groupBytes v w x y).take (3 - padding r s)).length = 3 - padding r s := by
  rw [List.length_take]
  exact Nat.min_eq_left (Nat.sub_le 3 _)

/-- A text of four characters or more starts with a group. -/
theorem exists_group {cs : List Char} (h : 4 ≤ cs.length) :
    ∃ p q r s rest, cs = p :: q :: r :: s :: rest := by
  match cs, h with
  | p :: q :: r :: s :: rest, _ => exact ⟨p, q, r, s, rest, rfl⟩

/-- A full block is read by itself: the reader starts anew behind it. -/
theorem decodeFrom_append {place : Nat} {block rest : List Char} (hplace : place < blockGroups)
    (hblock : 4 * place + block.length = blockLetters) (hrest : rest ≠ []) :
    decodeFrom place (block ++ rest) = decodeFrom place block ++ decodeFrom 0 rest := by
  unfold blockLetters at hblock
  induction place, block using decodeFrom.induct with
  | case1 place p q r s =>
    have hlast : place + 1 = blockGroups := by
      simp only [List.length_cons, List.length_nil] at hblock
      omega
    simp [decodeFrom, hrest, hlast]
  | case2 place p q r s block hne hlast ih =>
    have hpos := List.length_pos_iff.2 hne
    simp only [List.length_cons] at hblock
    omega
  | case3 place p q r s block hne hnext ih =>
    have hblock' : 4 * (place + 1) + block.length = 4 * blockGroups := by
      simp only [List.length_cons] at hblock
      omega
    simp [decodeFrom, hne, hnext, ih (by omega) hblock']
  | case4 block place hshort =>
    have hlong : 4 ≤ block.length := by omega
    obtain ⟨p, q, r, s, rest', rfl⟩ := exists_group hlong
    exact (hshort p q r s rest' rfl).elim

/-- A block, or what is left of it, has three bytes for a group, less those that its end
takes away. -/
theorem length_decodeFrom (place : Nat) {cs : List Char} (hgroups : cs.length % 4 = 0)
    (hfit : 4 * place + cs.length ≤ blockLetters) :
    (decodeFrom place cs).length + closing cs = 3 * (cs.length / 4) := by
  unfold blockLetters at hfit
  induction place, cs using decodeFrom.induct with
  | case1 place p q r s =>
    have hpadding := padding_le r s
    rw [decodeFrom, if_pos rfl, length_take_padding, closing_group]
    simp only [List.length_cons, List.length_nil]
    omega
  | case2 place p q r s rest hne hlast ih =>
    have hpos := List.length_pos_iff.2 hne
    simp only [List.length_cons] at hfit
    omega
  | case3 place p q r s rest hne hnext ih =>
    simp only [List.length_cons] at hgroups hfit
    have hrest : 2 ≤ rest.length := by
      have hpos := List.length_pos_iff.2 hne
      omega
    have hclosing : closing (p :: q :: r :: s :: rest) = closing rest :=
      closing_append [p, q, r, s] hrest
    have hbytes := ih (by omega) (by omega)
    rw [decodeFrom, if_neg hne, if_neg hnext, List.length_append, hclosing]
    show 3 + (decodeFrom (place + 1) rest).length + closing rest = 3 * ((rest.length + 4) / 4)
    omega
  | case4 cs place hshort =>
    rcases Nat.lt_or_ge cs.length 4 with hlt | hge
    · have hnil : cs.length = 0 := by omega
      rw [List.length_eq_zero_iff.1 hnil]
      rfl
    · obtain ⟨p, q, r, s, rest, rfl⟩ := exists_group hge
      exact (hshort p q r s rest rfl).elim

/-- A text of more than one block is its first block and the rest of it. -/
theorem decodeLetters_of_long {cs : List Char} (h : blockLetters < cs.length) :
    decodeLetters cs =
      decodeLetters (cs.take blockLetters) ++ decodeLetters (cs.drop blockLetters) := by
  have hblock : (cs.take blockLetters).length = blockLetters :=
    List.length_take_of_le (Nat.le_of_lt h)
  have hrest : cs.drop blockLetters ≠ [] := by
    rwa [← List.length_pos_iff, List.length_drop, Nat.sub_pos_iff_lt]
  have hplace : 0 < blockGroups := by decide
  have happend := decodeFrom_append hplace ((Nat.zero_add _).trans hblock) hrest
  rwa [List.take_append_drop] at happend

/-- **The number of bytes.**  A text of whole groups has three bytes for each of them, less
those that the ends of its blocks take away. -/
theorem length_decodeLetters {cs : List Char} (hgroups : cs.length % 4 = 0) :
    (decodeLetters cs).length + ((blocks cs).map closing).sum = 3 * (cs.length / 4) := by
  have hletters : blockLetters % 4 = 0 := by decide
  induction cs using blocks.induct with
  | case1 =>
    rw [blocks]
    rfl
  | case2 c cs ih =>
    have hne : c :: cs ≠ [] := List.cons_ne_nil c cs
    generalize c :: cs = cs at *
    rcases Nat.lt_or_ge blockLetters cs.length with hlong | hshort
    · have hblock : (cs.take blockLetters).length = blockLetters :=
        List.length_take_of_le (Nat.le_of_lt hlong)
      have hfull : (cs.take blockLetters).length % 4 = 0 := by rw [hblock]; exact hletters
      have hfirst := length_decodeFrom 0 hfull (by omega)
      have hothers := ih (by rw [List.length_drop]; omega)
      rw [hblock] at hfirst
      rw [List.length_drop] at hothers
      rw [blocks_of_ne_nil hne, decodeLetters_of_long hlong, List.length_append, List.map_cons,
        List.sum_cons]
      show (decodeFrom 0 (cs.take blockLetters)).length + _ + _ = _
      omega
    · rw [sum_closing_of_short hshort]
      exact length_decodeFrom 0 hgroups (by omega)

/-- Reading a text that is not empty gives a byte at least. -/
theorem decodeFrom_ne_nil (place : Nat) {cs : List Char} (h : 4 ≤ cs.length) :
    decodeFrom place cs ≠ [] := by
  obtain ⟨p, q, r, s, rest, rfl⟩ := exists_group h
  have hpadding := padding_le r s
  have htake : (groupBytes (readValue p) (readValue q) (readValue r) (readValue s)).take
      (3 - padding r s) ≠ [] := by
    rw [← List.length_pos_iff, length_take_padding]
    omega
  rw [decodeFrom]
  split
  · exact htake
  · split
    · exact List.append_ne_nil_of_left_ne_nil htake _
    · exact List.cons_ne_nil _ _

/-! ## Canonical texts -/

/-- Written text has four characters for every three bytes begun. -/
theorem length_encodeGroups (b : Bytes) :
    (encodeGroups b).length = 4 * ((b.length + 2) / 3) := by
  induction b using encodeGroups.induct with
  | case1 => rfl
  | case2 a => simp [encodeGroups]
  | case3 a b => simp [encodeGroups]
  | case4 a b c rest ih =>
    simp only [encodeGroups, List.length_cons, ih]
    omega

/-- What is written is canonical. -/
theorem canonical_encodeGroups (b : Bytes) : Canonical (encodeGroups b) := by
  induction b using encodeGroups.induct with
  | case1 => exact .nil
  | case2 a =>
    obtain ⟨hv, hw, -, -⟩ := cut_lt a 0 0
    exact .one _ _ hv hw (Nat.mul_mod_left _ 16)
  | case3 a b =>
    obtain ⟨hv, hw, hx, -⟩ := cut_lt a b 0
    exact .two _ _ _ hv hw hx (Nat.mul_mod_left _ 4)
  | case4 a b c rest ih =>
    obtain ⟨hv, hw, hx, hy⟩ := cut_lt a b c
    exact .group _ _ _ _ _ hv hw hx hy ih

/-- Any four values are those that some three bytes are cut into. -/
theorem exists_cut {v w x y : Nat} (hv : v < 64) (hw : w < 64) (hx : x < 64) (hy : y < 64) :
    ∃ a b c : UInt8, a.toNat / 4 = v ∧ a.toNat % 4 * 16 + b.toNat / 16 = w ∧
      b.toNat % 16 * 4 + c.toNat / 64 = x ∧ c.toNat % 64 = y := by
  refine ⟨UInt8.ofNat (v * 4 + w / 16), UInt8.ofNat (w % 16 * 16 + x / 4),
    UInt8.ofNat (x % 4 * 64 + y), ?_⟩
  simp only [UInt8.toNat_ofNat']
  omega

/-- What is canonical is written. -/
theorem exists_encodeGroups_of_canonical {cs : List Char} (h : Canonical cs) :
    ∃ b, encodeGroups b = cs := by
  induction h with
  | nil => exact ⟨[], rfl⟩
  | one v w hv hw hfree =>
    obtain ⟨a, b, -, rfl, hw', -, -⟩ := exists_cut hv hw (by decide : 0 < 64) (by decide : 0 < 64)
    have hb := b.toNat_lt
    have hbits : a.toNat % 4 * 16 = w := by omega
    exact ⟨[a], by rw [encodeGroups, hbits]⟩
  | two v w x hv hw hx hfree =>
    obtain ⟨a, b, c, rfl, rfl, hx', -⟩ := exists_cut hv hw hx (by decide : 0 < 64)
    have hc := c.toNat_lt
    have hbits : b.toNat % 16 * 4 = x := by omega
    exact ⟨[a, b], by rw [encodeGroups, hbits]⟩
  | group v w x y rest hv hw hx hy hrest ih =>
    obtain ⟨b, rfl⟩ := ih
    obtain ⟨a, b', c, rfl, rfl, rfl, rfl⟩ := exists_cut hv hw hx hy
    exact ⟨a :: b' :: c :: b, rfl⟩

/-! ## The codec -/

/-- How many bytes reading sets aside for a text of `n` characters. -/
def room (n : Nat) : Nat := n * 3 / 4 + 1

/-- A byte string and its written form. -/
structure Written (d : Bytes) : Prop where
  spelled : isWellSpelled (encode d).toList = true
  length : (encode d).length = 4 * ((d.length + 2) / 3)
  read : decode (encode d) = some d

/-- A text and the bytes that it is read as. -/
structure ReadAs (s : String) (b : Bytes) : Prop where
  length : b.length + ((blocks s.toList).map closing).sum = 3 * s.length / 4
  length_short : s.length ≤ blockLetters → b.length + closing s.toList = 3 * s.length / 4
  fits : b.length ≤ room s.length
  ne_nil : s ≠ "" → b ≠ []
  written : encode b = s ↔ Canonical s.toList

theorem isWellSpelled_iff {cs : List Char} :
    isWellSpelled cs = true ↔ (∀ c ∈ cs, isLetter c = true) ∧ cs.length % 4 = 0 := by
  rw [isWellSpelled, Bool.and_eq_true, List.all_eq_true, beq_iff_eq]

theorem decode_eq_none_iff {s : String} : decode s = none ↔ isWellSpelled s.toList = false := by
  unfold decode
  cases isWellSpelled s.toList <;> simp

theorem decode_eq_some_iff {s : String} {b : Bytes} :
    decode s = some b ↔ isWellSpelled s.toList = true ∧ decodeLetters s.toList = b := by
  unfold decode
  cases isWellSpelled s.toList <;> simp

theorem written_encode (d : Bytes) : Written d where
  spelled := by
    rw [encode, String.toList_ofList]
    exact isWellSpelled_encodeGroups d
  length := by
    rw [← String.length_toList, encode, String.toList_ofList]
    exact length_encodeGroups d
  read := decode_encode d

/-- A text that is read is written again exactly if it is canonical. -/
theorem encode_eq_iff_canonical {s : String} {b : Bytes} (h : decode s = some b) :
    encode b = s ↔ Canonical s.toList := by
  constructor
  · rintro rfl
    rw [encode, String.toList_ofList]
    exact canonical_encodeGroups b
  · intro hcanonical
    obtain ⟨d, hd⟩ := exists_encodeGroups_of_canonical hcanonical
    have hs : encode d = s := by rw [encode, hd, String.ofList_toList]
    rw [← hs, decode_encode] at h
    rw [← Option.some.inj h, hs]

theorem readAs_decode {s : String} {b : Bytes} (h : decode s = some b) : ReadAs s b := by
  obtain ⟨hspelled, rfl⟩ := decode_eq_some_iff.1 h
  have hgroups : s.length % 4 = 0 := by
    rw [← String.length_toList]
    exact (isWellSpelled_iff.1 hspelled).2
  have hlength := length_decodeLetters (isWellSpelled_iff.1 hspelled).2
  rw [String.length_toList] at hlength
  refine ⟨by omega, fun hshort => ?_, ?_, fun hs => ?_, encode_eq_iff_canonical h⟩
  · rw [← String.length_toList] at hshort
    rw [sum_closing_of_short hshort] at hlength
    omega
  · unfold room
    omega
  · have hpos : s.toList.length ≠ 0 := by
      rwa [ne_eq, String.length_toList, String.length_eq_zero_iff]
    rw [String.length_toList] at hpos
    exact decodeFrom_ne_nil 0 (by rw [String.length_toList]; omega)

/-- **The codec.**  Every byte string is written as a text that passes the check and is read
back.  A text is refused exactly if it does not pass the check, and otherwise it is read
as so many bytes as its groups have without what the ends of its blocks take away; writing
them gives the text again exactly if it is canonical. -/
theorem written_and_readAs (d : Bytes) (s : String) :
    Written d ∧ (decode s = none ↔ isWellSpelled s.toList = false) ∧
      ∀ b, decode s = some b → ReadAs s b :=
  ⟨written_encode d, decode_eq_none_iff, fun _ => readAs_decode⟩

/-- A full block that closes with a `=`, and one more group. -/
def paddedBlock : String :=
  String.ofList (List.replicate 1022 'A' ++ ['A', '='] ++ ['A', 'A', 'A', 'A'])

/-- The `=` at the end of the text are not all that is taken away. -/
theorem length_paddedBlock :
    ∃ b, decode paddedBlock = some b ∧ b.length = 770 ∧
      3 * paddedBlock.length / 4 - closing paddedBlock.toList = 771 := by
  let block := List.replicate 1022 'A' ++ ['A', '=']
  let group := ['A', 'A', 'A', 'A']
  have htext : paddedBlock.toList = block ++ group := String.toList_ofList
  have hblock : block.length = blockLetters := by
    rw [List.length_append, List.length_replicate]
    rfl
  have hlength : (block ++ group).length = 1028 := by
    rw [List.length_append, hblock]
    rfl
  have hblocks : blocks (block ++ group) = [block, group] := by
    rw [blocks_of_ne_nil (List.append_ne_nil_of_right_ne_nil _ (List.cons_ne_nil _ _)),
      List.take_left' hblock, List.drop_left' hblock, blocks_of_short (by decide) (by decide)]
  have hletters : ∀ c ∈ block ++ group, isLetter c = true := by
    have hletter : isLetter 'A' = true ∧ isLetter '=' = true := by decide
    intro c hc
    simp only [block, group, List.mem_append, List.mem_replicate, List.mem_cons,
      List.not_mem_nil] at hc
    grind
  have hspelled : isWellSpelled paddedBlock.toList = true := by
    rw [htext]
    exact isWellSpelled_iff.2 ⟨hletters, by rw [hlength]⟩
  have hread := decode_eq_some_iff.2 ⟨hspelled, rfl⟩
  have hbytes := (readAs_decode hread).length
  have hblockEnd : closing block = 1 := (closing_append _ (by decide)).trans (by decide)
  have htextEnd : closing (block ++ group) = 0 := (closing_append _ (by decide)).trans (by decide)
  rw [← String.length_toList, htext, hblocks, hlength] at hbytes
  refine ⟨_, hread, ?_, ?_⟩
  · rw [htext]
    simp only [List.map_cons, List.map_nil, List.sum_cons, hblockEnd] at hbytes
    exact Nat.add_right_cancel hbytes
  · rw [← String.length_toList, htext, hlength, htextEnd]

end Base64
end IssuerReadiness
