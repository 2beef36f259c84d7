import SourceAtlas.Proofs.Format.Word
import SourceAtlas.Proofs.TextMap

/-! What a binary format promises, and that every way to make a format of others keeps the promise.
Lengths are written as 64-bit words, so a value is read back only if the bytes that it is written as
can be counted by one; no store of a machine holds more. -/
namespace SourceAtlas.Format

variable {α β γ : Type}

structure Faithful (f : Format α) : Prop where
  /-- Nothing is written as nothing, so a list is no longer than its bytes. -/
  nonempty : ∀ a, f.encode a ≠ []
  decode_encode : ∀ a rest, (f.encode a).length < 2 ^ 64 →
    f.decode (f.encode a ++ rest) = some (a, rest)
  /-- What follows the value is not looked at. -/
  decode_append : ∀ bytes a rest more, f.decode bytes = some (a, rest) →
    f.decode (bytes ++ more) = some (a, rest ++ more)

namespace Faithful

theorem byte : Faithful Format.byte where
  nonempty := by simp [Format.byte]
  decode_encode := by simp [Format.byte]
  decode_append := by
    intro bytes a rest more h
    cases bytes with
    | nil => cases h
    | cons b tail => cases h; rfl

theorem u32 : Faithful Format.u32 where
  nonempty := by simp [u32_encode_eq]
  decode_encode a rest _ := u32_decode_encode a rest
  decode_append := by
    intro bytes a rest more h
    match bytes, h with
    | _ :: _ :: _ :: _ :: _, h => cases h; rfl

theorem u64 : Faithful Format.u64 where
  nonempty := by simp [Format.u64, Hash.littleEndian64_eq]
  decode_encode a rest _ := u64_decode_encode a rest
  decode_append := by
    intro bytes a rest more h
    match bytes, h with
    | _ :: _ :: _ :: _ :: _ :: _ :: _ :: _ :: _, h => cases h; rfl

theorem through {f : Format α} (hf : Faithful f) {into : β → α} {back : α → Option β}
    (inverse : ∀ b, back (into b) = some b) : Faithful (f.through into back) where
  nonempty b := hf.nonempty (into b)
  decode_encode b rest short := by
    have read := hf.decode_encode (into b) rest short
    simp [Format.through, read, inverse]
  decode_append := by
    intro bytes b rest more h
    simp only [Format.through, Option.bind_eq_bind, Option.bind_eq_some_iff] at h ⊢
    obtain ⟨⟨a, left⟩, read, c, hc, result⟩ := h
    cases result
    exact ⟨_, hf.decode_append _ _ _ _ read, _, hc, rfl⟩

theorem bool : Faithful Format.bool := byte.through (by decide)

theorem pair {f : Format α} {g : Format β} (hf : Faithful f) (hg : Faithful g) :
    Faithful (f.pair g) where
  nonempty x := by simp [Format.pair, hf.nonempty]
  decode_encode x rest short := by
    simp only [Format.pair, List.length_append] at short
    have first := hf.decode_encode x.1 (g.encode x.2 ++ rest) (by omega)
    have second := hg.decode_encode x.2 rest (by omega)
    simp [Format.pair, first, second]
  decode_append := by
    intro bytes x rest more h
    simp only [Format.pair, Option.bind_eq_bind, Option.bind_eq_some_iff] at h ⊢
    obtain ⟨⟨a, left⟩, first, ⟨b, right⟩, second, result⟩ := h
    cases result
    exact ⟨_, hf.decode_append _ _ _ _ first, _, hg.decode_append _ _ _ _ second, rfl⟩

theorem option {f : Format α} (hf : Faithful f) : Faithful f.option where
  nonempty a := by cases a <;> simp [Format.option, bool.nonempty]
  decode_encode a rest short := by
    cases a with
    | none =>
      have flag := bool.decode_encode false rest (by decide)
      simp [Format.option, flag]
    | some a =>
      simp only [Format.option, List.length_append] at short
      have flag := bool.decode_encode true (f.encode a ++ rest) (by decide)
      have value := hf.decode_encode a rest (by omega)
      simp [Format.option, flag, value]
  decode_append := by
    intro bytes a rest more h
    simp only [Format.option, Option.bind_eq_bind, Option.bind_eq_some_iff] at h ⊢
    obtain ⟨⟨present, left⟩, flag, h⟩ := h
    refine ⟨_, bool.decode_append _ _ _ _ flag, ?_⟩
    cases present with
    | false => cases h; rfl
    | true =>
      simp only [if_true, Option.bind_eq_some_iff] at h ⊢
      obtain ⟨⟨value, right⟩, read, result⟩ := h
      cases result
      exact ⟨_, hf.decode_append _ _ _ _ read, rfl⟩

section Many

variable {f : Format α} (hf : Faithful f)
include hf

theorem length_le_flatMap (xs : List α) : xs.length ≤ (xs.flatMap f.encode).length := by
  induction xs with
  | nil => exact Nat.zero_le _
  | cons x rest ih =>
    have some := List.length_pos_iff.mpr (hf.nonempty x)
    simp only [List.flatMap_cons, List.length_append, List.length_cons]
    omega

theorem decodeMany_flatMap (xs : List α) (rest : Bytes)
    (short : (xs.flatMap f.encode).length < 2 ^ 64) :
    f.decodeMany xs.length (xs.flatMap f.encode ++ rest) = some (xs, rest) := by
  induction xs with
  | nil => rfl
  | cons x tail ih =>
    simp only [List.flatMap_cons, List.length_append] at short
    have first := hf.decode_encode x (tail.flatMap f.encode ++ rest) (by omega)
    have others := ih (by omega)
    simp [decodeMany, first, others]

theorem decodeMany_append (n : Nat) (bytes : Bytes) (xs : List α) (rest more : Bytes)
    (h : f.decodeMany n bytes = some (xs, rest)) :
    f.decodeMany n (bytes ++ more) = some (xs, rest ++ more) := by
  induction n generalizing bytes xs with
  | zero => cases h; rfl
  | succ n ih =>
    simp only [decodeMany, Option.bind_eq_bind, Option.bind_eq_some_iff] at h ⊢
    obtain ⟨⟨x, left⟩, first, ⟨tail, right⟩, others, result⟩ := h
    cases result
    exact ⟨_, hf.decode_append _ _ _ _ first, _, ih _ _ others, rfl⟩

theorem list : Faithful f.list where
  nonempty xs := by simp [Format.list, u64.nonempty]
  decode_encode xs rest short := by
    simp only [Format.list, List.length_append] at short
    have few := length_le_flatMap hf xs
    have fits : xs.length < 2 ^ 64 := by omega
    have count : (UInt64.ofNat xs.length).toNat = xs.length := UInt64.toNat_ofNat_of_lt' fits
    have length := u64_decode_encode (UInt64.ofNat xs.length) (xs.flatMap f.encode ++ rest)
    have values := decodeMany_flatMap hf xs rest (by omega)
    simp [Format.list, length, count, values]
  decode_append := by
    intro bytes xs rest more h
    simp only [Format.list, Option.bind_eq_bind, Option.bind_eq_some_iff] at h ⊢
    obtain ⟨⟨n, left⟩, length, values⟩ := h
    exact ⟨_, u64.decode_append _ _ _ _ length, decodeMany_append hf _ _ _ _ more values⟩

end Many

theorem text : Faithful Format.text where
  nonempty s := by simp [Format.text, u64.nonempty]
  decode_encode s rest short := by
    simp only [Format.text, List.length_append] at short
    have fits : (Text.utf8 s).length < 2 ^ 64 := by omega
    have count : (UInt64.ofNat (Text.utf8 s).length).toNat = (Text.utf8 s).length :=
      UInt64.toNat_ofNat_of_lt' fits
    have length := u64_decode_encode (UInt64.ofNat (Text.utf8 s).length) (Text.utf8 s ++ rest)
    simp [Format.text, length, count]
  decode_append := by
    intro bytes s rest more h
    simp only [Format.text, Option.bind_eq_bind, Option.bind_eq_some_iff] at h ⊢
    obtain ⟨⟨n, left⟩, length, body⟩ := h
    refine ⟨_, u64.decode_append _ _ _ _ length, ?_⟩
    dsimp only at body ⊢
    split at body
    · next full =>
      have le : n.toNat ≤ left.length := by
        rw [List.length_take] at full
        omega
      rw [List.take_append_of_le_length le, if_pos full, List.drop_append_of_le_length le]
      obtain ⟨t, read, result⟩ := Option.bind_eq_some_iff.mp body
      cases result
      exact Option.bind_eq_some_iff.mpr ⟨_, read, rfl⟩
    · cases body

theorem map {f : Format α} (hf : Faithful f) : Faithful f.map :=
  (text.pair hf).list.through fun m => congrArg some m.ofList_entries

theorem choice [DecidableEq α] {all : List α} (complete : ∀ a, a ∈ all)
    (short : all.length < 2 ^ 32) : Faithful (Format.choice all) := by
  refine u32.through ?_
  intro a
  have below := List.idxOf_lt_length_of_mem (complete a)
  have index : (UInt32.ofNat (all.idxOf a)).toNat = all.idxOf a :=
    UInt32.toNat_ofNat_of_lt' (Nat.lt_trans below short)
  rw [index, List.getElem?_eq_getElem below, List.getElem_idxOf]

end Faithful

end SourceAtlas.Format
