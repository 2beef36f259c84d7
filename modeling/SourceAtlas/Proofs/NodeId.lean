import SourceAtlas.Fault
import SourceAtlas.Proofs.Text.Hex

/-! Spellings of node ids. Every id has one spelling, all other texts are refused, and spellings stand in
the order of the ids. -/
namespace SourceAtlas.NodeId

/-- Sixteen bytes of text, all of them decimal digits or small letters up to `f`. -/
structure WireForm (text : String) : Prop where
  bytes : text.utf8ByteSize = 16
  digits : ∀ c ∈ text.toList, Text.Hex.IsDigit c

instance : DecidablePred WireForm := fun text =>
  decidable_of_iff
    (text.utf8ByteSize = 16 ∧ text.toList.all (fun c => decide (Text.Hex.IsDigit c)) = true) <| by
      simp only [List.all_eq_true, decide_eq_true_eq]
      exact ⟨fun ⟨bytes, digits⟩ => ⟨bytes, digits⟩, fun ⟨bytes, digits⟩ => ⟨bytes, digits⟩⟩

/-- A digit is one byte of text. -/
theorem utf8ByteSize_of_digits {cs : List Char} (digits : ∀ c ∈ cs, Text.Hex.IsDigit c) :
    (String.ofList cs).utf8ByteSize = cs.length := by
  induction cs with
  | nil => rfl
  | cons c rest ih =>
    obtain ⟨first, others⟩ := List.forall_mem_cons.mp digits
    have ascii : c.val ≤ 127 := by
      rcases first with ⟨_, below⟩ | ⟨_, below⟩
      · exact UInt32.le_trans below (by decide)
      · exact UInt32.le_trans below (by decide)
    have one : c.utf8Size = 1 := Char.utf8Size_eq_one_iff.mpr ascii
    rw [String.ofList_cons, String.utf8ByteSize_append, String.utf8ByteSize_singleton, ih others, one,
      List.length_cons, Nat.add_comm]

theorem wireForm_iff {text : String} :
    WireForm text ↔ text.toList.length = 16 ∧ ∀ c ∈ text.toList, Text.Hex.IsDigit c := by
  have size : (∀ c ∈ text.toList, Text.Hex.IsDigit c) → text.utf8ByteSize = text.toList.length := by
    intro digits
    rw [← utf8ByteSize_of_digits digits, String.ofList_toList]
  constructor
  · rintro ⟨bytes, digits⟩
    exact ⟨(size digits).symm.trans bytes, digits⟩
  · rintro ⟨length, digits⟩
    exact ⟨(size digits).trans length, digits⟩

theorem wireForm_toText (id : NodeId) : WireForm id.toText := by
  rw [wireForm_iff, toText, String.toList_ofList]
  refine ⟨Text.Hex.length_render 16 _, ?_⟩
  intro c written
  exact Text.Hex.isDigit_of_mem_render written

theorem ofText_eq_some_iff {text : String} {id : NodeId} :
    ofText? text = some id ↔ text = id.toText := by
  constructor
  · intro read
    unfold ofText? at read
    split at read
    · next length =>
      obtain ⟨n, digits, rfl⟩ := Option.map_eq_some_iff.mp read
      obtain ⟨small, written⟩ := Text.Hex.read_eq_some_iff.mp digits
      rw [length] at small written
      rw [toText, UInt64.toNat_ofNat_of_lt' small, ← written, String.ofList_toList]
    · cases read
  · rintro rfl
    exact ofText_toText id

theorem exists_ofText_iff {text : String} : (∃ id, ofText? text = some id) ↔ WireForm text := by
  constructor
  · rintro ⟨id, read⟩
    rw [ofText_eq_some_iff.mp read]
    exact wireForm_toText id
  · intro form
    obtain ⟨length, digits⟩ := wireForm_iff.mp form
    obtain ⟨n, read⟩ := (Text.Hex.exists_readFrom_iff 0).mpr digits
    refine ⟨⟨UInt64.ofNat n⟩, ?_⟩
    rw [ofText?, if_pos length, Text.Hex.read?, read]
    rfl

theorem parse_eq_ok_iff {text : String} {id : NodeId} :
    parse text = .ok id ↔ ofText? text = some id := by
  unfold parse
  cases ofText? text <;> simp

theorem parse_eq_error_iff {text : String} {fault : Fault} : parse text = .error fault ↔
    ofText? text = none ∧ fault = .invalidArgument (.malformedId text) := by
  unfold parse
  cases ofText? text <;> simp [eq_comm]

theorem toText_lt_iff {a b : NodeId} : a.toText < b.toText ↔ a.val < b.val := by
  have word : ∀ id : NodeId, id.val.toNat % 16 ^ 16 = id.val.toNat := fun id =>
    Nat.mod_eq_of_lt id.val.toNat_lt
  rw [String.lt_iff, toText, toText, String.toList_ofList, String.toList_ofList,
    Text.Hex.render_lt_iff, word, word, UInt64.lt_iff_toNat_lt]

/-- A text is read as an id exactly if it is the one that the id is written as; these are the texts of the
wire form, any other is an invalid argument, and the order of ids is that of their texts. -/
theorem ids_are_spelled_once_in_order :
    (∀ (text : String) (id : NodeId), parse text = .ok id ↔ text = id.toText) ∧
    (∀ text : String, (∃ id, parse text = .ok id) ↔ WireForm text) ∧
    (∀ (text : String) (fault : Fault), parse text = .error fault ↔
      ¬ WireForm text ∧ fault = .invalidArgument (.malformedId text)) ∧
    ∀ a b : NodeId, a.val < b.val ↔ a.toText < b.toText := by
  refine ⟨?_, ?_, ?_, fun _ _ => toText_lt_iff.symm⟩
  · intro text id
    rw [parse_eq_ok_iff, ofText_eq_some_iff]
  · intro text
    simp only [parse_eq_ok_iff, exists_ofText_iff]
  · intro text fault
    rw [parse_eq_error_iff, ← exists_ofText_iff, Option.eq_none_iff_forall_ne_some, not_exists]

example : ¬ WireForm "00ABCDEF01234567" := by decide

end SourceAtlas.NodeId
