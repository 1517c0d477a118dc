import Worksheet.Proofs.Json.ReadBack
import Worksheet.Sheet.SnapshotJson

/-!
# Stored snapshots

A snapshot is stored as JSON, which is legible whatever it holds (`Snapshot.legible_toJson`).  It is
read back as it was, unless it holds an infinity or a NaN (`Snapshot.survives`).
-/

namespace Worksheet

open Text

/-! ### Members of records -/

namespace Json

theorem natural?_decimalDigits {bound n : Nat} (h : n ≤ bound) :
    natural? bound (decimalDigits n) = some n := by
  have hdigits : (decimalDigits n).all Char.isDigit = true :=
    List.all_eq_true.2 fun c => isDigit_of_mem_decimalDigits
  unfold natural?
  rw [hdigits, decimalValue_decimalDigits, decide_eq_true h]
  rfl

end Json

namespace Address

theorem ofJson?_toJson (a : Address) : ofJson? a.toJson = some a := by
  have hrow : Json.natural? (UInt32.size - 1) (decimalDigits a.row.toNat) = some a.row.toNat :=
    Json.natural?_decimalDigits (Nat.le_pred_of_lt a.row.toNat_lt)
  have hcol : Json.natural? (UInt16.size - 1) (decimalDigits a.col.toNat) = some a.col.toNat :=
    Json.natural?_decimalDigits (Nat.le_pred_of_lt a.col.toNat_lt)
  have hparts : ofParts? (.ofNat a.row.toNat) (.ofNat a.col.toNat) = some a := by
    simp only [Json.ofNat, ofParts?, hrow, hcol, Option.bind_eq_bind, Option.bind_some,
      Option.pure_def]
    simp
  rw [← hparts]
  simp [toJson, Json.record, ofJson?, Json.namesAll, Json.member?]

theorem mapM_ofJson?_toJson (list : List Address) :
    (list.map toJson).mapM ofJson? = some list := by
  induction list with
  | nil => rfl
  | cons a list ih =>
    rw [List.map_cons, List.mapM_cons, ofJson?_toJson, ih]
    rfl

theorem legible_toJson (a : Address) : a.toJson.Legible := by
  have hnat : ∀ n, (Json.ofNat n).Legible := fun n =>
    .number (Or.inl (Json.isUnsigned_decimalDigits n))
  apply Json.Legible.record
  simp [hnat]

theorem isPlain_toJson (a : Address) : a.toJson.isPlain = true := by
  have hrow : (Json.ofNat a.row.toNat).isPlain = true :=
    Json.isSome_float?_decimalDigits (a.row.toNat_lt.trans (by decide))
  have hcol : (Json.ofNat a.col.toNat).isPlain = true :=
    Json.isSome_float?_decimalDigits (a.col.toNat_lt.trans (by decide))
  simp [toJson, Json.record, Json.isPlain, Json.plainMembers, Json.plainMember, hrow, hcol]

end Address

/-! ### Values -/

namespace Json

/-- The text that is written for the number is read as this number.  The reader rounds twice, first
the digits and then their product with a power of ten, so this is not true of all finite numbers. -/
def ReadsBack (x : Float) : Prop :=
  float? (layout.write x) = some x

theorem readsBack_of_bits {x : Float}
    (h : (float? (layout.write x)).map Float.toBits = some x.toBits) : ReadsBack x := by
  obtain ⟨y, hy, hbits⟩ := Option.map_eq_some_iff.1 h
  rw [ReadsBack, hy, Number.eq_of_toNat_bits (congrArg UInt64.toNat hbits)]

/-- `9007199254740991.0` has its last digit behind the point, and is read as its even neighbour. -/
example : ¬ ReadsBack 9007199254740991 := fun h =>
  absurd (congrArg (Option.map Float.toBits) h) (by decide +kernel)

end Json

namespace CellError

theorem ofJson?_storedName (e : CellError) : ofJson? (.text e.storedName) = some e := by
  cases e <;> decide

end CellError

namespace Value

/-- The value is no number, or a finite one. -/
def Finite (v : Value) : Prop :=
  ∀ n, v = number n → n.isFinite = true

/-- The value is no number, or one whose text is read as this number. -/
def ReadsBack (v : Value) : Prop :=
  ∀ n, v = number n → Json.ReadsBack n

theorem toJson_number {n : Float} (h : n.isFinite = true) :
    (number n).toJson = .record [("Number", .number (Json.layout.write n))] := by
  rw [toJson, Json.ofFloat, if_pos h]

theorem ofJson?_toJson {v : Value} (hfinite : v.Finite) (hread : v.ReadsBack) :
    ofJson? v.toJson = some v := by
  cases v with
  | empty => rfl
  | number n =>
    rw [toJson_number (hfinite n rfl)]
    show (Json.float? _).map number = _
    rw [hread n rfl]
    rfl
  | text s => rfl
  | boolean b => rfl
  | error e =>
    show (CellError.ofJson? _).map error = _
    rw [CellError.ofJson?_storedName]
    rfl

/-- What is stored for an infinity or a NaN is no value. -/
theorem ofJson?_of_not_isFinite {n : Float} (h : n.isFinite ≠ true) :
    ofJson? (number n).toJson = none := by
  rw [toJson, Json.ofFloat, if_neg h]
  rfl

theorem legible_toJson (v : Value) : v.toJson.Legible := by
  cases v with
  | empty => exact .text _
  | number n =>
    refine Json.Legible.record (List.forall_mem_singleton.2 ?_)
    unfold Json.ofFloat
    split
    · next hfinite => exact .number (Json.isNumeral_write hfinite)
    · exact .null
  | text s => exact Json.Legible.record (List.forall_mem_singleton.2 (.text s))
  | boolean b => exact Json.Legible.record (List.forall_mem_singleton.2 (.bool b))
  | error e => exact Json.Legible.record (List.forall_mem_singleton.2 (.text _))

theorem isPlain_toJson {v : Value} (hfinite : v.Finite) (hread : v.ReadsBack) :
    v.toJson.isPlain = true := by
  cases v with
  | number n =>
    have hsome : (Json.float? (Json.layout.write n)).isSome = true := by
      rw [hread n rfl]
      rfl
    rw [toJson_number (hfinite n rfl)]
    simp [Json.record, Json.isPlain, Json.plainMembers, Json.plainMember, hsome]
  | empty => rfl
  | text s => rfl
  | boolean b => rfl
  | error e => rfl

theorem depth_toJson_le (v : Value) : v.toJson.depth ≤ 1 := by
  cases v with
  | empty => exact Nat.zero_le 1
  | number n =>
    have hleaf : (Json.ofFloat n).depth = 0 := by
      unfold Json.ofFloat
      split <;> rfl
    simp [toJson, Json.record, Json.depth, Json.depthMembers, Json.depthMember, hleaf]
  | text s => exact Nat.le_refl 1
  | boolean b => exact Nat.le_refl 1
  | error e => exact Nat.le_refl 1

end Value

/-! ### Contents -/

namespace Content

theorem isPlain_dependencies (list : List Address) :
    Json.plainItems (list.map Address.toJson) = true := by
  induction list with
  | nil => rfl
  | cons a list ih => simp [Json.plainItems, Address.isPlain_toJson, ih]

theorem depth_dependencies_le (list : List Address) :
    Json.depthItems (list.map Address.toJson) ≤ 1 := by
  induction list with
  | nil => exact Nat.zero_le 1
  | cons a list ih =>
    have hitem : a.toJson.depth ≤ 1 := Nat.le_refl 1
    exact Nat.max_le.2 ⟨hitem, ih⟩

/-- The content is no number, or a finite one. -/
def Finite (c : Content) : Prop :=
  ∀ v, c = value v → v.Finite

/-- The content is no number, or one whose text is read as this number. -/
def ReadsBack (c : Content) : Prop :=
  ∀ v, c = value v → v.ReadsBack

theorem isPlain_toJson {c : Content} (hfinite : c.Finite) (hread : c.ReadsBack) :
    c.toJson.isPlain = true := by
  cases c with
  | empty => rfl
  | value v =>
    have hplain := Value.isPlain_toJson (hfinite v rfl) (hread v rfl)
    simp [toJson, members, Json.record, Json.isPlain, Json.plainMembers, Json.plainMember,
      Json.text, hplain]
  | formula source list =>
    simp [toJson, members, Json.record, Json.isPlain, Json.plainMembers, Json.plainMember,
      Json.text, isPlain_dependencies]

theorem depth_toJson_le (c : Content) : c.toJson.depth ≤ depthBound := by
  cases c with
  | empty => decide
  | value v =>
    have hle := v.depth_toJson_le
    simp [toJson, members, Json.record, Json.depth, Json.depthMembers, Json.depthMember,
      Json.text, depthBound]
    omega
  | formula source list =>
    have hle := depth_dependencies_le list
    simp [toJson, members, Json.record, Json.depth, Json.depthMembers, Json.depthMember,
      Json.text, depthBound]
    omega

theorem ofJson?_toJson {c : Content} (hfinite : c.Finite) (hread : c.ReadsBack) :
    ofJson? c.toJson = some c := by
  have hguard : (c.toJson.isPlain && decide (c.toJson.depth ≤ depthBound)) = true := by
    rw [isPlain_toJson hfinite hread, decide_eq_true c.depth_toJson_le]
    rfl
  unfold ofJson?
  rw [hguard]
  cases c with
  | empty => rfl
  | value v =>
    show (Value.ofJson? v.toJson).bind (fun v => some (value v)) = _
    rw [Value.ofJson?_toJson (hfinite v rfl) (hread v rfl)]
    rfl
  | formula source list =>
    show ((list.map Address.toJson).mapM Address.ofJson?).map (formula source) = _
    rw [Address.mapM_ofJson?_toJson]
    rfl

/-- What is stored for an infinity or a NaN is no content. -/
theorem ofJson?_of_not_finite {c : Content} (h : ¬ c.Finite) : ofJson? c.toJson = none := by
  unfold Finite Value.Finite at h
  push Not at h
  obtain ⟨v, rfl, n, rfl, hn⟩ := h
  unfold ofJson?
  cases hguard : (value (.number n)).toJson.isPlain &&
      decide ((value (.number n)).toJson.depth ≤ depthBound) with
  | false => rfl
  | true =>
    show (Value.ofJson? (Value.number n).toJson).bind (fun v => some (value v)) = _
    rw [Value.ofJson?_of_not_isFinite hn]
    rfl

theorem legible_toJson (c : Content) : c.toJson.Legible := by
  apply Json.Legible.record
  cases c with
  | empty => exact List.forall_mem_singleton.2 (.text _)
  | value v =>
    simp only [members, List.forall_mem_cons, List.not_mem_nil, false_implies, implies_true,
      and_true]
    exact ⟨.text _, v.legible_toJson⟩
  | formula source list =>
    simp only [members, List.forall_mem_cons, List.not_mem_nil, false_implies, implies_true,
      and_true]
    refine ⟨.text _, .text _, .array fun item hitem => ?_⟩
    obtain ⟨a, -, rfl⟩ := List.mem_map.1 hitem
    exact a.legible_toJson

end Content

/-! ### Snapshots -/

namespace Snapshot

theorem legible_toJson (snap : Snapshot) : snap.toJson.Legible := by
  apply Json.Legible.record
  simp only [List.forall_mem_cons, List.not_mem_nil, false_implies, implies_true, and_true]
  exact ⟨snap.address.legible_toJson, snap.content.legible_toJson⟩

theorem ofJson?_toJson (snap : Snapshot) : ofJson? snap.toJson =
    (Content.ofJson? snap.content.toJson).map fun c => ⟨snap.address, c⟩ := by
  show (Address.ofJson? snap.address.toJson).bind (fun a =>
    (Content.ofJson? snap.content.toJson).bind fun c => some (⟨a, c⟩ : Snapshot)) = _
  rw [Address.ofJson?_toJson, Option.bind_some]
  exact Option.map_eq_bind.symm

/-- A stored snapshot is read as far as its content is. -/
theorem ofText?_text (snap : Snapshot) : ofText? snap.text =
    (Content.ofJson? snap.content.toJson).map fun c => ⟨snap.address, c⟩ := by
  rw [← ofJson?_toJson, ofText?, text, Json.ofText?_toLine snap.legible_toJson]
  rfl

/-- **A snapshot survives being stored**, and restores the same, exactly when it holds no infinity
and no NaN.  Its number, if it holds one, has to be read back from its own text. -/
theorem survives (snap : Snapshot) (hread : snap.content.Finite → snap.content.ReadsBack) :
    (snap.content.Finite → ofText? snap.text = some snap ∧
      ∀ s : Sheet, (ofText? snap.text).map s.restore = some (s.restore snap)) ∧
    (¬ snap.content.Finite → ofText? snap.text = none) := by
  refine ⟨fun hfinite => ?_, fun hnot => ?_⟩
  · have hback : ofText? snap.text = some snap := by
      rw [ofText?_text, Content.ofJson?_toJson hfinite (hread hfinite)]
      rfl
    refine ⟨hback, fun s => ?_⟩
    rw [hback]
    rfl
  · rw [ofText?_text, Content.ofJson?_of_not_finite hnot]
    rfl

/-- A tenth, which no float is exactly, is stored by its shortest digits and read back from them. -/
theorem survives_of_tenth :
    (⟨⟨1, 2⟩, .value (.number 0.1)⟩ : Snapshot).text =
      "\x7b\"address\":\x7b\"row\":1,\"col\":2\x7d,\"content\":\x7b\"kind\":\"value\"," ++
        "\"value\":\x7b\"Number\":0.1\x7d\x7d\x7d" ∧
      ofText? (⟨⟨1, 2⟩, .value (.number 0.1)⟩ : Snapshot).text =
        some ⟨⟨1, 2⟩, .value (.number 0.1)⟩ := by
  have hfinite : (Content.value (.number 0.1)).Finite := by
    rintro v ⟨rfl⟩ n ⟨rfl⟩
    decide +kernel
  have hread : (Content.value (.number 0.1)).ReadsBack := by
    rintro v ⟨rfl⟩ n ⟨rfl⟩
    exact Json.readsBack_of_bits (by decide +kernel)
  exact ⟨by decide +kernel, ((survives ⟨⟨1, 2⟩, _⟩ fun _ => hread).1 hfinite).1⟩

end Snapshot

end Worksheet
