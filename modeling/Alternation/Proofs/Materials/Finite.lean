/-
# Materials have finite floats

`SPEC_FULL` §3, *MaterialsSet*: what `from_json` reads.

A float of materials is infinite or not a number only where a program makes it so.  A
numeral beyond all floats is not read at all, so every item of a set that is read from a
text has finite floats (`MaterialsSet.isFinite_of_parse`).
-/

import Alternation.Materials.Item
import Alternation.Proofs.Decimal.Interval
import Mathlib.Data.List.Forall2

namespace Alternation

/-! ## Finite values -/

/-- The value is not a float that is infinite or not a number. -/
def Value.IsFinite : Value → Prop
  | float x => x.isFinite = true
  | _ => True

instance : DecidablePred Value.IsFinite
  | .float x => inferInstanceAs (Decidable (x.isFinite = true))
  | .bool _ => .isTrue trivial
  | .int _ => .isTrue trivial
  | .text _ => .isTrue trivial
  | .null => .isTrue trivial

/-- The item has no float that is infinite or not a number. -/
def Item.IsFinite (item : Item) : Prop := ∀ field v, item.get? field = some v → v.IsFinite

/-- An item stays finite if a finite value is set. -/
theorem Item.IsFinite.set {item : Item} (h : item.IsFinite) {v : Value} (hv : v.IsFinite)
    (field : String) : (item.set field v).IsFinite := by
  intro field' v' hget
  rw [get?_set] at hget
  split at hget
  · exact Option.some.inj hget ▸ hv
  · exact h field' v' hget

/-- An item of finite values is finite. -/
theorem Item.isFinite_ofList {fields : List (String × Value)} (h : ∀ f ∈ fields, f.2.IsFinite) :
    Item.IsFinite ⟨.ofList fields⟩ := by
  have hfold : ∀ item : Item, item.IsFinite →
      Item.IsFinite ⟨fields.foldl (fun t e => t.insert e.1 e.2) item.fields⟩ := by
    induction fields with
    | nil => exact fun _ hitem => hitem
    | cons f fields ih =>
      intro item hitem
      obtain ⟨hf, hfields⟩ := List.forall_mem_cons.1 h
      exact ih hfields (item.set f.1 f.2) (hitem.set hf f.1)
  exact hfold Item.empty nofun

/-! ## Floats of numerals -/

namespace Decimal

/-- The bits of the nearest float are those of a finite one. -/
theorem nearestBits_lt {num den : ℕ} {bits : UInt64} (h : nearestBits num den = some bits) :
    bits.toNat < 0x7FF * 2 ^ 52 := by
  unfold nearestBits at h
  split at h
  · obtain rfl := Option.some.inj h
    decide
  · dsimp only at h
    split at h
    · rename_i hlt
      obtain rfl := Option.some.inj h
      rw [UInt64.toNat_ofNat']
      exact (Nat.mod_le _ _).trans_lt hlt
    · exact nomatch h

/-- The bits after scaling are those of a finite float. -/
theorem shiftBits?_lt {x : Binary} {e : ℤ} {bits : UInt64} (h : shiftBits? x e = some bits) :
    bits.toNat < 0x7FF * 2 ^ 52 := by
  obtain ⟨power, -, h⟩ := Option.bind_eq_some_iff.1 h
  split at h
  · exact nearestBits_lt h
  · exact nearestBits_lt h

/-- The bits for a numeral are those of a finite float. -/
theorem scaledBits_lt {m : ℕ} {e : ℤ} {bits : UInt64} (h : scaledBits m e = some bits) :
    bits.toNat < 0x7FF * 2 ^ 52 := by
  obtain ⟨x, -, h⟩ := Option.bind_eq_some_iff.1 h
  split at h
  · obtain rfl := Option.some.inj h
    decide
  · split at h
    · exact nomatch h
    · split at h
      · exact shiftBits?_lt h
      · obtain ⟨y, -, h⟩ := Option.bind_eq_some_iff.1 h
        exact shiftBits?_lt h

end Decimal

section

open Float.Model UnpackedFloat

/-- The float is zero, or finite with an exponent that is packed into exponent bits that are
not all set. -/
def Packable : UnpackedFloat → Prop
  | .zero _ => True
  | .finite _ _ e _ => e + 1075 < 2047
  | _ => False

/-- What is unpacked from bits whose exponent bits are not all set can be packed again. -/
theorem packable_unpack {b : BitVec 64} (h : @unpackExponent Format.binary64 b ≠ -1#11) :
    Packable (UnpackedFloat.unpack Format.binary64 b) := by
  have hlt : (@unpackExponent Format.binary64 b).toNat < 2047 := by
    have hle : (@unpackExponent Format.binary64 b).toNat < 2 ^ 11 := BitVec.isLt _
    have hne : (@unpackExponent Format.binary64 b).toNat ≠ 2047 := fun heq =>
      h (BitVec.toNat_inj.1 heq)
    omega
  unfold UnpackedFloat.unpack
  dsimp only
  rw [if_neg h]
  by_cases hzero : @unpackExponent Format.binary64 b = 0#11
  · rw [if_pos hzero]
    by_cases hmantissa : @unpackMantissa Format.binary64 b = 0#52
    · rw [dif_pos hmantissa]
      trivial
    · rw [dif_neg hmantissa, hzero]
      show ((0 : ℕ) : ℤ) - ((1023 : ℕ) + (52 : ℕ)) + 1 + 1075 < 2047
      omega
  · rw [if_neg hzero]
    show ((@unpackExponent Format.binary64 b).toNat : ℤ) - ((1023 : ℕ) + (52 : ℕ)) + 1075 < 2047
    omega

/-- What can be packed is finite. -/
theorem Packable.isFinite {x : UnpackedFloat} (h : Packable x) : x.isFinite = true := by
  cases x with
  | zero sign => rfl
  | finite sign m e hm => rfl
  | infinity sign => exact h.elim
  | notANumber => exact h.elim

/-- What can be packed is packed with exponent bits that are not all set. -/
theorem Packable.unpackExponent_pack {x : UnpackedFloat} (h : Packable x) :
    @unpackExponent Format.binary64 (UnpackedFloat.pack Format.binary64 x) ≠ -1#11 := by
  cases x with
  | zero sign =>
    show unpackExponent (packComponents Format.binary64 sign 0 0) ≠ _
    rw [unpackExponent_packComponents]
    decide
  | finite sign m e hm =>
    let biased := (e + (1023 : ℕ) + (52 : ℕ)).toNat
    have hpack : UnpackedFloat.pack Format.binary64 (.finite sign m e hm) =
        if 2 ^ 11 ≤ biased + 1 then packedInfinity Format.binary64 sign
        else if m.log2 + 1 = 53 then
          packComponents Format.binary64 sign (BitVec.ofNat 11 biased) (BitVec.ofNat 52 m)
        else packComponents Format.binary64 sign 0 (BitVec.ofNat 52 m) := rfl
    have hbiased : biased < 2047 := by
      have hfits : e + 1075 < 2047 := h
      omega
    rw [hpack, if_neg (by omega)]
    split
    · rw [unpackExponent_packComponents]
      intro hset
      have hmod : biased % 2 ^ 11 = 2047 := congrArg BitVec.toNat hset
      omega
    · rw [unpackExponent_packComponents]
      decide
  | infinity sign => exact h.elim
  | notANumber => exact h.elim

/-- A float whose exponent bits are not all set is finite. -/
theorem isFinite_ofBits {bits : UInt64} (h : Decimal.Binary.index bits < 0x7FF * 2 ^ 52) :
    (Float.ofBits bits).isFinite = true := by
  have hexponent : @unpackExponent Format.binary64 bits.toBitVec ≠ -1#11 := by
    intro hset
    have hbits : bits.toNat >>> 52 % 2 ^ 11 = 2047 := by
      have hset' := congrArg BitVec.toNat hset
      rwa [unpackExponent, BitVec.toNat_cast, BitVec.extractLsb_toNat] at hset'
    rw [Nat.shiftRight_eq_div_pow] at hbits
    rw [Decimal.Binary.index] at h
    omega
  exact (packable_unpack (packable_unpack hexponent).unpackExponent_pack).isFinite

end

namespace Json
namespace Numeral

/-- A numeral that is read as a float is read as a finite one. -/
theorem isFinite_of_float? {n : Numeral} {x : Float} (h : n.float? = some x) :
    x.isFinite = true := by
  obtain ⟨bits, hbits, rfl⟩ := Option.map_eq_some_iff.1 h
  have hlt := Decimal.scaledBits_lt hbits
  refine isFinite_ofBits ?_
  rw [Decimal.Binary.index]
  split
  · -- The sign is a bit of its own.
    rw [UInt64.toNat_or, Nat.or_mod_two_pow]
    show bits.toNat % 2 ^ 63 ||| 0 < _
    rw [Nat.or_zero]
    omega
  · omega

end Numeral
end Json

/-! ## Materials that are read -/

/-- Every element has a result if all of them together have theirs. -/
theorem mapM_eq_some_iff {α β : Type} {f : α → Option β} {as : List α} {bs : List β} :
    as.mapM f = some bs ↔ List.Forall₂ (fun a b => f a = some b) as bs := by
  induction as generalizing bs with
  | nil =>
    rw [List.mapM_nil, List.forall₂_nil_left_iff]
    exact ⟨fun h => (Option.some.inj h).symm, fun h => congrArg some h.symm⟩
  | cons a as ih =>
    rw [List.mapM_cons, List.forall₂_cons_left_iff]
    simp only [Option.bind_eq_bind, Option.bind_eq_some_iff, Option.pure_def, Option.some.injEq, ih]
    constructor
    · rintro ⟨b, hb, bs, hbs, rfl⟩
      exact ⟨b, bs, hb, hbs, rfl⟩
    · rintro ⟨b, bs, hb, hbs, rfl⟩
      exact ⟨b, hb, bs, hbs, rfl⟩

/-- What holds of every result of an element holds of all results. -/
theorem forall_mem_of_mapM {α β : Type} {f : α → Option β} {as : List α} {bs : List β}
    {P : β → Prop} (h : as.mapM f = some bs) (hP : ∀ a b, f a = some b → P b) : ∀ b ∈ bs, P b := by
  replace h := mapM_eq_some_iff.1 h
  induction h with
  | nil => exact fun _ hb => nomatch hb
  | cons hab _ ih => exact List.forall_mem_cons.2 ⟨hP _ _ hab, ih⟩

/-- A value that is read is finite. -/
theorem Value.isFinite_of_ofDocument? {d : Json.Document} {v : Value} (h : ofDocument? d = some v) :
    v.IsFinite := by
  have hfloat : ∀ {n : Json.Numeral}, n.float?.map Value.float = some v → v.IsFinite := by
    intro n h
    obtain ⟨x, hx, rfl⟩ := Option.map_eq_some_iff.1 h
    exact Json.Numeral.isFinite_of_float? hx
  cases d with
  | number n =>
    rw [ofDocument?, ofNumeral?] at h
    split at h
    · split at h
      · exact Option.some.inj h ▸ trivial
      · exact hfloat h
    · exact hfloat h
  | null => exact Option.some.inj h ▸ trivial
  | bool b => exact Option.some.inj h ▸ trivial
  | string symbols =>
    obtain ⟨text, -, rfl⟩ := Option.map_eq_some_iff.1 h
    trivial
  | array items => exact nomatch h
  | object members => exact nomatch h

/-- An item that is read is finite. -/
theorem Item.isFinite_of_ofDocument? {d : Json.Document} {item : Item}
    (h : ofDocument? d = some item) : item.IsFinite := by
  cases d with
  | object members =>
    obtain ⟨fields, hfields, rfl⟩ := Option.map_eq_some_iff.1 h
    refine isFinite_ofList (forall_mem_of_mapM hfields fun m f hf => ?_)
    obtain ⟨name, -, hf⟩ := Option.bind_eq_some_iff.1 hf
    obtain ⟨v, hv, hf⟩ := Option.bind_eq_some_iff.1 hf
    obtain rfl := Option.some.inj hf
    exact Value.isFinite_of_ofDocument? hv
  | _ => exact nomatch h

namespace MaterialsSet

/-- Items that are read are finite. -/
theorem isFinite_of_itemsOf? {d : Json.Document} {items : List Item} (h : itemsOf? d = some items) :
    ∀ item ∈ items, item.IsFinite := by
  cases d with
  | array ds => exact forall_mem_of_mapM h fun _ _ => Item.isFinite_of_ofDocument?
  | _ => exact nomatch h

/-- The items of a set that is read from its members are finite. -/
theorem isFinite_of_ofMembers? {members : List (String × Json.Document)} {set : MaterialsSet}
    (h : ofMembers? members = some set) : ∀ item ∈ set.items, item.IsFinite := by
  simp only [ofMembers?, Option.bind_eq_bind, Option.bind_eq_some_iff, Option.pure_def] at h
  obtain ⟨_, -, _, -, name, -, value, -, h⟩ := h
  split at h
  · obtain ⟨items, hitems, h⟩ := Option.bind_eq_some_iff.1 h
    exact Option.some.inj h ▸ isFinite_of_itemsOf? hitems
  · exact Option.some.inj h ▸ nofun

/-- **The floats of materials are finite**, whatever text they are read from. -/
theorem isFinite_of_parse {source : String} {set : MaterialsSet} (h : parse? source = some set) :
    ∀ item ∈ set.items, item.IsFinite := by
  obtain ⟨d, -, h⟩ := Option.bind_eq_some_iff.1 h
  unfold ofDocument? at h
  split at h
  · obtain ⟨members, -, h⟩ := Option.bind_eq_some_iff.1 h
    exact isFinite_of_ofMembers? h
  · obtain ⟨name, -, h⟩ := Option.bind_eq_some_iff.1 h
    exact Option.some.inj h ▸ nofun
  · obtain ⟨name, -, h⟩ := Option.bind_eq_some_iff.1 h
    obtain ⟨items, hitems, h⟩ := Option.bind_eq_some_iff.1 h
    exact Option.some.inj h ▸ isFinite_of_itemsOf? hitems
  · exact nomatch h

end MaterialsSet
end Alternation
