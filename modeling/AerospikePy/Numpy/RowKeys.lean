import Mathlib.Data.List.DropRight
import AerospikePy.Keys.Preimage
import AerospikePy.Numpy.FieldValue
import AerospikePy.Numpy.Records

/-!
# The keys of rows

A row written under one key is read back under the key tuple of its namespace, its set
and the Python object in its key field. Trailing NULs are trimmed off every key that is
read as bytes, but only the object of an `S` field is without them.
-/

namespace AerospikePy.Numpy

open AerospikePy.Core
open AerospikePy.Keys
open AerospikePy.Lib.Bytes
open AerospikePy.Lib.Fallible
open AerospikePy.Python
open AerospikePy.Values

/-- The object in a key field with these bytes; one element is its number. -/
inductive KeyObject (p : Platform) (f : FieldInfo) (bytes : Nat → List UInt8) : PyObj → Prop where
  | int (hkind : f.kind = .int) (hscalar : isSubArray f = false) :
      KeyObject p f bytes
        (.int (signExtend f.baseItemsize (ofBytes p.endian (bytes f.baseItemsize))))
  | uint (hkind : f.kind = .uint) (hscalar : isSubArray f = false) :
      KeyObject p f bytes (.int (ofBytes p.endian (bytes f.baseItemsize)))
  | fixedBytes (hkind : f.kind = .fixedBytes) : KeyObject p f bytes (.bytes (trimNul (bytes f.itemsize)))
  | voidBytes (hkind : f.kind = .voidBytes) : KeyObject p f bytes (.bytes (bytes f.itemsize))
  | subArray (hsub : isSubArray f = true) : KeyObject p f bytes (.bytes (bytes f.itemsize))

/-- The namespace, the set and the key object of the row at this address. -/
structure RowKey (p : Platform) (mem : Int → UInt8) (l : Layout) (namespaceName setName : String)
    (rowPtr : Int) (ns set : String) (v : PyObj) : Prop where
  ns : (readName p mem rowPtr namespaceName l.ns).result = .ok ns
  set : (readName p mem rowPtr setName l.set).result = .ok set
  key : KeyObject p l.key (fieldBytes mem rowPtr l.key) v

/-- What the digest of a key is to be computed from: bytes take the type of strings. -/
def keyPreimage (key : Key) : Option Preimage :=
  match key.userKey with
  | some (.blob b) => some ⟨key.setName, 3, b⟩
  | some v => valuePreimage key.setName v
  | none => none

/-- The key has the preimage and the digest of the key tuple. -/
def KeyedAs (crates : KeyCrates) (rt : Runtime) (ns set : String) (v : PyObj) (key : Key) : Prop :=
  ∃ key' P, pyToKey crates rt (.tuple [.str ns, .str set, v]) = .ok key' ∧
    (HashedAs set v P ∧ key'.digest = crates.ripemd160 P.bytes) ∧
    keyPreimage key = some P ∧ key.digest = crates.ripemd160 P.bytes

/-- Bytes that the key object keeps and the key loses. -/
def Padded (f : FieldInfo) (raw : List UInt8) : Prop :=
  (f.kind = .voidBytes ∨ isSubArray f = true) ∧ raw.getLast? = some 0

theorem trimNul_eq_self_iff {bytes : List UInt8} : trimNul bytes = bytes ↔ bytes.getLast? ≠ some 0 := by
  have hself := @List.rdropWhile_eq_self_iff UInt8 (· == 0) bytes
  refine hself.trans ?_
  by_cases hnil : bytes = []
  · simp [hnil]
  · rw [List.getLast?_eq_some_getLast hnil]
    simp [hnil]

section Row

variable {crates : KeyCrates} {rt : Runtime} {p : Platform} {mem : Int → UInt8} {l : Layout}
  {ns set : String} {i : Nat} {key : Key}

theorem keyedAs_int (hc : HashesKeys crates) {n : Int64}
    (hkey : makeKey crates ns set (.int n) i = .ok key) :
    KeyedAs crates rt ns set (.int n.toInt) key := by
  have hlo := Int64.le_toInt n
  have hhi := Int64.toInt_lt n
  have hnew := hc ns set (.int n) _ rfl
  have hvalue : pyToValue rt (.int n.toInt) = .ok (.int n) := by
    have h := (intToValue_eq_ok (n := n.toInt) (v := .int n)).mpr
      ⟨⟨hlo, by omega⟩, by rw [Int64.ofInt_toInt]⟩
    exact h
  have hhashed : HashedAs set (.int n.toInt) ⟨set, 1, bigEndian 8 n.toUInt64.toNat⟩ := by
    have h := @HashedAs.int set n.toInt ⟨hlo, by omega⟩
    rwa [Int64.ofInt_toInt] at h
  unfold makeKey at hkey
  dsimp only at hkey
  rw [hnew] at hkey
  cases hkey
  refine ⟨⟨ns, set, some (.int n), _⟩, _, ?_, ⟨hhashed, rfl⟩, rfl, rfl⟩
  show (pyToValue rt (.int n.toInt) >>= fun userKey => newKey crates ns set userKey) = _
  rw [bind_of_eq_ok hvalue, newKey, hnew]
  rfl

theorem keyedAs_bytes {raw : List UInt8} (hkey : makeKey crates ns set (.blob raw) i = .ok key) :
    KeyedAs crates rt ns set (.bytes raw) key := by
  cases hkey
  exact ⟨_, _, rfl, ⟨.bytes raw, rfl⟩, rfl, rfl⟩

/-- An integer is read as it is. -/
theorem integer_read {f : FieldInfo} {bytes : Nat → List UInt8} {n : Int} {v : Value}
    (hlen : (bytes f.baseItemsize).length = f.baseItemsize) (hobj : KeyObject p f bytes (.int n))
    (hv : fieldValue p f bytes = .ok v) : ∃ m : Int64, v = .int m ∧ m.toInt = n := by
  have hfloat : f.kind = .float → p.HalfExact := by
    intro hkind
    cases hobj with
    | int h | uint h => rw [h] at hkind; cases hkind
  cases hobj with
  | int hkind hscalar =>
    cases fieldValue_holds hfloat hlen hv with
    | int _ _ m h => exact ⟨m, rfl, h⟩
    | uint h | float h => rw [h] at hkind; cases hkind
    | bytes h => simp [hkind, hscalar, isNumeric] at h
  | uint hkind hscalar =>
    cases fieldValue_holds hfloat hlen hv with
    | uint _ _ m h => exact ⟨m, rfl, h⟩
    | int h | float h => rw [h] at hkind; cases hkind
    | bytes h => simp [hkind, hscalar, isNumeric] at h

/-- The key of a row is the key of its key object, unless padding was trimmed off. -/
theorem keyedAs_iff (hc : HashesKeys crates) {namespaceName setName : String} {rowPtr : Int}
    {bins : List Bin}
    (hrow : (readRow crates p mem l namespaceName setName i rowPtr).result = .ok (key, bins)) :
    (∀ ns set v, RowKey p mem l namespaceName setName rowPtr ns set v →
      KeyedAs crates rt ns set v key) ↔
    ¬ Padded l.key (fieldBytes mem rowPtr l.key l.key.itemsize) := by
  obtain ⟨value, ns, set, hvalue, hns, hset, hkey, -⟩ := readRow_eq_ok.mp hrow
  rw [readValueFromBuffer_eq (rowPtr_ne_zero hvalue)] at hvalue
  generalize hraw : fieldBytes mem rowPtr l.key l.key.itemsize = raw
  constructor
  · intro h hpadded
    obtain ⟨hkeeps, hlast⟩ := hpadded
    have hobj : KeyObject p l.key (fieldBytes mem rowPtr l.key) (.bytes raw) := by
      rw [← hraw]
      exact hkeeps.elim .voidBytes .subArray
    obtain ⟨key', P, -, ⟨hhashed, -⟩, hpre, -⟩ := h ns set _ ⟨hns, hset, hobj⟩
    cases hhashed
    rw [fieldValue_whole (by rcases hkeeps with h | h <;> simp [h, isNumeric]), hraw] at hvalue
    cases hvalue
    cases hkey
    have htrim : trimNul raw = raw := congrArg Preimage.userKey (Option.some.inj hpre)
    exact trimNul_eq_self_iff.mp htrim hlast
  · intro hpadded ns' set' v h
    obtain ⟨hns', hset', hobj⟩ := h
    obtain rfl : ns = ns' := Except.ok.inj (hns.symm.trans hns')
    obtain rfl : set = set' := Except.ok.inj (hset.symm.trans hset')
    have hfull : l.key.kind = .voidBytes ∨ isSubArray l.key = true →
        KeyedAs crates rt ns set (.bytes (fieldBytes mem rowPtr l.key l.key.itemsize)) key := by
      intro hkeeps
      have htrim : trimNul raw = raw := trimNul_eq_self_iff.mpr fun hlast => hpadded ⟨hkeeps, hlast⟩
      rw [fieldValue_whole (by rcases hkeeps with h | h <;> simp [h, isNumeric]), hraw] at hvalue
      cases hvalue
      rw [trimKey, htrim] at hkey
      rw [hraw]
      exact keyedAs_bytes hkey
    cases hobj with
    | int hkind hscalar =>
      obtain ⟨m, rfl, hm⟩ := integer_read (length_fieldBytes ..) (.int hkind hscalar) hvalue
      rw [← hm]
      exact keyedAs_int hc hkey
    | uint hkind hscalar =>
      obtain ⟨m, rfl, hm⟩ := integer_read (length_fieldBytes ..) (.uint hkind hscalar) hvalue
      rw [← hm]
      exact keyedAs_int hc hkey
    | fixedBytes hkind =>
      rw [fieldValue_whole (by simp [hkind, isNumeric])] at hvalue
      cases hvalue
      exact keyedAs_bytes hkey
    | voidBytes hkind => exact hfull (Or.inl hkind)
    | subArray hsub => exact hfull (Or.inr hsub)

end Row

/-- The rows of a call that succeeds have the keys of their key objects exactly when no
key field that keeps its padding ends in a NUL. -/
theorem numpyToRecords_keys_iff {crates : KeyCrates} (hc : HashesKeys crates) (rt : Runtime)
    {p : Platform} {mem : Int → UInt8} {a : NdArray} {d : Dtype}
    {namespaceName setName keyField : String} {l : Layout}
    (hprep : prepare p.endian a d keyField = .ok l) {records : List (Key × List Bin)}
    (hcall : (numpyToRecords crates p mem a d namespaceName setName keyField).result = .ok records) :
    (∀ i row, records[i]? = some row → ∀ ns set v,
      RowKey p mem l namespaceName setName (l.rowAddr i) ns set v →
        KeyedAs crates rt ns set v row.1) ↔
    ∀ i < l.rows, ¬ Padded l.key (fieldBytes mem (l.rowAddr i) l.key l.key.itemsize) := by
  have hrows := (numpyToRecords_eq_ok hprep).mp hcall
  have hlength : l.rows = records.length := by
    have h := hrows.length_eq
    rwa [List.length_range] at h
  have hrow : ∀ i row, records[i]? = some row →
      (readRow crates p mem l namespaceName setName i (l.rowAddr i)).result = .ok (row.1, row.2) := by
    intro i row hi
    have hlt := (List.getElem?_eq_some_iff.mp hi).1
    refine readRowAt_ok (rel_of_forall₂ hrows ?_ hi)
    exact List.getElem?_range (by omega)
  constructor
  · intro h i hi
    have hget := List.getElem?_eq_getElem (show i < records.length by omega)
    exact (keyedAs_iff hc (hrow i _ hget)).mp (h i _ hget)
  · intro h i row hi
    have hlt := (List.getElem?_eq_some_iff.mp hi).1
    exact (keyedAs_iff hc (hrow i row hi)).mpr (h i (by omega))

/-- The dtype `[('_key', 'V5'), ('v', 'u1')]`. -/
def opaqueKey : Dtype where
  fields := some [⟨"_key", ⟨⟨"V", "|", 5, "|V5"⟩, [], "|V5"⟩, 0⟩,
    ⟨"v", ⟨⟨"u", "|", 1, "uint8"⟩, [], "uint8"⟩, 5⟩]
  itemsize := 6

def opaqueLayout (rows : Nat) : Layout where
  rows := rows
  base := 4096
  rowStride := 6
  key := ⟨"_key", 0, 5, 5, .voidBytes⟩
  ns := none
  set := none
  bins := [⟨"v", 5, 1, 1, .uint⟩]

def opaqueArray (rows : Nat) : NdArray := ⟨4096, [rows], [6], 6, rfl⟩

/-- Rows at 4096. -/
def rowsMem (bytes : List UInt8) (addr : Int) : UInt8 := bytes.getD (addr - 4096).toNat 0

def opaqueRecord (b : List UInt8) (v : Int64) : Key × List Bin :=
  (compatEdgeKey b, [⟨"v", .int v⟩])

theorem numpyToRecords_keys_iff_twoRows :
    let mem := rowsMem [0xde, 0xad, 0, 0xbe, 0xef, 7, 0, 0, 0, 0, 1, 8]
    (∀ i row, [opaqueRecord [0xde, 0xad, 0, 0xbe, 0xef] 7, opaqueRecord [0, 0, 0, 0, 1] 8][i]? =
      some row → ∀ ns set v,
        RowKey .littleEndian mem (opaqueLayout 2) "test" "compat_edge"
          ((opaqueLayout 2).rowAddr i) ns set v →
        KeyedAs compatEdge .plain ns set v row.1) ↔
    ∀ i < 2, ¬ Padded (opaqueLayout 2).key
      (fieldBytes mem ((opaqueLayout 2).rowAddr i) (opaqueLayout 2).key 5) :=
  @numpyToRecords_keys_iff compatEdge hashesKeys_compatEdge .plain .littleEndian
    (rowsMem [0xde, 0xad, 0, 0xbe, 0xef, 7, 0, 0, 0, 0, 1, 8]) (opaqueArray 2) opaqueKey "test"
    "compat_edge" "_key" (opaqueLayout 2) (by with_unfolding_all rfl)
    [opaqueRecord [0xde, 0xad, 0, 0xbe, 0xef] 7, opaqueRecord [0, 0, 0, 0, 1] 8]
    (by with_unfolding_all rfl)

/-- The row of the key `b"\xde\xad\xbe\xef\x00"` is written under the digest of
`b"\xde\xad\xbe\xef"`, and not under that of its own tuple. -/
theorem numpyToRecords_loses_padding :
    let mem := rowsMem [0xde, 0xad, 0xbe, 0xef, 0, 7]
    (numpyToRecords compatEdge .littleEndian mem (opaqueArray 1) opaqueKey "test" "compat_edge"
      "_key").result = .ok [opaqueRecord [0xde, 0xad, 0xbe, 0xef] 7] ∧
    RowKey .littleEndian mem (opaqueLayout 1) "test" "compat_edge" ((opaqueLayout 1).rowAddr 0)
      "test" "compat_edge" (.bytes [0xde, 0xad, 0xbe, 0xef, 0]) ∧
    ¬ KeyedAs compatEdge .plain "test" "compat_edge" (.bytes [0xde, 0xad, 0xbe, 0xef, 0])
      (opaqueRecord [0xde, 0xad, 0xbe, 0xef] 7).1 := by
  refine ⟨by with_unfolding_all rfl, ⟨rfl, rfl, .voidBytes rfl⟩, ?_⟩
  intro h
  obtain ⟨key', P, -, ⟨hhashed, -⟩, hpre, -⟩ := h
  cases hhashed
  have hbytes := congrArg Preimage.userKey (Option.some.inj hpre)
  exact absurd hbytes (by decide)

end AerospikePy.Numpy
