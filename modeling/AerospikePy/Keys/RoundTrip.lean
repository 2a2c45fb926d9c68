import AerospikePy.Keys.Preimage
import AerospikePy.Numpy.FieldValue
import AerospikePy.Numpy.Records

/-!
# Keys through Python

`key_to_py` always gives the digest, and `py_to_key` takes it as it is. A key that a
result carries is therefore read back as it was, unless its user key changes on the way.
-/

namespace AerospikePy.Keys

open AerospikePy.Core
open AerospikePy.Lib.Fallible
open AerospikePy.Numpy
open AerospikePy.Python
open AerospikePy.Values

variable {crates : KeyCrates} {rt : Runtime} {p : Platform}

/-- The user keys that `value_to_py` and `py_to_value` leave as they are. -/
inductive Survives : Value → Prop where
  | bool (b : Bool) : Survives (.bool b)
  | int (i : Int64) : Survives (.int i)
  | string (s : String) : Survives (.string s)
  | blob (b : List UInt8) : Survives (.blob b)

theorem survives_value {v : Value} (h : Survives v) :
    ∃ x, valueToPy rt v = .ok x ∧ pyToValue rt x = .ok v := by
  cases h with
  | bool | string | blob => exact ⟨_, rfl, rfl⟩
  | int i =>
    have hlo := Int64.le_toInt i
    have hhi := Int64.toInt_lt i
    refine ⟨.int i.toInt, rfl, ?_⟩
    show intToValue (.int i.toInt) = _
    rw [intToValue_eq_ok, Int64.ofInt_toInt]
    exact ⟨⟨hlo, by omega⟩, rfl⟩

theorem extractExplicitDigest_length {tuple : List PyObj} {digest : List UInt8}
    (h : extractExplicitDigest tuple = .ok (some digest)) : digest.length = 20 := by
  unfold extractExplicitDigest at h
  split at h
  · cases h
  · cases h
  · obtain ⟨bytes, -, h⟩ := bind_eq_ok.mp h
    obtain ⟨_, hlength, h⟩ := bind_eq_ok.mp h
    cases h
    exact require_eq_ok.mp hlength

/-- The digest of a tuple is taken as it is, also when the user key is `bytes`. -/
theorem pyToKey_explicit {namespaceName setName : String} {x : PyObj} {v : Value}
    {digest : List UInt8} (hdigest : digest.length = 20) (hv : pyToValue rt x = .ok v) :
    pyToKey crates rt (.tuple [.str namespaceName, .str setName, x, .bytes digest]) =
      .ok (digestKey namespaceName setName v digest) := by
  have hexplicit : extractExplicitDigest
      [.str namespaceName, .str setName, x, .bytes digest] = .ok (some digest) :=
    require_bind hdigest _ _
  have hitems : keyItems [.str namespaceName, .str setName, x, .bytes digest] =
      .ok (.str namespaceName, .str setName, x) :=
    keyItems_eq_ok.mpr ⟨_, rfl, Nat.le_refl _⟩
  unfold pyToKey
  rw [bind_of_eq_ok (castTuple_eq_ok.mpr rfl), bind_of_eq_ok hitems]
  simp only [hexplicit, extractString, ok_bind]
  cases x with
  | bytes b =>
    cases hv
    rfl
  | _ =>
    simp only [hv, ok_bind]
    rfl

theorem keyToPy_roundTrip {key : Key} (hdigest : key.digest.length = 20)
    (hsurvives : ∀ v, key.userKey = some v → Survives v) :
    ∃ obj, keyToPy rt key = .ok obj ∧ pyToKey crates rt obj = .ok key := by
  obtain ⟨namespaceName, setName, userKey, digest⟩ := key
  cases userKey with
  | none =>
    have hnil : pyToValue rt .none = .ok .nil := rfl
    exact ⟨_, rfl, pyToKey_explicit hdigest hnil⟩
  | some v =>
    have hv := hsurvives v rfl
    obtain ⟨x, hx, hback⟩ := @survives_value rt v hv
    refine ⟨_, bind_of_eq_ok hx _, ?_⟩
    show pyToKey crates rt (.tuple [.str namespaceName, .str setName, x, .bytes digest]) = _
    rw [pyToKey_explicit hdigest hback]
    cases hv <;> rfl

/-- A digest has 20 bytes, and `Key::new` stores the user key that it is given. -/
structure KeepsKeys (crates : KeyCrates) : Prop where
  hash : ∀ bytes, (crates.ripemd160 bytes).length = 20
  new : ∀ namespaceName setName v key, crates.keyNew namespaceName setName v = .ok key →
    key.userKey = some v ∧ key.digest.length = 20

theorem newKey_keeps (hc : KeepsKeys crates) {namespaceName setName : String} {v : Value}
    {key : Key} (h : newKey crates namespaceName setName v = .ok key) :
    key.userKey = some v ∧ key.digest.length = 20 := by
  unfold newKey at h
  cases hnew : crates.keyNew namespaceName setName v with
  | error e =>
    rw [hnew] at h
    cases h
  | ok k =>
    rw [hnew] at h
    obtain rfl := Except.ok.inj h
    exact hc.new _ _ _ _ hnew

theorem digestKey_userKey {namespaceName setName : String} {userKey v : Value}
    {digest : List UInt8} (h : (digestKey namespaceName setName userKey digest).userKey = some v) :
    userKey = v := by
  unfold digestKey at h
  dsimp only at h
  split at h
  · cases h
  · exact Option.some.inj h

/-- The user key of a tuple's key, if there is one, is the value of the third element. -/
theorem pyToKey_userKey (hc : KeepsKeys crates) {tuple : List PyObj} {k : PyObj} {key : Key}
    (h : pyToKey crates rt (.tuple tuple) = .ok key) (hk : tuple[2]? = some k) :
    key.digest.length = 20 ∧ ∀ v, key.userKey = some v → pyToValue rt k = .ok v := by
  obtain ⟨_, hcast, h⟩ := bind_eq_ok.mp h
  obtain rfl := PyObj.tuple.inj (castTuple_eq_ok.mp hcast)
  obtain ⟨⟨namespaceItem, setItem, keyItem⟩, hitems, h⟩ := bind_eq_ok.mp h
  obtain ⟨rest, rfl, -⟩ := keyItems_eq_ok.mp hitems
  obtain rfl := Option.some.inj hk
  obtain ⟨namespaceName, -, h⟩ := bind_eq_ok.mp h
  obtain ⟨setName, -, h⟩ := bind_eq_ok.mp h
  obtain ⟨explicitDigest, hexplicit, h⟩ := bind_eq_ok.mp h
  cases keyItem with
  | bytes b =>
    cases h
    refine ⟨?_, fun v hv => ?_⟩
    · cases explicitDigest with
      | none => exact hc.hash _
      | some digest => exact extractExplicitDigest_length hexplicit
    · cases hv
      rfl
  | _ =>
    obtain ⟨userKey, huserKey, h⟩ := bind_eq_ok.mp h
    cases explicitDigest with
    | none =>
      obtain ⟨hkeeps, hdigest⟩ := newKey_keeps hc h
      refine ⟨hdigest, fun v hv => ?_⟩
      rw [hkeeps] at hv
      rwa [← Option.some.inj hv]
    | some digest =>
      cases h
      refine ⟨extractExplicitDigest_length hexplicit, fun v hv => ?_⟩
      rwa [← digestKey_userKey hv]

/-- What a key is made of: integers, text and bytes. -/
def IsIntTextOrBytes (k : PyObj) : Prop := IsUserKey k ∨ ∃ b, k = .bool b

theorem survives_userKey {k : PyObj} {v : Value} (hk : IsIntTextOrBytes k)
    (hv : pyToValue rt k = .ok v) : Survives v := by
  rcases hk with hk | ⟨b, rfl⟩
  · cases k with
    | int n =>
      obtain ⟨-, rfl⟩ := intToValue_eq_ok.mp hv
      exact .int _
    | str s =>
      obtain ⟨t, -, hv⟩ := bind_eq_ok.mp hv
      cases hv
      exact .string t
    | bytes b | bytearray b =>
      cases hv
      exact .blob b
    | _ => exact hk.elim
  · cases hv
    exact .bool b

/-- The keys of key tuples, alone or in a list, and the keys of rows: without a user key,
or with one of an integer, of text or of bytes. -/
inductive MadeKey (crates : KeyCrates) (rt : Runtime) (p : Platform) : Key → Prop where
  | tuple {items : List PyObj} {k : PyObj} {key : Key}
      (h : Produced crates rt (.tuple items) key) (hitem : items[2]? = some k)
      (hk : key.userKey = none ∨ IsIntTextOrBytes k) : MadeKey crates rt p key
  | row {mem : Int → UInt8} {a : NdArray} {d : Dtype} {namespaceName setName keyField : String}
      {l : Layout} {records : List (Key × List Bin)} {row : Key × List Bin}
      (hprep : prepare p.endian a d keyField = .ok l)
      (h : (numpyToRecords crates p mem a d namespaceName setName keyField).result = .ok records)
      (hrow : row ∈ records)
      (hk : row.1.userKey = none ∨ l.key.kind ≠ .float ∨ isSubArray l.key = true) :
      MadeKey crates rt p row.1

theorem makeKey_keeps (hc : KeepsKeys crates) {ns set : String} {v : Value} {i : Nat} {key : Key}
    (h : makeKey crates ns set v i = .ok key) : key.userKey = some v ∧ key.digest.length = 20 := by
  unfold makeKey at h
  split at h
  · cases h
    exact ⟨rfl, hc.hash _⟩
  · split at h
    · next hnew =>
      obtain rfl := Except.ok.inj h
      exact hc.new _ _ _ _ hnew
    · cases h

/-- A key field that is no scalar float is read as an integer or as bytes. -/
theorem fieldValue_survives {f : FieldInfo} {bytes : Nat → List UInt8} {v : Value}
    (hlen : (bytes f.baseItemsize).length = f.baseItemsize)
    (hf : f.kind ≠ .float ∨ isSubArray f = true) (h : fieldValue p f bytes = .ok v) :
    Survives (trimKey v) := by
  by_cases hfloat : f.kind = .float
  · have hsub : isSubArray f = true := hf.resolve_left fun hne => hne hfloat
    rw [fieldValue_whole (Or.inr hsub)] at h
    cases h
    exact .blob _
  · cases fieldValue_holds (fun hkind => absurd hkind hfloat) hlen h with
    | int _ _ i _ | uint _ _ i _ => exact .int i
    | float hkind => exact absurd hkind hfloat
    | bytes => exact .blob _

theorem readRow_survives (hc : KeepsKeys crates) {mem : Int → UInt8} {l : Layout}
    {namespaceName setName : String} {i : Nat} {rowPtr : Int} {row : Key × List Bin}
    (h : (readRow crates p mem l namespaceName setName i rowPtr).result = .ok row)
    (hk : row.1.userKey = none ∨ l.key.kind ≠ .float ∨ isSubArray l.key = true) :
    row.1.digest.length = 20 ∧ ∀ v, row.1.userKey = some v → Survives v := by
  obtain ⟨value, ns, set, hvalue, -, -, hkey, -⟩ := readRow_eq_ok.mp h
  obtain ⟨huserKey, hdigest⟩ := makeKey_keeps hc hkey
  refine ⟨hdigest, fun v hv => ?_⟩
  rw [huserKey] at hv hk
  obtain rfl := Option.some.inj hv
  rw [readValueFromBuffer_eq (rowPtr_ne_zero hvalue)] at hvalue
  exact fieldValue_survives (length_fieldBytes ..) (hk.resolve_left nofun) hvalue

theorem madeKey_survives (hc : KeepsKeys crates) {key : Key} (h : MadeKey crates rt p key) :
    key.digest.length = 20 ∧ ∀ v, key.userKey = some v → Survives v := by
  cases h with
  | tuple h hitem hk =>
    obtain ⟨hdigest, hvalue⟩ := pyToKey_userKey hc h.pyToKey hitem
    refine ⟨hdigest, fun v hv => ?_⟩
    have hk := hk.resolve_left (by rw [hv]; exact nofun)
    exact survives_userKey hk (hvalue v hv)
  | row hprep h hrow hk =>
    have hrows := (numpyToRecords_eq_ok hprep).mp h
    obtain ⟨i, -, hi⟩ := exists_mem_of_forall₂ hrows.flip hrow
    exact readRow_survives hc (readRowAt_ok hi) hk

/-- A key that the bindings made survives `key_to_py` and `py_to_key`. -/
theorem pyToKey_keyToPy (hc : KeepsKeys crates) {key : Key} (h : MadeKey crates rt p key) :
    ∃ obj, keyToPy rt key = .ok obj ∧ pyToKey crates rt obj = .ok key := by
  obtain ⟨hdigest, hsurvives⟩ := madeKey_survives hc h
  exact keyToPy_roundTrip hdigest hsurvives

/-- The digests of `compatEdge`, with 20 bytes for every other preimage too. -/
def fullDigest (bytes : List UInt8) : List UInt8 :=
  if compatEdgeDigest bytes = [] then List.replicate 20 0 else compatEdgeDigest bytes

def fullDigests : KeyCrates where
  ripemd160 := fullDigest
  keyNew namespaceName setName v := match valuePreimage setName v with
    | some p => .ok ⟨namespaceName, setName, some v, fullDigest p.bytes⟩
    | none => .error "unsupported key type"

theorem keepsKeys_fullDigests : KeepsKeys fullDigests := by
  have hlength : ∀ bytes, (fullDigest bytes).length = 20 := by
    intro bytes
    unfold fullDigest compatEdgeDigest
    split_ifs <;> first | rfl | contradiction
  refine ⟨hlength, fun namespaceName setName v key h => ?_⟩
  simp only [fullDigests] at h
  split at h
  · cases h
    exact ⟨rfl, hlength _⟩
  · cases h

theorem pyToKey_keyToPy_compatEdge :
    ∃ obj, keyToPy .plain (compatEdgeKey [0xde, 0xad, 0xbe, 0xef]) = .ok obj ∧
      pyToKey fullDigests .plain obj = .ok (compatEdgeKey [0xde, 0xad, 0xbe, 0xef]) := by
  have hkey : pyToKey fullDigests .plain
      (.tuple [.str "test", .str "compat_edge", .bytes [0xde, 0xad, 0xbe, 0xef]]) =
        .ok (compatEdgeKey [0xde, 0xad, 0xbe, 0xef]) := by
    with_unfolding_all rfl
  have huser : IsUserKey (.bytes [0xde, 0xad, 0xbe, 0xef]) := trivial
  exact @pyToKey_keyToPy fullDigests .plain .littleEndian keepsKeys_fullDigests _
    (.tuple (.single hkey) rfl (.inr (.inl huser)))

end AerospikePy.Keys
