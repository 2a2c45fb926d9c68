import AerospikePy.Keys.Convert
import AerospikePy.Lib.Bytes
import AerospikePy.Values.Entries

/-!
# What the digest of a key is computed from

A digest is a hash of the set name, a particle type and the bytes of the user key, so
two user keys of a set address one record when these agree. The bindings hash `bytes`
themselves, with the particle type of strings, and leave every other key to `Key::new`.
-/

namespace AerospikePy.Keys

open AerospikePy.Core
open AerospikePy.Lib.Bytes
open AerospikePy.Lib.Fallible
open AerospikePy.Python
open AerospikePy.Values

structure Preimage where
  setName : String
  particleType : UInt8
  userKey : List UInt8
  deriving DecidableEq, Repr

def Preimage.bytes (p : Preimage) : List UInt8 :=
  p.setName.toUTF8.toList ++ [p.particleType] ++ p.userKey

/-- What `Key::new` hashes. -/
def valuePreimage (setName : String) : Value → Option Preimage
  | .int i => some ⟨setName, 1, bigEndian 8 i.toUInt64.toNat⟩
  | .string s => some ⟨setName, 3, s.toUTF8.toList⟩
  | .blob b => some ⟨setName, 4, b⟩
  | _ => none

def HashesKeys (crates : KeyCrates) : Prop :=
  ∀ namespaceName setName v p, valuePreimage setName v = some p →
    crates.keyNew namespaceName setName v =
      .ok ⟨namespaceName, setName, some v, crates.ripemd160 p.bytes⟩

/-- The user keys that the server knows: integers, text and bytes. -/
def IsUserKey : PyObj → Prop
  | .int _ | .str _ | .bytes _ | .bytearray _ => True
  | _ => False

inductive HashedAs (setName : String) : PyObj → Preimage → Prop where
  | int (n : Int) (hn : -2 ^ 63 ≤ n ∧ n < 2 ^ 64) :
      HashedAs setName (.int n) ⟨setName, 1, bigEndian 8 (Int64.ofInt n).toUInt64.toNat⟩
  | str (s : String) : HashedAs setName (.str s) ⟨setName, 3, s.toUTF8.toList⟩
  | bytes (b : List UInt8) : HashedAs setName (.bytes b) ⟨setName, 3, b⟩
  | bytearray (b : List UInt8) : HashedAs setName (.bytearray b) ⟨setName, 4, b⟩

variable {crates : KeyCrates} {rt : Runtime}

/-- The keys that the bindings make of a key tuple, on its own or within a list. -/
inductive Produced (crates : KeyCrates) (rt : Runtime) : PyObj → Key → Prop where
  | single {obj : PyObj} {key : Key} (h : pyToKey crates rt obj = .ok key) :
      Produced crates rt obj key
  | batch {heap : Nat → PyObj} {args : List (KeyArg heap)} {keys : List Key} {arg : KeyArg heap}
      {key : Key} (h : pyToKeys crates rt args = .ok keys) (hmem : (arg, key) ∈ args.zip keys) :
      Produced crates rt arg.obj key

theorem Produced.pyToKey {obj : PyObj} {key : Key} (h : Produced crates rt obj key) :
    pyToKey crates rt obj = .ok key := by
  cases h with
  | single h => exact h
  | batch h hmem => exact (List.forall₂_iff_zip.mp (pyToKeys_eq_ok.mp h)).2 hmem

/-- A key tuple without an explicit digest. -/
def IsKeyTuple (namespaceItem setItem k : PyObj) (obj : PyObj) : Prop :=
  obj = .tuple [namespaceItem, setItem, k] ∨ obj = .tuple [namespaceItem, setItem, k, .none]

theorem castTuple_keyItems {namespaceItem setItem k obj : PyObj}
    (hobj : IsKeyTuple namespaceItem setItem k obj) :
    ∃ tuple, castTuple obj = .ok tuple ∧ keyItems tuple = .ok (namespaceItem, setItem, k) ∧
      extractExplicitDigest tuple = .ok none := by
  rcases hobj with rfl | rfl
  · exact ⟨_, rfl, rfl, rfl⟩
  · exact ⟨_, rfl, rfl, rfl⟩

theorem newKey_digest (hc : HashesKeys crates) {namespaceName setName : String} {v : Value}
    {p : Preimage} {key : Key} (hp : valuePreimage setName v = some p)
    (h : newKey crates namespaceName setName v = .ok key) :
    key.digest = crates.ripemd160 p.bytes := by
  rw [newKey, hc _ _ _ _ hp] at h
  cases h
  rfl

/-- The digest of a key tuple is the hash of the preimage of its user key. -/
theorem produced_digest (hc : HashesKeys crates) {namespaceItem setItem k obj : PyObj} {key : Key}
    (hobj : IsKeyTuple namespaceItem setItem k obj) (hk : IsUserKey k)
    (h : Produced crates rt obj key) :
    ∃ (s : String) (p : Preimage), setItem = .str s ∧ HashedAs s k p ∧
      key.digest = crates.ripemd160 p.bytes := by
  obtain ⟨tuple, hcast, hitems, hexplicit⟩ := castTuple_keyItems hobj
  have hkey := h.pyToKey
  rw [pyToKey, bind_of_eq_ok hcast, bind_of_eq_ok hitems] at hkey
  obtain ⟨namespaceName, -, hkey⟩ := bind_eq_ok.mp hkey
  obtain ⟨setName, hset, hkey⟩ := bind_eq_ok.mp hkey
  rw [bind_of_eq_ok hexplicit] at hkey
  have hset := extractString_eq_ok.mp hset
  cases k with
  | int n =>
    obtain ⟨v, hv, hkey⟩ := bind_eq_ok.mp hkey
    obtain ⟨hn, rfl⟩ := intToValue_eq_ok.mp hv
    exact ⟨setName, _, hset, .int n hn, newKey_digest hc rfl hkey⟩
  | str s =>
    obtain ⟨v, hv, hkey⟩ := bind_eq_ok.mp hkey
    obtain ⟨t, ht, hv⟩ := bind_eq_ok.mp hv
    cases hv
    cases extractString_eq_ok.mp ht
    exact ⟨setName, _, hset, .str t, newKey_digest hc rfl hkey⟩
  | bytes b =>
    cases hkey
    exact ⟨setName, _, hset, .bytes b, rfl⟩
  | bytearray b =>
    obtain ⟨v, hv, hkey⟩ := bind_eq_ok.mp hkey
    cases hv
    exact ⟨setName, _, hset, .bytearray b, newKey_digest hc rfl hkey⟩
  | _ => exact hk.elim

/-- Unequal user keys that address one record. -/
inductive Coincide : PyObj → PyObj → Prop where
  | wrapped (a b : Int) (h : a - b = 2 ^ 64 ∨ b - a = 2 ^ 64) : Coincide (.int a) (.int b)
  | text (s : String) : Coincide (.str s) (.bytes s.toUTF8.toList)
  | bytes (s : String) : Coincide (.bytes s.toUTF8.toList) (.str s)

theorem intBytes_inj {i j : Int64} :
    bigEndian 8 i.toUInt64.toNat = bigEndian 8 j.toUInt64.toNat ↔ i = j := by
  have hi : i.toUInt64.toNat < 256 ^ 8 := i.toUInt64.toNat_lt
  have hj : j.toUInt64.toNat < 256 ^ 8 := j.toUInt64.toNat_lt
  rw [bigEndian_inj hi hj, UInt64.toNat_inj]
  constructor
  · intro h
    rw [← Int64.toInt64_toUInt64 i, h, Int64.toInt64_toUInt64]
  · intro h
    rw [h]

/-- Unequal user keys have one preimage exactly when they coincide. -/
theorem preimage_eq_iff_coincide {setName : String} {k l : PyObj} {p q : Preimage}
    (hp : HashedAs setName k p) (hq : HashedAs setName l q) (hne : pyEq k l = false) :
    p = q ↔ Coincide k l := by
  cases hp with
  | int a ha => cases hq with
    | int b hb =>
      have hab : a ≠ b := fun h => ne_of_pyEq rfl hne (by rw [h])
      simp only [Preimage.mk.injEq, true_and, intBytes_inj]
      rw [ofInt_eq_iff ha hb, or_iff_right hab]
      exact ⟨.wrapped a b, fun h => by cases h; assumption⟩
    | _ => exact iff_of_false (by simp) nofun
  | str s => cases hq with
    | str t =>
      refine iff_of_false (fun h => ?_) nofun
      have hst : s = t := utf8_inj.mp (congrArg Preimage.userKey h)
      exact ne_of_pyEq rfl hne (by rw [hst])
    | bytes b =>
      constructor
      · intro h
        cases h
        exact .text s
      · intro h
        cases h
        rfl
    | _ => exact iff_of_false (by simp) nofun
  | bytes b => cases hq with
    | str t =>
      constructor
      · intro h
        cases h
        exact .bytes t
      · intro h
        cases h
        rfl
    | bytes c =>
      refine iff_of_false (fun h => ?_) nofun
      cases h
      exact ne_of_pyEq rfl hne rfl
    | _ => exact iff_of_false (by simp) nofun
  | bytearray b => cases hq with
    | bytearray c =>
      refine iff_of_false (fun h => ?_) nofun
      cases h
      exact ne_of_pyEq rfl hne rfl
    | _ => exact iff_of_false (by simp) nofun

/-- One of the keys is `bytes` and the other one a `bytearray`. -/
inductive BytesAndBytearray : PyObj → PyObj → Prop where
  | bytes (b c : List UInt8) : BytesAndBytearray (.bytes b) (.bytearray c)
  | bytearray (b c : List UInt8) : BytesAndBytearray (.bytearray b) (.bytes c)

/-- Equal user keys have one preimage, unless only one of them is a `bytearray`. -/
theorem preimage_eq_iff_not_mixed {setName : String} {k l : PyObj} {p q : Preimage}
    (hp : HashedAs setName k p) (hq : HashedAs setName l q) (heq : pyEq k l = true) :
    p = q ↔ ¬ BytesAndBytearray k l := by
  have hsome : k.atom.isSome = true := by
    cases hp with
    | _ => rfl
  have hatom := (pyEq_iff_atom hsome).mp heq
  cases hp with
  | int a ha => cases hq with
    | int b hb =>
      have hab : a = b := intAtom_inj.mp (Option.some.inj hatom)
      exact iff_of_true (by rw [hab]) nofun
    | _ => cases hatom
  | str s => cases hq with
    | str t =>
      cases hatom
      exact iff_of_true rfl nofun
    | _ => cases hatom
  | bytes b => cases hq with
    | bytes c =>
      cases hatom
      exact iff_of_true rfl nofun
    | bytearray c => exact iff_of_false (by simp) fun h => h (.bytes b c)
    | _ => cases hatom
  | bytearray b => cases hq with
    | bytes c => exact iff_of_false (by simp) fun h => h (.bytearray b c)
    | bytearray c =>
      cases hatom
      exact iff_of_true rfl nofun
    | _ => cases hatom

section TwoTuples

variable {namespaceItem setItem k l obj obj' : PyObj} {key key' : Key}

theorem produced_pair (hc : HashesKeys crates) (hobj : IsKeyTuple namespaceItem setItem k obj)
    (hobj' : IsKeyTuple namespaceItem setItem l obj') (hk : IsUserKey k) (hl : IsUserKey l)
    (h : Produced crates rt obj key) (h' : Produced crates rt obj' key') :
    ∃ (s : String) (p q : Preimage), setItem = .str s ∧ (HashedAs s k p ∧ HashedAs s l q) ∧
      key.digest = crates.ripemd160 p.bytes ∧ key'.digest = crates.ripemd160 q.bytes := by
  obtain ⟨s, p, hs, hp, hdigest⟩ := produced_digest hc hobj hk h
  obtain ⟨s', q, hs', hq, hdigest'⟩ := produced_digest hc hobj' hl h'
  rw [hs] at hs'
  cases hs'
  exact ⟨s, p, q, hs, ⟨hp, hq⟩, hdigest, hdigest'⟩

/-- Each of two tuples, taken on its own or within a list, gets a key with the digest of
its preimage. Those of unequal user keys are the same exactly when the keys coincide. -/
theorem preimages_of_unequal (hc : HashesKeys crates)
    (hobj : IsKeyTuple namespaceItem setItem k obj)
    (hobj' : IsKeyTuple namespaceItem setItem l obj') (hk : IsUserKey k) (hl : IsUserKey l)
    (h : Produced crates rt obj key) (h' : Produced crates rt obj' key')
    (hne : pyEq k l = false) :
    ∃ (s : String) (p q : Preimage), setItem = .str s ∧ (HashedAs s k p ∧ HashedAs s l q) ∧
      key.digest = crates.ripemd160 p.bytes ∧ key'.digest = crates.ripemd160 q.bytes ∧
      (p = q ↔ Coincide k l) := by
  obtain ⟨s, p, q, hs, hpq, hdigest, hdigest'⟩ := produced_pair hc hobj hobj' hk hl h h'
  exact ⟨s, p, q, hs, hpq, hdigest, hdigest', preimage_eq_iff_coincide hpq.1 hpq.2 hne⟩

/-- Those of equal user keys are the same unless one is `bytes` and one a `bytearray`. -/
theorem preimages_of_equal (hc : HashesKeys crates)
    (hobj : IsKeyTuple namespaceItem setItem k obj)
    (hobj' : IsKeyTuple namespaceItem setItem l obj') (hk : IsUserKey k) (hl : IsUserKey l)
    (h : Produced crates rt obj key) (h' : Produced crates rt obj' key')
    (heq : pyEq k l = true) :
    ∃ (s : String) (p q : Preimage), setItem = .str s ∧ (HashedAs s k p ∧ HashedAs s l q) ∧
      key.digest = crates.ripemd160 p.bytes ∧ key'.digest = crates.ripemd160 q.bytes ∧
      (p = q ↔ ¬ BytesAndBytearray k l) := by
  obtain ⟨s, p, q, hs, hpq, hdigest, hdigest'⟩ := produced_pair hc hobj hobj' hk hl h h'
  exact ⟨s, p, q, hs, hpq, hdigest, hdigest', preimage_eq_iff_not_mixed hpq.1 hpq.2 heq⟩

end TwoTuples

def compatEdgeDigest (bytes : List UInt8) : List UInt8 :=
  if bytes = Preimage.bytes ⟨"compat_edge", 3, [0xde, 0xad, 0xbe, 0xef]⟩ then
    [0x9a, 0x34, 0x10, 0x64, 0xe9, 0x9c, 0xdf, 0x47, 0x32, 0xc5, 0xfc, 0x53, 0x8a, 0x47, 0x84,
      0x6b, 0x59, 0x87, 0x0f, 0x70]
  else if bytes = Preimage.bytes ⟨"compat_edge", 3, []⟩ then
    [0x94, 0xbc, 0x78, 0x3d, 0x99, 0x12, 0xca, 0x79, 0x0f, 0x3e, 0x31, 0x88, 0x29, 0xd3, 0xcc,
      0x6a, 0xfd, 0xba, 0xef, 0x4d]
  else []

def compatEdge : KeyCrates where
  ripemd160 := compatEdgeDigest
  keyNew namespaceName setName v := match valuePreimage setName v with
    | some p => .ok ⟨namespaceName, setName, some v, compatEdgeDigest p.bytes⟩
    | none => .error "unsupported key type"

theorem hashesKeys_compatEdge : HashesKeys compatEdge := by
  intro namespaceName setName v p hp
  simp [compatEdge, hp]

/-- The key of a `bytes` object in the set. -/
def compatEdgeKey (b : List UInt8) : Key :=
  bytesKey "test" "compat_edge" b (computeBytesKeyDigest compatEdge "compat_edge" b)

theorem produced_compatEdge (b : List UInt8) :
    Produced compatEdge .plain (.tuple [.str "test", .str "compat_edge", .bytes b])
      (compatEdgeKey b) :=
  .single rfl

theorem preimages_of_unequal_compatEdge :
    ∃ (s : String) (p q : Preimage), PyObj.str "compat_edge" = .str s ∧
      (HashedAs s (.bytes [0xde, 0xad, 0xbe, 0xef]) p ∧ HashedAs s (.bytes []) q) ∧
      (compatEdgeKey [0xde, 0xad, 0xbe, 0xef]).digest = compatEdge.ripemd160 p.bytes ∧
      (compatEdgeKey []).digest = compatEdge.ripemd160 q.bytes ∧
      (p = q ↔ Coincide (.bytes [0xde, 0xad, 0xbe, 0xef]) (.bytes [])) :=
  preimages_of_unequal hashesKeys_compatEdge (.inl rfl) (.inl rfl) trivial trivial
    (produced_compatEdge _) (produced_compatEdge _) (by decide)

/-- The objects of two key tuples that share those of the namespace and the set. -/
def compatEdgeObject : Nat → PyObj
  | 0 => .str "test"
  | 1 => .str "compat_edge"
  | 2 => .bytes [0xde, 0xad, 0xbe, 0xef]
  | _ => .bytes []

def compatEdgeArg (address : Nat) : KeyArg compatEdgeObject where
  obj := .tuple [.str "test", .str "compat_edge", compatEdgeObject address]
  address := fun i => [0, 1, address].getD i 0
  stored tuple h i x hx := by
    obtain rfl := PyObj.tuple.inj h
    match i, hx with
    | 0, hx | 1, hx | 2, hx => exact Option.some.inj hx

theorem produced_compatEdgeArg :
    Produced compatEdge .plain (compatEdgeArg 2).obj
      (compatEdgeKey [0xde, 0xad, 0xbe, 0xef]) := by
  have hkeys : pyToKeys compatEdge .plain [compatEdgeArg 2, compatEdgeArg 3] =
      .ok [compatEdgeKey [0xde, 0xad, 0xbe, 0xef], compatEdgeKey []] := rfl
  exact .batch hkeys List.mem_cons_self

/-- A key on its own and the same one within a list. -/
theorem preimages_of_equal_compatEdge :
    ∃ (s : String) (p q : Preimage), PyObj.str "compat_edge" = .str s ∧
      (HashedAs s (.bytes [0xde, 0xad, 0xbe, 0xef]) p ∧
        HashedAs s (.bytes [0xde, 0xad, 0xbe, 0xef]) q) ∧
      (compatEdgeKey [0xde, 0xad, 0xbe, 0xef]).digest = compatEdge.ripemd160 p.bytes ∧
      (compatEdgeKey [0xde, 0xad, 0xbe, 0xef]).digest = compatEdge.ripemd160 q.bytes ∧
      (p = q ↔ ¬ BytesAndBytearray (.bytes [0xde, 0xad, 0xbe, 0xef])
        (.bytes [0xde, 0xad, 0xbe, 0xef])) :=
  preimages_of_equal hashesKeys_compatEdge (.inl rfl) (.inl rfl) trivial trivial
    (produced_compatEdge _) produced_compatEdgeArg (by decide)

/-- `2 ** 63` and `-2 ** 63` are unequal keys of one preimage, and so are a text and its
UTF-8 bytes. -/
theorem unequal_keys_one_preimage :
    (pyEq (.int (2 ^ 63)) (.int (-2 ^ 63)) = false ∧
      (pyToKey compatEdge .plain (.tuple [.str "test", .str "demo", .int (2 ^ 63)])).isOk = true ∧
      (pyToKey compatEdge .plain (.tuple [.str "test", .str "demo", .int (-2 ^ 63)])).isOk = true ∧
      ∃ p, HashedAs "demo" (.int (2 ^ 63)) p ∧ HashedAs "demo" (.int (-2 ^ 63)) p) ∧
    pyEq (.str "k") (.bytes "k".toUTF8.toList) = false ∧
      (pyToKey compatEdge .plain (.tuple [.str "test", .str "demo", .str "k"])).isOk = true ∧
      (pyToKey compatEdge .plain
        (.tuple [.str "test", .str "demo", .bytes "k".toUTF8.toList])).isOk = true ∧
      ∃ p, HashedAs "demo" (.str "k") p ∧ HashedAs "demo" (.bytes "k".toUTF8.toList) p :=
  ⟨⟨by simp, rfl, rfl, _, .int (2 ^ 63) (by decide), .int (-2 ^ 63) (by decide)⟩,
    rfl, rfl, rfl, _, .str "k", .bytes _⟩

/-- `b"k"` and `bytearray(b"k")` are equal keys of two preimages. -/
theorem equal_keys_two_preimages :
    pyEq (.bytes [107]) (.bytearray [107]) = true ∧
      (pyToKey compatEdge .plain (.tuple [.str "test", .str "demo", .bytes [107]])).isOk = true ∧
      (pyToKey compatEdge .plain (.tuple [.str "test", .str "demo", .bytearray [107]])).isOk
        = true ∧
      ∃ p q, HashedAs "demo" (.bytes [107]) p ∧ HashedAs "demo" (.bytearray [107]) q ∧ p ≠ q :=
  ⟨by decide, rfl, rfl, _, _, .bytes [107], .bytearray [107], by decide⟩

end AerospikePy.Keys
