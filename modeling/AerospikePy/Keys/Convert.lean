import AerospikePy.Values.Convert

/-!
# Keys

`types/key.rs`: `py_to_key` for one key tuple, `py_to_keys` for a list of them, and
`key_to_py`. The list is converted in two passes. The first one remembers the last
namespace and set it extracted, by the address of the `str` object; the second one
computes the digests.
-/

namespace AerospikePy.Keys

open AerospikePy.Core
open AerospikePy.Lib.Fallible
open AerospikePy.Python
open AerospikePy.Values

variable (crates : KeyCrates) (rt : Runtime)

/-- The digest in the fourth place of a key tuple. -/
def extractExplicitDigest (tuple : List PyObj) : Except PyErr (Option (List UInt8)) :=
  match tuple[3]? with
  | none | some PyObj.none => .ok none
  | some item => do
    let digestBytes ← extractBytes item
    require (digestBytes.length = 20) ⟨.valueError,
      s!"Key digest must be exactly 20 bytes, got {digestBytes.length}"⟩
    return some digestBytes

def tooShort : PyErr :=
  ⟨.valueError, "Key tuple must have at least 3 elements: (namespace, set, key)"⟩

def tooLong (len : Nat) : PyErr :=
  ⟨.valueError, s!"Key tuple must have 3 or 4 elements (namespace, set, key[, digest]), got {len}"⟩

/-- The namespace, the set and the user key of a tuple of 3 or 4 elements. -/
def keyItems (tuple : List PyObj) : Except PyErr (PyObj × PyObj × PyObj) :=
  match tuple with
  | namespaceItem :: setItem :: keyItem :: rest => do
    require (rest.length ≤ 1) (tooLong tuple.length)
    return (namespaceItem, setItem, keyItem)
  | _ => .error tooShort

/-- `Key::new`, with the error that the bindings raise. -/
def newKey (namespaceName setName : String) (userKey : Value) : Except PyErr Key :=
  (crates.keyNew namespaceName setName userKey).mapError fun e =>
    ⟨.valueError, s!"Invalid key: {e}"⟩

/-- The key of an explicit digest: a nil user key is none. -/
def digestKey (namespaceName setName : String) (userKey : Value) (digest : List UInt8) : Key where
  namespaceName := namespaceName
  setName := setName
  userKey := match userKey with
    | .nil => none
    | _ => some userKey
  digest := digest

def bytesKey (namespaceName setName : String) (bytes digest : List UInt8) : Key where
  namespaceName := namespaceName
  setName := setName
  userKey := some (.blob bytes)
  digest := digest

def pyToKey (keyTuple : PyObj) : Except PyErr Key := do
  let tuple ← castTuple keyTuple
  let (namespaceItem, setItem, keyItem) ← keyItems tuple
  let namespaceName ← extractString namespaceItem
  let setName ← extractString setItem
  let explicitDigest ← extractExplicitDigest tuple
  match keyItem with
  | .bytes b =>
    -- hashed here, as strings are
    let digest := explicitDigest.getD (computeBytesKeyDigest crates setName b)
    return bytesKey namespaceName setName b digest
  | _ =>
    let userKey ← pyToValue rt keyItem
    match explicitDigest with
    | some digest => return digestKey namespaceName setName userKey digest
    | none => newKey crates namespaceName setName userKey

def keyToPy (key : Key) : Except PyErr PyObj := do
  let userKey ← match key.userKey with
    | some v => valueToPy rt v
    | none => .ok .none
  return .tuple [.str key.namespaceName, .str key.setName, userKey, .bytes key.digest]

inductive PendingKey where
  | ready (key : Key)
  | hash (namespaceName setName : String) (userKey : Value)
  | hashBytes (namespaceName setName : String) (blob : List UInt8)

/-- The address of a `str` object, and its text. -/
abbrev Memo := Option (Nat × String)

/-- A key tuple in memory: the objects at the addresses of its elements. -/
structure KeyArg (heap : Nat → PyObj) where
  obj : PyObj
  address : Nat → Nat
  stored : ∀ tuple, obj = .tuple tuple → ∀ i x, tuple[i]? = some x → heap (address i) = x

def extractStrMemo (address : Nat) (item : PyObj) (memo : Memo) : Except PyErr (String × Memo) :=
  match memo with
  | some (ptr, cached) => if ptr = address then .ok (cached, memo) else fresh
  | none => fresh
where
  fresh := do
    let s ← extractString item
    return (s, some (address, s))

def pyToPendingKey {heap : Nat → PyObj} (key : KeyArg heap) (memoNs memoSet : Memo) :
    Except PyErr (PendingKey × Memo × Memo) := do
  let tuple ← castTuple key.obj
  let (namespaceItem, setItem, keyItem) ← keyItems tuple
  let (namespaceName, memoNs) ← extractStrMemo (key.address 0) namespaceItem memoNs
  let (setName, memoSet) ← extractStrMemo (key.address 1) setItem memoSet
  let explicitDigest ← extractExplicitDigest tuple
  match keyItem with
  | .bytes b =>
    match explicitDigest with
    | some digest => return (.ready (bytesKey namespaceName setName b digest), memoNs, memoSet)
    | none => return (.hashBytes namespaceName setName b, memoNs, memoSet)
  | _ =>
    let userKey ← pyToValue rt keyItem
    match explicitDigest with
    | some digest =>
      return (.ready (digestKey namespaceName setName userKey digest), memoNs, memoSet)
    | none => return (.hash namespaceName setName userKey, memoNs, memoSet)

def pendingKeys {heap : Nat → PyObj} :
    List (KeyArg heap) → Memo → Memo → Except PyErr (List PendingKey)
  | [], _, _ => .ok []
  | key :: keys, memoNs, memoSet => do
    let (pending, memoNs, memoSet) ← pyToPendingKey rt key memoNs memoSet
    let rest ← pendingKeys keys memoNs memoSet
    return pending :: rest

/-- The pass that computes the digests. -/
def PendingKey.finish : PendingKey → Except PyErr Key
  | .ready key => .ok key
  | .hash namespaceName setName userKey => newKey crates namespaceName setName userKey
  | .hashBytes namespaceName setName blob =>
    .ok (bytesKey namespaceName setName blob (computeBytesKeyDigest crates setName blob))

def pyToKeys {heap : Nat → PyObj} (keys : List (KeyArg heap)) : Except PyErr (List Key) := do
  let pending ← pendingKeys rt keys none none
  pending.mapM (PendingKey.finish crates)

variable {crates rt} {heap : Nat → PyObj}

/-- The memo holds the text of the object at its address. -/
def Remembers (heap : Nat → PyObj) (memo : Memo) : Prop :=
  ∀ ptr s, memo = some (ptr, s) → heap ptr = .str s

theorem extractStrMemo_eq {address : Nat} {memo : Memo} (hmemo : Remembers heap memo) :
    extractStrMemo address (heap address) memo = (do
      let s ← extractString (heap address)
      return (s, some (address, s))) := by
  cases memo with
  | none => rfl
  | some m =>
    obtain ⟨ptr, cached⟩ := m
    rw [extractStrMemo]
    by_cases hptr : ptr = address
    · subst hptr
      rw [if_pos rfl, hmemo ptr cached rfl]
      rfl
    · rw [if_neg hptr]
      rfl

theorem keyItems_eq_ok {tuple : List PyObj} {namespaceItem setItem keyItem : PyObj} :
    keyItems tuple = .ok (namespaceItem, setItem, keyItem) ↔
      ∃ rest, tuple = namespaceItem :: setItem :: keyItem :: rest ∧ rest.length ≤ 1 := by
  constructor
  · intro h
    unfold keyItems at h
    split at h
    · next a b c rest =>
      obtain ⟨_, hrest, heq⟩ := bind_eq_ok.mp h
      cases heq
      exact ⟨rest, rfl, require_eq_ok.mp hrest⟩
    · cases h
  · intro h
    obtain ⟨rest, rfl, hrest⟩ := h
    exact require_bind hrest _ _

/-- A key tuple is parsed, and its digest computed, as by `py_to_key`. -/
theorem pending_finish {key : KeyArg heap} {memoNs memoSet : Memo}
    (hns : Remembers heap memoNs) (hset : Remembers heap memoSet) :
    (do
      let r ← pyToPendingKey rt key memoNs memoSet
      r.1.finish crates) = pyToKey crates rt key.obj := by
  unfold pyToPendingKey pyToKey
  rw [bind_assoc]
  refine bind_congr_ok fun tuple htuple => ?_
  rw [bind_assoc]
  refine bind_congr_ok fun items hitems => ?_
  obtain ⟨namespaceItem, setItem, keyItem⟩ := items
  obtain ⟨rest, rfl, -⟩ := keyItems_eq_ok.mp hitems
  have hobj := castTuple_eq_ok.mp htuple
  -- at these addresses are the first two elements
  obtain rfl := key.stored _ hobj 0 namespaceItem rfl
  obtain rfl := key.stored _ hobj 1 setItem rfl
  simp only [extractStrMemo_eq hns, extractStrMemo_eq hset, bind_assoc, pure_bind]
  refine bind_congr_ok fun namespaceName _ => bind_congr_ok fun setName _ =>
    bind_congr_ok fun explicitDigest _ => ?_
  cases keyItem with
  | bytes b => cases explicitDigest with
    | none => rfl
    | some digest => rfl
  | _ =>
    simp only [bind_assoc]
    refine bind_congr_ok fun userKey _ => ?_
    cases explicitDigest with
    | none => rfl
    | some digest => rfl

/-- The namespace and the set that were parsed. -/
def PendingKey.names : PendingKey → String × String
  | .ready key => (key.namespaceName, key.setName)
  | .hash namespaceName setName _ | .hashBytes namespaceName setName _ => (namespaceName, setName)

def BeginsWith (names : String × String) (obj : PyObj) : Prop :=
  ∃ rest, obj = .tuple (.str names.1 :: .str names.2 :: rest)

/-- A tuple gets the names that it begins with, whatever the memos hold, and leaves these
names in the memos. -/
theorem pending_names {key : KeyArg heap} {memoNs memoSet : Memo} {p : PendingKey}
    {memoNs' memoSet' : Memo} (hns : Remembers heap memoNs) (hset : Remembers heap memoSet)
    (h : pyToPendingKey rt key memoNs memoSet = .ok (p, memoNs', memoSet')) :
    BeginsWith p.names key.obj ∧ memoNs' = some (key.address 0, p.names.1) ∧
      memoSet' = some (key.address 1, p.names.2) := by
  obtain ⟨tuple, htuple, h⟩ := bind_eq_ok.mp h
  obtain ⟨⟨namespaceItem, setItem, keyItem⟩, hitems, h⟩ := bind_eq_ok.mp h
  obtain ⟨rest, rfl, -⟩ := keyItems_eq_ok.mp hitems
  have hobj := castTuple_eq_ok.mp htuple
  obtain rfl := key.stored _ hobj 0 namespaceItem rfl
  obtain rfl := key.stored _ hobj 1 setItem rfl
  simp only [extractStrMemo_eq hns, extractStrMemo_eq hset, bind_assoc, pure_bind] at h
  obtain ⟨namespaceName, hn, h⟩ := bind_eq_ok.mp h
  obtain ⟨setName, hs, h⟩ := bind_eq_ok.mp h
  obtain ⟨explicitDigest, -, h⟩ := bind_eq_ok.mp h
  have hnames : p.names = (namespaceName, setName) ∧
      memoNs' = some (key.address 0, namespaceName) ∧
      memoSet' = some (key.address 1, setName) := by
    cases keyItem with
    | bytes b => cases explicitDigest <;> · cases h; exact ⟨rfl, rfl, rfl⟩
    | _ =>
      obtain ⟨userKey, -, h⟩ := bind_eq_ok.mp h
      cases explicitDigest <;> · cases h; exact ⟨rfl, rfl, rfl⟩
  obtain ⟨hp, hmemos⟩ := hnames
  rw [extractString_eq_ok.mp hn, extractString_eq_ok.mp hs] at hobj
  rw [hp]
  exact ⟨⟨_, hobj⟩, hmemos⟩

theorem pending_remembers {key : KeyArg heap} {memoNs memoSet : Memo} {p : PendingKey}
    {memoNs' memoSet' : Memo} (hns : Remembers heap memoNs) (hset : Remembers heap memoSet)
    (h : pyToPendingKey rt key memoNs memoSet = .ok (p, memoNs', memoSet')) :
    Remembers heap memoNs' ∧ Remembers heap memoSet' := by
  obtain ⟨⟨rest, hobj⟩, rfl, rfl⟩ := pending_names hns hset h
  constructor
  · intro ptr s heq
    cases heq
    exact key.stored _ hobj 0 _ rfl
  · intro ptr s heq
    cases heq
    exact key.stored _ hobj 1 _ rfl

theorem remembers_none : Remembers heap none := nofun

theorem pendingKeys_names {keys : List (KeyArg heap)} {memoNs memoSet : Memo}
    {pending : List PendingKey} (hns : Remembers heap memoNs) (hset : Remembers heap memoSet)
    (h : pendingKeys rt keys memoNs memoSet = .ok pending) :
    List.Forall₂ (fun key p => BeginsWith p.names key.obj) keys pending := by
  induction keys generalizing memoNs memoSet pending with
  | nil =>
    cases h
    exact .nil
  | cons key keys ih =>
    obtain ⟨⟨p, m, m'⟩, hp, h⟩ := bind_eq_ok.mp h
    obtain ⟨rest, hrest, h⟩ := bind_eq_ok.mp h
    cases h
    obtain ⟨hm, hm'⟩ := pending_remembers hns hset hp
    exact .cons (pending_names hns hset hp).1 (ih hm hm' hrest)

theorem pendingKeys_finish {keys : List (KeyArg heap)} {memoNs memoSet : Memo} {ks : List Key}
    (hns : Remembers heap memoNs) (hset : Remembers heap memoSet) :
    (do
      let pending ← pendingKeys rt keys memoNs memoSet
      pending.mapM (PendingKey.finish crates)) = .ok ks ↔
      List.Forall₂ (fun key k => pyToKey crates rt key.obj = .ok k) keys ks := by
  induction keys generalizing memoNs memoSet ks with
  | nil =>
    rw [List.forall₂_nil_left_iff]
    show Except.ok [] = Except.ok ks ↔ _
    rw [Except.ok.injEq, eq_comm]
  | cons key keys ih =>
    rw [pendingKeys, List.forall₂_cons_left_iff]
    constructor
    · intro h
      obtain ⟨all, hall, hfinish⟩ := bind_eq_ok.mp h
      obtain ⟨⟨p, m, m'⟩, hp, htail⟩ := bind_eq_ok.mp hall
      obtain ⟨rest, hrest, hcons⟩ := bind_eq_ok.mp htail
      obtain rfl := Except.ok.inj hcons
      obtain ⟨k, ks', hk, hks, rfl⟩ := List.forall₂_cons_left_iff.mp (mapM_eq_ok.mp hfinish)
      obtain ⟨hm, hm'⟩ := pending_remembers hns hset hp
      refine ⟨k, ks', ?_, (ih hm hm').mp ?_, rfl⟩
      · rw [← pending_finish hns hset, hp]
        exact hk
      · exact bind_eq_ok.mpr ⟨rest, hrest, mapM_eq_ok.mpr hks⟩
    · intro h
      obtain ⟨k, ks', hk, hks, rfl⟩ := h
      rw [← pending_finish hns hset] at hk
      obtain ⟨⟨p, m, m'⟩, hp, hk⟩ := bind_eq_ok.mp hk
      obtain ⟨hm, hm'⟩ := pending_remembers hns hset hp
      obtain ⟨rest, hrest, hfinish⟩ := bind_eq_ok.mp ((ih hm hm').mpr hks)
      refine bind_eq_ok.mpr ⟨p :: rest, ?_, ?_⟩
      · exact bind_eq_ok.mpr ⟨(p, m, m'), hp, bind_eq_ok.mpr ⟨rest, hrest, rfl⟩⟩
      · exact mapM_eq_ok.mpr (.cons hk (mapM_eq_ok.mp hfinish))

/-- `py_to_keys` is `py_to_key` on every tuple. -/
theorem pyToKeys_eq_ok {keys : List (KeyArg heap)} {ks : List Key} :
    pyToKeys crates rt keys = .ok ks ↔
      List.Forall₂ (fun key k => pyToKey crates rt key.obj = .ok k) keys ks :=
  pendingKeys_finish remembers_none remembers_none

/-- A list is converted exactly when each of its tuples is, and to the same keys in order.
The names of each key are those of its own tuple: the memo substitutes no others. -/
theorem pyToKeys_elementwise (keys : List (KeyArg heap)) :
    ((∃ ks, pyToKeys crates rt keys = .ok ks) ↔
      ∀ key ∈ keys, ∃ k, pyToKey crates rt key.obj = .ok k) ∧
    (∀ ks, pyToKeys crates rt keys = .ok ks ↔
      keys.mapM (fun key => pyToKey crates rt key.obj) = .ok ks) ∧
    ∀ pending, pendingKeys rt keys none none = .ok pending →
      List.Forall₂ (fun key p => BeginsWith p.names key.obj) keys pending := by
  have hmap : ∀ ks, pyToKeys crates rt keys = .ok ks ↔
      keys.mapM (fun key => pyToKey crates rt key.obj) = .ok ks := by
    intro ks
    rw [pyToKeys_eq_ok, mapM_eq_ok]
  refine ⟨?_, hmap, fun pending h => pendingKeys_names remembers_none remembers_none h⟩
  rw [← exists_mapM_eq_ok]
  exact exists_congr hmap

end AerospikePy.Keys
